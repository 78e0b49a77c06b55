import ClosureLint.Proofs.Checking.Foresight

/-!
# Closures that are told the types of their parameters

A closure parameter that is a name and has no written type may be told the type that it is decided to
have in the end: by an annotation, or by what the closure is expected to be. Either way the closure is
checked as before, and ends in the same state.

* `Rebinds` — parameters of which some are told their types.
* `closure_rebound` — the closure with such parameters.
-/

namespace ClosureLint.Typing

open ClosureLint.Core
open ClosureLint.Syntax (Path TypeExpr)

variable {c : Context} {future : String → Option Ty} {s s₁ : State} {ss : List Scope}
  {ps ps' : List Param} {es es' : List (Option Ty)} {new new' : Scope} {types : List Ty}

/-- The second parameters are the first ones, but some that are names have the types that `future`
gives. -/
inductive Rebinds (c : Context) (future : String → Option Ty) :
    List Param → List (Option Ty) → List Param → List (Option Ty) → Prop
  | nil {es es' : List (Option Ty)} : Rebinds c future [] es [] es'
  | same {p : Param} {ps ps' : List Param} {es es' : List (Option Ty)}
    (htype : p.declared.isSome ∨ es'.head?.getD none = es.head?.getD none)
    (hrest : Rebinds c future ps es.tail ps' es'.tail) : Rebinds c future (p :: ps) es (p :: ps') es'
  | told {p p' : Param} {ps ps' : List Param} {es es' : List (Option Ty)} {node : Node}
    {isMut : Bool} {name : String} {t : Ty} (hp : p.pattern = .binding node isMut name)
    (hp' : p'.pattern = p.pattern)
    (htype : ∀ s, Gives (writtenOr c p'.declared (es'.head?.getD none)) s (some t) s)
    (hfuture : future name = some t) (hrest : Rebinds c future ps es.tail ps' es'.tail) :
    Rebinds c future (p :: ps) es (p' :: ps') es'

/-- A local is bound again, maybe to the type that `future` gives. -/
def Rebound (future : String → Option Ty) (l l' : String × Option Ty) : Prop :=
  l'.1 = l.1 ∧ (l'.2 = l.2 ∨ ∃ t, future l.1 = some t ∧ l'.2 = some t)

theorem rebound_refl (new : Scope) : List.Forall₂ (Rebound future) new new :=
  List.forall₂_same.mpr fun _ _ => ⟨rfl, .inl rfl⟩

/-- The second parameters are bound where the first ones are. -/
theorem Rebinds.pushes (h : Rebinds c future ps es ps' es') (hnew : Pushes new (bindParams c ps es)) :
    ∃ new', Pushes new' (bindParams c ps' es') ∧ List.Forall₂ (Rebound future) new new' := by
  induction h generalizing new with
  | nil =>
    obtain rfl := hnew.unique pushes_pure
    exact ⟨[], pushes_pure, .nil⟩
  | @same p ps ps' es es' htype _ ih =>
    obtain ⟨type, first, s, ht, hfirst, hrest⟩ :=
      bindParams_cons_pushes (hnew { scopes := [[]] } [] [] rfl) rfl
    obtain ⟨others, hothers⟩ := bindParams_pushes hrest rfl
    obtain rfl := hnew.unique (pushes_bindParams_cons ht hfirst hothers)
    obtain ⟨others', hothers', hrebound⟩ := ih hothers
    -- a parameter that stays has the type that it had
    have ht' (s : State) : Gives (writtenOr c p.declared (es'.head?.getD none)) s type s := by
      rcases htype with hdeclared | he
      · obtain ⟨e, he⟩ := Option.isSome_iff_exists.mp hdeclared
        have ht := ht s
        rw [he] at ht ⊢
        exact ht
      · rw [he]
        exact ht s
    exact ⟨others' ++ first, pushes_bindParams_cons ht' hfirst hothers',
      List.rel_append hrebound (rebound_refl first)⟩
  | @told p p' ps ps' es es' node isMut name t hp hp' htype hfuture _ ih =>
    obtain ⟨type, first, s, ht, hfirst, hrest⟩ :=
      bindParams_cons_pushes (hnew { scopes := [[]] } [] [] rfl) rfl
    obtain ⟨others, hothers⟩ := bindParams_pushes hrest rfl
    obtain rfl := hnew.unique (pushes_bindParams_cons ht hfirst hothers)
    obtain ⟨others', hothers', hrebound⟩ := ih hothers
    rw [hp] at hfirst hp'
    obtain rfl := hfirst.unique (pushes_binding _ _ _ _)
    -- one that is told its type is a name, which is bound to that
    have hfirst' : Pushes [(name, some t)] (bindPattern p'.pattern (some t)) :=
      hp' ▸ pushes_binding _ _ _ _
    exact ⟨others' ++ [(name, some t)], pushes_bindParams_cons htype hfirst' hothers',
      List.rel_append hrebound (.cons ⟨rfl, .inr ⟨t, hfuture, rfl⟩⟩ .nil)⟩

/-- Where the first scope is as foretold, the second one knows types ahead. -/
theorem foreseen_of_rebound (h : List.Forall₂ (Rebound future) new new')
    (hnew : ∀ x t, new.lookup x = some (some t) → future x = some t) : Foreseen future new new' := by
  intro x
  -- the scopes have the same names in the same order
  have hlookup : new'.lookup x = new.lookup x ∨
      (new.lookup x).isSome ∧ ∃ t, future x = some t ∧ new'.lookup x = some (some t) := by
    clear hnew
    induction h with
    | nil => exact .inl rfl
    | @cons l l' new new' hl _ ih =>
      obtain ⟨hname, htype⟩ := hl
      rw [List.lookup_cons, List.lookup_cons, hname]
      cases hx : x == l.1 with
      | false => exact ih
      | true =>
        obtain rfl := eq_of_beq hx
        exact htype.imp (congrArg some) fun ⟨t, ht, he⟩ => ⟨rfl, t, ht, congrArg some he⟩
  rcases hlookup with he | ⟨hsome, t, ht, ht'⟩
  · exact .inl he
  · obtain ⟨o, ho⟩ := Option.isSome_iff_exists.mp hsome
    cases o with
    | none => exact .inr ⟨ho, t, ht, ht'⟩
    | some u =>
      -- what was known already was foretold too, so it is the same type
      obtain rfl : u = t := Option.some.inj ((hnew x u ho).symm.trans ht)
      exact .inl (ht'.trans ho.symm)

/-- Where `future` is what has become of the names, the second parameters have the types of the first
ones. -/
theorem Rebinds.hasTypes (h : Rebinds c future ps es ps' es')
    (hfuture : ∀ x t, future x = some t → lookupLocal ss x = some (some t))
    (htypes : List.Forall₂ (HasType c ss) ps types) : List.Forall₂ (HasType c ss) ps' types := by
  induction h generalizing types with
  | nil => exact htypes
  | same _ _ ih =>
    obtain _ | ⟨ht, hts⟩ := htypes
    exact .cons ht (ih hts)
  | @told p p' ps ps' es es' node isMut name t hp hp' _ ht _ ih =>
    obtain _ | ⟨hu, hts⟩ := htypes
    have hdecided : decidedType? ss p.pattern = some t := by
      rw [hp, decidedType?, hfuture name t ht]
      rfl
    exact .cons (hu.decided hdecided ▸ hasType_decided (hp' ▸ hdecided)) (ih hts)

/-- What has become of the local `x` of a scope, if it is decided on. -/
def decidedIn (f : Scope) (x : String) : Option Ty := (f.lookup x).getD none

theorem decidedIn_eq_some {f : Scope} {x : String} {t : Ty} :
    decidedIn f x = some t ↔ f.lookup x = some (some t) := by
  unfold decidedIn
  cases f.lookup x with
  | none => exact ⟨nofun, nofun⟩
  | some o => exact ⟨congrArg some, Option.some.inj⟩

/-- **A closure whose parameters are told their types** is checked as the one whose parameters are
decided to have them. -/
theorem closure_rebound {signature : Option (List Ty × Ty)} {ret : Option TypeExpr} {body : Expr}
    {result : Ty} (hnew : Pushes new (bindParams c ps es))
    (hresult : Gives (closureResult c ret body (signature.map Prod.snd))
      { s with scopes := new :: s.scopes } result s₁) (hclean : s₁.diagnostics = [])
    (htypes : List.Forall₂ (HasType c s₁.scopes) ps types)
    (hrebinds : ∀ f rest, s₁.scopes = f :: rest → (∀ x ∈ paramNames ps, (f.lookup x).isSome) →
      Rebinds c (decidedIn f) ps es ps' (((signature.map Prod.fst).getD []).map some)) :
    Gives (inScope (closureInside c ps' ret body signature)) s (.function types result false)
      { s₁ with scopes := s₁.scopes.drop 1 } := by
  have hforesees (future : String → Option Ty) :
      Foresees future (closureResult c ret body (signature.map Prod.snd)) :=
    closureResult_foresees (checkExpr_foresees body)
  obtain ⟨f, rest, hf, -, hs₁⟩ := List.forall₂_cons_left_iff.mp ((hforesees fun _ => none).later hresult)
  replace hrebinds := hrebinds f rest hs₁ fun x hx =>
    (hf x).1 (isSome_lookup_iff.mpr ((hnew.names x).mpr hx))
  obtain ⟨new', hnew', hrebound⟩ := hrebinds.pushes hnew
  -- what is foretold is what the first run decides in the end
  have hforetold : Foretold (decidedIn f) 0 s₁.scopes := by
    rw [hs₁]
    rintro _ ⟨⟩ x t ht
    exact decidedIn_eq_some.mpr ht
  have hstart := foreseen_of_rebound hrebound fun x t ht => decidedIn_eq_some.mpr ((hf x).2 t ht)
  obtain ⟨ss', hresult', hahead⟩ := (hforesees _).runs hresult hclean hforetold (.here hstart)
  rw [hs₁] at hahead
  obtain @⟨_, f', _, hf'⟩ := hahead
  -- in the end everything is decided on that was known ahead
  have hsame (x : String) : f'.lookup x = f.lookup x := by
    rcases hf' x with he | ⟨hnone, t, ht, -⟩
    · exact he
    · nomatch hnone.symm.trans (decidedIn_eq_some.mp ht)
  have hdecided (p : Pattern) : decidedType? (f' :: rest) p = decidedType? (f :: rest) p := by
    cases p with
    | binding _ _ name => rw [decidedType?, decidedType?, lookupLocal_cons, lookupLocal_cons, hsame]
    | tuple | ref | wildcard => rfl
  rw [hs₁] at htypes
  have htypes' : List.Forall₂ (HasType c (f' :: rest)) ps' types := by
    refine (hrebinds.hasTypes (fun x t ht => ?_) htypes).imp fun p t h => h.congr (hdecided _)
    rw [lookupLocal_cons, decidedIn_eq_some.mp ht]
    rfl
  rw [hs₁]
  exact (gives_closure (by exact hclean)).mpr
    ⟨new', result, types, { s₁ with scopes := f' :: rest }, hnew', hresult', htypes', rfl, rfl⟩

end ClosureLint.Typing
