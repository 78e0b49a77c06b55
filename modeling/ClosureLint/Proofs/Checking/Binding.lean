import ClosureLint.Proofs.Checking.Closures
import Mathlib.Data.List.Forall2

/-!
# Binding the parameters of a closure

Where the parameters of a closure are bound without diagnostics, they are bound the same in every
state. What follows does not look at the parameters until their types are read off in the end.

* `Pushes` — a step that binds the same in every state.
* `bindParams_pushes` — parameters are bound by such a step.
* `closureResult` — the result of a closure, once its parameters are bound.
* `gives_closure` — the check of a closure, as binding, result and parameter types.
-/

namespace ClosureLint.Typing

open ClosureLint.Core
open ClosureLint.Syntax (Path TypeExpr)

variable {c : Context} {s s' : State}

/-! ### Patterns and parameters -/

/-- In every state the step binds `new` in the innermost scope, and does nothing else. -/
def Pushes (new : Scope) (m : Check Unit) : Prop := ∀ (s : State) top rest,
  s.scopes = top :: rest → Gives m s () { s with scopes := (new ++ top) :: rest }

theorem pushes_pure : Pushes [] (pure ()) := fun s top rest hs => by
  refine gives_pure.mpr ⟨rfl, ?_⟩
  rw [List.nil_append, ← hs]

theorem Pushes.unique {new new' : Scope} {m : Check Unit} (h : Pushes new m) (h' : Pushes new' m) :
    new' = new := by
  obtain ⟨-, he⟩ := (h { scopes := [[]] } [] [] rfl).unique (h' { scopes := [[]] } [] [] rfl)
  exact List.append_cancel_right (List.cons.inj (congrArg State.scopes he)).1

theorem Pushes.bind {new new' : Scope} {m m' : Check Unit} (h : Pushes new m) (h' : Pushes new' m') :
    Pushes (new' ++ new) (do m; m') := fun s top rest hs => by
  rw [List.append_assoc]
  exact gives_bind.mpr ⟨(), _, h s top rest hs, h' _ _ rest rfl⟩

theorem reportNotTuple_pushes {type : Option Ty} {span : Span} {u : Unit}
    (h : Gives (reportNotTuple type span) s u s') (hclean : s'.diagnostics = []) :
    Pushes [] (reportNotTuple type span) := by
  unfold reportNotTuple at h ⊢
  split at h
  · split at h
    · next hkind =>
      rw [if_pos hkind]
      exact pushes_pure
    -- the one branch that reports is excluded
    · obtain ⟨_, -, h⟩ := gives_lift_bind.mp h
      exact (not_clean_report h hclean).elim
  · exact pushes_pure

theorem pushes_binding (node : Node) (isMut : Bool) (name : String) (type : Option Ty) :
    Pushes [(name, type)] (bindPattern (.binding node isMut name) type) := fun s top rest hs =>
  gives_modify.mpr (by rw [hs]; rfl)

mutual

/-- **A pattern that is bound without diagnostics** binds the same in every state. -/
theorem bindPattern_pushes : (p : Pattern) → {type : Option Ty} → {s s' : State} → {u : Unit} →
    Gives (bindPattern p type) s u s' → s'.diagnostics = [] → ∃ new, Pushes new (bindPattern p type)
  | .binding _ _ name, type, _, _, _, _, _ => ⟨[(name, type)], pushes_binding _ _ _ _⟩
  | .tuple node elems, type, _, _, _, h, hclean => by
    rw [bindPattern] at h ⊢
    split at h
    · exact bindPatterns_pushes elems h hclean
    · obtain ⟨_, s₁, h₁, h⟩ := gives_bind.mp h
      -- nothing was reported before the elements were bound
      have hclean₁ := ((bindPatterns_confined (I := Nowhere) (J := Nowhere) elems _).grows h).clean
        hclean
      obtain ⟨new, hnew⟩ := bindPatterns_pushes elems h hclean
      exact ⟨new ++ [], (reportNotTuple_pushes h₁ hclean₁).bind hnew⟩
  | .ref _ inner, _, _, _, _, h, hclean => by
    obtain ⟨t, ht, h⟩ := gives_lift_bind.mp h
    obtain ⟨new, hnew⟩ := bindPattern_pushes inner h hclean
    exact ⟨new, fun s top rest hs => gives_lift_bind.mpr ⟨t, ht, hnew s top rest hs⟩⟩
  | .wildcard _, _, _, _, _, _, _ => ⟨[], pushes_pure⟩

theorem bindPatterns_pushes : (ps : List Pattern) → {types : List Ty} → {s s' : State} →
    {u : Unit} → Gives (bindPatterns ps types) s u s' → s'.diagnostics = [] →
    ∃ new, Pushes new (bindPatterns ps types)
  | [], _, _, _, _, _, _ => ⟨[], pushes_pure⟩
  | p :: ps, types, _, _, _, h, hclean => by
    obtain ⟨type, types', he⟩ := bindPatterns_cons p ps types
    rw [he] at h ⊢
    obtain ⟨_, s₁, h₁, h⟩ := gives_bind.mp h
    have hclean₁ := ((bindPatterns_confined (I := Nowhere) (J := Nowhere) ps _).grows h).clean hclean
    -- names that are bound later stand in front
    obtain ⟨new, hnew⟩ := bindPattern_pushes p h₁ hclean₁
    obtain ⟨new', hnew'⟩ := bindPatterns_pushes ps h hclean
    exact ⟨new' ++ new, hnew.bind hnew'⟩

end

/-- A written type that is not reported means the same in every state. -/
theorem writtenOr_clean {written : Option TypeExpr} {otherwise t : Option Ty}
    (h : Gives (writtenOr c written otherwise) s t s') (hclean : s'.diagnostics = []) (s₁ : State) :
    Gives (writtenOr c written otherwise) s₁ t s₁ := by
  cases written with
  | none => exact gives_pure.mpr ⟨(gives_pure.mp h).1, rfl⟩
  | some e =>
    obtain ⟨_, h, he⟩ := gives_bind_pure.mp h
    obtain ⟨_, hreport, rfl⟩ := gives_bind_pure.mp h
    -- what would be reported is nothing, whatever has been reported before
    rw [← gives_modify.mp hreport] at hclean
    refine gives_bind_pure.mpr ⟨_, gives_bind_pure.mpr ⟨(), gives_modify.mpr ?_, rfl⟩, he⟩
    rw [(List.append_eq_nil_iff.mp hclean).2, List.append_nil]

/-- A first parameter is bound in front of the others. -/
theorem pushes_bindParams_cons {p : Param} {ps : List Param} {expected : List (Option Ty)}
    {type : Option Ty} {new new' : Scope}
    (ht : ∀ s, Gives (writtenOr c p.declared (expected.head?.getD none)) s type s)
    (h : Pushes new (bindPattern p.pattern type)) (h' : Pushes new' (bindParams c ps expected.tail)) :
    Pushes (new' ++ new) (bindParams c (p :: ps) expected) := fun s top rest hs => by
  rw [bindParams_cons]
  exact gives_bind.mpr ⟨type, s, ht s, h.bind h' s top rest hs⟩

theorem bindParams_cons_pushes {p : Param} {ps : List Param} {expected : List (Option Ty)} {u : Unit}
    (h : Gives (bindParams c (p :: ps) expected) s u s') (hclean : s'.diagnostics = []) :
    ∃ type new s₁, (∀ s, Gives (writtenOr c p.declared (expected.head?.getD none)) s type s) ∧
      Pushes new (bindPattern p.pattern type) ∧ Gives (bindParams c ps expected.tail) s₁ () s' := by
  rw [bindParams_cons] at h
  obtain ⟨type, s₁, h₁, h⟩ := gives_bind.mp h
  obtain ⟨_, s₂, h₂, h⟩ := gives_bind.mp h
  -- silence at the end is silence at every step
  have hclean₂ := ((bindParams_confined (I := Nowhere) (J := Nowhere) ps _).grows h).clean hclean
  have hclean₁ := ((bindPattern_confined (I := Nowhere) (J := Nowhere) p.pattern _).grows h₂).clean
    hclean₂
  obtain ⟨new, hnew⟩ := bindPattern_pushes p.pattern h₂ hclean₂
  exact ⟨type, new, s₂, writtenOr_clean h₁ hclean₁, hnew, h⟩

/-- **Parameters that are bound without diagnostics** are bound the same in every state. -/
theorem bindParams_pushes {ps : List Param} {expected : List (Option Ty)} {u : Unit}
    (h : Gives (bindParams c ps expected) s u s') (hclean : s'.diagnostics = []) :
    ∃ new, Pushes new (bindParams c ps expected) := by
  induction ps generalizing expected s with
  | nil => exact ⟨[], pushes_pure⟩
  | cons p ps ih =>
    obtain ⟨type, new, s₁, ht, hnew, h⟩ := bindParams_cons_pushes h hclean
    obtain ⟨new', hnew'⟩ := ih h
    exact ⟨new' ++ new, pushes_bindParams_cons ht hnew hnew'⟩

/-- The names that are bound are those of the parameters. -/
theorem Pushes.names {new : Scope} {ps : List Param} {expected : List (Option Ty)}
    (h : Pushes new (bindParams c ps expected)) (x : String) :
    x ∈ new.map Prod.fst ↔ x ∈ paramNames ps := by
  obtain ⟨new', hscopes, hnames⟩ := bindParams_binds (h { scopes := [[]] } [] [] rfl) [] [] rfl
  obtain rfl := List.append_cancel_right (List.cons.inj hscopes).1
  exact hnames x

/-! ### The types of parameters -/

/-- In the scopes `ss` the parameter has the type `t`, and nothing is reported. -/
def HasType (c : Context) (ss : List Scope) (p : Param) (t : Ty) : Prop :=
  ∀ s : State, s.scopes = ss → Gives (paramType c p) s t s

variable {ss ss' : List Scope} {p : Param} {t : Ty}

theorem paramType_clean (h : Gives (paramType c p) s t s') (hclean : s'.diagnostics = []) :
    s' = s ∧ HasType c s.scopes p t := by
  unfold HasType
  simp only [paramType, gives_get_bind] at h ⊢
  -- the type is decided, it is written, or it is not known
  split at h
  · next hdecided =>
    obtain ⟨rfl, rfl⟩ := gives_pure.mp h
    refine ⟨rfl, fun s₁ hs₁ => ?_⟩
    rw [hs₁, hdecided]
    exact gives_pure.mpr ⟨rfl, rfl⟩
  · next e hdecided hdeclared =>
    have hwritten : Gives (writtenOr c (some e) none) s (some t) s' :=
      gives_bind_pure.mpr ⟨t, h, rfl⟩
    -- reading the written type again gives the same, and reports nothing
    have hagain (s₁ : State) : Gives (resolve c e) s₁ t s₁ := by
      obtain ⟨u, hu, he⟩ := gives_bind_pure.mp (writtenOr_clean hwritten hclean s₁)
      exact Option.some.inj he ▸ hu
    refine ⟨(h.unique (hagain s)).2.symm, fun s₁ hs₁ => ?_⟩
    rw [hs₁, hdecided, hdeclared]
    exact hagain s₁
  · next hdecided hdeclared =>
    obtain ⟨rfl, rfl⟩ := gives_pure.mp h
    refine ⟨rfl, fun s₁ hs₁ => ?_⟩
    rw [hs₁, hdecided, hdeclared]
    exact gives_pure.mpr ⟨rfl, rfl⟩

/-- The type of a parameter depends on what its own name is decided to be. -/
theorem HasType.congr (h : HasType c ss p t)
    (he : decidedType? ss' p.pattern = decidedType? ss p.pattern) : HasType c ss' p t := by
  intro s hs
  have h := h { s with scopes := ss } rfl
  simp only [paramType, gives_get_bind] at h ⊢
  rw [hs, he]
  split at h
  · obtain ⟨rfl, -⟩ := gives_pure.mp h
    exact gives_pure.mpr ⟨rfl, rfl⟩
  -- what is reported about a written type does not depend on the state
  · next e _ _ =>
    obtain ⟨_, hreport, rfl⟩ := gives_bind_pure.mp h
    refine gives_bind_pure.mpr ⟨(), gives_modify.mpr ?_, rfl⟩
    have hds := congrArg State.diagnostics (gives_modify.mp hreport)
    dsimp only at hds ⊢
    rw [hds]
  · obtain ⟨rfl, -⟩ := gives_pure.mp h
    exact gives_pure.mpr ⟨rfl, rfl⟩

/-- A parameter that is decided on has that type. -/
theorem hasType_decided (h : decidedType? ss p.pattern = some t) : HasType c ss p t := by
  intro s hs
  rw [paramType, gives_get_bind, hs, h]
  exact gives_pure.mpr ⟨rfl, rfl⟩

/-- A parameter that is not decided on and has no written type is unknown. -/
theorem hasType_undecided (h : decidedType? ss p.pattern = none) (hp : p.declared = none) :
    HasType c ss p .unknown := by
  intro s hs
  rw [paramType, gives_get_bind, hs, h, hp]
  exact gives_pure.mpr ⟨rfl, rfl⟩

theorem HasType.unique {u : Ty} (hu : HasType c ss p u) (ht : HasType c ss p t) : t = u :=
  ((hu { scopes := ss } rfl).unique (ht { scopes := ss } rfl)).1

theorem HasType.decided {u : Ty} (hu : HasType c ss p u) (h : decidedType? ss p.pattern = some t) :
    t = u := hu.unique (hasType_decided h)

/-- Names that the innermost scope has do not depend on the scopes around it. -/
theorem hasTypes_top {f : Scope} {ps : List Param} {ts : List Ty}
    (h : List.Forall₂ (HasType c (f :: ss)) ps ts) (hf : ∀ x ∈ paramNames ps, (f.lookup x).isSome)
    (ss' : List Scope) : List.Forall₂ (HasType c (f :: ss')) ps ts := by
  induction h with
  | nil => exact .nil
  | @cons p _ ps _ hp _ ih =>
    rw [paramNames, List.flatMap_cons, List.forall_mem_append] at hf
    refine .cons (hp.congr ?_) (ih hf.2)
    -- only a single name has a type that was decided on
    cases hpattern : p.pattern with
    | binding _ _ name =>
      obtain ⟨o, ho⟩ := Option.isSome_iff_exists.mp (hf.1 name (by rw [hpattern]; exact .head _))
      rw [decidedType?, decidedType?, lookupLocal_cons, lookupLocal_cons, ho]
      rfl
    | tuple | ref | wildcard => rfl

/-- The types of parameters are read off one by one. -/
theorem paramTypes_clean {ps : List Param} {ts : List Ty} (hclean : s'.diagnostics = []) :
    Gives (ps.mapM (paramType c)) s ts s' ↔ s' = s ∧ List.Forall₂ (HasType c s.scopes) ps ts := by
  induction ps generalizing s ts with
  | nil =>
    rw [List.mapM_nil, gives_pure, List.forall₂_nil_left_iff]
    exact ⟨fun ⟨h, h'⟩ => ⟨h'.symm, h.symm⟩, fun ⟨h, h'⟩ => ⟨h'.symm, h.symm⟩⟩
  | cons p ps ih =>
    rw [gives_mapM_cons]
    constructor
    -- reading a type changes nothing, so all are read in the same state
    · rintro ⟨t, ts, s₁, rfl, h₁, h⟩
      obtain ⟨rfl, hts⟩ := (ih).mp h
      obtain ⟨rfl, ht⟩ := paramType_clean h₁ hclean
      exact ⟨rfl, .cons ht hts⟩
    · rintro ⟨rfl, h⟩
      obtain _ | ⟨ht, hts⟩ := h
      exact ⟨_, _, s', rfl, ht s' rfl, ih.mpr ⟨rfl, hts⟩⟩

/-! ### The check of a closure -/

/-- The result of a closure, once its parameters are bound. -/
def closureResult (c : Context) (ret : Option TypeExpr) (body : Expr) (otherwise : Option Ty) :
    Check Ty := do
  let expected ← writtenOr c ret otherwise
  let type ← checkExpr c body expected
  coerceTo c body type expected
  return expected.getD type

theorem closureInside_eq (ps : List Param) (ret : Option TypeExpr) (body : Expr)
    (signature : Option (List Ty × Ty)) : closureInside c ps ret body signature = (do
      bindParams c ps (((signature.map Prod.fst).getD []).map some)
      let result ← closureResult c ret body (signature.map Prod.snd)
      let types ← ps.mapM (paramType c)
      return Ty.function types result false) := by
  simp only [closureInside, closureResult, bind_assoc, pure_bind]

theorem closureResult_confined {I J : NodeId → Prop} {ret : Option TypeExpr} {body : Expr}
    {otherwise : Option Ty} (hJ : J body.id)
    (h : ∀ expected, Confined I J (checkExpr c body expected)) :
    Confined I J (closureResult c ret body otherwise) :=
  (writtenOr_confined _ _).bind fun _ => (h _).bind fun _ => (coerceTo_confined hJ _ _).bind fun _ =>
    .pure _

/-- **The check of a closure without diagnostics**: its parameters are bound, its result is found, and
the types of the parameters are what has become of them. -/
theorem gives_closure {ps : List Param} {ret : Option TypeExpr} {body : Expr}
    {signature : Option (List Ty × Ty)} (hclean : s'.diagnostics = []) :
    Gives (inScope (closureInside c ps ret body signature)) s t s' ↔
      ∃ new result types s₁, Pushes new (bindParams c ps (((signature.map Prod.fst).getD []).map some)) ∧
        Gives (closureResult c ret body (signature.map Prod.snd))
          { s with scopes := new :: s.scopes } result s₁ ∧
        List.Forall₂ (HasType c s₁.scopes) ps types ∧ t = .function types result false ∧
        s' = { s₁ with scopes := s₁.scopes.drop 1 } := by
  rw [gives_inScope, closureInside_eq]
  constructor
  · rintro ⟨s₃, h, rfl⟩
    replace hclean : s₃.diagnostics = [] := hclean
    obtain ⟨_, s₀, h₀, h⟩ := gives_bind.mp h
    obtain ⟨result, s₁, h₁, h⟩ := gives_bind.mp h
    obtain ⟨types, htypes, rfl⟩ := gives_bind_pure.mp h
    obtain ⟨rfl, htypes⟩ := (paramTypes_clean hclean).mp htypes
    -- nothing was reported when the parameters were bound, so they are bound the same in every state
    have hgrows : Extends (fun _ => True) (fun _ => True) s₀ s₃ :=
      (closureResult_confined trivial fun _ =>
        checkExpr_confined body _ trivial fun _ _ => ⟨trivial, trivial⟩).grows h₁
    have hclean₀ := hgrows.clean hclean
    obtain ⟨new, hnew⟩ := bindParams_pushes h₀ hclean₀
    obtain ⟨-, rfl⟩ := (hnew _ [] s.scopes rfl).unique h₀
    rw [List.append_nil] at h₁
    exact ⟨new, result, types, s₃, hnew, h₁, htypes, rfl, rfl⟩
  -- the other way round the steps are put together again
  · rintro ⟨new, result, types, s₁, hnew, h₁, htypes, rfl, rfl⟩
    replace hclean : s₁.diagnostics = [] := hclean
    refine ⟨s₁, gives_bind.mpr ⟨(), _, hnew _ [] s.scopes rfl, ?_⟩, rfl⟩
    rw [List.append_nil]
    exact gives_bind.mpr ⟨result, s₁, h₁, gives_bind_pure.mpr
      ⟨types, (paramTypes_clean hclean).mpr ⟨rfl, htypes⟩, rfl⟩⟩

end ClosureLint.Typing
