import ClosureLint.Proofs.Checking.Visits
import ClosureLint.Proofs.Core.Meaning

/-!
# How a closure is checked

The parameters of a closure are bound in a scope of their own, and the body is checked there. So a
path in the body that spells a parameter never means a declaration.

* `Binds` — a step binds names in the innermost scope and leaves the others alone.
* `ClosureRun` — the check of a closure, step by step.
* `checkExpr_closure_run` — every check of a closure goes this way.
* `checkPath_local` — a path that spells a local is not filed as a declaration.
-/

namespace ClosureLint.Typing

open ClosureLint.Core
open ClosureLint.Syntax (Path TypeExpr)

variable {c : Context} {s s' s'' : State} {α : Type}

/-! ### Binding names -/

/-- On the way from `s` to `s'` exactly `names` are bound, all in the innermost scope. -/
def Binds (names : List String) (s s' : State) : Prop :=
  ∀ scope rest, s.scopes = scope :: rest →
    ∃ new : Scope, s'.scopes = (new ++ scope) :: rest ∧ ∀ x, x ∈ new.map Prod.fst ↔ x ∈ names

/-- A step that leaves the scopes alone binds no names. -/
theorem Binds.of_scopes (h : s'.scopes = s.scopes) : Binds [] s s' := fun _ _ hs =>
  ⟨[], h.trans hs, fun _ => Iff.rfl⟩

/-- Names are bound by two steps. -/
theorem Binds.trans {names names' : List String} (h : Binds names s s')
    (h' : Binds names' s' s'') : Binds (names ++ names') s s'' := fun scope rest hs => by
  obtain ⟨new, hs', hn⟩ := h scope rest hs
  obtain ⟨new', hs'', hn'⟩ := h' _ rest hs'
  refine ⟨new' ++ new, by rw [hs'', List.append_assoc], fun x => ?_⟩
  rw [List.map_append, List.mem_append, List.mem_append, hn, hn', or_comm]

/-- A report leaves the scopes alone. -/
theorem report_scopes {p : Problem} {span : Span} {u : Unit} (h : Gives (report p span) s u s') :
    s'.scopes = s.scopes := by
  rw [← gives_modify.mp h]

/-- A report is not clean. -/
theorem not_clean_report {p : Problem} {span : Span} {u : Unit} (h : Gives (report p span) s u s')
    (hclean : s'.diagnostics = []) : False := by
  rw [← gives_modify.mp h] at hclean
  exact List.append_ne_nil_of_right_ne_nil _ (List.cons_ne_nil _ _) hclean

/-- So does a written type, -/
theorem resolve_scopes {e : TypeExpr} {t : Ty} (h : Gives (resolve c e) s t s') :
    s'.scopes = s.scopes := by
  obtain ⟨_, hm, -⟩ := gives_bind_pure.mp h
  rw [← gives_modify.mp hm]

/-- whether it is there or not. -/
theorem writtenOr_scopes {written : Option TypeExpr} {otherwise t : Option Ty}
    (h : Gives (writtenOr c written otherwise) s t s') : s'.scopes = s.scopes := by
  cases written with
  | none => rw [(gives_pure.mp h).2]
  | some e =>
    obtain ⟨_, h₁, -⟩ := gives_bind_pure.mp h
    exact resolve_scopes h₁

/-- One name is bound. -/
theorem bindName_binds {name : String} {type : Option Ty} {u : Unit}
    (h : Gives (bindName name type) s u s') : Binds [name] s s' := fun scope rest hs =>
  ⟨[(name, type)], by rw [← gives_modify.mp h, hs]; rfl, fun _ => Iff.rfl⟩

/-- A type that is no tuple may be reported. -/
theorem reportNotTuple_scopes {type : Option Ty} {span : Span} {u : Unit}
    (h : Gives (reportNotTuple type span) s u s') : s'.scopes = s.scopes := by
  unfold reportNotTuple at h
  split at h
  · split at h
    · rw [(gives_pure.mp h).2]
    · obtain ⟨_, -, h⟩ := gives_lift_bind.mp h
      exact report_scopes h
  · rw [(gives_pure.mp h).2]

/-- A coercion leaves the scopes alone, whatever comes of it. -/
theorem coerceTo_scopes {e : Expr} {u : Unit} (h : Gives (coerceTo c e t expected) s u s') :
    s'.scopes = s.scopes := by
  cases expected with
  | none => rw [(gives_pure.mp h).2]
  | some _ =>
    obtain ⟨f, -, h⟩ := gives_lift_bind.mp h
    cases f with
    | exact => rw [(gives_pure.mp h).2]
    | adjusted => rw [← gives_modify.mp h]
    | mismatch =>
      obtain ⟨_, -, h⟩ := gives_lift_bind.mp h
      obtain ⟨_, -, h⟩ := gives_lift_bind.mp h
      exact report_scopes h

/-- So does looking up the types of parameters. -/
theorem paramTypes_scopes {ps : List Param} {ts : List Ty}
    (h : Gives (ps.mapM (paramType c)) s ts s') : s'.scopes = s.scopes := by
  have hone {p : Param} {s s' : State} {t : Ty} (h : Gives (paramType c p) s t s') :
      s'.scopes = s.scopes := by
    have h := gives_get_bind.mp h
    split at h
    · rw [(gives_pure.mp h).2]
    · exact resolve_scopes h
    · rw [(gives_pure.mp h).2]
  induction ps generalizing s ts with
  | nil =>
    rw [List.mapM_nil] at h
    rw [(gives_pure.mp h).2]
  | cons p ps ih =>
    obtain ⟨_, _, s₁, -, h₁, h₂⟩ := gives_mapM_cons.mp h
    rw [ih h₂, hone h₁]

/-- Several patterns are bound one after the other, whether types are missing or too many. -/
theorem bindPatterns_cons (p : Pattern) (ps : List Pattern) (types : List Ty) :
    ∃ type types', bindPatterns (p :: ps) types = (do
      bindPattern p type
      bindPatterns ps types') := by
  cases types with
  | nil => exact ⟨_, [], rfl⟩
  | cons t ts => exact ⟨_, ts, rfl⟩

mutual

/-- **A pattern binds its names**, and the scopes around stay. -/
theorem bindPattern_binds : (p : Pattern) → {type : Option Ty} → {s s' : State} → {u : Unit} →
    Gives (bindPattern p type) s u s' → Binds p.names s s'
  | .binding _ _ _, _, _, _, _, h => bindName_binds h
  | .tuple node elems, type, _, _, _, h => by
    rw [bindPattern] at h
    split at h
    · exact bindPatterns_binds elems h
    -- the type is no tuple of this length, which may be reported, but the names are bound all the same
    · obtain ⟨_, s₁, h₁, h⟩ := gives_bind.mp h
      exact (Binds.of_scopes (reportNotTuple_scopes h₁)).trans (bindPatterns_binds elems h)
  | .ref _ inner, _, _, _, _, h => by
    obtain ⟨_, -, h⟩ := gives_lift_bind.mp h
    exact bindPattern_binds inner h
  | .wildcard _, _, _, _, _, h => Binds.of_scopes (by rw [(gives_pure.mp h).2])

/-- The same for a list of patterns. -/
theorem bindPatterns_binds : (ps : List Pattern) → {types : List Ty} → {s s' : State} →
    {u : Unit} → Gives (bindPatterns ps types) s u s' → Binds (Pattern.namesAll ps) s s'
  | [], _, _, _, _, h => Binds.of_scopes (by rw [bindPatterns] at h; rw [(gives_pure.mp h).2])
  | p :: ps, types, _, _, _, h => by
    obtain ⟨type, types', he⟩ := bindPatterns_cons p ps types
    obtain ⟨_, s₁, h₁, h⟩ := gives_bind.mp (he ▸ h)
    exact (bindPattern_binds p h₁).trans (bindPatterns_binds ps h)

end

/-- Parameters bind their names. -/
theorem bindParams_binds {ps : List Param} {expected : List (Option Ty)} {u : Unit}
    (h : Gives (bindParams c ps expected) s u s') : Binds (paramNames ps) s s' := by
  induction ps generalizing expected s with
  | nil => exact Binds.of_scopes (by rw [bindParams] at h; rw [(gives_pure.mp h).2])
  | cons p ps ih =>
    rw [bindParams_cons] at h
    obtain ⟨_, s₁, h₁, h⟩ := gives_bind.mp h
    obtain ⟨_, s₂, h₂, h⟩ := gives_bind.mp h
    -- first the type of the parameter, then its pattern, then the others
    exact (Binds.of_scopes (writtenOr_scopes h₁)).trans ((bindPattern_binds _ h₂).trans (ih h))

/-! ### Paths that spell a local -/

/-- A name is found in a scope if it has been bound there. -/
theorem isSome_lookup_iff {scope : Scope} {name : String} :
    (scope.lookup name).isSome ↔ name ∈ scope.map Prod.fst := by
  induction scope with
  | nil => simp
  | cons l ls ih =>
    rw [List.lookup_cons, List.map_cons, List.mem_cons]
    cases h : name == l.1 with
    | true => exact ⟨fun _ => .inl (eq_of_beq h), fun _ => rfl⟩
    | false => exact ih.trans (or_iff_right (ne_of_beq_false h)).symm

/-- A name of the innermost scope means a local. -/
theorem lookupLocal_of_mem {scope : Scope} {rest : List Scope} {x : String}
    (h : x ∈ scope.map Prod.fst) : (lookupLocal (scope :: rest) x).isSome := by
  obtain ⟨type, ht⟩ := Option.isSome_iff_exists.mp (isSome_lookup_iff.mpr h)
  rw [lookupLocal, List.findSome?_cons, ht]
  rfl

/-- The innermost scope is looked at first. -/
theorem lookupLocal_cons (f : Scope) (ss : List Scope) (x : String) :
    lookupLocal (f :: ss) x = (f.lookup x).or (lookupLocal ss x) := by
  rw [lookupLocal, List.findSome?_cons]
  cases f.lookup x <;> rfl

/-- Deciding on the type of a local files nothing. -/
theorem decideType_tables {node : Node} {x : String} {expected : Option Ty} {t : Ty}
    (h : Gives (decideType node x expected) s t s') : s'.tables = s.tables := by
  unfold decideType at h
  split at h
  · obtain ⟨_, s₁, h₁, h⟩ := gives_bind.mp h
    rw [← (gives_pure.mp h).2, ← gives_modify.mp h₁]
  · obtain ⟨_, s₁, h₁, h⟩ := gives_bind.mp h
    obtain ⟨_, s₂, h₂, h⟩ := gives_bind.mp h
    rw [← (gives_pure.mp h).2, ← gives_modify.mp h₂, ← gives_modify.mp h₁]

/-- A path that spells a local leaves the results as they are. -/
theorem checkPath_local {node : Node} {x : String} {expected : Option Ty} {t : Ty}
    (hx : (lookupLocal s.scopes x).isSome) (h : Gives (checkPath c node [x] expected) s t s') :
    s'.tables = s.tables := by
  have h := gives_get_bind.mp h
  obtain ⟨l, hl⟩ := Option.isSome_iff_exists.mp hx
  rw [hl] at h
  cases l with
  | none => exact decideType_tables h
  | some type => rw [(gives_pure.mp h).2]

/-! ### The check of a closure, step by step -/

/-- How the check of a closure goes: its parameters are bound in a new scope, the body is checked
there against the written or expected result, and the parameters' types are read off. -/
inductive ClosureRun (c : Context) (node : Node) (params : List Param) (ret : Option TypeExpr)
    (body : Expr) (expected : Option Ty) (s : State) (t : Ty) (s' : State) : Prop where
  | intro {signature : Option (List Ty × Ty)} {retExpected : Option Ty} {bodyType : Ty}
    {paramTypes : List Ty} {s₁ s₂ s₃ s₄ s₅ : State}
    (expects : expectedSignature expected params.length = .ok signature)
    (binds : Gives (bindParams c params (((signature.map Prod.fst).getD []).map some))
      { s with scopes := [] :: s.scopes } () s₁)
    (result : Gives (writtenOr c ret (signature.map Prod.snd)) s₁ retExpected s₂)
    (checks : Gives (checkExpr c body retExpected) s₂ bodyType s₃)
    (coerces : Gives (coerceTo c body bodyType retExpected) s₃ () s₄)
    (reads : Gives (params.mapM (paramType c)) s₄ paramTypes s₅)
    (type : t = .function paramTypes (retExpected.getD bodyType) false)
    (files : Gives (setType node.id t) { s₅ with scopes := s₅.scopes.drop 1 } () s')

/-- **Every check of a closure goes this way.** -/
theorem checkExpr_closure_run {node : Node} {params : List Param} {ret : Option TypeExpr}
    {body : Expr} {expected : Option Ty} {t : Ty}
    (h : Gives (checkExpr c (.closure node params ret body) expected) s t s') :
    ClosureRun c node params ret body expected s t s' := by
  rw [checkExpr_closure] at h
  obtain ⟨s₆, hinside, hset⟩ := gives_filed.mp h
  obtain ⟨signature, hsig, hscope⟩ := gives_lift_bind.mp hinside
  obtain ⟨s₅, hsteps, rfl⟩ := gives_inScope.mp hscope
  obtain ⟨_, s₁, hbinds, hsteps⟩ := gives_bind.mp hsteps
  obtain ⟨retExpected, s₂, hret, hsteps⟩ := gives_bind.mp hsteps
  obtain ⟨bodyType, s₃, hbody, hsteps⟩ := gives_bind.mp hsteps
  obtain ⟨_, s₄, hcoerce, hsteps⟩ := gives_bind.mp hsteps
  obtain ⟨paramTypes, hreads, rfl⟩ := gives_bind_pure.mp hsteps
  exact ⟨hsig, hbinds, hret, hbody, hcoerce, hreads, rfl, hset⟩

/-- **The check of a closure that calls something**: in between, the callee is checked in a scope
that binds exactly the parameters. Nothing is filed in front of that; behind it results are filed
for the closure, the call and the arguments, and adjustments made of the last two. -/
theorem checkExpr_closure_call {node call : Node} {params : List Param} {ret : Option TypeExpr}
    {callee : Expr} {args : List Expr} {expected : Option Ty} {t : Ty}
    (h : Gives (checkExpr c (.closure node params ret (.call call callee args)) expected) s t s') :
    ∃ s₁ type s₂, (∃ new : Scope, s₁.scopes = new :: s.scopes ∧
        ∀ x, x ∈ new.map Prod.fst ↔ x ∈ paramNames params) ∧
      Extends Nowhere Nowhere s s₁ ∧ Gives (checkExpr c callee none) s₁ type s₂ ∧
      ∀ I J : NodeId → Prop, I node.id → I call.id → J call.id →
        (∀ y ∈ Expr.walkAll args, I y.id ∧ J y.id) → Extends I J s₂ s' := by
  obtain ⟨-, hbinds, hret, hbody, hcoerce, hreads, -, hfiles⟩ := checkExpr_closure_run h
  rw [checkExpr_call] at hbody
  obtain ⟨s₃, hcall, hset⟩ := gives_filed.mp hbody
  obtain ⟨type, s₂, hcallee, hrest⟩ := gives_bind.mp hcall
  -- the scopes at the callee, what came before it, and what is still to come
  refine ⟨_, type, s₂, ?_, ?_, hcallee, fun I J hnode hcallI hcallJ hargs => ?_⟩
  · obtain ⟨new, hs, hn⟩ := bindParams_binds hbinds [] s.scopes rfl
    exact ⟨new, by rw [writtenOr_scopes hret, hs, List.append_nil], hn⟩
  · exact ((Extends.rescope s _).trans ((bindParams_confined _ _).grows hbinds)).trans
      ((writtenOr_confined _ _).grows hret)
  -- the arguments, the call, the coercion of the body, and the closure itself
  · have hargs' : Extends I J s₂ s₃ :=
      (callRest_confined fun expected => checkArgs_confined args expected hargs).grows hrest
    have hfile := hargs'.trans ((setType_confined hcallI _).grows hset)
    have hco := hfile.trans ((coerceTo_confined hcallJ _ _).grows hcoerce)
    have hread := hco.trans ((Confined.mapM fun p _ => paramType_confined p).grows hreads)
    exact (hread.trans (.rescope _ _)).trans ((setType_confined hnode _).grows hfiles)

/-- **A callee that spells a parameter means no declaration.** -/
theorem Visited.local_callee {node call n : Node} {params : List Param} {ret : Option TypeExpr}
    {args : List Expr} {x : String} {final : State}
    (h : Visited c (.closure node params ret (.call call (.path n [x]) args)) final)
    (hd : Distinct (Expr.closure node params ret (.call call (.path n [x]) args)).walk)
    (hx : x ∈ paramNames params) : final.tables.paths.lookup n.id = none := by
  obtain ⟨hfresh, hg, -, hfinal⟩ := h
  obtain ⟨s₁, type, s₂, ⟨new, hs, hn⟩, hbefore, hcallee, hafter⟩ := checkExpr_closure_call hg
  rw [checkExpr_path] at hcallee
  obtain ⟨s₃, hpath, hset⟩ := gives_filed.mp hcallee
  have hlocal : (lookupLocal s₁.scopes x).isSome := hs ▸ lookupLocal_of_mem ((hn x).mpr hx)
  obtain ⟨-, hd₁⟩ := List.pairwise_cons.mp hd
  obtain ⟨hcall, hd₂⟩ := List.pairwise_cons.mp hd₁
  obtain ⟨hne, -⟩ := List.pairwise_cons.mp hd₂
  have hmem : Expr.path n [x] ∈ (Expr.call call (.path n [x]) args).walk :=
    List.mem_cons_of_mem _ List.mem_cons_self
  -- the path has a node of its own, which no other step files anything for
  have hn₀ : node.id ≠ n.id := (List.pairwise_cons.mp hd).1 _ hmem
  have hn₁ : call.id ≠ n.id := hcall _ List.mem_cons_self
  have hlater : Extends (· ≠ n.id) (fun _ => True) s₂ _ :=
    hafter _ _ hn₀ hn₁ trivial fun y hy => ⟨fun he => hne y hy he.symm, trivial⟩
  -- from the end back to the beginning, nothing is filed for the path
  calc
    _ = _ := hfinal.paths n.id ⟨_, List.mem_cons_of_mem _ hmem, rfl⟩
    _ = s₂.tables.paths.lookup n.id := hlater.tables.paths n.id (fun h => h rfl)
    _ = s₃.tables.paths.lookup n.id := by rw [← gives_modify.mp hset]
    _ = s₁.tables.paths.lookup n.id := by rw [checkPath_local hlocal hpath]
    _ = _ := hbefore.tables.paths n.id id
    _ = none := hfresh.paths n.id ⟨_, List.mem_cons_of_mem _ hmem, rfl⟩

end ClosureLint.Typing
