import ClosureLint.Proofs.Checking.Inlays
import ClosureLint.Proofs.Checking.Rebinding

/-!
# A closure with one more written type

Writing down the type of a closure parameter changes no identity. Where it is the type that the
parameter ends up with, the closure is checked as before.

* `annotated` — a closure with a written type for one of its parameters.
* `writable_annotated` — it can be written where the closure can.
* `checkExpr_annotated` — it is checked as the closure is.
* `annotated_takes` — so it is after other results were filed for other nodes.
-/

namespace ClosureLint.Core

open ClosureLint.Syntax (TypeExpr)

variable {node : Node} {pre post : List Param} {p : Param} {t : TypeExpr} {ret : Option TypeExpr}
  {body : Expr} {a : NodeId}

/-- The parameter with a written type. -/
def Param.annotate (p : Param) (t : TypeExpr) : Param := { p with declared := some t }

/-- The closure with the type `t` written down for the parameter `p`, which stands between others. -/
def annotated (node : Node) (pre : List Param) (p : Param) (post : List Param) (t : TypeExpr)
    (ret : Option TypeExpr) (body : Expr) : Expr :=
  .closure node (pre ++ p.annotate t :: post) ret body

theorem Param.widthAll_annotate :
    Param.widthAll (pre ++ p.annotate t :: post) = Param.widthAll (pre ++ p :: post) := by
  induction pre with
  | nil => rfl
  | cons q pre ih => rw [List.cons_append, List.cons_append, widthAll, widthAll, ih]

theorem width_annotated : (annotated node pre p post t ret body).width
    = (Expr.closure node (pre ++ p :: post) ret body).width := by
  rw [annotated, Expr.width, Expr.width, Param.widthAll_annotate]

/-- A written type has no identities. -/
theorem Param.numberAll_annotate (h : (Param.numberAll a (pre ++ p :: post)).1 = pre ++ p :: post) :
    (Param.numberAll a (pre ++ p.annotate t :: post)).1 = pre ++ p.annotate t :: post := by
  induction pre generalizing a with
  | nil =>
    obtain ⟨hp, hpost⟩ := List.cons.inj h
    exact congrArg₂ List.cons (congrArg (Param.annotate · t) hp) hpost
  | cons q pre ih =>
    obtain ⟨hq, hrest⟩ := List.cons.inj h
    exact congrArg₂ List.cons hq (ih hrest)

theorem IsNumbered.annotated (h : IsNumbered a (.closure node (pre ++ p :: post) ret body)) :
    IsNumbered a (annotated node pre p post t ret body) := by
  obtain ⟨hnode, hparams, -, hbody⟩ := Expr.closure.inj h
  rw [Param.numberAll_snd] at hbody
  rw [Core.annotated, IsNumbered, Expr.number_closure, hnode, Param.numberAll_annotate hparams,
    Param.widthAll_annotate, hbody]

/-- **The closure can be written** with the type of a parameter where it can be written without. -/
theorem writable_annotated : (E : Syntax.Expr) → {c : Lowering} →
    .closure node (pre ++ p :: post) ret body = ((lowerExpr c E).number a).1 →
    Writable c (annotated node pre p post t ret body)
  | .closure l params ret' E, c, h => by
    obtain ⟨rfl, hparams, rfl, hbody⟩ := Expr.closure.inj h
    -- what is lowered to the parameter is written with the type as well
    have hlowered := congrArg (List.map Param.unnumbered) hparams
    rw [Param.unnumbered_numberAll, List.map_append, List.map_cons, List.map_map] at hlowered
    obtain ⟨pre', rest, rfl, hpre, hrest⟩ := List.map_eq_append_iff.mp hlowered.symm
    obtain ⟨q, post', rfl, hq, hpost⟩ := List.map_eq_cons_iff.mp hrest
    refine ⟨.closure l (pre' ++ { q with declared := some t } :: post') ret E, ?_⟩
    have hq' : (lowerClosureParam c { q with declared := some t }).unnumbered
        = (p.annotate t).unnumbered := congrArg (Param.annotate · t) hq
    rw [lowerExpr, annotated, Expr.unnumbered, Expr.unnumbered, hbody, Expr.unnumbered_number,
      List.map_map, List.map_append, List.map_append, List.map_cons, List.map_cons, hpre, hpost,
      Function.comp_apply, hq', Node.unnumbered_withId]
  -- an invocation stays around what it expands to
  | .macroCall l name E, c, h => by
    obtain ⟨E', hE'⟩ := writable_annotated (c := c.inside) E h
    exact ⟨.macroCall l name E', hE'⟩
  | .path .., _, h | .int .., _, h | .str .., _, h | .borrow .., _, h | .deref .., _, h
  | .field .., _, h | .call .., _, h | .methodCall .., _, h => Expr.noConfusion h

end ClosureLint.Core

namespace ClosureLint.Typing

open ClosureLint.Core
open ClosureLint.Syntax (TypeExpr)

variable {c : Context} {node : Node} {pre post ps : List Param} {p : Param} {t : TypeExpr}
  {ret : Option TypeExpr} {body : Expr} {s s' s₁ : State} {expected : Option Ty} {type T : Ty}
  {types : List Ty} {ss : List Scope} {future : String → Option Ty} {es : List (Option Ty)}

/-! ### The parameter -/

theorem rebinds_refl : Rebinds c future ps es ps es := by
  induction ps generalizing es with
  | nil => exact .nil
  | cons p ps ih => exact .same (.inr rfl) ih

theorem gives_writtenOr_some (h : resolveType c.scope t = (T, [])) (otherwise : Option Ty) (s : State) :
    Gives (writtenOr c (some t) otherwise) s (some T) s := by
  refine gives_bind_pure.mpr ⟨T, ?_, rfl⟩
  unfold resolve
  rw [h]
  exact gives_bind_pure.mpr ⟨(), gives_modify.mpr (by rw [List.append_nil]), rfl⟩

/-- The parameter is told the type that is written down. -/
theorem rebinds_annotated {n : Node} {isMut : Bool} {name : String}
    (hp : p.pattern = .binding n isMut name) (ht : resolveType c.scope t = (T, []))
    (hfuture : future name = some T) :
    Rebinds c future (pre ++ p :: post) es (pre ++ p.annotate t :: post) es := by
  induction pre generalizing es with
  | nil => exact .told hp rfl (gives_writtenOr_some ht _) hfuture rebinds_refl
  | cons q pre ih => exact .same (.inr rfl) ih

theorem hasType_at (h : List.Forall₂ (HasType c ss) (pre ++ p :: post) types)
    (hT : types[pre.length]? = some T) : HasType c ss p T := by
  induction pre generalizing types with
  | nil =>
    obtain _ | ⟨hp, -⟩ := h
    exact Option.some.inj hT ▸ hp
  | cons q pre ih =>
    obtain _ | ⟨-, h⟩ := h
    exact ih h hT

/-- What a parameter without a written type ends up with is what its name is decided to be. -/
theorem decidedIn_of_hasType {f : Scope} {rest : List Scope} {n : Node} {isMut : Bool} {name : String}
    (h : HasType c (f :: rest) p T) (hp : p.pattern = .binding n isMut name) (hnone : p.declared = none)
    (hknown : T.kind ≠ .unknown) (hname : (f.lookup name).isSome) : decidedIn f name = some T := by
  obtain ⟨o, ho⟩ := Option.isSome_iff_exists.mp hname
  have hdecided : decidedType? (f :: rest) p.pattern = o := by
    rw [hp, decidedType?, lookupLocal_cons, ho]
    rfl
  -- its name is a local, which is decided or is not yet
  cases o with
  | none =>
    obtain rfl := h.unique (hasType_undecided hdecided hnone)
    exact absurd rfl hknown
  | some u =>
    obtain rfl := h.decided hdecided
    exact decidedIn_eq_some.mpr ho

/-! ### The closure -/

/-- **The closure is checked as before** with the type that the parameter ends up with. -/
theorem checkExpr_annotated {n : Node} {isMut : Bool} {name : String}
    (h : Gives (checkExpr c (.closure node (pre ++ p :: post) ret body) expected) s type s₁)
    (hclean : s₁.diagnostics = []) (hp : p.pattern = .binding n isMut name) (hnone : p.declared = none)
    (hT : type.params[pre.length]? = some T) (ht : resolveType c.scope t = (T, []))
    (hknown : T.kind ≠ .unknown) :
    Gives (checkExpr c (annotated node pre p post t ret body) expected) s type s₁ := by
  rw [annotated, checkExpr_closure]
  rw [checkExpr_closure] at h
  obtain ⟨s₂, hinside, hset⟩ := gives_filed.mp h
  obtain ⟨signature, hsignature, hscope⟩ := gives_lift_bind.mp hinside
  have hclean₂ : s₂.diagnostics = [] := by
    rw [← gives_modify.mp hset] at hclean
    exact hclean
  obtain ⟨new, result, types, s₃, hnew, hresult, htypes, rfl, rfl⟩ := (gives_closure hclean₂).mp hscope
  -- the parameter is one of those in front of the result
  have hlength : pre.length < types.length := by
    rw [← htypes.length_eq, List.length_append, List.length_cons]
    omega
  rw [show (Ty.function types result false).params = types ++ [result] from rfl,
    List.getElem?_append_left hlength] at hT
  -- the parameters are bound anew, and only this one has a written type now
  have hagain : Gives (inScope (closureInside c (pre ++ p.annotate t :: post) ret body signature)) s
      (.function types result false) { s₃ with scopes := s₃.scopes.drop 1 } :=
    closure_rebound hnew hresult hclean₂ htypes fun f rest hs hnames => by
      rw [hs] at htypes
      have hname : (f.lookup name).isSome :=
        hnames name (List.mem_flatMap.mpr ⟨p, by simp, by rw [hp]; exact .head _⟩)
      exact rebinds_annotated hp ht
        (decidedIn_of_hasType (hasType_at htypes hT) hp hnone hknown hname)
  refine gives_filed.mpr ⟨_, gives_lift_bind.mpr ⟨signature, ?_, hagain⟩, hset⟩
  rw [List.length_append, List.length_cons] at hsignature ⊢
  exact hsignature

/-! ### After other results -/

variable {P : NodeId → NodeId → Prop} {i : NodeId} {params : List Param}

/-- A closure whose node is looked at apart is checked the same from states that match. -/
theorem checkExpr_matchesAt (hP : OneToOne P) (hi : ¬ Paired P node.id) (hi' : ¬ Reached P node.id)
    (hbody : Alike P body body)
    (h : Gives (checkExpr c (.closure node params ret body) expected) s type s₁)
    (hs : MatchesAt P node.id s s') :
    ∃ s₁', Gives (checkExpr c (.closure node params ret body) expected) s' type s₁' ∧
      MatchesAt P node.id s₁ s₁' := by
  rw [checkExpr_closure] at h ⊢
  obtain ⟨s₂, hinside, hset⟩ := gives_filed.mp h
  have hmirrors : Mirrors P (do
      let signature ← (expectedSignature expected params.length : Except Fault _)
      inScope (closureInside c params ret body signature)) (do
      let signature ← (expectedSignature expected params.length : Except Fault _)
      inScope (closureInside c params ret body signature)) :=
    (Mirrors.lift _).bind fun _ => .scope <| Mirrors.spreads.closureInside rfl
      (Mirrors.spreads.accepts hP hbody.node (checkExpr_mirrors hP hbody))
  obtain ⟨s₂', hinside', hs₂⟩ := (Tracks.of_mirrors hi hi' hmirrors).runs hinside hs
  rw [← gives_modify.mp hset]
  exact ⟨_, gives_filed.mpr ⟨s₂', hinside', gives_modify.mpr rfl⟩, hs₂.filed hi hi' type⟩

/-- **The closure with the type written down takes the place of the closure.** -/
theorem annotated_takes {n : Node} {isMut : Bool} {name : String} {method : Option Resolution}
    (hnumbered : IsNumbered node.id (.closure node (pre ++ p :: post) ret body))
    (hp : p.pattern = .binding n isMut name) (hnone : p.declared = none)
    (hT : type.params[pre.length]? = some T) (ht : resolveType c.scope t = (T, []))
    (hknown : T.kind ≠ .unknown) :
    Takes (Apart node.id 0) node.id type method
      (checkExpr c (.closure node (pre ++ p :: post) ret body) expected)
      (checkExpr c (annotated node pre p post t ret body) expected) where
  runs {s a s₁ s'} h _ hends hs := by
    -- the type is the one that is filed for the closure
    obtain rfl : a = type := by
      rw [checkExpr_closure] at h
      obtain ⟨s₂, -, hset⟩ := gives_filed.mp h
      have htype := hends.type
      rw [← gives_modify.mp hset] at htype
      exact Option.some.inj (List.lookup_cons_self.symm.trans htype)
    -- the identities inside lie behind the one of the closure
    have hbehind : @LT.lt Int _ node.id (node.id + 1 + Param.widthAll (pre ++ p :: post)) := by
      have := Param.widthAll_nonneg (pre ++ p :: post)
      omega
    have hbody := alike_number body hnumbered.of_closure (Apart.along (d := 0) hbehind)
    rw [Int.add_zero, show (body.number _).1 = body from hnumbered.of_closure] at hbody
    exact checkExpr_matchesAt (apart_oneToOne (Int.le_refl 0)) apart_unpaired
      (apart_unreached (Int.le_refl 0)) hbody
      (checkExpr_annotated h hends.clean hp hnone hT ht hknown) hs

/-- Nothing is filed about what a closure means. -/
theorem Visited.closure_unfiled {final : State}
    (h : Visited c (.closure node params ret body) final)
    (hd : Distinct (Expr.closure node params ret body).walk) :
    final.tables.methods.lookup node.id = none ∧ final.tables.paths.lookup node.id = none := by
  obtain ⟨hfresh, h, -, hfinal⟩ := h
  rw [checkExpr_closure] at h
  obtain ⟨s₂, hinside, hset⟩ := gives_filed.mp h
  obtain rfl := gives_modify.mp hset
  have hself : Among (Expr.closure node params ret body).walk node.id :=
    ⟨_, Expr.mem_walk_self _, rfl⟩
  have hne : ∀ y ∈ body.walk, y.id ≠ node.id ∧ True := fun y hy =>
    ⟨((List.pairwise_cons.mp hd).1 y hy).symm, trivial⟩
  obtain ⟨hroot, hinner⟩ := Expr.forall_walk.mp hne
  obtain ⟨signature, -, hscope⟩ := gives_lift_bind.mp hinside
  -- what is checked inside the closure is filed under other ids
  have hconfined : Confined (· ≠ node.id) (fun _ => True)
      (inScope (closureInside c params ret body signature)) :=
    .inScope (closureInside_confined trivial fun _ => checkExpr_confined body _ hroot.1 hinner)
  have he := (hconfined.grows hscope).tables
  constructor
  · rw [hfinal.methods _ hself]
    exact (he.methods _ fun h => h rfl).trans (hfresh.methods _ hself)
  · rw [hfinal.paths _ hself]
    exact (he.paths _ fun h => h rfl).trans (hfresh.paths _ hself)

end ClosureLint.Typing
