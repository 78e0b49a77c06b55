import ClosureLint.Proofs.Checking.Refitted
import ClosureLint.Proofs.Core.Inlaid
import ClosureLint.Proofs.Core.Spans

/-!
# All around an expression that is replaced

An expression makes way for another under its own node. The results for that node are looked at apart
from the others, because some of them may change.

* `Spreads.inlaid` — what is known of the two expressions is known of any two around them.
* `MatchesAt` — states that match, and say the same about the type and adjustment of one node.
* `Tracks`, `Takes` — steps that go together as they do, always or if the first check ends well.
* `Takes.sits` — it is enough to compare how the two expressions are checked.
* `CheckedBy.replaced` — a program in which the one makes way for the other.
-/

namespace ClosureLint.Typing

open ClosureLint.Core

variable {P : NodeId → NodeId → Prop} {c : Context} {s s' s₁ : State} {i : NodeId} {x r : Expr}
  {α β : Type}

/-! ### Expressions around the one that is replaced -/

section

variable {R : {α : Type} → Check α → Check α → Prop}

/-- No argument is added or taken away. -/
theorem length_of_inlaid {es es' : List Expr} (h : InlaidAll P x r es es') :
    es'.length = es.length := by
  induction es generalizing es' with
  | nil => cases h
  | cons e es ih =>
    cases h with
    | head _ h => rw [List.length_cons, List.length_cons, length_of_alike h]
    | tail _ h => rw [List.length_cons, List.length_cons, ih h]

mutual

/-- **What is known of the two expressions** is known of any two around them. -/
theorem Spreads.inlaid (hR : Spreads P R) (hP : OneToOne P) (hole : Sits P R c x r) :
    {e e' : Expr} → Inlaid P x r e e' → Sits P R c e e'
  | _, _, .here => hole
  | _, _, .borrow h hsubject => .of_pairs hR hP h fun expected => by
    rw [checkExpr_borrow, checkExpr_borrow]
    exact hR.filed hP h.id <| hR.after (.lift _) fun _ =>
      hR.before ((hR.inlaid hP hole hsubject).checked _) fun _ => .pure _
  | _, _, .deref h hsubject => .of_pairs hR hP h fun expected => by
    rw [checkExpr_deref, checkExpr_deref]
    exact hR.filed hP h.id <| hR.before ((hR.inlaid hP hole hsubject).checked _) fun _ =>
      derefType_mirrors h.span _
  | _, _, .field h hsubject => .of_pairs hR hP h fun expected => by
    rw [checkExpr_field, checkExpr_field]
    exact hR.filed hP h.id <| hR.before ((hR.inlaid hP hole hsubject).checked _) fun _ => .pure _
  -- what makes way is in the callee, and the arguments are alike
  | _, _, .callee h hcallee hargs => .of_pairs hR hP h fun expected => by
    have hsits := hR.inlaid hP hole hcallee
    rw [checkExpr_call, checkExpr_call]
    exact hR.filed hP h.id <| hR.before (hsits.checked _) fun _ =>
      Mirrors.spreads.callRest h.span hsits.span (length_of_alike hargs)
        (checkArgs_mirrors hP hargs) _
  -- or it is in an argument, and the callee is alike
  | _, _, .call h hcallee hargs => .of_pairs hR hP h fun expected => by
    rw [checkExpr_call, checkExpr_call]
    exact hR.filed hP h.id <| hR.after (checkExpr_mirrors hP hcallee _) fun _ =>
      hR.callRest h.span hcallee.node.span (length_of_inlaid hargs) (hR.inlaidArgs hP hole hargs) _
  | _, _, .receiver h hreceiver hargs => .of_pairs hR hP h fun expected => by
    rw [checkExpr_methodCall, checkExpr_methodCall]
    exact hR.filed hP h.id ((hR.inlaid hP hole hreceiver).received _ h hargs)
  | _, _, .methodCall h hreceiver hargs => .of_pairs hR hP h fun expected => by
    rw [checkExpr_methodCall, checkExpr_methodCall]
    exact hR.filed hP h.id <| hR.after (checkExpr_mirrors hP hreceiver _) fun _ =>
      hR.methodRest hP h (hR.adjusts hP hreceiver.node.id) (length_of_inlaid hargs)
        (hR.inlaidArgs hP hole hargs) _
  -- the parameters bind the same names on both sides
  | _, _, .closure h hparams hbody => .of_pairs hR hP h fun expected => by
    rw [checkExpr_closure, checkExpr_closure, length_params hparams]
    exact hR.filed hP h.id <| hR.after (.lift _) fun _ => hR.scope <|
      hR.closureInside hparams (hR.inlaid hP hole hbody).accepted

/-- So it is with arguments in one of which the expression stands. -/
theorem Spreads.inlaidArgs (hR : Spreads P R) (hP : OneToOne P) (hole : Sits P R c x r) :
    {es es' : List Expr} → InlaidAll P x r es es' → (expected : List (Option Ty)) →
    R (checkArgs c es expected) (checkArgs c es' expected)
  | _, _, .head h hrest, expected => by
    rw [checkArgs_cons, checkArgs_cons]
    exact (hR.inlaid hP hole h).accepted _ fun _ => checkArgs_mirrors hP hrest _
  | _, _, .tail h hrest, expected => by
    rw [checkArgs_cons, checkArgs_cons]
    exact hR.after (checkExpr_mirrors hP h _) fun _ => hR.after (coerceTo_mirrors hP h.node _ _)
      fun _ => hR.inlaidArgs hP hole hrest _

end

end

/-! ### The node of the expression -/

/-- Two states match, and say the same about the type and the adjustment of the node `i`. -/
structure MatchesAt (P : NodeId → NodeId → Prop) (i : NodeId) (s s' : State) : Prop where
  around : Matches P s s'
  types : s'.tables.types.lookup i = s.tables.types.lookup i
  adjusted : i ∈ s'.tables.adjusted ↔ i ∈ s.tables.adjusted

/-- The same change of scopes on both sides. -/
theorem MatchesAt.rescope (h : MatchesAt P i s s') (f : List Scope → List Scope) :
    MatchesAt P i { s with scopes := f s.scopes } { s' with scopes := f s'.scopes } :=
  ⟨h.around.rescope f, h.types, h.adjusted⟩

/-- The type of a node is filed on both sides. -/
theorem MatchesAt.filed (hi : ¬ Paired P i) (hi' : ¬ Reached P i) (h : MatchesAt P i s s') (type : Ty) :
    MatchesAt P i { s with tables := { s.tables with types := (i, type) :: s.tables.types } }
      { s' with tables := { s'.tables with types := (i, type) :: s'.tables.types } } := by
  obtain ⟨⟨hscopes, hdiagnostics, ht, hm, hp, ha⟩, -, hadjusted⟩ := h
  -- the node is paired with none, so the results for all pairs stay
  refine ⟨⟨hscopes, hdiagnostics, fun j k hjk => ?_, hm, hp, ha⟩, ?_, hadjusted⟩
  · have hj : (j == i) = false := beq_false_of_ne fun h => hi ⟨k, h ▸ hjk⟩
    have hk : (k == i) = false := beq_false_of_ne fun h => hi' ⟨j, h ▸ hjk⟩
    rw [List.lookup_cons, List.lookup_cons, hj, hk]
    exact ht j k hjk
  · rw [List.lookup_cons_self, List.lookup_cons_self]

/-- What a call means is filed for a node that is paired with none. -/
theorem MatchesAt.method (hi : ¬ Paired P i) (h : MatchesAt P i s s') (r : Resolution) :
    MatchesAt P i { s with tables := { s.tables with methods := (i, r) :: s.tables.methods } } s' := by
  obtain ⟨⟨hscopes, hdiagnostics, ht, hm, hp, ha⟩, htypes, hadjusted⟩ := h
  refine ⟨⟨hscopes, hdiagnostics, ht, fun j k hjk => ?_, hp, ha⟩, htypes, hadjusted⟩
  have hj : (j == i) = false := beq_false_of_ne fun h => hi ⟨k, h ▸ hjk⟩
  rw [List.lookup_cons, hj]
  exact hm j k hjk

/-- What a path means, and its type, are filed for another node that none is paired with. -/
theorem MatchesAt.path {j : NodeId} (hj : ¬ Reached P j) (hne : i ≠ j) (h : MatchesAt P i s s')
    (d : Decl) (type : Ty) : MatchesAt P i s { s' with tables := { s'.tables with
      types := (j, type) :: s'.tables.types, paths := (j, d) :: s'.tables.paths } } := by
  obtain ⟨⟨hscopes, hdiagnostics, ht, hm, hp, ha⟩, htypes, hadjusted⟩ := h
  have hother (k l : NodeId) (hkl : P k l) : (l == j) = false :=
    beq_false_of_ne fun h => hj ⟨k, h ▸ hkl⟩
  refine ⟨⟨hscopes, hdiagnostics, fun k l hkl => ?_, hm, fun k l hkl => ?_, ha⟩, ?_, hadjusted⟩
  · rw [List.lookup_cons, hother k l hkl]
    exact ht k l hkl
  · rw [List.lookup_cons, hother k l hkl]
    exact hp k l hkl
  · rw [List.lookup_cons, beq_false_of_ne hne]
    exact htypes

/-- The second step goes with the first from states that match. The first files nothing for the node
`i`, but may adjust it. -/
structure Tracks (P : NodeId → NodeId → Prop) (i : NodeId) (m m' : Check α) : Prop where
  runs : ∀ {s a s₁ s'}, Gives m s a s₁ → MatchesAt P i s s' →
    ∃ s₁', Gives m' s' a s₁' ∧ MatchesAt P i s₁ s₁'
  confined : Confined (· ≠ i) (fun _ => True) m

namespace Tracks

/-- Steps that keep to paired nodes leave a node alone that is paired with none. -/
theorem of_mirrors (hi : ¬ Paired P i) (hi' : ¬ Reached P i) {m m' : Check α} (h : Mirrors P m m') :
    Tracks P i m m' where
  runs hg hs := by
    obtain ⟨s₁', hg', hs₁⟩ := h.runs hg hs.around
    -- neither of the steps files anything for the node
    have he := (h.confined.grows hg).tables
    have he' := (h.confined'.grows hg').tables
    refine ⟨s₁', hg', hs₁, ?_, ?_⟩
    · rw [he'.types i hi', he.types i hi, hs.types]
    · rw [he'.adjusted i hi', he.adjusted i hi, hs.adjusted]
  confined := ⟨fun hg => (h.confined.grows hg).mono (fun j hj (he : j = i) => hi (he ▸ hj))
    fun _ _ => trivial⟩

/-- Two steps in a row. -/
theorem bind {m m' : Check α} {f f' : α → Check β} (hm : Tracks P i m m')
    (hf : ∀ a, Tracks P i (f a) (f' a)) : Tracks P i (m >>= f) (m' >>= f') where
  runs h hs := by
    obtain ⟨a, s₁, h₁, h₂⟩ := gives_bind.mp h
    obtain ⟨s₁', h₁', hs₁⟩ := hm.runs h₁ hs
    obtain ⟨s₂', h₂', hs₂⟩ := (hf a).runs h₂ hs₁
    exact ⟨s₂', gives_bind.mpr ⟨a, s₁', h₁', h₂'⟩, hs₂⟩
  confined := hm.confined.bind fun a => (hf a).confined

/-- A scope around both. -/
theorem scope {m m' : Check α} (h : Tracks P i m m') : Tracks P i (inScope m) (inScope m') where
  runs hg hs := by
    obtain ⟨s₂, h₂, rfl⟩ := gives_inScope.mp hg
    obtain ⟨s₂', h₂', hs₂⟩ := h.runs h₂ (hs.rescope fun scopes => [] :: scopes)
    exact ⟨_, gives_inScope.mpr ⟨s₂', h₂', rfl⟩, hs₂.rescope fun scopes => scopes.drop 1⟩
  confined := h.confined.inScope

/-- Steps that keep to paired nodes may come before. -/
theorem spreads (hi : ¬ Paired P i) (hi' : ¬ Reached P i) : Spreads P (Tracks P i) where
  after hm hf := (of_mirrors hi hi' hm).bind hf
  before hm hf := hm.bind fun a => of_mirrors hi hi' (hf a)
  scope := scope
  throw f := of_mirrors hi hi' (.throw f)

/-- The node itself is adjusted. -/
theorem setAdjusted (hi : ¬ Paired P i) (hi' : ¬ Reached P i) :
    Tracks P i (setAdjusted i) (setAdjusted i) where
  runs {s a s₁ s'} h hs := by
    obtain rfl := gives_modify.mp h
    -- the mark is set for a node that is paired with none
    obtain ⟨⟨hscopes, hdiagnostics, ht, hm, hp, ha⟩, htypes, -⟩ := hs
    refine ⟨_, gives_modify.mpr rfl, ⟨hscopes, hdiagnostics, ht, hm, hp, fun j k hjk => ?_⟩, htypes,
      iff_of_true List.mem_cons_self List.mem_cons_self⟩
    rw [List.mem_cons, List.mem_cons, ha j k hjk]
    exact or_congr_left (iff_of_false (fun h => hi' ⟨j, h ▸ hjk⟩) fun h => hi ⟨k, h ▸ hjk⟩)
  confined := setAdjusted_confined trivial

/-- The node's expression is accepted where its type is needed. -/
theorem coerceTo (hi : ¬ Paired P i) (hi' : ¬ Reached P i) {e e' : Expr} (he : e.id = i)
    (he' : e'.id = i) (hspan : e'.span = e.span) (actual : Ty) (expected : Option Ty) :
    Tracks P i (coerceTo c e actual expected) (coerceTo c e' actual expected) := by
  have hmirrors {m m' : Check Unit} : Mirrors P m m' → Tracks P i m m' := of_mirrors hi hi'
  cases expected with
  | none => exact hmirrors (.pure ())
  | some t =>
    refine (of_mirrors hi hi' (.lift _)).bind fun fits => ?_
    -- nothing to do, the node to adjust, or a mismatch to report
    cases fits with
    | exact => exact hmirrors (.pure ())
    | adjusted =>
      dsimp only
      rw [he, he']
      exact setAdjusted hi hi'
    | mismatch =>
      exact hmirrors <| (Mirrors.lift _).bind fun _ => (Mirrors.lift _).bind fun _ =>
        report_mirrors _ hspan

end Tracks

/-! ### Checks that end well -/

/-- Nothing is reported, and the type and the method are filed for the node `i`. -/
structure Ends (i : NodeId) (type : Ty) (method : Option Resolution) (s : State) : Prop where
  clean : s.diagnostics = []
  type : s.tables.types.lookup i = some type
  method : s.tables.methods.lookup i = method

variable {type : Ty} {method : Option Resolution}

/-- So it was before steps that file nothing for the node. -/
theorem Ends.earlier {J : NodeId → Prop} (h : Ends i type method s₁) (he : Extends (· ≠ i) J s s₁) :
    Ends i type method s :=
  ⟨he.clean h.clean, (he.tables.types i fun h => h rfl).symm.trans h.type,
    (he.tables.methods i fun h => h rfl).symm.trans h.method⟩

/-- Where the first step begins without a method for the node `i` and ends well, the second goes with it
from states that match. -/
structure Takes (P : NodeId → NodeId → Prop) (i : NodeId) (type : Ty) (method : Option Resolution)
    (m m' : Check α) : Prop where
  runs : ∀ {s a s₁ s'}, Gives m s a s₁ → s.tables.methods.lookup i = none → Ends i type method s₁ →
    MatchesAt P i s s' → ∃ s₁', Gives m' s' a s₁' ∧ MatchesAt P i s₁ s₁'

namespace Takes

/-- Steps that go together may come before, -/
theorem after {m m' : Check α} {f f' : α → Check β} (hm : Tracks P i m m')
    (hf : ∀ a, Takes P i type method (f a) (f' a)) :
    Takes P i type method (m >>= f) (m' >>= f') where
  runs h hfresh hends hs := by
    obtain ⟨a, s₁, h₁, h₂⟩ := gives_bind.mp h
    obtain ⟨s₁', h₁', hs₁⟩ := hm.runs h₁ hs
    have hfresh₁ := ((hm.confined.grows h₁).tables.methods i fun h => h rfl).trans hfresh
    obtain ⟨s₂', h₂', hs₂⟩ := (hf a).runs h₂ hfresh₁ hends hs₁
    exact ⟨s₂', gives_bind.mpr ⟨a, s₁', h₁', h₂'⟩, hs₂⟩

/-- or behind. -/
theorem before {m m' : Check α} {f f' : α → Check β} (hm : Takes P i type method m m')
    (hf : ∀ a, Tracks P i (f a) (f' a)) : Takes P i type method (m >>= f) (m' >>= f') where
  runs h hfresh hends hs := by
    obtain ⟨a, s₁, h₁, h₂⟩ := gives_bind.mp h
    obtain ⟨s₁', h₁', hs₁⟩ := hm.runs h₁ hfresh (hends.earlier ((hf a).confined.grows h₂)) hs
    obtain ⟨s₂', h₂', hs₂⟩ := (hf a).runs h₂ hs₁
    exact ⟨s₂', gives_bind.mpr ⟨a, s₁', h₁', h₂'⟩, hs₂⟩

/-- A scope around both. -/
theorem scope {m m' : Check α} (h : Takes P i type method m m') :
    Takes P i type method (inScope m) (inScope m') where
  runs hg hfresh hends hs := by
    obtain ⟨s₂, h₂, rfl⟩ := gives_inScope.mp hg
    obtain ⟨s₂', h₂', hs₂⟩ := h.runs h₂ hfresh ⟨hends.clean, hends.type, hends.method⟩
      (hs.rescope fun scopes => [] :: scopes)
    exact ⟨_, gives_inScope.mpr ⟨s₂', h₂', rfl⟩, hs₂.rescope fun scopes => scopes.drop 1⟩

/-- Steps that keep to paired nodes may come before. -/
theorem spreads (hi : ¬ Paired P i) (hi' : ¬ Reached P i) : Spreads P (Takes P i type method) where
  after hm hf := after (.of_mirrors hi hi' hm) hf
  before hm hf := before hm fun a => .of_mirrors hi hi' (hf a)
  scope := scope
  throw _ := ⟨fun h => absurd h not_gives_throw⟩

/-- **It is enough to compare how the two expressions are checked**, which have the same node. -/
theorem sits (hP : OneToOne P) (hi : ¬ Paired P i) (hi' : ¬ Reached P i) (hx : x.id = i)
    (hr : r.id = i) (hspan : r.span = x.span)
    (h : ∀ expected, Takes P i type method (checkExpr c x expected) (checkExpr c r expected)) :
    Sits P (Takes P i type method) c x r where
  span := hspan
  checked := h
  accepted _ _ _ _ hf := before (h _) fun _ =>
    (Tracks.coerceTo hi hi' hx hr hspan _ _).bind fun _ => .of_mirrors hi hi' (hf _)
  received _ hn hargs := before (h none) fun _ =>
    (Tracks.spreads hi hi').methodRest hP hn
      (fun hm => by rw [hx, hr]; exact (Tracks.setAdjusted hi hi').bind fun _ => hm)
      (length_of_alike hargs) (fun _ => .of_mirrors hi hi' (checkArgs_mirrors hP hargs _)) _

end Takes

/-! ### The nodes around one that nothing is paired with -/

/-- No identity is paired with two. -/
theorem apart_oneToOne {i d : Int} (hd : 0 ≤ d) : OneToOne (Apart i d) := by
  intro k j k' j' h h'
  unfold Apart at h h'
  change @Eq Int k' k ↔ @Eq Int j' j
  omega

/-- The identity of the part is paired with none, -/
theorem apart_unpaired {i d : Int} : ¬ Paired (Apart i d) i := by
  rintro ⟨j, hj⟩
  unfold Apart at hj
  omega

/-- and none is paired with it. -/
theorem apart_unreached {i d : Int} (hd : 0 ≤ d) : ¬ Reached (Apart i d) i := by
  rintro ⟨k, hk⟩
  unfold Apart at hk
  omega

/-! ### Programs -/

variable {file : Option String} {p p' : Syntax.Program} {checked : Checked} {declared : Declared}
  {checks : List BodyCheck} {k : BodyCheck} {y : Expr}

/-- An expression is in one body only. -/
theorem CheckedBy.unique (h : CheckedBy file p declared checks checked) {k' : BodyCheck}
    (hk : k ∈ checks) (hx : x ∈ k.function.walk) (hk' : k' ∈ checks) (hx' : x ∈ k'.function.walk) :
    k' = k := by
  obtain ⟨⟨last, hn⟩, -⟩ := check_visited (check_iff_checkedBy.mpr ⟨declared, checks, h⟩)
  have hd := Distinct.of_numbered hn
  rw [h.functions, List.flatMap_map] at hd
  clear h hn
  -- two bodies that hold the expression would give it twice in the walk over all
  induction checks with
  | nil => nomatch hk
  | cons a checks ih =>
    obtain ⟨-, hrest, hapart⟩ := List.pairwise_append.mp hd
    have hmem {b : BodyCheck} (hb : b ∈ checks) (hx : x ∈ b.function.walk) :
        x ∈ checks.flatMap fun k => k.function.walk := List.mem_flatMap.mpr ⟨b, hb, hx⟩
    rcases List.mem_cons.mp hk with rfl | hin <;> rcases List.mem_cons.mp hk' with rfl | hin'
    · rfl
    · exact absurd rfl (hapart x hx x (hmem hin' hx'))
    · exact absurd rfl (hapart x hx' x (hmem hin hx))
    · exact ih hin hin' hrest

/-- **A program in which one expression makes way for another** is checked without diagnostics when the
other is checked as the first one was. All around the results are the same, and so are the type and
the adjustment of the expression. -/
theorem CheckedBy.replaced (h : CheckedBy file p declared checks checked)
    (hclean : checked.diagnostics = []) (hk : k ∈ checks) (hx : x ∈ k.function.walk)
    (hwidth : x.width ≤ y.width) (hspan : y.span = x.span)
    (htype : checked.tables.types.lookup x.id = some type)
    (hole : ∀ expected, Takes (Apart x.id (y.width - x.width)) x.id type
      (checked.tables.methods.lookup x.id)
      (checkExpr (contextOf file (structNames p) declared k.body.selfType) x expected)
      (checkExpr (contextOf file (structNames p) declared k.body.selfType) (y.number x.id).1
        expected))
    (hrefits : Refits file p p' x.id y) :
    ∃ checked', check file p' = .ok checked' ∧ checked'.diagnostics = [] ∧
      checked'.functions = Function.numberAll 1 (checked.functions.map (Function.replace x.id y)) ∧
      checked.tables.Paired (Apart x.id (y.width - x.width)) checked'.tables ∧
      checked'.tables.types.lookup x.id = some type ∧
      (x.id ∈ checked'.tables.adjusted ↔ x.id ∈ checked.tables.adjusted) ∧
      checked'.source = checked.source := by
  have hcheck := check_iff_checkedBy.mpr ⟨declared, checks, h⟩
  have hsilent : hasErrors checked.diagnostics = false := by rw [hclean]; rfl
  have hmem : x ∈ checked.functions.flatMap Function.walk := by
    rw [h.functions, List.flatMap_map]
    exact List.mem_flatMap.mpr ⟨k, hk, hx⟩
  have hnumbered := functions_numbered hcheck hsilent
  have hlength : (declared.bodies.map Body.signature).length = checked.functions.length := by
    rw [h.functions, ← h.bodies, List.length_map, List.length_map, List.length_map]
  -- all around the expression identities are paired with those that are moved by the difference
  have hd : 0 ≤ y.width - x.width := Int.sub_nonneg_of_le hwidth
  have hP := apart_oneToOne (i := x.id) hd
  have hi : ¬ Paired (Apart x.id (y.width - x.width)) x.id := apart_unpaired
  have hi' := apart_unreached (i := x.id) hd
  have hfunctions := inlaidFunctions_number (r := y) Apart.shifts _ hnumbered hmem
  obtain ⟨final, final', htables, hmatch, hcheck'⟩ := h.refitted hclean hrefits
    fun final htables hfinal heach => by
      -- what the results say in the end is what they say of the first run
      have hends : Ends x.id type (checked.tables.methods.lookup x.id) final :=
        ⟨hfinal, htables ▸ htype, by rw [htables]⟩
      have hstart : MatchesAt (Apart x.id (y.width - x.width)) x.id {} {} :=
        ⟨⟨rfl, rfl, fun _ _ _ => rfl, fun _ _ _ => rfl, fun _ _ _ => rfl,
          fun _ _ _ => ⟨nofun, nofun⟩⟩, rfl, Iff.rfl⟩
      have hspreads : Spreads (Apart x.id (y.width - x.width)) (Takes (Apart x.id
        (y.width - x.width)) x.id type (checked.tables.methods.lookup x.id)) := Takes.spreads hi hi'
      obtain ⟨final', heach', hmatch⟩ := (hspreads.each hP hfunctions hlength
        fun f f' signature hmem hfunction _ _ hinlaid => by
          -- the body that holds the expression is the one it was compared in
          rw [h.functions, ← h.bodies, List.map_map, List.zip_map'] at hmem
          obtain ⟨k', hk', he⟩ := List.mem_map.mp hmem
          obtain ⟨rfl, rfl⟩ := Prod.mk.inj he
          obtain rfl := h.unique hk hx hk' (hfunction.mem Inlaid.mem)
          exact hspreads.inlaid hP (Takes.sits hP hi hi' rfl
            (isNumbered_number y x.id).id_eq ((Expr.span_number ..).trans hspan) hole) hinlaid).runs
          heach rfl hends hstart
      exact ⟨final', heach', hmatch.around.diagnostics.trans hfinal, hmatch⟩
  refine ⟨_, hcheck', rfl, rfl, htables ▸ hmatch.around.tables, ?_, ?_, rfl⟩
  · rw [hmatch.types, htables, htype]
  · rw [hmatch.adjusted, htables]

end ClosureLint.Typing
