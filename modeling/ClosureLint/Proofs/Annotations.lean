import ClosureLint.Proofs.Candidates
import ClosureLint.Proofs.Checking.Annotated
import ClosureLint.Proofs.Checking.Reports
import ClosureLint.Proofs.Core.SameWidth
import ClosureLint.Proofs.FixedFindings

/-!
# Writing down the type of a closure parameter

A closure parameter that is a name may go without a written type. Its type is then what the closure is
expected to take there, or else what its first use in the body asks for. Writing that type down changes
nothing.

* `EndsUpWith` — a closure parameter without a written type ends up with a type.
* `lintChecked_annotated` — the lints do not look at written types.
* `annotation_changes_nothing` — neither the results nor the findings change.
-/

namespace ClosureLint

open ClosureLint.Core
open ClosureLint.Syntax (Program TypeExpr)
open ClosureLint.Typing

variable {file : Option String} {program : Program} {checked checked' : Checked} {declared : Declared}
  {checks : List BodyCheck} {k : BodyCheck} {node : Node} {pre post : List Param} {p : Param}
  {t : TypeExpr} {ret : Option TypeExpr} {body : Expr} {T : Ty}

/-! ### Findings -/

namespace Eta

variable {q q' : Query} {config : Config} {e : Expr} {es : List Expr}

/-- An expression among `es` that has the identity of the closure is the closure. -/
def OnlyAt (node : Node) (params : List Param) (ret : Option TypeExpr) (body : Expr) (es : List Expr) :
    Prop := ∀ z ∈ es, z.id = node.id → z = .closure node params ret body

/-- Where nothing is replaced, the node and the form stay. -/
private theorem looks_refl (e : Expr) : Looks (fun j k => k = j) e e := ⟨⟨rfl, rfl⟩, fun _ => rfl⟩

private theorem looks_replace (h : e.id = node.id → e = .closure node (pre ++ p :: post) ret body) :
    Looks (fun j k => k = j) e (Expr.replace node.id (annotated node pre p post t ret body) e) := by
  -- the closure itself looks the same with the type, and any other expression keeps its head
  by_cases hid : e.id = node.id
  · rw [Expr.replace_self hid, h hid]
    refine ⟨⟨rfl, rfl⟩, fun q => ?_⟩
    rw [forwardsOne_eq_false fun _ _ => Expr.noConfusion,
      forwardsOne_eq_false fun _ _ => Expr.noConfusion]
  · cases e with
    | path | int | str =>
      dsimp only [Expr.id, Expr.node] at hid
      rw [Expr.replace, if_neg hid]
      exact looks_refl _
    | borrow | deref | field | call | methodCall | closure =>
      dsimp only [Expr.id, Expr.node] at hid
      rw [Expr.replace, if_neg hid]
      refine ⟨⟨rfl, rfl⟩, fun q => ?_⟩
      rw [forwardsOne_eq_false fun _ _ => Expr.noConfusion,
        forwardsOne_eq_false fun _ _ => Expr.noConfusion]

private theorem looks_replaceAll (h : ∀ a ∈ es, a.id = node.id →
    a = .closure node (pre ++ p :: post) ret body) :
    List.Forall₂ (Looks fun j k => k = j) es
      (Expr.replaceAll node.id (annotated node pre p post t ret body) es) := by
  induction es with
  | nil => exact .nil
  | cons e es ih =>
    obtain ⟨he, hes⟩ := List.forall_mem_cons.mp h
    exact .cons (looks_replace he) (ih hes)

theorem bindSame_refl (ps : List Param) : BindSame ps ps := List.forall₂_same.mpr fun _ _ _ => rfl

theorem bindSame_annotate : BindSame (pre ++ p :: post) (pre ++ p.annotate t :: post) :=
  List.rel_append (bindSame_refl pre) (.cons (fun _ => rfl) (bindSame_refl post))

/-- **What is found out about a closure** does not depend on written types. -/
theorem checkClosure_annotated (hq : AnswersAlike (fun j k => k = j) q q')
    (honly : OnlyAt node (pre ++ p :: post) ret body e.walk) :
    checkClosure q' (Expr.replace node.id (annotated node pre p post t ret body) e)
      = checkClosure q e := by
  have hrefl (es : List Expr) : List.Forall₂ (Looks fun j k => k = j) es es :=
    List.forall₂_same.mpr fun e _ => looks_refl e
  by_cases hid : e.id = node.id
  · rw [Expr.replace_self hid, honly e e.mem_walk_self hid, annotated]
    cases body with
    | call n callee args =>
      exact congrArg Except.ok (checkCall_looks hq ⟨rfl, rfl⟩ ⟨rfl, rfl⟩ bindSame_annotate (hrefl args))
    | methodCall n receiver method args =>
      exact checkMethodCall_looks hq ⟨rfl, rfl⟩ (looks_refl receiver) bindSame_annotate (hrefl args)
    | path | int | str | borrow | deref | field | closure => rfl
  · cases e with
    -- another closure is the candidate, and the rewritten one is its body or lies deeper
    | closure n params ret' body' =>
      have hbody : OnlyAt node (pre ++ p :: post) ret body body'.walk := (List.forall_mem_cons.mp honly).2
      rw [show Expr.replace _ _ (.closure n params ret' body') = _ from if_neg hid]
      by_cases hid' : body'.id = node.id
      · -- the body is the closure, which is no call
        rw [Expr.replace_self hid', hbody _ body'.mem_walk_self hid']
        rfl
      · have hparts := (Expr.forall_walk.mp hbody).2
        cases body' with
        | call m callee args =>
          obtain ⟨hcallee, hargs⟩ := List.forall_mem_append.mp hparts
          rw [Expr.replace_call (show m.id ≠ node.id from hid')]
          exact congrArg Except.ok (checkCall_looks hq ⟨rfl, rfl⟩
            (looks_replace (hcallee _ callee.mem_walk_self)).node (bindSame_refl params)
            (looks_replaceAll fun a ha => hargs a (Expr.mem_walkAll.mpr ⟨a, ha, a.mem_walk_self⟩)))
        | methodCall m receiver method args =>
          obtain ⟨hreceiver, hargs⟩ := List.forall_mem_append.mp hparts
          rw [Expr.replace_methodCall (show m.id ≠ node.id from hid')]
          exact checkMethodCall_looks hq ⟨rfl, rfl⟩ (looks_replace (hreceiver _ receiver.mem_walk_self))
            (bindSame_refl params)
            (looks_replaceAll fun a ha => hargs a (Expr.mem_walkAll.mpr ⟨a, ha, a.mem_walk_self⟩))
        | path | int | str | borrow | deref | field | closure =>
          dsimp only [Expr.id, Expr.node] at hid'
          rw [Expr.replace, if_neg hid']
          rfl
    | path | int | str | borrow | deref | field | call | methodCall =>
      dsimp only [Expr.id, Expr.node] at hid
      rw [Expr.replace, if_neg hid]
      rfl

theorem candidates_annotated (h : e.id = node.id → e = .closure node (pre ++ p :: post) ret body) :
    candidates (Expr.replace node.id (annotated node pre p post t ret body) e)
      = (candidates e).map (Expr.replace node.id (annotated node pre p post t ret body)) := by
  have hall (es : List Expr) (i : NodeId) (y : Expr) :
      Expr.replaceAll i y es = es.map (Expr.replace i y) := by
    induction es with
    | nil => rfl
    | cons e es ih => rw [Expr.replaceAll, List.map_cons, ih]
  -- a closure passes no arguments, however its parameters are written
  by_cases hid : e.id = node.id
  · rw [Expr.replace_self hid, h hid]
    rfl
  · cases e with
    | call n callee args =>
      rw [Expr.replace_call (show n.id ≠ node.id from hid), candidates, candidates, hall]
    | methodCall n receiver method args =>
      rw [Expr.replace_methodCall (show n.id ≠ node.id from hid), candidates, candidates, hall,
        List.map_cons]
    | path | int | str | borrow | deref | field | closure =>
      dsimp only [Expr.id, Expr.node] at hid
      rw [Expr.replace, if_neg hid]
      rfl

/-- A place has the findings that it had. -/
theorem checkPlace_annotated (hq : AnswersAlike (fun j k => k = j) q q')
    (he : e.id = node.id → e = .closure node (pre ++ p :: post) ret body)
    (honly : ∀ a ∈ candidates e, OnlyAt node (pre ++ p :: post) ret body a.walk) :
    checkPlace config q' (Expr.replace node.id (annotated node pre p post t ret body) e)
      = checkPlace config q e := by
  unfold checkPlace
  rw [show Expr.span _ = e.span from (looks_replace he).node.span, candidates_annotated he,
    List.mapM_map]
  split
  · rfl
  · refine congrArg (· >>= _) (mapM_congr fun a ha => ?_)
    rw [Function.comp_apply, checkClosure_annotated hq (honly a ha),
      show Expr.span (Expr.replace _ _ a) = a.span from
        (looks_replace (honly a ha a a.mem_walk_self)).node.span]

end Eta

/-- The functions hold the same expressions, but for the closure. -/
theorem walk_annotated {fs : List Function}
    (honly : Eta.OnlyAt node (pre ++ p :: post) ret body (fs.flatMap Function.walk))
    (hbody : ∀ z ∈ body.walk, node.id ≠ z.id) :
    (fs.map (Function.replace node.id (annotated node pre p post t ret body))).flatMap Function.walk
      = (fs.flatMap Function.walk).map
          (Expr.replace node.id (annotated node pre p post t ret body)) := by
  refine functions_walk_replace fun z hz hid => ?_
  rw [honly z hz hid]
  -- the closure is not in its own body
  exact ((List.map_congr_left fun z hz => Expr.replace_of_notMem z fun y hy =>
    (hbody y (Expr.walk_trans hz hy)).symm).trans (List.map_id _)).symm

/-- The findings stay where the results do. -/
theorem lintChecked_annotated {config : Config}
    (hfunctions : checked'.functions = checked.functions.map
      (Function.replace node.id (annotated node pre p post t ret body)))
    (hq : Eta.AnswersAlike (fun j k => k = j) checked.query checked'.query)
    (honly : Eta.OnlyAt node (pre ++ p :: post) ret body (checked.functions.flatMap Function.walk))
    (hbody : ∀ z ∈ body.walk, node.id ≠ z.id) :
    lintChecked config checked' = lintChecked config checked := by
  have hcandidates := (Eta.candidatesIn_functions checked.functions).subset
  have hfound : (checked'.functions.flatMap Function.walk).mapM (fun e =>
      [config].mapM fun c => Eta.checkPlace c checked'.query e)
      = (checked.functions.flatMap Function.walk).mapM (fun e =>
      [config].mapM fun c => Eta.checkPlace c checked.query e) := by
    rw [hfunctions, walk_annotated honly hbody, List.mapM_map]
    refine mapM_congr fun e he => mapM_congr fun config _ =>
      Eta.checkPlace_annotated hq (honly e he) fun a ha z hz => ?_
    -- a candidate is an expression of the same body
    obtain ⟨f, hf, ha⟩ := List.mem_flatMap.mp (hcandidates (List.mem_flatMap.mpr ⟨e, he, ha⟩))
    exact honly z (List.mem_flatMap.mpr ⟨f, hf, f.walk_trans ha hz⟩)
  unfold lintChecked runLints findingsIn
  dsimp only
  rw [hfound]

/-! ### Results -/

/-- Nothing is filed about what a closure of a program means. -/
theorem closure_unfiled {params : List Param} (hcheck : check file program = .ok checked)
    (hmem : .closure node params ret body ∈ checked.functions.flatMap Function.walk) :
    checked.tables.methods.lookup node.id = none ∧ checked.tables.paths.lookup node.id = none := by
  obtain ⟨⟨last, hn⟩, declared, -, hvisited⟩ := check_visits hcheck
  obtain ⟨c, final, -, -, htables, hvisited⟩ := hvisited _ hmem
  rw [← htables]
  exact hvisited.closure_unfiled ((Distinct.of_numbered hn).sublist (Function.walk_sublist hmem))

/-- **A closure parameter ends up with a type**: it is a name, no type is written for it, and `T` stands
at its place in the type that is recorded for the closure. The closure is in the body `k`. -/
structure EndsUpWith (checked : Checked) (k : BodyCheck) (node : Node) (pre : List Param) (p : Param)
    (post : List Param) (ret : Option TypeExpr) (body : Expr) (T : Ty) : Prop where
  mem : .closure node (pre ++ p :: post) ret body ∈ k.function.walk
  named : ∃ n isMut name, p.pattern = .binding n isMut name
  unwritten : p.declared = none
  type : ∃ type, checked.tables.types.lookup node.id = some type ∧ type.params[pre.length]? = some T

namespace EndsUpWith

variable (hp : EndsUpWith checked k node pre p post ret body T)
  (h : CheckedBy file program declared checks checked) (hk : k ∈ checks)
include hp h hk

theorem mem_functions : .closure node (pre ++ p :: post) ret body
    ∈ checked.functions.flatMap Function.walk := by
  rw [h.functions, List.flatMap_map]
  exact List.mem_flatMap.mpr ⟨k, hk, hp.mem⟩

/-- No other expression has the identity of the closure. -/
theorem onlyAt : Eta.OnlyAt node (pre ++ p :: post) ret body
    (checked.functions.flatMap Function.walk) := by
  obtain ⟨⟨last, hn⟩, -⟩ := check_visits (check_iff_checkedBy.mpr ⟨declared, checks, h⟩)
  exact fun z hz hid => hn.eq_of_id hz (hp.mem_functions h hk) hid

theorem distinct : Distinct (Expr.closure node (pre ++ p :: post) ret body).walk := by
  obtain ⟨⟨last, hn⟩, -⟩ := check_visits (check_iff_checkedBy.mpr ⟨declared, checks, h⟩)
  exact (Distinct.of_numbered hn).sublist (Function.walk_sublist (hp.mem_functions h hk))

omit hp in
/-- A type that can be written down in the body means something. -/
theorem known (ht : resolveType ⟨structNames program, file, k.body.selfType⟩ t = (T, [])) :
    T.kind ≠ .unknown := by
  have hbody : k.body ∈ declared.bodies := h.bodies ▸ List.mem_map_of_mem hk
  have hself := ((wellMade_of_declare h.declares).bodies _ hbody).selfKnown
  have hknown := resolveType_known (s := ⟨structNames program, file, k.body.selfType⟩) hself t
    (congrArg Prod.snd ht)
  rwa [ht] at hknown

/-- **The program can be written** with the type. -/
theorem refits (hclean : checked.diagnostics = []) (t : TypeExpr) :
    ∃ program', Refits file program program' node.id (annotated node pre p post t ret body) := by
  refine exists_refits fun z hz hid c E a he => ?_
  rw [← (check_clean (check_iff_checkedBy.mpr ⟨declared, checks, h⟩) (by rw [hclean]; rfl)).2] at hz
  exact writable_annotated E (hp.onlyAt h hk z hz hid ▸ he)

/-- **With the type the program is checked to the same results.** -/
theorem checked_again {program' : Program} (hclean : checked.diagnostics = [])
    (ht : resolveType ⟨structNames program, file, k.body.selfType⟩ t = (T, []))
    (hrefits : Refits file program program' node.id (annotated node pre p post t ret body)) :
    ∃ checked', check file program' = .ok checked' ∧ checked'.diagnostics = [] ∧
      checked'.functions = checked.functions.map
        (Function.replace node.id (annotated node pre p post t ret body)) ∧
      checked.tables.Agree (fun _ => True) (fun _ => True) checked'.tables ∧
      checked'.source = checked.source := by
  have hcheck := check_iff_checkedBy.mpr ⟨declared, checks, h⟩
  have hmem := hp.mem_functions h hk
  have honly := hp.onlyAt h hk
  obtain ⟨n, isMut, name, hnamed⟩ := hp.named
  obtain ⟨type, htype, hT⟩ := hp.type
  have hall := functions_numbered hcheck (by rw [hclean]; rfl)
  have hnumbered : IsNumbered node.id (.closure node (pre ++ p :: post) ret body) :=
    (functions_lies _ hall hmem).elim fun _ hlies => hlies.numbered
  have hy : IsNumbered node.id (annotated node pre p post t ret body) := hnumbered.annotated
  have hwidth : (annotated node pre p post t ret body).width
      - (Expr.closure node (pre ++ p :: post) ret body).width = 0 := by
    rw [width_annotated, Int.sub_self]
  obtain ⟨checked', hcheck', hclean', hfunctions, htables, htype', hadjusted, hsource⟩ :=
    h.replaced (x := .closure node (pre ++ p :: post) ret body) hclean hk hp.mem
      (Int.le_of_eq width_annotated.symm) rfl htype (fun expected => by
        rw [hwidth]
        exact hy.symm ▸ annotated_takes hnumbered hnamed hp.unwritten hT ht (known h hk ht)) hrefits
  have hfunctions' := hfunctions.trans (functions_number_replace hy hall fun z hz hid => by
    rw [honly z hz hid, width_annotated])
  rw [hwidth] at htables
  -- nothing is filed about what the closure means, with and without the type
  have hunfiled := closure_unfiled hcheck hmem
  have hunfiled' := closure_unfiled hcheck' (by
    rw [hfunctions', walk_annotated honly (List.pairwise_cons.mp (hp.distinct h hk)).1]
    exact List.mem_map.mpr ⟨_, hmem, Expr.replace_self rfl⟩)
  have hpaired (j : NodeId) : j = node.id ∨ Apart node.id 0 j j := by
    unfold Apart
    change @Eq Int j node.id ∨ _
    omega
  refine ⟨checked', hcheck', hclean', hfunctions', ⟨fun j _ => ?_, fun j _ => ?_, fun j _ => ?_,
    fun j _ => ?_⟩, hsource⟩
  all_goals obtain rfl | hj := hpaired j
  · exact htype'.trans htype.symm
  · exact htables.types j j hj
  · exact hunfiled'.1.trans hunfiled.1.symm
  · exact htables.methods j j hj
  · exact hunfiled'.2.trans hunfiled.2.symm
  · exact htables.paths j j hj
  · exact hadjusted
  · exact htables.adjusted j j hj

end EndsUpWith

/-- **Writing down the type of a closure parameter changes nothing.** It can be written down, and each
program that differs in it alone is checked without diagnostics to the same results and is given the
same findings. -/
theorem annotation_changes_nothing (h : CheckedBy file program declared checks checked)
    (hclean : checked.diagnostics = []) (hk : k ∈ checks)
    (hp : EndsUpWith checked k node pre p post ret body T)
    (ht : resolveType ⟨structNames program, file, k.body.selfType⟩ t = (T, [])) :
    (∃ program', Refits file program program' node.id (annotated node pre p post t ret body)) ∧
      ∀ program', Refits file program program' node.id (annotated node pre p post t ret body) →
        ∃ checked', check file program' = .ok checked' ∧ checked'.diagnostics = [] ∧
          checked'.functions = checked.functions.map
            (Function.replace node.id (annotated node pre p post t ret body)) ∧
          checked.tables.Agree (fun _ => True) (fun _ => True) checked'.tables ∧
          ∀ config, lintProgram config file program' = lintProgram config file program := by
  refine ⟨hp.refits h hk hclean t, fun program' hrefits => ?_⟩
  obtain ⟨checked', hcheck', hclean', hfunctions, hagree, hsource⟩ :=
    hp.checked_again h hk hclean ht hrefits
  refine ⟨checked', hcheck', hclean', hfunctions, hagree, fun config => ?_⟩
  -- the lint asks about the nodes by their ids, and each answer is the same
  have hq : Eta.AnswersAlike (fun j k => k = j) checked.query checked'.query :=
    ⟨⟨fun j _ he => he ▸ hagree.types j trivial, fun j _ he => he ▸ hagree.methods j trivial,
      fun j _ he => he ▸ hagree.paths j trivial, fun j _ he => he ▸ hagree.adjusted j trivial⟩,
      hsource⟩
  have hlint : lintChecked config checked' = lintChecked config checked :=
    lintChecked_annotated hfunctions hq (hp.onlyAt h hk)
      (List.pairwise_cons.mp (hp.distinct h hk)).1
  unfold lintProgram
  rw [hcheck', check_iff_checkedBy.mpr ⟨declared, checks, h⟩]
  change (if hasErrors checked'.diagnostics then _ else _)
    = (if hasErrors checked.diagnostics then _ else _)
  rw [hclean', hclean, hlint]

/-! ### A parameter that is used in a closure inside -/

/-- Whether some closure holds another one and has a first parameter with a name, without a written
type, and with the type `T` in the end. -/
def infersOuter (checked : Checked) (T : Ty) : Bool :=
  (checked.functions.flatMap Function.walk).any fun
    | .closure node (⟨_, .binding .., none⟩ :: _) _ (.closure ..) =>
      (checked.tables.types.lookup node.id).any fun type => type.params[0]? == some T
    | _ => false

theorem exists_of_infersOuter (h : CheckedBy file program declared checks checked)
    (hinfers : infersOuter checked T = true) : ∃ k ∈ checks, ∃ node p post ret n params ret' body,
      EndsUpWith checked k node [] p post ret (.closure n params ret' body) T := by
  obtain ⟨e, he, hinfers⟩ := List.any_eq_true.mp hinfers
  rw [h.functions, List.flatMap_map] at he
  obtain ⟨k, hk, he⟩ := List.mem_flatMap.mp he
  split at hinfers
  · obtain ⟨type, htype, hT⟩ := (Option.any_eq_true _ _).mp hinfers
    exact ⟨k, hk, _, _, _, _, _, _, _, _, he, ⟨_, _, _, rfl⟩, rfl, type, htype, eq_of_beq hT⟩
  · exact absurd hinfers Bool.false_ne_true

/-- A program with the closure `|x| |y| add(x, y)`. -/
def nestedClosures : String :=
  "fn add(a: i32, b: i32) -> i32;\nfn main() \x7b\n  let f = |x| |y| add(x, y);\n\x7d\n"

/-- **The outer parameter**, which is used in the inner closure first, may be written `x: i32`. -/
theorem nestedClosures_annotated : ∃ program checked declared checks k node p post ret body,
    Syntax.parse nestedClosures = .ok program ∧
      CheckedBy none program declared checks checked ∧ checked.diagnostics = [] ∧ k ∈ checks ∧
      EndsUpWith checked k node [] p post ret body (Ty.int "i32") ∧
      ∃ program' checked',
        Refits none program program' node.id
          (annotated node [] p post (.named {} ["i32"] []) ret body) ∧
        check none program' = .ok checked' ∧ checked'.diagnostics = [] ∧
        checked.tables.Agree (fun _ => True) (fun _ => True) checked'.tables := by
  have htest : ((checkedSource? none nestedClosures).any fun c =>
      c.diagnostics.isEmpty && infersOuter c (Ty.int "i32")) = true := by decide +kernel
  obtain ⟨checked, hsource, htest⟩ := (Option.any_eq_true _ _).mp htest
  obtain ⟨hclean, hinfers⟩ := Bool.and_eq_true_iff.mp htest
  obtain ⟨program, hparse, hcheck⟩ := checkedSource?_eq_some.mp hsource
  obtain ⟨declared, checks, h⟩ := check_iff_checkedBy.mp hcheck
  obtain ⟨k, hk, node, p, post, ret, n, params, ret', body, hp⟩ := exists_of_infersOuter h hinfers
  have hclean := List.isEmpty_iff.mp hclean
  -- the type that was inferred is written down as `i32`
  obtain ⟨⟨program', hrefits⟩, hall⟩ := annotation_changes_nothing h hclean hk hp
    (show resolveType _ (.named {} ["i32"] []) = (Ty.int "i32", []) from rfl)
  obtain ⟨checked', hcheck', hclean', -, hagree, -⟩ := hall program' hrefits
  exact ⟨program, checked, declared, checks, k, node, p, post, ret, _, hparse, h, hclean, hk, hp,
    program', checked', hrefits, hcheck', hclean', hagree⟩

end ClosureLint
