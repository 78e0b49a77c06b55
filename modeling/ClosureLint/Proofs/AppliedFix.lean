import ClosureLint.Proofs.Checking.Exchange
import ClosureLint.Proofs.Checking.Refitted
import ClosureLint.Proofs.DirectCalls
import ClosureLint.Proofs.FixedFindings

/-!
# Applying a direct-call fix to the tree

A closure that hands its parameters on to a declared function makes way for the function. The program
stays well typed, nothing else changes its type or its meaning, and of the findings just the one that
was fixed goes away.

* `DirectFinding` — the direct-call detector finds an argument redundant that calls a declaration.
* `Unchanged` — an expression is in both programs, and the checker says the same of it.
* `fix_removes_finding` — the program after the fix.
* `forwardingArgument_fixed` — a program with such a finding.
-/

namespace ClosureLint.Eta

open ClosureLint.Core
open ClosureLint.Syntax (Path Program TypeExpr)
open ClosureLint.Typing

variable {file : Option String} {p p' : Program} {checked checked' : Checked}
  {place x callee : Expr} {f : Finding}

/-- In a program without diagnostics, the argument `x` of `place` is a closure for which the
direct-call detector has the finding `f`, and which calls a path that means a declaration. -/
structure DirectFinding (checked : Checked) (place x callee : Expr) (f : Finding) : Prop where
  clean : checked.diagnostics = []
  occurs : place ∈ checked.functions.flatMap Function.walk
  argument : x ∈ place.arguments
  calls : ∃ node params ret call args, x = .closure node params ret (.call call callee args)
  isPath : ∃ n segments, callee = .path n segments
  finding : checkClosure checked.query x = .ok (some f)
  resolved : (checked.query.path? callee).isSome

/-- What `e` was in the program, `e'` is after `y` has come in the place of the node `i`, and the
checker says the same of both. -/
structure Unchanged (checked checked' : Checked) (i : NodeId) (y e e' : Expr) : Prop where
  tree : e'.unnumbered = (Expr.replace i y e).unnumbered
  type : checked'.query.typeOf e' = checked.query.typeOf e
  adjusted : checked'.query.isAdjusted e' = checked.query.isAdjusted e
  method : checked'.tables.methods.lookup e'.id = checked.tables.methods.lookup e.id
  path : checked'.query.path? e' = checked.query.path? e

/-- The expressions of both programs side by side: all but those of `x` are in the second program,
and the only other one there is `y`. -/
inductive UnchangedAround (checked checked' : Checked) (x y : Expr) : Prop
  | intro {before before' behind behind' : List Expr} {y' : Expr} :
    checked.functions.flatMap Function.walk = before ++ (x.walk ++ behind) →
    checked'.functions.flatMap Function.walk = before' ++ y' :: behind' →
    y'.unnumbered = y.unnumbered →
    List.Forall₂ (Unchanged checked checked' x.id y) before before' →
    List.Forall₂ (Unchanged checked checked' x.id y) behind behind' →
    UnchangedAround checked checked' x y

/-! ### Identities -/

section

variable {r : Expr} {i j : Int}

theorem Shifted.oneToOne (hr : r.width = 1) : OneToOne (Shifted x r) := by
  intro i j i' j' h h'
  have hx := x.width_pos
  unfold Shifted at h h'
  change @Eq Int i' i ↔ @Eq Int j' j
  omega

/-- The identities of what makes way are paired with none. -/
theorem Shifted.unpaired (h : IsNumbered x.id x) {y : Expr} (hy : y ∈ x.walk) :
    ¬ Paired (Shifted x r) y.id := by
  rintro ⟨j, hj⟩
  have hlower := h.numbered.lower y hy
  have hupper := h.numbered.upper y hy
  rcases hj with ⟨hj, -⟩ | ⟨hj, -⟩
  · exact Int.not_lt.mpr hlower hj
  · exact Int.not_le.mpr hupper hj

/-- Its first identity goes to what comes in its place. -/
theorem Shifted.ne_id (hr : 0 < r.width) (h : Shifted x r i j) : j ≠ x.id := by
  rcases h with ⟨hi, rfl⟩ | ⟨hi, rfl⟩
  · exact Int.ne_of_lt hi
  · change ¬ @Eq Int _ _
    omega

end

/-! ### Where the closure stands -/

/-- What makes way is part of what it makes way in. -/
theorem mem_walk_of_fixed {P : NodeId → NodeId → Prop} {r e e' : Expr} (h : Fixed P x r e e') :
    x ∈ e.walk := by
  have haside := h.walk
  generalize e.walk = es, e'.walk = es' at haside
  obtain ⟨-, -, -, -, -⟩ := haside
  simp only [List.mem_append, List.mem_cons, x.mem_walk_self, true_or, or_true]

namespace DirectFinding

theorem mem (h : DirectFinding checked place x callee f) :
    x ∈ checked.functions.flatMap Function.walk := by
  obtain ⟨F, hF, hplace⟩ := List.mem_flatMap.mp h.occurs
  obtain ⟨s, hs, hplace⟩ := List.mem_flatMap.mp hplace
  have hinside : IsArgument x s.expr := ⟨place, hplace, h.argument⟩
  exact List.mem_flatMap.mpr ⟨F, hF, List.mem_flatMap.mpr
    ⟨s, hs, Expr.walk_of_inside hinside.inside⟩⟩

theorem isArgument (h : DirectFinding checked place x callee f) :
    ∃ F ∈ checked.functions, ∃ s ∈ F.body.stmts, IsArgument x s.expr := by
  obtain ⟨F, hF, hplace⟩ := List.mem_flatMap.mp h.occurs
  obtain ⟨s, hs, hplace⟩ := List.mem_flatMap.mp hplace
  exact ⟨F, hF, s, hs, place, hplace, h.argument⟩

theorem silent (h : DirectFinding checked place x callee f) :
    hasErrors checked.diagnostics = false := by rw [h.clean]; rfl

theorem isNumbered (hcheck : check file p = .ok checked)
    (h : DirectFinding checked place x callee f) : IsNumbered x.id x := by
  obtain ⟨b, hlies⟩ := functions_lies _ (functions_numbered hcheck h.silent) h.mem
  exact hlies.numbered

/-- The closure hands its parameters on to the path. -/
theorem forwarding (h : DirectFinding checked place x callee f) :
    ∃ node params ret call args n segments names,
      x = .closure node params ret (.call call (.path n segments) args) ∧
      callee = .path n segments ∧ Forwards params args names ∧
      (checked.query.typeOf (.path n segments)).isUnsafeFn = false := by
  obtain ⟨node, params, ret, call, args, rfl⟩ := h.calls
  obtain ⟨n, segments, rfl⟩ := h.isPath
  obtain ⟨hlength, -, -, hsafe, hfw, -⟩ := checkClosure_call h.finding
  obtain ⟨names, hnames⟩ := forwards_of_forwards hlength hfw
  exact ⟨node, params, ret, call, args, n, segments, names, rfl, rfl, hnames, hsafe⟩

end DirectFinding

/-! ### The program after the fix -/

section

variable {n : Node} {segments : Path}

/-- The path may stand in the place of the closure, wherever that is checked. -/
theorem DirectFinding.exchanges (hcheck : check file p = .ok checked)
    (h : DirectFinding checked place x (.path n segments) f) :
    Expr.path n segments ∈ x.walk ∧ ∀ c expected,
      Exchanges (Shifted x (.path n segments)) n segments (checkArg c x expected)
        (checkArg c (.path (n.withId x.id) segments) expected) := by
  obtain ⟨node, params, ret, call, args, _, _, names, hx, hcallee, hfw, -⟩ := h.forwarding
  obtain ⟨rfl, rfl⟩ := Expr.path.inj hcallee
  obtain ⟨⟨last, hn⟩, -⟩ := check_visits hcheck
  have hd : Distinct x.walk := (Distinct.of_numbered hn).sublist (Function.walk_sublist h.mem)
  refine ⟨?_, fun c expected => checkArg_exchanges hfw hx hd (fun i j hij => ⟨?_, ?_⟩) expected⟩
  · rw [hx]
    exact List.mem_cons_of_mem _ (List.mem_cons_of_mem _ List.mem_cons_self)
  · -- no node of the program after the fix is paired with one of the closure
    rintro ⟨y, hy, rfl⟩
    exact Shifted.unpaired (h.isNumbered hcheck) hy ⟨j, hij⟩
  · exact Shifted.ne_id (Expr.width_pos _) hij

/-- The path means a declaration in the end, and no unsafe function. -/
theorem DirectFinding.settled (h : DirectFinding checked place x (.path n segments) f)
    {final : State} (htables : final.tables = checked.tables) (hclean : final.diagnostics = []) :
    Settled n.id final where
  clean := hclean
  resolved hnone := by
    have hresolved := h.resolved
    unfold Query.path? Checked.query at hresolved
    rw [← htables] at hresolved
    rw [show (Expr.path n segments).id = n.id from rfl, hnone] at hresolved
    nomatch hresolved
  safe t ht := by
    obtain ⟨_, _, _, _, _, _, _, _, -, hcallee, -, hsafe⟩ := h.forwarding
    obtain ⟨rfl, rfl⟩ := Expr.path.inj hcallee
    unfold Query.typeOf Checked.query at hsafe
    rw [← htables, show (Expr.path n segments).id = n.id from rfl, ht] at hsafe
    exact hsafe

/-- **The program after the fix** is checked without diagnostics, and in the same way all around. -/
theorem DirectFinding.checked_again (hcheck : check file p = .ok checked)
    (h : DirectFinding checked place x (.path n segments) f)
    (hfix : Refits file p p' x.id (.path n segments)) :
    ∃ checked', check file p' = .ok checked' ∧ checked'.diagnostics = [] ∧
      OneOff (AlikeFunction (Shifted x (.path n segments)))
        (FixedFunction (Shifted x (.path n segments)) x (.path (n.withId x.id) segments))
        checked.functions checked'.functions ∧
      AnswersAlike (Shifted x (.path n segments)) checked.query checked'.query := by
  obtain ⟨hmem, hexchanges⟩ := h.exchanges hcheck
  have hnumbered := h.isNumbered hcheck
  have hfunctions := fixedFunctions_number (r := .path n segments) (fun _ _ h => h) _
    (functions_numbered hcheck h.silent) h.isArgument
  have hunpaired := Shifted.unpaired (r := .path n segments) hnumbered hmem
  obtain ⟨checked', hcheck', hclean', hfunctions', htables, hsource⟩ := check_refitted hcheck h.clean
    hfix fun d signatures final hlength hfinal hdiagnostics hruns => by
      -- both checks start with nothing filed
      have hmatches : Matches (Shifted x (.path n segments)) ({} : State) {} :=
        ⟨rfl, rfl, ⟨fun _ _ _ => rfl, fun _ _ _ => rfl, fun _ _ _ => rfl, fun _ _ _ =>
          ⟨nofun, nofun⟩⟩⟩
      have hspreads : Spreads (Shifted x (.path n segments))
          (Exchanges (Shifted x (.path n segments)) n segments) := Exchanges.spreads hunpaired
      exact (hspreads.each (Shifted.oneToOne rfl) hfunctions hlength fun _ _ _ _ _ _ _ hfixed =>
        hspreads.fixed (Shifted.oneToOne rfl) (hexchanges _) hfixed).runs
          hruns rfl (h.settled hfinal hdiagnostics) hmatches
  rw [← hfunctions'] at hfunctions
  exact ⟨checked', hcheck', hclean', hfunctions, ⟨htables, hsource⟩⟩

/-- No closure around the one that makes way binds the name that the path spells. -/
theorem DirectFinding.spared (hcheck : check file p = .ok checked)
    (h : DirectFinding checked place x (.path n segments) f) :
    Spared (Shifted x (.path n segments)) x (.path (n.withId x.id) segments) segments
      (checked.functions.flatMap Function.walk) := by
  intro node params ret body body' hmem hbody name hname hsegments
  obtain ⟨hcallee, hexchanges⟩ := h.exchanges hcheck
  have hunpaired := Shifted.unpaired (r := .path n segments) (h.isNumbered hcheck) hcallee
  obtain ⟨⟨last, hn⟩, -⟩ := check_visits hcheck
  have hd := (Distinct.of_numbered hn).sublist (Function.walk_sublist hmem)
  -- the path is inside of the body, which is checked where the parameters are bound
  have hinside : Expr.path n segments ∈ body.walk := Expr.walk_trans (mem_walk_of_fixed hbody) hcallee
  have hnode : node.id ≠ n.id := (List.pairwise_cons.mp hd).1 _ hinside
  obtain ⟨c, final, htables, hclean, hfresh, hgives, hdiagnostics, hagree⟩ :=
    visited_silent hcheck h.silent hmem
  have hafter : Settled n.id _ := (h.settled htables hclean).of_agree
    (List.prefix_nil.mp (hclean ▸ hdiagnostics)) hagree
    (among_of_mem (X := (Expr.closure node params ret body).walk) (List.mem_cons_of_mem _ hinside))
  cases checkExpr_closure_run hgives with
  | @intro _ _ _ _ b₁ b₂ b₃ b₄ b₅ _ hbinds hret hchecks hcoerces hreads _ hfiles =>
  have hextends : Extends Nowhere Nowhere _ b₂ := ((Extends.rescope _ _).trans
    ((bindParams_confined _ _).grows hbinds)).trans ((writtenOr_confined _ _).grows hret)
  -- nothing is filed for the path before the body is checked
  have hbefore : b₂.tables.paths.lookup n.id = none :=
    (hextends.tables.paths n.id id).trans
      (hfresh.paths n.id (among_of_mem (x := .path n segments) (List.mem_cons_of_mem _ hinside)))
  -- and nothing behind that changes what was filed for it
  have hbehind : Extends (· ≠ n.id) (fun _ => True) b₃ _ :=
    ((((coerceTo_confined trivial _ _).grows hcoerces).trans
      ((Confined.mapM fun p _ => paramType_confined p).grows hreads)).trans
        (.rescope b₅ _)).trans ((setType_confined (I := (· ≠ n.id)) hnode _).grows hfiles)
  have hbody' : Settled n.id b₃ := hafter.earlier hbehind fun h => h rfl
  -- so it would be checked where the name spells a local
  obtain ⟨new, hnew, hnames⟩ := bindParams_binds hbinds [] _ rfl
  have hknows : Knows b₂ name := by
    refine ⟨new.map Prod.fst, ?_, (hnames name).mpr hname⟩
    rw [State.names, writtenOr_scopes hret, hnew, List.append_nil]
    exact List.mem_cons_self
  exact ((Exchanges.spreads hunpaired).expr (Shifted.oneToOne rfl) (hexchanges c) hbody _).global
    hchecks hbefore hbody' name hsegments hknows

/-- The closure is the one that is numbered as it is, so the path is a part of it. -/
theorem DirectFinding.partAt (hcheck : check file p = .ok checked)
    (h : DirectFinding checked place x callee f) :
    PartAt x.id callee (checked.functions.flatMap Function.walk) := by
  intro z hz hid
  obtain ⟨n, segments, rfl⟩ := h.isPath
  obtain ⟨⟨last, hn⟩, -⟩ := check_visits hcheck
  obtain rfl := hn.eq_of_id hz h.mem hid
  exact (h.exchanges hcheck).1

/-- All expressions outside of the closure are what they were. -/
theorem unchangedAround (hq : AnswersAlike (Shifted x (.path n segments)) checked.query checked'.query)
    (hx : IsNumbered x.id x)
    (h : Aside (Shifted x (.path n segments)) x (.path (n.withId x.id) segments)
      (checked.functions.flatMap Function.walk) (checked'.functions.flatMap Function.walk)) :
    UnchangedAround checked checked' x (.path n segments) := by
  have hone {e e' : Expr} (h : Kin (Shifted x (.path n segments)) x
      (.path (n.withId x.id) segments) e e') : Unchanged checked checked' x.id (.path n segments) e e' :=
    ⟨h.unnumbered rfl (Shifted.unpaired hx x.mem_walk_self), hq.typeOf h.node, hq.isAdjusted h.node,
      hq.tables.methods _ _ h.node.id, hq.path? h.node⟩
  -- both walks are cut at the place, at the closure and behind it
  generalize hes : checked.functions.flatMap Function.walk = es at h
  generalize hes' : checked'.functions.flatMap Function.walk = es' at h
  obtain ⟨houter, hplace, -, hbetween, hbehind⟩ := h
  rename_i outer outer' between between' behind behind' place place'
  have hbefore : List.Forall₂ (Unchanged checked checked' x.id (.path n segments))
      (outer ++ place :: between) (outer' ++ place' :: between') :=
    List.rel_append (houter.imp fun _ _ => hone)
      (.cons (hone (.inr hplace)) (hbetween.imp fun _ _ => hone))
  have hnode : (Expr.path (n.withId x.id) segments).unnumbered = (Expr.path n segments).unnumbered :=
    rfl
  refine .intro ?_ ?_ hnode hbefore (hbehind.imp fun _ _ => hone)
  · rw [hes, List.append_assoc, List.cons_append]
  · rw [hes', List.append_assoc, List.cons_append]
    rfl

/-- The findings for the program after the fix are the others. -/
theorem DirectFinding.findings_again (config : Config) (hcheck : check file p = .ok checked)
    (h : DirectFinding checked place x (.path n segments) f)
    (hq : AnswersAlike (Shifted x (.path n segments)) checked.query checked'.query)
    (haside : Aside (Shifted x (.path n segments)) x (.path (n.withId x.id) segments)
      (checked.functions.flatMap Function.walk) (checked'.functions.flatMap Function.walk)) :
    ((allFindings checked).map (diagnosticOf config)).Perm
      ((if place.span.fromMacro then [] else [diagnosticOf config (x, f)])
        ++ (allFindings checked').map (diagnosticOf config)) := by
  have hall (checked : Checked) : (allFindings checked).map (diagnosticOf config)
      = (checked.functions.flatMap Function.walk).flatMap (diagnosticsAt config checked.query) :=
    List.map_flatMap
  obtain ⟨⟨last, hn⟩, -⟩ := check_visits hcheck
  have hnodup : (checked.functions.flatMap Function.walk).Nodup :=
    (Distinct.of_numbered hn).imp fun hne he => hne (congrArg Expr.id he)
  -- every expression is a candidate at most once
  have hcandidates := candidatesIn_functions checked.functions
  obtain ⟨node, params, ret, call, args, _, _, names, hx, hcallee, hfw, -⟩ := h.forwarding
  obtain ⟨rfl, rfl⟩ := Expr.path.inj hcallee
  rw [hall, hall]
  refine findings_aside hq (fun p => ?_) (h.spared hcheck) haside
    (Shifted.unpaired (h.isNumbered hcheck) x.mem_walk_self) ?_ (fun c hc => hcandidates.subset hc) ?_
    ?_ h.occurs h.argument
  · exact forwardsOne_eq_false fun _ _ => hx ▸ Expr.noConfusion
  · obtain ⟨es, hperm, hes⟩ := hcandidates
    exact hperm.nodup_iff.mp (hes.nodup hnodup)
  · rw [hx]
    exact diagnosticsAt_forwarding hfw
  · rw [diagnostic?, h.finding]
    rfl

end

/-- **Applying a fix removes one finding and nothing else.** A closure that the direct-call detector
reports as an argument, and that calls a path which means a declaration, can make way for the path.
The program then is checked without diagnostics again, every expression outside of the closure has
the type, the adjustment and the meaning it had, and the findings are the others. -/
theorem fix_removes_finding (hcheck : check file p = .ok checked)
    (h : DirectFinding checked place x callee f) :
    (∃ p', Refits file p p' x.id callee) ∧
      ∀ p', Refits file p p' x.id callee → ∃ checked', check file p' = .ok checked' ∧
        checked'.diagnostics = [] ∧ UnchangedAround checked checked' x callee ∧
        ∀ config, ∃ ds ds', lintChecked config checked = .ok ds ∧
          lintChecked config checked' = .ok ds' ∧
          ds.Perm ((if config.isEnabled redundantClosure && !place.span.fromMacro then
            [diagnosticOf config (x, f)] else []) ++ ds') := by
  have hfunctions := (check_clean hcheck h.silent).2
  refine ⟨exists_refits (hfunctions ▸ (h.partAt hcheck).mayReplace), fun p' hfix => ?_⟩
  obtain ⟨n, segments, rfl⟩ := h.isPath
  obtain ⟨checked', hcheck', hclean', hoff, hq⟩ := h.checked_again hcheck hfix
  have haside := aside_of_functions hoff
  refine ⟨checked', hcheck', hclean', unchangedAround hq (h.isNumbered hcheck) haside,
    fun config => ?_⟩
  cases henabled : config.isEnabled redundantClosure with
  | false => exact ⟨[], [], runLints_disabled henabled .., runLints_disabled henabled .., .nil⟩
  | true =>
    refine ⟨_, _, runLints_eq (query_regular hcheck) henabled,
      runLints_eq (query_regular hcheck') henabled, ?_⟩
    -- before they are sorted, the findings are the others and the one
    have hperm := h.findings_again config hcheck hq haside
    have hsame : (if (true && !place.span.fromMacro) = true then [diagnosticOf config (x, f)] else [])
        = if place.span.fromMacro = true then [] else [diagnosticOf config (x, f)] := by
      cases place.span.fromMacro <;> rfl
    rw [hsame]
    exact (List.mergeSort_perm ..).trans <|
      hperm.trans ((List.mergeSort_perm ..).symm.append_left _)

/-! ### A program with such a finding -/

/-- Whether some argument is a redundant closure that calls a path which means a declaration. -/
def hasDirectFinding (checked : Checked) : Bool :=
  (checked.functions.flatMap Function.walk).any fun place => place.arguments.any fun
    | .closure node params ret (.call call (.path n segments) args) =>
      match checkClosure checked.query
          (.closure node params ret (.call call (.path n segments) args)) with
      | .ok (some _) => (checked.query.path? (.path n segments)).isSome
      | _ => false
    | _ => false

theorem exists_of_hasDirectFinding (hclean : checked.diagnostics = [])
    (h : hasDirectFinding checked = true) :
    ∃ place x callee f, DirectFinding checked place x callee f := by
  obtain ⟨place, hplace, h⟩ := List.any_eq_true.mp h
  obtain ⟨x, hx, h⟩ := List.any_eq_true.mp h
  split at h
  · split at h
    · next hf => exact ⟨place, _, _, _, hclean, hplace, hx, ⟨_, _, _, _, _, rfl⟩, ⟨_, _, rfl⟩, hf, h⟩
    · exact absurd h Bool.false_ne_true
  · exact absurd h Bool.false_ne_true

/-- A program that calls `apply(|x| inc(x))`. -/
def forwardingArgument : String :=
  "fn inc(a: i32) -> i32;\nfn apply(f: fn(i32) -> i32);\n"
    ++ "fn main() \x7b\n  apply(|x| inc(x));\n\x7d\n"

/-- **The fixed program** is well typed and has no finding for the closure any more. -/
theorem forwardingArgument_fixed : ∃ p checked place x callee f,
    Syntax.parse forwardingArgument = .ok p ∧ check none p = .ok checked ∧
      DirectFinding checked place x callee f ∧
      ∃ p', Refits none p p' x.id callee ∧ ∃ checked', check none p' = .ok checked' ∧
        checked'.diagnostics = [] ∧ UnchangedAround checked checked' x callee := by
  have htest : ((checkedSource? none forwardingArgument).any fun c =>
      c.diagnostics.isEmpty && hasDirectFinding c) = true := by decide +kernel
  obtain ⟨checked, hsource, htest⟩ := (Option.any_eq_true _ _).mp htest
  obtain ⟨hclean, hfinding⟩ := Bool.and_eq_true_iff.mp htest
  obtain ⟨p, hparse, hcheck⟩ := checkedSource?_eq_some.mp hsource
  obtain ⟨place, x, callee, f, h⟩ :=
    exists_of_hasDirectFinding (List.isEmpty_iff.mp hclean) hfinding
  obtain ⟨⟨p', hfix⟩, hall⟩ := fix_removes_finding hcheck h
  obtain ⟨checked', hcheck', hclean', haround, -⟩ := hall p' hfix
  exact ⟨p, checked, place, x, callee, f, hparse, hcheck, h, p', hfix, checked', hcheck', hclean',
    haround⟩

end ClosureLint.Eta
