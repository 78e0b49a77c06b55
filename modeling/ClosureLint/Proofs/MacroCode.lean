import ClosureLint.Proofs.Grammar.Literals
import ClosureLint.Proofs.Reporting

/-!
# Findings in expanded code

Nothing inside of a macro invocation can be edited by the user, and what is lowered from there is
marked. The lint passes over a call that is marked. Whether the closure that is handed to the call is
marked, it does not ask: an argument may be an invocation that expands to a closure.

* `Expr.outside` — what no macro invocation surrounds.
* `fromMacro_inside` — what is lowered from inside of one is marked.
* `outside_of_walk` — what is not marked stands outside of all of them.
* `finding_marked_iff` — a finding is marked exactly where the argument is an invocation.
* `expandedClosure_reported` — such a finding.
-/

namespace ClosureLint

namespace Syntax

mutual

/-- The expression and those inside of it that no macro invocation surrounds. -/
def Expr.outside (e : Expr) : List Expr :=
  e :: match e with
    | .path .. | .int .. | .str .. | .macroCall .. => []
    | .borrow _ _ operand | .deref _ operand | .field _ operand _ => operand.outside
    | .call _ callee args => callee.outside ++ Expr.outsideAll args
    | .methodCall _ receiver _ args => receiver.outside ++ Expr.outsideAll args
    | .closure _ _ _ body => body.outside

/-- The same for several expressions. -/
def Expr.outsideAll : List Expr → List Expr
  | [] => []
  | e :: es => e.outside ++ Expr.outsideAll es

end

/-- What a call hands on: its arguments, and the receiver where there is one. -/
def Expr.handedOn : Expr → List Expr
  | .call _ _ args => args
  | .methodCall _ receiver _ args => receiver :: args
  | _ => []

/-- Whether the expression is a macro invocation. -/
def Expr.isInvocation : Expr → Bool
  | .macroCall .. => true
  | _ => false

/-- What the expression is once it is expanded, if it is an invocation. -/
def Expr.expanded : Expr → Expr
  | .macroCall _ _ expansion => expansion.expanded
  | e => e

/-- The one expression that a statement holds directly. -/
def Stmt.expr : Stmt → Expr
  | .letStmt _ _ _ _ value => value
  | .exprStmt _ e => e

end Syntax

namespace Core

variable {c : Lowering} {n : NodeId} {x : Expr}

/-- Inside of an invocation every node is marked, and outside none is. -/
theorem Lowering.fromMacro_node (c : Lowering) (l : Loc) :
    (c.node l).span.fromMacro = true ↔ c.macroDepth ≠ 0 := by
  unfold Lowering.node
  dsimp only
  by_cases h : c.macroDepth = 0
  · rw [if_pos h]
    exact ⟨nofun, fun hne => absurd h hne⟩
  · rw [if_neg h]
    exact ⟨fun _ => h, fun _ => rfl⟩

mutual

/-- **What is lowered from inside of an invocation is marked.** -/
theorem fromMacro_inside : (e : Syntax.Expr) → {c : Lowering} → c.macroDepth ≠ 0 →
    ∀ x ∈ (lowerExpr c e).walk, x.span.fromMacro = true
  | .path l _, c, h | .int l _, c, h | .str l _, c, h => by
    rw [lowerExpr, Expr.walk]
    exact List.forall_mem_singleton.mpr ((c.fromMacro_node l).mpr h)
  | .borrow l _ operand, c, h | .deref l operand, c, h | .field l operand _, c, h => by
    rw [lowerExpr, Expr.walk]
    exact List.forall_mem_cons.mpr ⟨(c.fromMacro_node l).mpr h, fromMacro_inside operand h⟩
  | .call l callee args, c, h | .methodCall l callee _ args, c, h => by
    rw [lowerExpr, Expr.walk]
    exact List.forall_mem_cons.mpr ⟨(c.fromMacro_node l).mpr h,
      List.forall_mem_append.mpr ⟨fromMacro_inside callee h, fromMacro_insideAll args h⟩⟩
  | .closure l params ret body, c, h => by
    rw [lowerExpr, Expr.walk]
    exact List.forall_mem_cons.mpr ⟨(c.fromMacro_node l).mpr h, fromMacro_inside body h⟩
  -- an invocation inside of one only deepens it
  | .macroCall _ _ expansion, c, _ => by
    rw [lowerExpr]
    exact fromMacro_inside expansion (Nat.succ_ne_zero c.macroDepth)

theorem fromMacro_insideAll : (es : List Syntax.Expr) → {c : Lowering} → c.macroDepth ≠ 0 →
    ∀ x ∈ Expr.walkAll (lowerExprs c es), x.span.fromMacro = true
  | [], _, _ => nofun
  | e :: es, _, h =>
    List.forall_mem_append.mpr ⟨fromMacro_inside e h, fromMacro_insideAll es h⟩

end

/-- Outside of all invocations an expression is marked exactly if it is an invocation. -/
theorem fromMacro_lowerExpr (hc : c.macroDepth = 0) (e : Syntax.Expr) :
    (lowerExpr c e).span.fromMacro = true ↔ e.isInvocation = true := by
  have hplain (l : Loc) : (c.node l).span.fromMacro ≠ true :=
    fun h => (c.fromMacro_node l).mp h hc
  cases e with
  | macroCall l name expansion =>
    rw [lowerExpr]
    exact ⟨fun _ => rfl, fun _ => fromMacro_inside expansion (Nat.succ_ne_zero c.macroDepth) _
      (Expr.mem_walk_self _)⟩
  | _ => exact ⟨fun h => absurd h (hplain _), nofun⟩

theorem isInvocation_expanded : (e : Syntax.Expr) → e.expanded.isInvocation = false
  | .macroCall _ _ expansion => by
    rw [Syntax.Expr.expanded]
    exact isInvocation_expanded expansion
  | .path .. | .int .. | .str .. | .borrow .. | .deref .. | .field .. | .call .. | .methodCall ..
  | .closure .. => rfl

/-- An expression is lowered like what it expands to, but for where it is found. -/
theorem lowerExpr_expanded : (e : Syntax.Expr) → (c : Lowering) →
    ∃ c', lowerExpr c e = lowerExpr c' e.expanded
  | .macroCall _ _ expansion, c => by
    rw [lowerExpr, Syntax.Expr.expanded]
    exact lowerExpr_expanded expansion c.inside
  | .path .., c | .int .., c | .str .., c | .borrow .., c | .deref .., c | .field .., c
  | .call .., c | .methodCall .., c | .closure .., c => ⟨c, rfl⟩

/-- What is lowered to a closure expands to one. -/
theorem expanded_closure {e : Syntax.Expr}
    (h : Syntax.isClosure ((lowerExpr c e.expanded).number n).1 = true) :
    ∃ l params ret body, e.expanded = .closure l params ret body := by
  have hexpanded := isInvocation_expanded e
  cases hy : e.expanded with
  | closure l params ret body => exact ⟨l, params, ret, body, rfl⟩
  | macroCall =>
    rw [hy] at hexpanded
    nomatch hexpanded
  | _ =>
    rw [hy] at h
    nomatch h

/-- What `x` is lowered from stands among `ys`, and is no invocation. -/
def LoweredFrom (c : Lowering) (ys : List Syntax.Expr) (x : Expr) : Prop :=
  ∃ y ∈ ys, y.isInvocation = false ∧ ∃ k, x = ((lowerExpr c y).number k).1

theorem LoweredFrom.mono {ys zs : List Syntax.Expr} (h : LoweredFrom c ys x)
    (hsub : ∀ y ∈ ys, y ∈ zs) : LoweredFrom c zs x := by
  obtain ⟨y, hy, h⟩ := h
  exact ⟨y, hsub y hy, h⟩

mutual

/-- **What is not marked stands outside of all invocations.** -/
theorem outside_of_walk : (e : Syntax.Expr) → {n : NodeId} → {x : Expr} →
    x ∈ ((lowerExpr c e).number n).1.walk → x.span.fromMacro = false → LoweredFrom c e.outside x
  | .path .., n, x, h, _ | .int .., n, x, h, _ | .str .., n, x, h, _ =>
    ⟨_, List.mem_cons_self, rfl, n, List.mem_singleton.mp h⟩
  | .borrow .., n, x, h, hx | .deref .., n, x, h, hx | .field .., n, x, h, hx => by
    rcases List.mem_cons.mp h with h | h
    · exact ⟨_, List.mem_cons_self, rfl, n, h⟩
    · exact (outside_of_walk _ h hx).mono fun _ => List.mem_cons_of_mem _
  | .call .., n, x, h, hx | .methodCall .., n, x, h, hx => by
    rcases List.mem_cons.mp h with h | h
    · exact ⟨_, List.mem_cons_self, rfl, n, h⟩
    · rcases List.mem_append.mp h with h | h
      · exact (outside_of_walk _ h hx).mono fun _ hy =>
          List.mem_cons_of_mem _ (List.mem_append_left _ hy)
      · exact (outside_of_walkAll _ h hx).mono fun _ hy =>
          List.mem_cons_of_mem _ (List.mem_append_right _ hy)
  | .closure .., n, x, h, hx => by
    rcases List.mem_cons.mp h with h | h
    · exact ⟨_, List.mem_cons_self, rfl, n, h⟩
    · exact (outside_of_walk _ h hx).mono fun _ => List.mem_cons_of_mem _
  | .macroCall _ _ expansion, n, x, h, hx => by
    -- what an invocation expands to is marked, so nothing of it is in question
    have hspan := List.mem_map_of_mem (f := Expr.span) h
    rw [Expr.spans_number, lowerExpr] at hspan
    obtain ⟨y, hy, hyx⟩ := List.mem_map.mp hspan
    have hmarked := fromMacro_inside expansion (Nat.succ_ne_zero c.macroDepth) y hy
    rw [hyx, hx] at hmarked
    nomatch hmarked

theorem outside_of_walkAll : (es : List Syntax.Expr) → {n : NodeId} → {x : Expr} →
    x ∈ Expr.walkAll (Expr.numberAll n (lowerExprs c es)).1 → x.span.fromMacro = false →
    LoweredFrom c (Syntax.Expr.outsideAll es) x
  | [], _, _, h, _ => nomatch h
  | e :: es, n, x, h, hx => by
    rcases List.mem_append.mp h with h | h
    · exact (outside_of_walk e h hx).mono fun _ => List.mem_append_left _
    · exact (outside_of_walkAll es h hx).mono fun _ => List.mem_append_right _

end

/-- The same for the statements of a body. -/
theorem outside_of_stmts (ss : List Syntax.Stmt) {n : NodeId} {x : Expr}
    (h : x ∈ (Stmt.numberAll n (ss.map (lowerStmt c))).1.flatMap fun s => s.expr.walk)
    (hx : x.span.fromMacro = false) : ∃ s ∈ ss, LoweredFrom c s.expr.outside x := by
  induction ss generalizing n with
  | nil => nomatch h
  | cons s ss ih =>
    rw [List.map_cons, Stmt.numberAll, List.flatMap_cons] at h
    rcases List.mem_append.mp h with h | h
    · refine ⟨s, List.mem_cons_self, ?_⟩
      cases s with
      | letStmt l isMut name declared value => exact outside_of_walk value h hx
      | exprStmt l e => exact outside_of_walk e h hx
    · obtain ⟨s', hs', h⟩ := ih h
      exact ⟨s', List.mem_cons_of_mem _ hs', h⟩

/-- The same for the bodies of a program. -/
theorem outside_of_functions {file : Option String} {fs : List Syntax.FunctionDef} {F : Function}
    (hF : .ok F ∈ lowerFunctions file n fs) (h : x ∈ F.walk) (hx : x.span.fromMacro = false) :
    ∃ f ∈ fs, ∃ stmts, f.body = some stmts ∧
      ∃ s ∈ stmts, LoweredFrom { file := file } s.expr.outside x := by
  induction fs generalizing n with
  | nil => nomatch hF
  | cons f fs ih =>
    -- what comes later in the list is in the induction hypothesis
    have hlater {m : NodeId} (hF : .ok F ∈ lowerFunctions file m fs) :
        ∃ g ∈ f :: fs, ∃ stmts, g.body = some stmts ∧
          ∃ s ∈ stmts, LoweredFrom { file := file } s.expr.outside x := by
      obtain ⟨g, hg, hrest⟩ := ih hF
      exact ⟨g, List.mem_cons_of_mem _ hg, hrest⟩
    rw [lowerFunctions] at hF
    split at hF
    · rcases List.mem_cons.mp hF with hF | hF
      · cases hF
      · exact hlater hF
    · next body hbody =>
      rcases List.mem_cons.mp hF with hF | hF
      · have hnumbered : F = ((lowerFunction { file := file } f body).number n).1 :=
          Except.ok.inj hF
        rw [hnumbered] at h
        exact ⟨f, List.mem_cons_self, body, hbody, outside_of_stmts body h hx⟩
      · exact hlater hF

/-- What a call hands on was lowered from what the call is lowered from hands on. -/
theorem candidates_lowered {y : Syntax.Expr} (hy : y.isInvocation = false) {k : NodeId}
    (h : x ∈ Eta.candidates ((lowerExpr c y).number k).1) :
    ∃ arg ∈ y.handedOn, ∃ k', x = ((lowerExpr c arg).number k').1 := by
  -- arguments are lowered one by one, each under its own first number
  have hargs : ∀ (es : List Syntax.Expr) (m : NodeId),
      x ∈ (Expr.numberAll m (lowerExprs c es)).1 →
        ∃ arg ∈ es, ∃ k', x = ((lowerExpr c arg).number k').1 := by
    intro es
    induction es with
    | nil => exact fun _ h => nomatch h
    | cons e es ih =>
      intro m h
      rcases List.mem_cons.mp h with h | h
      · exact ⟨e, List.mem_cons_self, m, h⟩
      · obtain ⟨arg, harg, h⟩ := ih _ h
        exact ⟨arg, List.mem_cons_of_mem _ harg, h⟩
  cases y with
  | call l callee args => exact hargs args _ h
  -- a method call hands on its receiver too
  | methodCall l receiver method args =>
    rcases List.mem_cons.mp h with h | h
    · exact ⟨receiver, List.mem_cons_self, _, h⟩
    · obtain ⟨arg, harg, h⟩ := hargs args _ h
      exact ⟨arg, List.mem_cons_of_mem _ harg, h⟩
  | macroCall => nomatch hy
  | path | int | str | borrow | deref | field | closure => nomatch h

end Core

namespace Eta

open ClosureLint.Core
open ClosureLint.Syntax (parse)
open ClosureLint.Typing

variable {config : Config} {file : Option String} {source : String} {ds : List Diagnostic}
  {d : Diagnostic}

/-- A diagnostic of the lint phase comes from a finding in a program without errors. -/
theorem exists_reported (hlint : lintSource config file source = .ok ds) (hd : d ∈ ds)
    (hphase : d.phase = some "lint") : ∃ p checked x f, parse source = .ok p ∧
      check file p = .ok checked ∧ hasErrors checked.diagnostics = false ∧
      Reported checked x f ∧ d = diagnosticOf config (x, f) := by
  obtain ⟨answer, hanswer, hlint⟩ := bind_eq_ok.mp hlint
  rcases Syntax.parseFile_eq_ok (mapError_eq_ok.mp hanswer) with
    ⟨p, hparse, rfl⟩ | ⟨e, rfl, hother, -⟩
  · have hprogram : lintProgram config file p = .ok ds := mapError_eq_ok.mp hlint
    obtain ⟨checked, hcheck, hrest⟩ := bind_eq_ok.mp hprogram
    cases hclean : hasErrors checked.diagnostics with
    | true =>
      rw [if_pos hclean] at hrest
      obtain rfl := pure_eq_ok.mp hrest
      have hother := (check_ofChecking hcheck d hd).phase
      rw [hphase] at hother
      exact absurd (Option.some.inj hother) (by decide)
    -- only without errors do the lints run
    | false =>
      rw [if_neg (by rw [hclean]; exact Bool.false_ne_true)] at hrest
      obtain ⟨found, hfound, hds⟩ := bind_eq_ok.mp hrest
      have hfound : runLints [config] checked.query checked.functions = .ok found :=
        mapError_eq_ok.mp hfound
      have hd : d ∈ found := by
        rw [← pure_eq_ok.mp hds, (check_clean hcheck hclean).1] at hd
        exact hd
      cases henabled : config.isEnabled redundantClosure with
      | true =>
        rw [runLints_eq (query_regular hcheck) henabled] at hfound
        rw [← Except.ok.inj hfound, inReportingOrder, List.mem_mergeSort] at hd
        obtain ⟨⟨x, f⟩, hx, rfl⟩ := List.mem_map.mp hd
        exact ⟨p, checked, x, f, hparse, hcheck, hclean, mem_allFindings.mp hx, rfl⟩
      | false =>
        rw [runLints_disabled henabled] at hfound
        rw [← Except.ok.inj hfound] at hd
        exact absurd hd List.not_mem_nil
  · -- an error of reading is of another phase
    obtain rfl := pure_eq_ok.mp hlint
    obtain rfl := List.mem_singleton.mp hd
    rw [hphase] at hother
    exact absurd (Option.some.inj hother) (by decide)

/-- **Which findings are marked.** What the lint reports for a source text stands for a closure that a
call hands on, and the call stands outside of all macro invocations. The diagnostic and its
suggestions have the closure's span, and that is marked exactly if what the call hands on is itself an
invocation, which expands to the closure. -/
theorem finding_marked_iff (hlint : lintSource config file source = .ok ds) (hd : d ∈ ds)
    (hphase : d.phase = some "lint") :
    (∀ g ∈ d.suggestions, g.span = d.span) ∧ ∃ p, parse source = .ok p ∧
      ∃ f ∈ allFunctions p, ∃ stmts, f.body = some stmts ∧ ∃ s ∈ stmts,
        ∃ call ∈ s.expr.outside, ∃ arg ∈ call.handedOn,
          (∃ l params ret body, arg.expanded = .closure l params ret body) ∧
          d.span = (lowerExpr { file := file } arg).span ∧
          (d.span.fromMacro = true ↔ arg.isInvocation = true) := by
  obtain ⟨p, checked, x, f, hparse, hcheck, hclean, hreported, rfl⟩ :=
    exists_reported hlint hd hphase
  obtain ⟨F, hF, place, hplace, hunmarked, hx, hfinding⟩ := hreported
  -- the call that is responsible for the closure is lowered from outside of all invocations
  rw [(check_clean hcheck hclean).2] at hF
  obtain ⟨o, ho, hoF⟩ := List.mem_filterMap.mp hF
  obtain ⟨g, hg, stmts, hstmts, s, hs, call, hcall, hplain, k, rfl⟩ :=
    outside_of_functions (toOption_eq_some.mp hoF ▸ ho) hplace hunmarked
  -- and what it hands on is written as an argument of that call
  obtain ⟨arg, harg, k', rfl⟩ := candidates_lowered hplain hx
  have hspan : ((lowerExpr { file := file } arg).number k').1.span
      = (lowerExpr { file := file } arg).span := Expr.span_number _ k'
  refine ⟨fun g hg => ?_, p, hparse, g, hg, stmts, hstmts, s, hs, call, hcall, arg, harg, ?_,
    hspan, ?_⟩
  · obtain ⟨text, -, rfl⟩ := Option.map_eq_some_iff.mp (Option.mem_toList.mp hg)
    rfl
  · have hclosure := isClosure_of_finding hfinding
    obtain ⟨c, hc⟩ := lowerExpr_expanded arg { file := file }
    rw [hc] at hclosure
    exact expanded_closure hclosure
  · rw [← fromMacro_lowerExpr (c := { file := file }) rfl arg, ← hspan]
    rfl

/-- A program that hands an invocation to a call, which expands to a closure. -/
def expandedClosure : String :=
  "fn inc(a: i32) -> i32;\nfn apply(f: fn(i32) -> i32);\n"
    ++ "fn main() \x7b\n  apply(m!(|x| inc(x)));\n\x7d\n"

/-- **A closure inside of an invocation is reported**: its span is marked. -/
theorem expandedClosure_reported : ∃ ds d, lintSource .standard none expandedClosure = .ok ds ∧
    d ∈ ds ∧ d.phase = some "lint" ∧ d.span.fromMacro = true ∧
      (∀ g ∈ d.suggestions, g.span.fromMacro = true) ∧ d.suggestions ≠ [] := by
  have htest : ((lintSource .standard none expandedClosure).toOption.any fun ds => ds.any fun d =>
      d.phase == some "lint" && d.span.fromMacro && !d.suggestions.isEmpty) = true := by
    decide +kernel
  obtain ⟨ds, hlint, htest⟩ := (Option.any_eq_true _ _).mp htest
  obtain ⟨d, hd, htest⟩ := List.any_eq_true.mp htest
  simp only [Bool.and_eq_true, beq_iff_eq, Bool.not_eq_true', List.isEmpty_eq_false_iff] at htest
  obtain ⟨⟨hphase, hmarked⟩, hsome⟩ := htest
  have hlint := toOption_eq_some.mp hlint
  have hspans := (finding_marked_iff hlint hd hphase).1
  exact ⟨ds, d, hlint, hd, hphase, hmarked, fun g hg => hspans g hg ▸ hmarked, hsome⟩

end Eta

end ClosureLint
