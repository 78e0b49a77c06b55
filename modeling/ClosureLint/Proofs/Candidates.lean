import ClosureLint.Lint.Eta
import ClosureLint.Proofs.Core.Walking
import Mathlib.Data.List.Perm.Subperm

/-!
# Every expression is a candidate at most once

A place is responsible for what stands directly inside of it, and every expression stands directly
inside of at most one other. So no closure is looked at twice.

* `candidatesIn` — all candidates of several places.
* `candidatesIn_walk` — the candidates among the parts of an expression are some of these parts, each
  at most once.
-/

namespace ClosureLint.Eta

open ClosureLint.Core

/-- The candidates of all places among `es`. -/
def candidatesIn (es : List Expr) : List Expr := es.flatMap candidates

theorem candidatesIn_cons (e : Expr) (es : List Expr) :
    candidatesIn (e :: es) = candidates e ++ candidatesIn es := List.flatMap_cons

theorem candidatesIn_append (es fs : List Expr) :
    candidatesIn (es ++ fs) = candidatesIn es ++ candidatesIn fs := List.flatMap_append

/-- An expression in front of its parts, which hold those candidates, makes one candidate more. -/
private theorem subperm_walk {e : Expr} (h : (candidatesIn e.walk).Subperm e.inside) :
    (e :: candidatesIn e.walk).Subperm e.walk := by
  rw [e.walk_eq] at h ⊢
  exact (List.subperm_cons e).mpr h

mutual

/-- **The candidates inside an expression** are parts of it, each at most once. -/
theorem candidatesIn_walk : (e : Expr) → (candidatesIn e.walk).Subperm e.inside
  | .path .. | .int .. | .str .. => List.Subperm.refl []
  | .borrow _ _ subject | .deref _ subject | .field _ subject _ | .closure _ _ _ subject => by
    have hsubject : (candidatesIn subject.walk).Subperm subject.walk :=
      (candidatesIn_walk subject).trans (subject.walk_eq ▸ (List.sublist_cons_self _ _).subperm)
    rw [Expr.walk_eq, candidatesIn_cons]
    exact hsubject
  | .call node callee args => by
    have hcallee : (candidatesIn callee.walk).Subperm callee.walk :=
      (candidatesIn_walk callee).trans (callee.walk_eq ▸ (List.sublist_cons_self _ _).subperm)
    have hargs := candidatesIn_walkAll args
    rw [Expr.walk_eq, candidatesIn_cons]
    change (args ++ candidatesIn (callee.walk ++ Expr.walkAll args)).Subperm
      (callee.walk ++ Expr.walkAll args)
    rw [candidatesIn_append]
    -- the arguments move behind the candidates of the callee, in front of their own
    exact (List.perm_append_comm_assoc _ _ _).subperm.trans (hcallee.append hargs)
  | .methodCall node receiver method args => by
    have hreceiver := subperm_walk (candidatesIn_walk receiver)
    have hargs := candidatesIn_walkAll args
    rw [Expr.walk_eq, candidatesIn_cons]
    change (receiver :: args ++ candidatesIn (receiver.walk ++ Expr.walkAll args)).Subperm
      (receiver.walk ++ Expr.walkAll args)
    rw [candidatesIn_append, List.cons_append]
    exact ((List.perm_append_comm_assoc _ _ _).cons receiver).subperm.trans
      (hreceiver.append hargs)

theorem candidatesIn_walkAll : (es : List Expr) →
    (es ++ candidatesIn (Expr.walkAll es)).Subperm (Expr.walkAll es)
  | [] => List.Subperm.refl []
  | e :: es => by
    have he := subperm_walk (candidatesIn_walk e)
    have hes := candidatesIn_walkAll es
    rw [Expr.walkAll, candidatesIn_append, List.cons_append]
    exact ((List.perm_append_comm_assoc _ _ _).cons e).subperm.trans (he.append hes)

end

theorem walkAll_eq_flatMap (es : List Expr) : Expr.walkAll es = es.flatMap Expr.walk := by
  induction es with
  | nil => rfl
  | cons e es ih => rw [Expr.walkAll, List.flatMap_cons, ih]

/-- The candidates in several functions are expressions of these functions, each at most once. -/
theorem candidatesIn_functions (fs : List Function) :
    (candidatesIn (fs.flatMap Function.walk)).Subperm (fs.flatMap Function.walk) := by
  have hwalk : fs.flatMap Function.walk
      = Expr.walkAll (fs.flatMap fun f => f.body.stmts.map Stmt.expr) := by
    rw [walkAll_eq_flatMap, List.flatMap_assoc]
    refine congrArg (List.flatMap · fs) (funext fun f => ?_)
    rw [List.flatMap_map]
    rfl
  rw [hwalk]
  exact (List.sublist_append_right _ _).subperm.trans (candidatesIn_walkAll _)

end ClosureLint.Eta
