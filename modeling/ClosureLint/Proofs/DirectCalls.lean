import ClosureLint.Lint.Run
import ClosureLint.Proofs.Checking.Closures
import ClosureLint.Proofs.Checking.Programs
import ClosureLint.Proofs.EtaLaw

/-!
# What a direct-call finding promises

A closure `|x, y| f(x, y)` is reported when its parameters are handed on in order. That its callee
can stand in its place takes more: names of their own, and a callee that mentions none of them. The
checker sees to the second where the callee is the path of a declaration, and to nothing else.

* `checkClosure_call` — what the detector looked at.
* `reportedCall_etaLaw_iff` — when the promise is kept.
* `repeatedParameter_breaks` — a finding that breaks it.
-/

namespace ClosureLint.Eta

open ClosureLint.Core
open ClosureLint.Typing

variable {q : Query} {node call : Node} {params : List Param} {ret : Option Syntax.TypeExpr}
  {callee : Expr} {args : List Expr} {f : Finding}

/-- What a finding for a closure that calls something says about it. -/
theorem checkClosure_call
    (h : checkClosure q (.closure node params ret (.call call callee args)) = .ok (some f)) :
    args.length = params.length ∧ q.isAdjusted (.call call callee args) = false ∧
      args.any q.isAdjusted = false ∧ (q.typeOf callee).isUnsafeFn = false ∧
      forwards params args = true ∧ f = ⟨q.text? callee⟩ := by
  have hc : checkCall q params (.call call callee args) callee args = some f := pure_eq_ok.mp h
  -- the tests are made in the order in which they are listed
  unfold checkCall at hc
  split at hc
  · exact absurd hc nofun
  · next hlen =>
    split at hc
    · exact absurd hc nofun
    · next hadj =>
      split at hc
      · exact absurd hc nofun
      · next hsafe =>
        split at hc
        · exact absurd hc nofun
        · next hfw =>
          simp only [Bool.or_eq_true, not_or, Bool.not_eq_true] at hadj
          exact ⟨Decidable.not_not.mp hlen, hadj.1, hadj.2, Bool.eq_false_iff.mpr hsafe,
            by simpa using hfw, (Option.some.inj hc).symm⟩

/-- **When a reported closure may be replaced by its callee.** Exactly when its parameters have
names of their own and the callee mentions none of them. The latter holds by itself when the callee
is a path that the checker found a declaration for. -/
theorem reportedCall_etaLaw_iff {file : Option String} {p : Syntax.Program} {checked : Checked}
    (hcheck : check file p = .ok checked)
    (hmem : .closure node params ret (.call call callee args)
      ∈ checked.functions.flatMap Function.walk)
    (hf : checkClosure checked.query (.closure node params ret (.call call callee args))
      = .ok (some f)) :
    Forwards params args (paramNames params) ∧
      (EtaLaw params call callee args ↔
        (paramNames params).Nodup ∧ ∀ x ∈ paramNames params, x ∉ callee.freeNames) ∧
      ∀ n segments, callee = .path n segments → (checked.query.path? callee).isSome →
        ∀ x ∈ paramNames params, x ∉ callee.freeNames := by
  obtain ⟨hlen, -, -, -, hfw, -⟩ := checkClosure_call hf
  obtain ⟨names, hnames⟩ := forwards_of_forwards hlen hfw
  rw [hnames.paramNames_eq]
  refine ⟨hnames, etaLaw_iff hnames, ?_⟩
  rintro n segments rfl hpath x hx hfree
  -- only a path of one segment can be a parameter
  obtain rfl : segments = [x] := by
    match segments, hfree with
    | [_], hfree => rw [List.mem_singleton.mp hfree]
  obtain ⟨⟨last, hn⟩, _, -, hv⟩ := check_visits hcheck
  obtain ⟨c, final, -, -, htables, hvisited⟩ := hv _ hmem
  have hd := (Distinct.of_numbered hn).sublist (Function.walk_sublist hmem)
  -- a local is no declaration
  have hnone := hvisited.local_callee hd (hnames.paramNames_eq ▸ hx)
  rw [htables] at hnone
  have hquery : checked.query.path? (.path n [x]) = none := hnone
  rw [hquery] at hpath
  nomatch hpath

/-! ### Findings that break the promise -/

/-- Some closure is reported that calls a `callee` and binds `names`. -/
def reportsCall (checked : Checked) (names : List String) (callee : Expr → Bool) : Bool :=
  (checked.functions.flatMap Function.walk).any fun
    | .closure node params ret (.call call f args) =>
      match checkClosure checked.query (.closure node params ret (.call call f args)) with
      | .ok (some _) => paramNames params == names && callee f
      | _ => false
    | _ => false

theorem exists_of_reportsCall {checked : Checked} {names : List String} {test : Expr → Bool}
    (h : reportsCall checked names test = true) : ∃ node params ret call callee args f,
      .closure node params ret (.call call callee args)
        ∈ checked.functions.flatMap Function.walk ∧
      checkClosure checked.query (.closure node params ret (.call call callee args))
        = .ok (some f) ∧ paramNames params = names ∧ test callee = true := by
  obtain ⟨e, he, h⟩ := List.any_eq_true.mp h
  split at h
  · split at h
    · next hf =>
      obtain ⟨hn, ht⟩ := Bool.and_eq_true_iff.mp h
      exact ⟨_, _, _, _, _, _, _, he, hf, eq_of_beq hn, ht⟩
    · exact absurd h Bool.false_ne_true
  · exact absurd h Bool.false_ne_true

/-- A program that calls `apply2(|x, x| add(x, x))`. -/
def repeatedParameter : String :=
  "fn add(a: i32, b: i32) -> i32;\nfn apply2(f: fn(i32, i32) -> i32);\n"
    ++ "fn main() \x7b\n  apply2(|x, x| add(x, x));\n\x7d\n"

/-- **A parameter name given twice is not noticed**: calling the closure on 1 and 2 adds 2 and 2. -/
theorem repeatedParameter_breaks : ∃ checked node params ret call callee args f,
    checkedSource? none repeatedParameter = some checked ∧ checked.diagnostics = [] ∧
      .closure node params ret (.call call callee args)
        ∈ checked.functions.flatMap Function.walk ∧
      checkClosure checked.query (.closure node params ret (.call call callee args))
        = .ok (some f) ∧ ¬ EtaLaw params call callee args := by
  have htest : ((checkedSource? none repeatedParameter).any fun c =>
      c.diagnostics.isEmpty && reportsCall c ["x", "x"] fun _ => true) = true := by decide +kernel
  obtain ⟨checked, hsource, htest⟩ := (Option.any_eq_true _ _).mp htest
  obtain ⟨hclean, hreports⟩ := Bool.and_eq_true_iff.mp htest
  obtain ⟨node, params, ret, call, callee, args, f, hmem, hf, hn, -⟩ :=
    exists_of_reportsCall hreports
  obtain ⟨p, -, hcheck⟩ := checkedSource?_eq_some.mp hsource
  refine ⟨checked, node, params, ret, call, callee, args, f, hsource,
    List.isEmpty_iff.mp hclean, hmem, hf, fun hl => ?_⟩
  have hd := ((reportedCall_etaLaw_iff hcheck hmem hf).2.1.mp hl).1
  rw [hn] at hd
  exact absurd hd (by decide)

end ClosureLint.Eta
