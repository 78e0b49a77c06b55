import ClosureLint.Lint.Run
import ClosureLint.Proofs.Checking.Declarations
import ClosureLint.Proofs.Grammar.Receivers
import ClosureLint.Proofs.Grammar.Sound.Items

/-!
# Nothing breaks off after a successful parse

The checker and the lints can meet a malformed type, or a receiver where none belongs. Neither comes
up in a program that was read from a text: its receivers are where they belong, its declarations give
types with all their parts, and these stay so through all of checking, errors or not.

* `check_succeeds` — a program that was read can be checked.
* `Query.Regular`, `checkClosure_succeeds` — the detectors ask nothing that has no answer.
* `lint_succeeds` — so checking and linting a program that was read always end with a result.
* `derefCycle_lints` — one with structs that dereference to each other, for instance.
-/

namespace ClosureLint

open ClosureLint.Core
open ClosureLint.Typing

/-! ### Checking -/

/-- A program that was read has no misplaced receiver. -/
theorem not_misplaces {source : String} {p : Syntax.Program} (h : Syntax.parse source = .ok p)
    (e : CheckFault) : ¬ Misplaces p e := by
  -- the grammar has receivers in methods only, and only in the forms that the checker knows
  obtain ⟨-, items, hitems, rfl⟩ := Syntax.parse_sound h
  rintro (⟨f, hf, hmisplaced⟩ | ⟨f, hf, t, hmisplaced⟩)
  · rw [Syntax.functions_ofItems] at hf
    have hnone := (hitems.receivers rfl .function f hf).2 rfl
    cases hmisplaced with
    | outside hr _ | unsupported hr _ =>
      rw [hnone] at hr
      nomatch hr
  · have hsound : Syntax.SoundReceiver f := by
      rw [Syntax.traitMethods_ofItems, Syntax.implMethods_ofItems] at hf
      rcases List.mem_append.mp hf with hf | hf
      · exact (hitems.receivers rfl .trait f hf).1
      · exact (hitems.receivers rfl .impl f hf).1
    cases hmisplaced with
    | outside _ hself => nomatch hself
    | unsupported hr hform => exact hsound _ _ hr hform

/-- **A program that was read can be checked.** -/
theorem check_succeeds {source : String} {p : Syntax.Program} (h : Syntax.parse source = .ok p)
    (file : Option String) : ∃ checked, check file p = .ok checked := by
  cases hcheck : check file p with
  | error e => exact absurd (check_fails hcheck) (not_misplaces h e)
  | ok checked => exact ⟨checked, rfl⟩

/-! ### Linting -/

/-- The results hold types that can be written, and callables that are well made. -/
structure Query.Regular (names : String → Prop) (q : Query) : Prop where
  types : ∀ e ∈ q.tables.types, e.2.Regular names
  methods : ∀ e ∈ q.tables.methods, e.2.decl.WellMade names

namespace Query.Regular

variable {names : String → Prop} {q : Query}

theorem typeOf (h : q.Regular names) (e : Expr) : (q.typeOf e).Regular names := by
  unfold Query.typeOf
  cases hl : q.tables.types.lookup e.id with
  | none => exact .unknown
  | some t => exact Ty.Regular.of_lookup h.types hl

theorem method? (h : q.Regular names) {e : Expr} {d : Decl} (hd : q.method? e = some d) :
    d.WellMade names := by
  obtain ⟨r, hr, rfl⟩ := Option.map_eq_some_iff.mp hd
  exact Ty.Regular.of_lookup (P := fun r : Resolution => r.decl.WellMade names) h.methods hr

theorem signature? (h : q.Regular names) (e : Expr) :
    Succeeds (fun o => ∀ t, o = some t → t.1.Regular names) (q.signature? e) := by
  unfold Query.signature?
  split
  · exact .pure nofun
  · next d hd =>
    refine (h.method? hd).selfType?.bind fun o ho => ?_
    cases o with
    | none => exact .pure nofun
    | some t => exact .pure fun u hu => Option.some.inj hu ▸ ho.2 t rfl

end Query.Regular

namespace Eta

variable {names : String → Prop} {q : Query}

theorem qualifiedName?_succeeds {expected actual : Ty} (he : expected.Regular names)
    (ha : actual.Regular names) (traitPath : Option String) (isInherent : Bool) :
    Succeeds (fun _ => True) (qualifiedName? expected actual traitPath isInherent) := by
  -- the receiver's own type is asked for last
  have hinherent : Succeeds (fun _ => True) (do
      if isInherent then
        if ← expected.sameShape actual then return some (← actual.displayName)
      return none : Except Fault (Option String)) := by
    split
    · refine (he.sameShape ha).bind fun same _ => ?_
      split
      · exact ha.displayName.bind fun _ _ => .pure trivial
      · exact .pure trivial
    · exact .pure trivial
  unfold qualifiedName?
  cases traitPath with
  | none => exact hinherent
  | some path =>
    refine (he.sameBorrowDepth ha).bind fun same _ => ?_
    split
    · exact .pure trivial
    · exact hinherent

theorem methodOwner?_succeeds (h : q.Regular names) (d : Decl) (call receiver : Expr) :
    Succeeds (fun _ => True) (methodOwner? q d call receiver) := by
  refine (h.signature? call).bind fun signature hs => ?_
  cases signature with
  | none => exact .pure trivial
  | some t => exact qualifiedName?_succeeds (hs t rfl) (h.typeOf receiver) _ _

theorem checkMethodCall_succeeds (h : q.Regular names) (params : List Param)
    (call receiver : Expr) (method : String) (args : List Expr) :
    Succeeds (fun _ => True) (checkMethodCall q params call receiver method args) := by
  unfold checkMethodCall
  split
  · exact .pure trivial
  · split
    · exact .pure trivial
    · split
      · exact .pure trivial
      · next d _ =>
        split
        · exact .pure trivial
        · split
          · exact .pure trivial
          · refine (methodOwner?_succeeds h d call receiver).bind fun owner _ => ?_
            cases owner <;> exact .pure trivial

/-- **The detectors** find an answer for every expression. -/
theorem checkClosure_succeeds (h : q.Regular names) (e : Expr) :
    Succeeds (fun _ => True) (checkClosure q e) := by
  unfold checkClosure
  split
  · split
    · exact .pure trivial
    · exact checkMethodCall_succeeds h _ _ _ _ _
    · exact .pure trivial
  · exact .pure trivial

theorem checkPlace_succeeds (h : q.Regular names) (config : Config) (e : Expr) :
    Succeeds (fun _ => True) (checkPlace config q e) := by
  unfold checkPlace
  split
  · exact .pure trivial
  · have hone (arg : Expr) : Succeeds (fun _ => True) (do
        return (← checkClosure q arg).map fun f =>
          f.diagnostic redundantClosure (config.level redundantClosure) arg.span) :=
      (checkClosure_succeeds h arg).bind fun _ _ => .pure trivial
    exact (Succeeds.mapM fun arg _ => hone arg).bind fun _ _ => .pure trivial

end Eta

theorem runLints_succeeds {names : String → Prop} {q : Query} (h : q.Regular names)
    (configs : List Config) (functions : List Function) :
    Succeeds (fun _ => True) (runLints configs q functions) := by
  have hplaces : ∀ e : Expr, Succeeds (fun _ => True) (configs.mapM fun c => Eta.checkPlace c q e) :=
    fun e => (Succeeds.mapM fun c _ => Eta.checkPlace_succeeds h c e).mono fun _ _ => trivial
  have hfound : Succeeds (fun _ => True) (findingsIn configs q functions) :=
    (Succeeds.mapM fun e _ => hplaces e).bind fun _ _ => .pure trivial
  exact hfound.bind fun _ _ => .pure trivial

/-- The results of a checked program are made of types with all their parts. -/
theorem query_regular {file : Option String} {p : Syntax.Program} {checked : Checked}
    (h : check file p = .ok checked) : checked.query.Regular (IsStruct p) :=
  ⟨(check_regular h).1, (check_regular h).2⟩

/-- **Nothing breaks off after a successful parse**: a program that was read from a text can be
checked, and its checked functions can be linted under any configurations, whatever declarations and
errors it has. -/
theorem lint_succeeds {source : String} {p : Syntax.Program} (h : Syntax.parse source = .ok p)
    (file : Option String) :
    ∃ checked, check file p = .ok checked ∧
      ∀ configs, ∃ ds, runLints configs checked.query checked.functions = .ok ds := by
  obtain ⟨checked, hcheck⟩ := check_succeeds h file
  refine ⟨checked, hcheck, fun configs => ?_⟩
  obtain ⟨ds, hds, -⟩ := runLints_succeeds (query_regular hcheck) configs checked.functions
  exact ⟨ds, hds⟩

/-- A program with two structs that dereference to each other, an unknown type and an unknown
method. -/
def derefCycle : String :=
  "struct A -> &B;\nstruct B -> A;\nimpl Lost \x7b fn m(&self); \x7d\n"
    ++ "fn main(a: A) \x7b\n  a.m(|x| x.m(1), |y, (z, _)| y(z));\n\x7d\n"

/-- **Errors do not break anything off** either. -/
theorem derefCycle_lints : ∃ p checked, Syntax.parse derefCycle = .ok p ∧
    check none p = .ok checked ∧ hasErrors checked.diagnostics = true ∧
    ∀ configs, ∃ ds, runLints configs checked.query checked.functions = .ok ds := by
  have htest : ((checkedSource? none derefCycle).any fun c => hasErrors c.diagnostics) = true := by
    decide +kernel
  obtain ⟨checked, hsource, herrors⟩ := (Option.any_eq_true _ _).mp htest
  obtain ⟨p, hparse, hcheck⟩ := checkedSource?_eq_some.mp hsource
  obtain ⟨checked', hcheck', hlints⟩ := lint_succeeds hparse none
  obtain rfl := Except.ok.inj (hcheck.symm.trans hcheck')
  exact ⟨p, checked, hparse, hcheck, herrors, hlints⟩

end ClosureLint
