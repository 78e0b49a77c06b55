import ClosureLint.Proofs.Grammar.Literals
import ClosureLint.Proofs.Reformatting
import ClosureLint.Proofs.Reporting

/-!
# Levels do not change what is found

What reading and checking a text reports are errors, and then nothing is linted. Without them, the
level of the lint says whether its findings are reported, and how severe they are: not what is
found, nor where, nor in which order.

* `frontEnd` — what reading and checking a text reports.
* `frontEnd_errors` — these are errors of one phase.
* `foundAt` — the findings in a checked program, as a level has them reported.
* `lintSource_of_clean` — what linting a text without errors gives.
* `levels_keep_findings` — linting the same text at different levels.
-/

namespace ClosureLint

open ClosureLint.Syntax (parse)
open ClosureLint.Typing (check check_clean check_ofChecking Checked checkedSource?
  checkedSource?_eq_some)

variable {file : Option String} {source : String} {p : Syntax.Program} {checked : Checked}

/-! ### Errors -/

/-- What reading and checking a text reports. -/
def frontEnd (file : Option String) (source : String) : Except LintFault (List Diagnostic) := do
  match ← (Syntax.parseFile file source).mapError .literal with
  | .error d => return [d]
  | .ok p => return (← (check file p).mapError .check).diagnostics

/-- Errors of one phase: one error of the parser, or else errors of the type checker. -/
structure OnePhase (ds : List Diagnostic) : Prop where
  errors : ∀ d ∈ ds, d.severity = "error"
  notLint : ∀ d ∈ ds, d.phase ≠ some "lint"
  phase : (∃ d, ds = [d] ∧ d.phase = some "parser") ∨ ∀ d ∈ ds, d.phase = some "typecheck"

theorem frontEnd_of_parse (hparse : parse source = .ok p) (hcheck : check file p = .ok checked) :
    frontEnd file source = .ok checked.diagnostics := by
  unfold frontEnd Syntax.parseFile
  rw [hparse]
  change (do return (← (check file p).mapError LintFault.check).diagnostics : Except _ _) = _
  rw [hcheck]
  rfl

/-- **A text that is answered** is checked to the end, and what is reported are errors of one
phase. -/
theorem frontEnd_errors {answer : Except Diagnostic Syntax.Program}
    (h : Syntax.parseFile file source = .ok answer) :
    ∃ front, frontEnd file source = .ok front ∧ OnePhase front := by
  obtain ⟨p, hparse, rfl⟩ | ⟨d, rfl, hphase, hseverity⟩ := Syntax.parseFile_eq_ok h
  · obtain ⟨checked, hcheck⟩ := check_succeeds hparse file
    have hof := check_ofChecking hcheck
    refine ⟨checked.diagnostics, frontEnd_of_parse hparse hcheck, ?errors, ?notLint, .inr ?phase⟩
    case errors => exact fun d hd => eq_of_beq (hof d hd).isError
    -- the lints are of another phase
    case notLint =>
      intro d hd
      rw [(hof d hd).phase]
      decide
    case phase => exact fun d hd => (hof d hd).phase
  · refine ⟨[d], by rw [frontEnd, h]; rfl, ?errors, ?notLint, .inl ⟨d, rfl, hphase⟩⟩
    case errors => exact List.forall_mem_singleton.mpr hseverity
    case notLint =>
      refine List.forall_mem_singleton.mpr ?_
      rw [hphase]
      decide

/-- **Errors are all that is reported** where there are some, under every configuration. -/
theorem lintSource_of_errors {answer : Except Diagnostic Syntax.Program} {front : List Diagnostic}
    (h : Syntax.parseFile file source = .ok answer) (hfront : frontEnd file source = .ok front)
    (hne : front ≠ []) (config : Config) : lintSource config file source = .ok front := by
  obtain ⟨p, hparse, rfl⟩ | ⟨d, rfl, -⟩ := Syntax.parseFile_eq_ok h
  · obtain ⟨checked, hcheck⟩ := check_succeeds hparse file
    obtain rfl := Except.ok.inj ((frontEnd_of_parse hparse hcheck).symm.trans hfront)
    -- what the checker reports is an error, so no lint runs
    obtain ⟨d, hd⟩ := List.exists_mem_of_ne_nil _ hne
    have herrors : hasErrors checked.diagnostics = true :=
      List.any_eq_true.mpr ⟨d, hd, (check_ofChecking hcheck d hd).isError⟩
    rw [lintSource_eq_of_parse hparse, lintProgram, hcheck]
    change Except.mapError _ (if hasErrors checked.diagnostics then _ else _) = _
    rw [herrors]
    rfl
  · rw [frontEnd, h] at hfront
    obtain rfl := Except.ok.inj hfront
    rw [lintSource, h]
    rfl

/-! ### Findings -/

/-- The findings in a program without errors, as a level has them reported. -/
def foundAt (checked : Checked) (level : Level) : List Diagnostic :=
  if level = .allow then []
  else inReportingOrder ((Eta.allFindings checked).map fun r =>
    r.2.diagnostic redundantClosure level r.1.span)

/-- Two diagnostics agree but for the severity and the notes. -/
structure Diagnostic.SameButLevel (d d' : Diagnostic) : Prop where
  message : d'.message = d.message
  code : d'.code = d.code
  phase : d'.phase = d.phase
  span : d'.span = d.span
  suggestions : d'.suggestions = d.suggestions

/-- A diagnostic of the lint that shows its level, by the severity and by the note. -/
structure Diagnostic.ShowsLevel (level : Level) (d : Diagnostic) : Prop where
  phase : d.phase = some "lint"
  severity : d.severity = level.severity
  notes : d.notes = ["`redundant_closure` is set to `" ++ level.word ++ "`"]

/-- **Linting a text without errors** gives the findings as the level has them reported. -/
theorem lintSource_of_clean (hparse : parse source = .ok p) (hcheck : check file p = .ok checked)
    (hclean : hasErrors checked.diagnostics = false) (config : Config) :
    lintSource config file source = .ok (foundAt checked (config.level redundantClosure)) := by
  -- where the lint is allowed, it is not run
  by_cases hlevel : config.level redundantClosure = .allow
  · have hdisabled : config.isEnabled redundantClosure = false := by
      rw [Config.isEnabled, hlevel]
      rfl
    rw [lintSource_eq_of_parse hparse, lintProgram, hcheck]
    change Except.mapError _ (if hasErrors checked.diagnostics then _ else _) = _
    rw [hclean, lintChecked, Eta.runLints_disabled hdisabled, (check_clean hcheck hclean).1, foundAt,
      if_pos hlevel]
    rfl
  · have henabled : config.isEnabled redundantClosure = true := bne_iff_ne.mpr hlevel
    rw [Eta.lintSource_eq hparse hcheck hclean henabled, foundAt, if_neg hlevel]
    rfl

theorem foundAt_shows (checked : Checked) (level : Level) :
    ∀ d ∈ foundAt checked level, d.ShowsLevel level := by
  intro d hd
  unfold foundAt at hd
  split at hd
  · nomatch hd
  · obtain ⟨r, -, rfl⟩ := List.mem_map.mp ((List.mergeSort_perm _ _).mem_iff.mp hd)
    exact ⟨rfl, rfl, rfl⟩

/-- Where findings are reported at all, they are the same ones. -/
theorem foundAt_same (checked : Checked) {level level' : Level} (h : level ≠ .allow)
    (h' : level' ≠ .allow) :
    List.Forall₂ Diagnostic.SameButLevel (foundAt checked level) (foundAt checked level') := by
  -- the order goes by the spans, which no level changes
  have hsorted (l : Level) : inReportingOrder ((Eta.allFindings checked).map fun r =>
      r.2.diagnostic redundantClosure l r.1.span)
        = ((Eta.allFindings checked).mergeSort fun a b => a.1.span.le b.1.span).map fun r =>
          r.2.diagnostic redundantClosure l r.1.span := by
    refine (List.map_mergeSort fun a _ b _ => ?_).symm
    rfl
  rw [foundAt, foundAt, if_neg h, if_neg h', hsorted, hsorted, List.forall₂_map_left_iff,
    List.forall₂_map_right_iff]
  exact List.forall₂_same.mpr fun r _ => ⟨rfl, rfl, rfl, rfl, rfl⟩

/-- **Levels never change what is found.** Where reading and checking a text reports anything, that
is what linting gives under every configuration. Otherwise linting gives findings, by the level of
the lint alone: none where it is allowed, and the same ones where it warns and where it is
denied. -/
theorem levels_keep_findings {answer : Except Diagnostic Syntax.Program}
    (h : Syntax.parseFile file source = .ok answer) :
    ∃ front, frontEnd file source = .ok front ∧ OnePhase front ∧
      (front ≠ [] → ∀ config, lintSource config file source = .ok front) ∧
      (front = [] → ∃ found : Level → List Diagnostic,
        (∀ config, lintSource config file source = .ok (found (config.level redundantClosure))) ∧
        (∀ level, ∀ d ∈ found level, d.ShowsLevel level) ∧ found .allow = [] ∧
        List.Forall₂ Diagnostic.SameButLevel (found .warn) (found .deny)) := by
  obtain ⟨front, hfront, hphase⟩ := frontEnd_errors h
  refine ⟨front, hfront, hphase, lintSource_of_errors h hfront, fun hnil => ?_⟩
  subst hnil
  obtain ⟨p, hparse, rfl⟩ | ⟨d, rfl, -⟩ := Syntax.parseFile_eq_ok h
  · obtain ⟨checked, hcheck⟩ := check_succeeds hparse file
    have hnone := Except.ok.inj ((frontEnd_of_parse hparse hcheck).symm.trans hfront)
    have hclean : hasErrors checked.diagnostics = false := by
      rw [hnone]
      rfl
    -- the findings are those of the checked program, which no configuration enters
    exact ⟨foundAt checked, lintSource_of_clean hparse hcheck hclean, foundAt_shows checked, rfl,
      foundAt_same checked nofun nofun⟩
  -- a text that cannot be read has an error to report
  · rw [frontEnd, h] at hfront
    nomatch Except.ok.inj hfront

/-- A program with one redundant closure. -/
def deniedCall : String :=
  "fn inc(a: i32) -> i32;\nfn apply(f: fn(i32) -> i32);\nfn main() \x7b\n  apply(|x| inc(x));\n\x7d\n"

/-- **Its closure is found** at both of the levels at which findings are reported. -/
theorem deniedCall_levels : ∃ answer front, Syntax.parseFile none deniedCall = .ok answer ∧
    frontEnd none deniedCall = .ok front ∧ front = [] ∧
    ∃ found : Level → List Diagnostic,
      (∀ config, lintSource config none deniedCall = .ok (found (config.level redundantClosure))) ∧
      (∀ level, ∀ d ∈ found level, d.ShowsLevel level) ∧ found .allow = [] ∧
      List.Forall₂ Diagnostic.SameButLevel (found .warn) (found .deny) ∧
      (found .deny).length = 1 := by
  have hfront : (frontEnd none deniedCall).toOption = some [] := by decide +kernel
  -- the text is linted once, at the standard level
  have hone : ((lintSource .standard none deniedCall).toOption.map List.length) = some 1 := by
    decide +kernel
  cases hanswer : Syntax.parseFile none deniedCall with
  | error fault =>
    rw [frontEnd, hanswer] at hfront
    nomatch hfront
  | ok answer =>
    obtain ⟨front, hfront', -, -, hfound⟩ := levels_keep_findings hanswer
    obtain rfl : front = [] := by
      rw [hfront'] at hfront
      exact Option.some.inj hfront
    obtain ⟨found, hlint, hshows, hallow, hsame⟩ := hfound rfl
    refine ⟨answer, [], rfl, hfront', rfl, found, hlint, hshows, hallow, hsame, ?_⟩
    rw [hlint .standard] at hone
    exact hsame.length_eq.symm.trans (Option.some.inj hone)

end ClosureLint
