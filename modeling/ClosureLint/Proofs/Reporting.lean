import ClosureLint.Proofs.Candidates
import ClosureLint.Proofs.Checking.Bodies
import ClosureLint.Proofs.Core.Spans
import ClosureLint.Proofs.Positions
import ClosureLint.Proofs.Totality
import Mathlib.Data.List.Nodup

/-!
# What is reported, each once and in order

A lint run goes over all bodies of a program. Every closure that is handed to a call is a candidate
of that call alone, so it is looked at once; it starts with a bar of its own, so no two of them share
a line and a column.

* `Reported` — a closure stands where the lint looks for it, and is found redundant.
* `findingsAt` — the findings that a place is responsible for.
* `lintSource_eq` — the diagnostics of a text without errors are those for the findings at all places.
* `lint_reports` — they are in one-to-one correspondence with the closures reported, in order.
-/

namespace ClosureLint

open ClosureLint.Core
open ClosureLint.Syntax (parse)
open ClosureLint.Typing

/-- The span `s` starts in front of the span `t`, at a place that is known. -/
def Span.StartsBefore (s t : Span) : Prop :=
  ∃ p q : Pos, s.line = some ↑p.line ∧ s.column = some ↑p.column ∧
    t.line = some ↑q.line ∧ t.column = some ↑q.column ∧ p.Before q

namespace Eta

variable {names : String → Prop} {q : Query} {config : Config} {file : Option String}
  {source : String} {p : Syntax.Program} {checked : Checked}

/-- The closure `x` is handed to a call that the user wrote, or is what a method is called on there,
and `f` is what is found out about it. -/
def Reported (checked : Checked) (x : Expr) (f : Finding) : Prop :=
  ∃ F ∈ checked.functions, ∃ place ∈ F.walk, place.span.fromMacro = false ∧
    x ∈ candidates place ∧ checkClosure checked.query x = .ok (some f)

/-! ### The findings of a run -/

/-- The closures that a place is responsible for and that are redundant, with the findings. -/
def findingsAt (q : Query) (place : Expr) : List (Expr × Finding) :=
  if place.span.fromMacro then []
  else (candidates place).filterMap fun x =>
    (checkClosure q x).toOption.join.map fun f => (x, f)

/-- The diagnostic for a finding, under a configuration. -/
def diagnosticOf (config : Config) (r : Expr × Finding) : Diagnostic :=
  r.2.diagnostic redundantClosure (config.level redundantClosure) r.1.span

theorem mem_findingsAt {place x : Expr} {f : Finding} :
    (x, f) ∈ findingsAt q place ↔ place.span.fromMacro = false ∧ x ∈ candidates place ∧
      checkClosure q x = .ok (some f) := by
  unfold findingsAt
  cases place.span.fromMacro with
  -- a place inside of a macro invocation has no findings
  | true => exact ⟨fun h => absurd h List.not_mem_nil, fun h => nomatch h.1⟩
  | false =>
    simp only [Bool.false_eq_true, if_false, List.mem_filterMap, true_and]
    constructor
    · rintro ⟨y, hy, h⟩
      obtain ⟨g, hg, h⟩ := Option.map_eq_some_iff.mp h
      obtain ⟨rfl, rfl⟩ := Prod.mk.inj h
      exact ⟨hy, toOption_eq_some.mp (Option.join_eq_some_iff.mp hg)⟩
    · rintro ⟨hx, h⟩
      refine ⟨x, hx, Option.map_eq_some_iff.mpr ⟨f, ?_, rfl⟩⟩
      exact Option.join_eq_some_iff.mpr (toOption_eq_some.mpr h)

/-- The findings of a place are about candidates of it, each taken once. -/
theorem findingsAt_sublist (q : Query) (place : Expr) :
    ((findingsAt q place).map Prod.fst).Sublist (candidates place) := by
  unfold findingsAt
  split
  · exact List.nil_sublist _
  -- each candidate gives one finding or none
  · induction candidates place with
    | nil => exact .slnil
    | cons x xs ih =>
      rw [List.filterMap_cons]
      cases (checkClosure q x).toOption.join with
      | none => exact ih.cons x
      | some f => exact ih.cons_cons x

/-- Where the detectors have an answer for everything, a place gives its findings. -/
theorem checkPlace_eq (h : q.Regular names) (henabled : config.isEnabled redundantClosure = true)
    (place : Expr) :
    checkPlace config q place = .ok ((findingsAt q place).map (diagnosticOf config)) := by
  unfold checkPlace findingsAt
  rw [henabled]
  cases place.span.fromMacro with
  | true => rfl
  | false =>
    -- the detectors answer for every candidate, so a failure is not kept apart from no finding
    have hone (x : Expr) : (do
        return (← checkClosure q x).map fun f =>
          f.diagnostic redundantClosure (config.level redundantClosure) x.span : Except Fault _)
          = .ok (((checkClosure q x).toOption.join.map fun f => (x, f)).map (diagnosticOf config)) := by
      obtain ⟨found, hfound, -⟩ := checkClosure_succeeds h x
      rw [hfound]
      cases found <;> rfl
    change (List.mapM _ _ >>= _) = _
    rw [mapM_eq_ok hone]
    refine congrArg Except.ok ?_
    simp only [Bool.false_eq_true, if_false, List.filterMap_map, List.map_filterMap]
    rfl

/-- All findings in the functions that were checked, place by place. -/
def allFindings (checked : Checked) : List (Expr × Finding) :=
  (checked.functions.flatMap Function.walk).flatMap (findingsAt checked.query)

theorem mem_allFindings {x : Expr} {f : Finding} :
    (x, f) ∈ allFindings checked ↔ Reported checked x f := by
  simp only [allFindings, List.mem_flatMap, mem_findingsAt, Reported]
  constructor
  · rintro ⟨place, ⟨F, hF, hplace⟩, h⟩
    exact ⟨F, hF, place, hplace, h⟩
  · rintro ⟨F, hF, place, hplace, h⟩
    exact ⟨place, ⟨F, hF, hplace⟩, h⟩

/-- The diagnostics of a lint run are those for all findings, in reporting order. -/
theorem runLints_eq (h : checked.query.Regular names)
    (henabled : config.isEnabled redundantClosure = true) :
    runLints [config] checked.query checked.functions
      = .ok (inReportingOrder ((allFindings checked).map (diagnosticOf config))) := by
  have hplace (e : Expr) : ([config].mapM fun c => checkPlace c checked.query e)
      = .ok [(findingsAt checked.query e).map (diagnosticOf config)] := by
    rw [List.mapM_cons, checkPlace_eq h henabled e]
    rfl
  have hflat (es : List Expr) :
      (es.map fun e => [(findingsAt checked.query e).map (diagnosticOf config)]).flatten.flatten
        = (es.flatMap (findingsAt checked.query)).map (diagnosticOf config) := by
    induction es with
    | nil => rfl
    | cons e es ih =>
      rw [List.map_cons, List.flatten_cons, List.flatten_append, ih, List.flatMap_cons,
        List.map_append, List.flatten_singleton]
  -- one lint runs, so the findings of a place are a list of one list
  have hfound : findingsIn [config] checked.query checked.functions
      = .ok ((allFindings checked).map (diagnosticOf config)) := by
    unfold findingsIn
    dsimp only
    rw [mapM_eq_ok hplace]
    exact congrArg Except.ok (hflat _)
  unfold runLints
  rw [hfound]
  rfl

/-- A lint that is not enabled finds nothing. -/
theorem runLints_disabled (henabled : config.isEnabled redundantClosure = false) (q : Query)
    (functions : List Function) : runLints [config] q functions = .ok [] := by
  have hplace (e : Expr) : ([config].mapM fun c => checkPlace c q e) = .ok [[]] := by
    rw [List.mapM_cons, checkPlace, henabled]
    rfl
  have hflat (es : List Expr) :
      (es.map fun _ => ([[]] : List (List Diagnostic))).flatten.flatten = [] := by
    induction es with
    | nil => rfl
    | cons e es ih => rw [List.map_cons, List.flatten_cons, List.flatten_append, ih]; rfl
  -- every place gives one empty list
  have hfound : findingsIn [config] q functions = .ok [] := by
    unfold findingsIn
    dsimp only
    rw [mapM_eq_ok hplace]
    exact congrArg Except.ok (hflat _)
  unfold runLints
  rw [hfound]
  exact congrArg Except.ok List.mergeSort_nil

/-- **The diagnostics of a text without errors** are those for all findings in it. -/
theorem lintSource_eq (hparse : parse source = .ok p) (hcheck : check file p = .ok checked)
    (hclean : hasErrors checked.diagnostics = false)
    (henabled : config.isEnabled redundantClosure = true) :
    lintSource config file source
      = .ok (inReportingOrder ((allFindings checked).map (diagnosticOf config))) := by
  -- a text that is read and checked without errors has no other diagnostics
  have hparsed : Syntax.parseFile file source = .ok (.ok p) := by
    unfold Syntax.parseFile
    rw [hparse]
    rfl
  have hlint : lintProgram config file p
      = .ok (inReportingOrder ((allFindings checked).map (diagnosticOf config))) := by
    unfold lintProgram lintChecked
    rw [hcheck]
    change (if hasErrors checked.diagnostics then _ else _) = _
    rw [hclean, runLints_eq (query_regular hcheck) henabled, (check_clean hcheck hclean).1]
    rfl
  unfold lintSource
  rw [hparsed]
  change (lintProgram config file p).mapError LintFault.check = _
  rw [hlint]
  rfl

/-! ### Order and multiplicity -/

/-- The line and the column of a finding. -/
def placeOf (r : Expr × Finding) : Syntax.Place := (r.1.span.line, r.1.span.column)

/-- What findings in one file are ordered by. -/
def rankOf (l : Syntax.Place) : Int × Int :=
  (l.1.getD Span.unknownRank, l.2.getD Span.unknownRank)

/-- Whether `a` is not reported behind `b`, in one file. -/
def notBehind (a b : Expr × Finding) : Bool :=
  if (rankOf (placeOf a)).1 = (rankOf (placeOf b)).1 then
    decide ((rankOf (placeOf a)).2 ≤ (rankOf (placeOf b)).2)
  else decide ((rankOf (placeOf a)).1 < (rankOf (placeOf b)).1)

theorem notBehind_trans (a b c : Expr × Finding) (h : notBehind a b = true)
    (h' : notBehind b c = true) : notBehind a c = true := by
  unfold notBehind at *
  grind

theorem notBehind_total (a b : Expr × Finding) : (notBehind a b || notBehind b a) = true := by
  unfold notBehind
  grind

/-- In one file, the reporting order is that of lines and columns. -/
theorem notBehind_eq_le {a b : Expr × Finding} (h : a.1.span.file = b.1.span.file) :
    notBehind a b = (diagnosticOf config a).span.le (diagnosticOf config b).span :=
  (if_pos (congrArg (Option.getD · "") h)).symm

/-- What is reported are closures, each of them once. -/
theorem allFindings_subperm (checked : Checked) :
    ((allFindings checked).map Prod.fst).Subperm (checked.functions.flatMap Function.walk) := by
  have hsub (es : List Expr) :
      ((es.flatMap (findingsAt checked.query)).map Prod.fst).Sublist (candidatesIn es) := by
    induction es with
    | nil => exact .slnil
    | cons e es ih =>
      rw [List.flatMap_cons, List.map_append, candidatesIn_cons]
      exact (findingsAt_sublist checked.query e).append ih
  exact (hsub _).subperm.trans (candidatesIn_functions checked.functions)

theorem isClosure_of_finding {x : Expr} {f : Finding} (h : checkClosure q x = .ok (some f)) :
    Syntax.isClosure x = true := by
  unfold checkClosure at h
  split at h
  · rfl
  · nomatch h

/-- The places of all findings are those of some tokens, each of them another one. -/
theorem allFindings_places (hparse : parse source = .ok p) (hcheck : check file p = .ok checked)
    (hclean : hasErrors checked.diagnostics = false) :
    ((allFindings checked).map placeOf).Nodup ∧
      ∀ r ∈ allFindings checked, ∃ t : Token, placeOf r = Syntax.placeOf t := by
  obtain ⟨hstuck, items, hitems, rfl⟩ := Syntax.parse_sound hparse
  obtain ⟨q, hlexes⟩ := lexes_of_lex hstuck
  -- each closure stands at the place of its first token
  have htokens : (Syntax.closurePlaces (checked.functions.flatMap Function.walk)).Subperm
      (Syntax.places (lex source).tokens) := by
    rw [(check_clean hcheck hclean).2]
    exact hitems.closurePlaces_subperm
  have hclosures : ((allFindings checked).map Prod.fst).filter Syntax.isClosure
      = (allFindings checked).map Prod.fst := by
    refine List.filter_eq_self.mpr fun x hx => ?_
    obtain ⟨⟨_, f⟩, hr, rfl⟩ := List.mem_map.mp hx
    obtain ⟨_, -, _, -, -, -, hf⟩ := mem_allFindings.mp hr
    exact isClosure_of_finding hf
  -- findings are about closures, so their places are some of these
  have hplaces : ((allFindings checked).map placeOf).Subperm
      (Syntax.places (lex source).tokens) := by
    obtain ⟨xs, hperm, hxs⟩ := (allFindings_subperm checked).filter Syntax.isClosure
    rw [hclosures] at hperm
    have hmap : (allFindings checked).map placeOf
        = ((allFindings checked).map Prod.fst).map fun x => (x.span.line, x.span.column) := by
      rw [List.map_map]
      rfl
    rw [hmap]
    exact ((hperm.symm.map _).subperm.trans (hxs.map _).subperm).trans htokens
  obtain ⟨us, hperm, hus⟩ := hplaces
  refine ⟨hperm.nodup_iff.mp (hus.nodup hlexes.places_nodup), fun r hr => ?_⟩
  have hmem : placeOf r ∈ us := hperm.mem_iff.mpr (List.mem_map_of_mem hr)
  obtain ⟨t, -, ht⟩ := List.mem_map.mp (hus.subset hmem)
  exact ⟨t, ht.symm⟩

theorem startsBefore_of_notBehind {a b : Expr × Finding} {t u : Token}
    (ha : placeOf a = Syntax.placeOf t) (hb : placeOf b = Syntax.placeOf u)
    (h : notBehind a b = true) (hne : placeOf a ≠ placeOf b) :
    a.1.span.StartsBefore b.1.span := by
  refine ⟨t.start, u.start, congrArg Prod.fst ha, congrArg Prod.snd ha, congrArg Prod.fst hb,
    congrArg Prod.snd hb, ?_⟩
  -- both places are those of tokens, so lines and columns are known
  rw [ha, hb] at hne
  unfold notBehind at h
  rw [ha, hb] at h
  unfold Syntax.placeOf at h hne
  unfold rankOf at h
  unfold Pos.Before
  simp only [Option.getD_some] at h
  split at h
  · next hline =>
    have hcolumn := of_decide_eq_true h
    -- on one line, equal columns would make it the same place
    refine .inr ⟨by exact_mod_cast hline, Nat.lt_of_le_of_ne (by exact_mod_cast hcolumn) fun he => ?_⟩
    rw [hline, he] at hne
    exact hne rfl
  · exact .inl (by exact_mod_cast of_decide_eq_true h)

/-- **The lint loses and duplicates nothing.** All bodies of a program without errors are lowered and
checked, each once, in the order of traits, impls and functions. The diagnostics stand for closures
with different identities, which are all those that a call the user wrote is responsible for and that
are found redundant, and each starts in front of the next. -/
theorem lint_reports (hparse : parse source = .ok p) (hcheck : check file p = .ok checked)
    (hclean : hasErrors checked.diagnostics = false)
    (henabled : config.isEnabled redundantClosure = true) :
    (∃ declared final, Gives (declare file p) {} () declared ∧
      declared.written = withBodies (allFunctions p) ∧
      Gives (checkBodies file (structNames p) declared 1 declared.bodies)
        { diagnostics := declared.diagnostics } checked.functions final) ∧
    checked.functions = (lowerFunctions file 1 (allFunctions p)).filterMap Except.toOption ∧
    ∃ found : List (Expr × Finding), (∀ x f, (x, f) ∈ found ↔ Reported checked x f) ∧
      (found.map fun r => r.1.id).Nodup ∧
      lintSource config file source = .ok (found.map (diagnosticOf config)) ∧
      found.Pairwise fun a b => a.1.span.StartsBefore b.1.span := by
  obtain ⟨-, honce⟩ := check_once hcheck hclean
  have hfunctions := (check_clean hcheck hclean).2
  have hsorted := List.mergeSort_perm (allFindings checked) notBehind
  have hmem (r : Expr × Finding) : r ∈ (allFindings checked).mergeSort notBehind ↔
      r ∈ allFindings checked := hsorted.mem_iff
  -- findings start at different tokens
  obtain ⟨hnodup, htokens⟩ := allFindings_places hparse hcheck hclean
  refine ⟨honce, hfunctions, (allFindings checked).mergeSort notBehind, fun x f => ?_, ?_, ?_, ?_⟩
  · rw [hmem, mem_allFindings]
  -- the findings are about different expressions of the walk, whose identities differ
  · obtain ⟨⟨last, hnumbered⟩, -⟩ := check_visits hcheck
    have hids : ((checked.functions.flatMap Function.walk).map Expr.id).Nodup :=
      List.pairwise_map.mpr (Distinct.of_numbered hnumbered)
    obtain ⟨xs, hperm, hxs⟩ := allFindings_subperm checked
    have hfound : (((allFindings checked).map Prod.fst).map Expr.id).Nodup :=
      (hperm.map Expr.id).nodup_iff.mp ((hxs.map Expr.id).nodup hids)
    rw [List.map_map] at hfound
    exact (hsorted.map fun r => r.1.id).nodup_iff.mpr hfound
  · -- all expressions lie in the one file, so only lines and columns matter
    rw [lintSource_eq hparse hcheck hclean henabled, inReportingOrder]
    have hfile : ∀ r ∈ allFindings checked, r.1.span.file = file := fun r hr => by
      have hwalk := (allFindings_subperm checked).subset (List.mem_map_of_mem hr)
      obtain ⟨F, hF, hx⟩ := List.mem_flatMap.mp hwalk
      rw [hfunctions] at hF
      obtain ⟨o, ho, hoF⟩ := List.mem_filterMap.mp hF
      exact file_lowerFunctions (toOption_eq_some.mp hoF ▸ ho) _ hx
    refine congrArg Except.ok (List.map_mergeSort fun a ha b hb => ?_).symm
    exact notBehind_eq_le ((hfile a ha).trans (hfile b hb).symm)
  -- sorted places are in order, and different ones strictly so
  · have hdistinct : ((allFindings checked).mergeSort notBehind).Pairwise fun a b =>
        placeOf a ≠ placeOf b :=
      List.pairwise_map.mp ((hsorted.map placeOf).nodup_iff.mpr hnodup)
    have hordered := List.pairwise_mergeSort notBehind_trans notBehind_total (allFindings checked)
    refine (hordered.and hdistinct).imp_of_mem fun {a b} ha hb h => ?_
    obtain ⟨t, ht⟩ := htokens a ((hmem a).mp ha)
    obtain ⟨u, hu⟩ := htokens b ((hmem b).mp hb)
    exact startsBefore_of_notBehind ht hu h.1 h.2

/-- A program with a redundant closure inside of another closure, and with one inside of a macro
invocation. -/
def nestedCalls : String :=
  "fn inc(a: i32) -> i32;\nfn apply(f: fn(i32) -> i32) -> i32;\n"
    ++ "fn main() \x7b\n  apply(|x| apply(|y| inc(y)));\n  id!(apply(|z| inc(z)));\n\x7d\n"

/-- **Only the inner closure that the user wrote** is reported. -/
theorem nestedCalls_reported : ∃ (checked : Checked) (found : List (Expr × Finding)),
    checkedSource? none nestedCalls = some checked ∧
    lintSource .standard none nestedCalls = .ok (found.map (diagnosticOf .standard)) ∧
    found.length = 1 ∧ ∀ x f, (x, f) ∈ found ↔ Reported checked x f := by
  -- one run of the checker finds both facts about the text
  have htest : ((checkedSource? none nestedCalls).any fun c =>
      !hasErrors c.diagnostics && (allFindings c).length == 1) = true := by decide +kernel
  obtain ⟨checked, hsource, htest⟩ := (Option.any_eq_true _ _).mp htest
  obtain ⟨hclean, hone⟩ := Bool.and_eq_true_iff.mp htest
  obtain ⟨p, hparse, hcheck⟩ := checkedSource?_eq_some.mp hsource
  have hclean : hasErrors checked.diagnostics = false := by simpa using hclean
  obtain ⟨-, -, found, hfound, -, hlint, -⟩ :=
    lint_reports hparse hcheck hclean (by decide : Config.standard.isEnabled redundantClosure = true)
  refine ⟨checked, found, hsource, hlint, ?_, hfound⟩
  have hdiagnostics := hlint.symm.trans (lintSource_eq hparse hcheck hclean (by decide))
  have hlength := congrArg List.length (Except.ok.inj hdiagnostics)
  rw [inReportingOrder, (List.mergeSort_perm _ _).length_eq, List.length_map, List.length_map]
    at hlength
  exact hlength.trans (eq_of_beq hone)

end Eta

end ClosureLint
