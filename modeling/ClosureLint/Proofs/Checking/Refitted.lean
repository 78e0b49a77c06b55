import ClosureLint.Proofs.Checking.BodyByBody
import ClosureLint.Proofs.Core.Refitting

/-!
# Checking a program again

A program in which some part of a body stands elsewhere declares what it declared before. So it can
be checked when its bodies can.

* `functions_numbered` — the functions of a checked program are numbered one after the other.
* `Refits.functions` — the functions after a part was put in another place.
* `CheckedBy.refitted`, `check_refitted` — a program is checked as its bodies are.
-/

namespace ClosureLint

open ClosureLint.Core
open ClosureLint.Syntax (FunctionDef Program)

variable {file : Option String} {p p' : Program} {i : NodeId} {y : Expr}

/-- Lowering several functions is lowering those with bodies, and numbering them. -/
theorem Core.lowerFunctions_eq (fs : List FunctionDef) (a : NodeId) :
    (lowerFunctions file a fs).filterMap Except.toOption = Function.numberAll a
      ((Typing.withBodies fs).map fun b => lowerFunction { file := file } b.1 b.2) := by
  induction fs generalizing a with
  | nil => rfl
  | cons f fs ih =>
    rw [lowerFunctions, Typing.withBodies, List.filterMap_cons]
    cases f.body with
    | none => exact ih a
    | some body => exact congrArg _ (ih _)

theorem Core.Function.numberAll_numberAll (fs : List Function) (a : NodeId) :
    Function.numberAll a (Function.numberAll a fs) = Function.numberAll a fs := by
  rw [← Function.numberAll_unnumbered (Function.numberAll a fs), Function.unnumbered_numberAll,
    Function.numberAll_unnumbered]

/-- The functions with a part in another place, numbered anew. -/
theorem Core.Refits.functions (h : Refits file p p' i y) :
    (lowerFunctions file 1 (allFunctions p')).filterMap Except.toOption = Function.numberAll 1
      (((lowerFunctions file 1 (allFunctions p)).filterMap Except.toOption).map
        (Function.replace i y)) := by
  have hmap {l l' : List (Except NoBody Function)} {g : Function → Function}
      (h : l'.map (Except.map Function.unnumbered) = l.map (Except.map g)) :
      (l'.filterMap Except.toOption).map Function.unnumbered
        = (l.filterMap Except.toOption).map g := by
    have hoption (g : Function → Function) (r : Except NoBody Function) :
        r.toOption.map g = (r.map g).toOption := by cases r <;> rfl
    simp only [List.map_filterMap, hoption]
    have hfilter := congrArg (List.filterMap Except.toOption) h
    rwa [List.filterMap_map, List.filterMap_map] at hfilter
  -- numbering forgets what the numbers were, so it is enough to compare without them
  have hbodies := hmap h.bodies
  rw [lowerFunctions_eq, ← Function.numberAll_numberAll, ← lowerFunctions_eq,
    ← Function.numberAll_unnumbered, hbodies,
    ← Function.numberAll_unnumbered (List.map (Function.replace i y) _), List.map_map]
  rfl

namespace Typing

variable {checked : Checked}

/-- The functions of a checked program are numbered one after the other. -/
theorem functions_numbered (h : check file p = .ok checked)
    (hclean : hasErrors checked.diagnostics = false) :
    Function.numberAll 1 checked.functions = checked.functions := by
  rw [(check_clean h hclean).2, lowerFunctions_eq, Function.numberAll_numberAll]

/-- Every expression of a program without errors was checked, and nothing was reported. -/
theorem visited_silent (h : check file p = .ok checked)
    (hclean : hasErrors checked.diagnostics = false) {x : Expr}
    (hx : x ∈ checked.functions.flatMap Function.walk) :
    ∃ c final, final.tables = checked.tables ∧ final.diagnostics = [] ∧ Visited c x final := by
  obtain ⟨declared, final, -, -, hbodies, hfinal, he⟩ := check_silent h hclean
  have hfresh : FreshFrom 1 ({ diagnostics := declared.diagnostics } : State).tables := .refl {}
  obtain ⟨-, -, hvisited⟩ := checkBodies_visits _ hfresh hbodies
  obtain ⟨f, hf, hx⟩ := List.mem_flatMap.mp hx
  obtain ⟨b, -, hvisited⟩ := hvisited f hf
  exact ⟨_, final, by rw [he], hfinal, hvisited x hx⟩

/-- What bodies are checked against does not depend on what they are. -/
theorem checkEach_headers {names : StructNames} (d : Declared) (fs : List Function)
    (signatures : List (Ty × Option Ty)) :
    checkEach file names d.headers fs signatures = checkEach file names d fs signatures :=
  checkEach_congr (show d.headers.registry = d.registry from rfl) rfl fs signatures

theorem signatures_headers (d : Declared) :
    d.headers.bodies.map Body.signature = d.bodies.map Body.signature := by
  rw [Declared.headers, List.map_map]
  rfl

/-- The bodies of declarations without diagnostics are all functions of the program. -/
theorem bodies_lowered {declared : Declared} (h : Gives (declare file p) {} () declared)
    (hclean : declared.diagnostics = []) (a : NodeId) :
    Function.numberAll a (declared.bodies.map (Body.lowered file))
      = (lowerFunctions file a (allFunctions p)).filterMap Except.toOption := by
  rw [lowerFunctions_eq, ← declare_written h hclean, Declared.written, List.map_map]
  rfl

/-- The functions of a checked program are those of its bodies. -/
theorem CheckedBy.functions {declared : Declared} {checks : List BodyCheck}
    (h : CheckedBy file p declared checks checked) :
    checked.functions = checks.map BodyCheck.function := by
  obtain ⟨final, -, rfl⟩ := h.checks
  rfl

/-- Where checking reports nothing, declaring did not either. -/
theorem CheckedBy.declares_clean {declared : Declared} {checks : List BodyCheck}
    (h : CheckedBy file p declared checks checked) (hclean : checked.diagnostics = []) :
    declared.diagnostics = [] := by
  obtain ⟨final, hchecks, rfl⟩ := h.checks
  exact List.prefix_nil.mp (hclean ▸ hchecks.extends.diagnostics)

/-- **A program is checked again** when its bodies are, after an expression was put in the place of
another. -/
theorem CheckedBy.refitted {declared : Declared} {checks : List BodyCheck} {Q : State → State → Prop}
    (h : CheckedBy file p declared checks checked) (hclean : checked.diagnostics = [])
    (hrefits : Refits file p p' i y)
    (hruns : ∀ final : State, final.tables = checked.tables → final.diagnostics = [] →
      Gives (checkEach file (structNames p) declared checked.functions
        (declared.bodies.map Body.signature)) {} () final →
      ∃ final', Gives (checkEach file (structNames p) declared
          (Function.numberAll 1 (checked.functions.map (Function.replace i y)))
          (declared.bodies.map Body.signature)) {} () final' ∧
        final'.diagnostics = [] ∧ Q final final') :
    ∃ final final', final.tables = checked.tables ∧ Q final final' ∧
      check file p' = .ok ⟨Function.numberAll 1 (checked.functions.map (Function.replace i y)),
        final'.tables, declared.registry, [], checked.source⟩ := by
  obtain ⟨final, hchecks, he⟩ := h.checks
  have hfinal : final.diagnostics = [] := by rw [he] at hclean; exact hclean
  have hdeclared : declared.diagnostics = [] := h.declares_clean hclean
  have hbodies := bodyChecks_iff.mpr ⟨checks, hchecks, h.bodies, h.functions.symm⟩
  obtain ⟨hfunctions, heach⟩ := (checkBodies_iff _).mp hbodies
  rw [hdeclared] at heach
  obtain ⟨final', heach', hfinal', hQ⟩ := hruns final (by rw [he]) hfinal heach
  -- the headers are the same, so the declarations are, up to the bodies
  obtain ⟨declared', hdeclare', hheaders⟩ := declare_again hrefits.headers h.declares
  have hdeclared' : declared'.diagnostics = [] :=
    (congrArg Declared.diagnostics hheaders).trans hdeclared
  have hregistry : declared'.registry = declared.registry :=
    (congrArg Declared.registry hheaders).trans rfl
  have hnames : structNames p'.headers = structNames p.headers :=
    congrArg structNames hrefits.headers
  change structNames p' = structNames p at hnames
  have hsource : p'.source = p.source := congrArg (fun p => p.source) hrefits.headers
  -- the bodies are those of the program that was refitted, under numbers of their own
  have hbodies' : Gives (checkBodies file (structNames p') declared' 1 declared'.bodies)
      { diagnostics := declared'.diagnostics }
      (Function.numberAll 1 (checked.functions.map (Function.replace i y))) final' := by
    refine (checkBodies_iff _).mpr ⟨?_, ?_⟩
    · rw [bodies_lowered hdeclare' hdeclared', hrefits.functions,
        ← bodies_lowered h.declares hdeclared, ← hfunctions]
    · rwa [hnames, hdeclared', ← checkEach_headers, ← signatures_headers, hheaders,
        signatures_headers, checkEach_headers]
  refine ⟨final, final', by rw [he], hQ, ?_⟩
  rw [check_of_gives hdeclare' hbodies', hfinal', hregistry, hsource, he]

/-- So it is whatever the declarations are. -/
theorem check_refitted {P : NodeId → NodeId → Prop} (h : check file p = .ok checked)
    (hclean : checked.diagnostics = []) (hrefits : Refits file p p' i y)
    (hruns : ∀ (d : Declared) (signatures : List (Ty × Option Ty)) (final : State),
      signatures.length = checked.functions.length → final.tables = checked.tables →
      final.diagnostics = [] →
      Gives (checkEach file (structNames p) d checked.functions signatures) {} () final →
      ∃ final', Gives (checkEach file (structNames p) d
          (Function.numberAll 1 (checked.functions.map (Function.replace i y))) signatures)
        {} () final' ∧ Matches P final final') :
    ∃ checked', check file p' = .ok checked' ∧ checked'.diagnostics = [] ∧
      checked'.functions = Function.numberAll 1 (checked.functions.map (Function.replace i y)) ∧
      checked.tables.Paired P checked'.tables ∧ checked'.source = checked.source := by
  obtain ⟨declared, checks, hchecked⟩ := check_iff_checkedBy.mp h
  -- there is one signature for each body
  have hlength : (declared.bodies.map Body.signature).length = checked.functions.length := by
    rw [hchecked.functions, ← hchecked.bodies, List.length_map, List.length_map, List.length_map]
  obtain ⟨final, final', htables, hmatch, hcheck'⟩ := hchecked.refitted hclean hrefits
    fun final htables hfinal heach => by
      obtain ⟨final', heach', hmatch⟩ := hruns _ _ final hlength htables hfinal heach
      exact ⟨final', heach', hmatch.diagnostics.trans hfinal, hmatch⟩
  exact ⟨_, hcheck', rfl, rfl, htables ▸ hmatch.tables, rfl⟩

end Typing

end ClosureLint
