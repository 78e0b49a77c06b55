import ClosureLint.Proofs.Checking.Visits
import ClosureLint.Syntax.Parse

/-!
# Checked programs

* `check_eq_ok` — what a checked program comes from.
* `check_visited`, `check_visits` — every expression of a checked program was checked once.
* `checkedSource?` — the checked program of a source text.
-/

namespace ClosureLint.Typing

open ClosureLint.Core

/-- What a checked program comes from: its declarations and the check of its bodies. -/
theorem check_eq_ok {file : Option String} {p : Syntax.Program} {checked : Checked}
    (h : check file p = .ok checked) :
    ∃ declared final, Gives (declare file p) {} () declared ∧
      Gives (checkBodies file (structNames p) declared 1 declared.bodies)
        { diagnostics := declared.diagnostics } checked.functions final ∧
      checked = ⟨checked.functions, final.tables, declared.registry, final.diagnostics,
        if p.source.isEmpty then none else some p.source⟩ := by
  obtain ⟨⟨_, declared⟩, hd, h⟩ := bind_eq_ok.mp h
  obtain ⟨⟨functions, final⟩, hb, h⟩ := bind_eq_ok.mp h
  obtain rfl := pure_eq_ok.mp h
  exact ⟨declared, final, hd, mapError_eq_ok.mp hb, rfl⟩

/-- The text that is kept with a checked program. -/
theorem check_source {file : Option String} {p : Syntax.Program} {checked : Checked}
    (h : check file p = .ok checked) :
    checked.source = if p.source.isEmpty then none else some p.source := by
  obtain ⟨declared, final, -, -, he⟩ := check_eq_ok h
  rw [he]

/-- A program whose declarations and bodies can be checked can be checked. -/
theorem check_of_gives {file : Option String} {p : Syntax.Program} {declared : Declared}
    {functions : List Function} {final : State} (hd : Gives (declare file p) {} () declared)
    (hb : Gives (checkBodies file (structNames p) declared 1 declared.bodies)
      { diagnostics := declared.diagnostics } functions final) :
    check file p = .ok ⟨functions, final.tables, declared.registry, final.diagnostics,
      if p.source.isEmpty then none else some p.source⟩ :=
  bind_eq_ok.mpr ⟨((), declared), hd,
    bind_eq_ok.mpr ⟨(functions, final), mapError_eq_ok.mpr hb, pure_eq_ok.mpr rfl⟩⟩

/-- **Every expression of a checked program is checked once**, in the context of one of its bodies,
and no two of its expressions share an identity. -/
theorem check_visited {file : Option String} {p : Syntax.Program} {checked : Checked}
    (h : check file p = .ok checked) :
    (∃ last, Numbered 1 last (checked.functions.flatMap Function.walk)) ∧
      ∃ declared final, Gives (declare file p) {} () declared ∧ final.tables = checked.tables ∧
        declared.registry = checked.registry ∧
        ∀ x ∈ checked.functions.flatMap Function.walk, ∃ b ∈ declared.bodies,
          Visited (contextOf file (structNames p) declared b.selfType) x final := by
  obtain ⟨declared, final, hd, hb, he⟩ := check_eq_ok h
  have hfresh : FreshFrom 1 ({ diagnostics := declared.diagnostics } : State).tables := .refl {}
  obtain ⟨-, hn, hv⟩ := checkBodies_visits _ hfresh hb
  refine ⟨hn, declared, final, hd, by rw [he], by rw [he], fun x hx => ?_⟩
  obtain ⟨f, hf, hx⟩ := List.mem_flatMap.mp hx
  obtain ⟨b, hb, hv⟩ := hv f hf
  exact ⟨b, hb, hv x hx⟩

/-- All expressions are checked under the declarations of the program. -/
theorem check_visits {file : Option String} {p : Syntax.Program} {checked : Checked}
    (h : check file p = .ok checked) :
    (∃ last, Numbered 1 last (checked.functions.flatMap Function.walk)) ∧
      ∃ declared, Gives (declare file p) {} () declared ∧
        ∀ x ∈ checked.functions.flatMap Function.walk, ∃ c final,
          c.registry = declared.registry ∧ c.targets = declared.targets ∧
            final.tables = checked.tables ∧ Visited c x final := by
  obtain ⟨hn, declared, final, hd, htables, -, hv⟩ := check_visited h
  refine ⟨hn, declared, hd, fun x hx => ?_⟩
  obtain ⟨b, -, hv⟩ := hv x hx
  exact ⟨_, final, rfl, rfl, htables, hv⟩

/-- The checked program of a source text, if it can be read and checked. -/
def checkedSource? (file : Option String) (source : String) : Option Checked :=
  (Syntax.parse source).toOption.bind fun p => (check file p).toOption

theorem checkedSource?_eq_some {file : Option String} {source : String} {checked : Checked} :
    checkedSource? file source = some checked ↔
      ∃ p, Syntax.parse source = .ok p ∧ check file p = .ok checked := by
  simp only [checkedSource?, Option.bind_eq_some_iff, toOption_eq_some]

end ClosureLint.Typing
