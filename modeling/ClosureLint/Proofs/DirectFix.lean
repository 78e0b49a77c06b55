import ClosureLint.Proofs.Checking.Bodies
import ClosureLint.Proofs.DirectCalls
import ClosureLint.Proofs.Grammar.Callees
import ClosureLint.Proofs.Grammar.Complete.Items
import ClosureLint.Proofs.Grammar.Faces
import ClosureLint.Proofs.Grammar.ItemHoles
import ClosureLint.Proofs.Grammar.Sound.Items
import ClosureLint.Proofs.Splicing

/-!
# Applying a direct-call fix to the text

A fix is text: the closure's extent makes way for the text of the callee's extent. Neither carries
the parentheses or the macro invocations that stand around its expression, so what comes of the text
is a matter of tokens and of grammar. It is what the fix means: the tree with the callee in the place
of the closure.

* `Lowering.node_loc` — a node lies where it was read.
* `direct_fix` — the text after the fix has the tree after the fix.
* `wrappedCall_fixed` — a fix between parentheses and inside of a macro invocation.
-/

namespace ClosureLint.Eta

open ClosureLint.Core
open ClosureLint.Syntax (parse)
open ClosureLint.Typing

/-- A node lies where it was read, whatever the file and the macro invocations around it. -/
theorem Lowering.node_loc (c : Lowering) (l : Loc) : (c.node l).span.toLoc = l := by
  unfold Lowering.node
  split <;> rfl

variable {file : Option String} {source : String} {p : Syntax.Program} {checked : Checked}
  {F : Function} {place x : Expr} {node call : Node} {params : List Param}
  {ret : Option Syntax.TypeExpr} {callee : Expr} {args : List Expr} {f : Finding}
  {items : List Syntax.Item} {D : List Token}

/-- A closure that stands where a finding may be has tokens of its own in the text. With others in their
place, which form an expression, the text has the tree in which the closure is replaced. -/
theorem held_hole (hparse : parse source = .ok p) (hcheck : check file p = .ok checked)
    (hclean : hasErrors checked.diagnostics = false) (hF : F ∈ checked.functions)
    (hx : Syntax.IsHeld x F.walk) :
    Syntax.HasHole Syntax.IsItems (lex source).tokens x fun z items' =>
      (allFunctions (.ofItems source items')).map plainFunction
        = (lowerFunctions file 1 (allFunctions p)).map
          (Except.map fun G => (G.replace x.id z).bare) := by
  obtain ⟨-, items, hitems, rfl⟩ := Syntax.parse_sound hparse
  obtain ⟨-, hfunctions⟩ := check_clean hcheck hclean
  rw [hfunctions] at hF
  obtain ⟨r, hr, hrF⟩ := List.mem_filterMap.mp hF
  exact hitems.hole (toOption_eq_some.mp hrF ▸ hr) hx

/-- The text that is suggested is what stands where the callee does. -/
theorem replacement_eq_slice (hcheck : check file (.ofItems source items) = .ok checked)
    (hnonempty : source.isEmpty = false)
    (hfinding : checkClosure checked.query (.closure node params ret (.call call callee args))
      = .ok (some f)) (hloc : callee.span.toLoc = Syntax.extentOf D) :
    f.replacement = some (String.ofList
      (slice source.toList (Syntax.startOf D).offset (Syntax.stopOf D).offset)) := by
  have hsource : checked.source = some source := by
    rw [check_source hcheck, Syntax.Program.ofItems, hnonempty]
    rfl
  obtain ⟨-, -, -, -, -, rfl⟩ := checkClosure_call hfinding
  exact (congrArg callee.span.textIn hsource).trans (Span.textIn_between hloc source)

/-- **The text after a direct-call fix has the tree after the fix.** The closure that a finding is
about has an extent in the source text, and with the replacement in place of that extent, the text
reads as a program again. Up to positions, macro marks and identities, its functions are the old
ones with the callee in the place of that closure, the only node of its identity. -/
theorem direct_fix (hparse : parse source = .ok p) (hcheck : check file p = .ok checked)
    (hclean : hasErrors checked.diagnostics = false) (hF : F ∈ checked.functions)
    (hplace : place ∈ F.walk) (hx : x ∈ candidates place)
    (hclosure : x = .closure node params ret (.call call callee args))
    (hfinding : checkClosure checked.query x = .ok (some f)) :
    ∃ (s e : Nat) (text : String), x.span.startPos = some ↑s ∧ x.span.endPos = some ↑e ∧ s ≤ e ∧
      e ≤ source.length ∧ f.replacement = some text ∧
      (∀ y ∈ checked.functions.flatMap Function.walk, y.id = x.id → y = x) ∧
      ∃ p', parse (String.ofList (splice source.toList s e text.toList)) = .ok p' ∧
        (lowerFunctions file 1 (allFunctions p')).map (Except.map Function.bare)
          = (lowerFunctions file 1 (allFunctions p)).map
              (Except.map fun G => (G.replace x.id callee).bare) := by
  -- the closure stands among the tokens of the text where any expression can stand
  have hheld : Syntax.IsHeld x F.walk := ⟨by rw [hclosure]; rfl, place, hplace, hx⟩
  have hhole := held_hole hparse hcheck hclean hF hheld
  obtain ⟨hstuck, items, hitems, rfl⟩ := Syntax.parse_sound hparse
  obtain ⟨q, hlexes⟩ := lexes_of_lex hstuck
  obtain ⟨before, C, behind, ps, r, body, c, n, htokens, hopen, hclose, hC, hnode, hhole⟩ := hhole
  -- some of its tokens form the callee, and the finding's text is theirs
  have hcallee : Syntax.Covers C callee := hC.closure_callee (hnode.symm.trans hclosure)
  obtain ⟨L, D, R, d, c', n', rfl, hD, hd, hspan⟩ := hcallee
  have hDne : D ≠ [] := hD.starts.ne_nil
  rw [htokens] at hlexes
  obtain ⟨q', us, hle, hlength, hspliced, hfaces⟩ :=
    Syntax.spliced_lexes hlexes hopen hclose hDne
  have hloc : x.span.toLoc = Syntax.extentOf (L ++ (D ++ R)) := by
    rw [hnode]
    exact Lowering.node_loc c _
  have hnonempty : source.isEmpty = false := isEmpty_of_tokens <| by
    rw [htokens]
    simp [hDne]
  have hreplacement := replacement_eq_slice hcheck hnonempty (hclosure ▸ hfinding)
    (hspan ▸ Lowering.node_loc c' _)
  -- the text after the fix has the tokens of the program with the callee's in the closure's place
  obtain ⟨items', hitems', htree⟩ := hhole D d hD
  obtain ⟨items'', hitems'', hsame⟩ := hitems'.moved rfl hfaces
  generalize hfixed : splice source.toList (Syntax.startOf (L ++ (D ++ R))).offset
    (Syntax.stopOf (L ++ (D ++ R))).offset
    (slice source.toList (Syntax.startOf D).offset (Syntax.stopOf D).offset) = fixed at hspliced
  have hlexed : lex (String.ofList fixed) = ⟨us, none⟩ :=
    lex_iff.mpr ⟨q', by rwa [String.toList_ofList]⟩
  have hparsed : parse (String.ofList fixed) = .ok (.ofItems (String.ofList fixed) items'') := by
    apply Syntax.parse_complete <;> rw [hlexed]
    exact hitems''
  refine ⟨_, _, _, congrArg Loc.startPos hloc, congrArg Loc.endPos hloc, hle, hlength,
    hreplacement, ?_, .ofItems (String.ofList fixed) items'', ?_, ?_⟩
  · obtain ⟨⟨last, hnumbered⟩, -⟩ := check_visits hcheck
    have hmem : x ∈ checked.functions.flatMap Function.walk :=
      List.mem_flatMap.mpr ⟨F, hF, Syntax.IsHeld.mem_flatMap hheld⟩
    exact fun y hy => hnumbered.eq_of_id hy hmem
  · rw [String.toList_ofList, hfixed]
    exact hparsed
  · rw [lowerFunctions_bare]
    refine Eq.trans ?_ (htree callee (hd ▸ Syntax.numbered_bare c' n' d))
    simp only [Syntax.allFunctions_ofItems, List.map_append, hsame]

/-! ### A fix in parentheses -/

/-- Whether there is a finding for a candidate, and both pass `test`. -/
def reports (checked : Checked) (test : Expr → Finding → Bool) : Bool :=
  checked.functions.any fun F => F.walk.any fun place => (candidates place).any fun x =>
    match checkClosure checked.query x with
    | .ok (some f) => test x f
    | _ => false

theorem exists_of_reports {test : Expr → Finding → Bool} (h : reports checked test = true) :
    ∃ F ∈ checked.functions, ∃ place ∈ F.walk, ∃ x ∈ candidates place, ∃ f,
      checkClosure checked.query x = .ok (some f) ∧ test x f = true := by
  obtain ⟨F, hF, h⟩ := List.any_eq_true.mp h
  obtain ⟨place, hplace, h⟩ := List.any_eq_true.mp h
  obtain ⟨x, hx, h⟩ := List.any_eq_true.mp h
  split at h
  · next f hf => exact ⟨F, hF, place, hplace, x, hx, f, hf, h⟩
  · exact absurd h Bool.false_ne_true

/-- Whether an expression is a closure whose body is a call, with the offsets `s` and `e`. -/
def isDirectCallAt (s e : Nat) (x : Expr) : Bool :=
  match x with
  | .closure node _ _ (.call ..) => node.span.startPos == some ↑s && node.span.endPos == some ↑e
  | _ => false

theorem eq_of_isDirectCallAt {s e : Nat} (h : isDirectCallAt s e x = true) :
    ∃ node params ret call callee args, x = .closure node params ret (.call call callee args) ∧
      x.span.startPos = some ↑s ∧ x.span.endPos = some ↑e := by
  unfold isDirectCallAt at h
  split at h
  · obtain ⟨hs, he⟩ := Bool.and_eq_true_iff.mp h
    exact ⟨_, _, _, _, _, _, rfl, eq_of_beq hs, eq_of_beq he⟩
  · exact absurd h Bool.false_ne_true

/-- A program that calls `apply` with `arg`. -/
def wrappedCall (arg : String) : String :=
  "fn inc(a: i32) -> i32;\nfn apply(f: fn(i32) -> i32);\n"
    ++ "fn main() \x7b\n  apply(id!((" ++ arg ++ ")));\n\x7d\n"

/-- **What stands around closure and callee stays out of it**: a macro and parentheses around the
closure are kept, those around the callee go. -/
theorem wrappedCall_fixed : ∃ p p' i callee, parse (wrappedCall "|x| (inc)(x)") = .ok p ∧
    parse (wrappedCall "inc") = .ok p' ∧
      (lowerFunctions none 1 (allFunctions p')).map (Except.map Function.bare)
        = (lowerFunctions none 1 (allFunctions p)).map
            (Except.map fun G => (G.replace i callee).bare) := by
  have htest : ((checkedSource? none (wrappedCall "|x| (inc)(x)")).any fun c =>
      !hasErrors c.diagnostics
        && reports c fun x f => isDirectCallAt 77 89 x && f.replacement == some "inc") = true := by
    decide +kernel
  obtain ⟨checked, hsource, htest⟩ := (Option.any_eq_true _ _).mp htest
  obtain ⟨hclean, hreports⟩ := Bool.and_eq_true_iff.mp htest
  obtain ⟨F, hF, place, hplace, x, hx, f, hf, htest⟩ := exists_of_reports hreports
  obtain ⟨hat, htext⟩ := Bool.and_eq_true_iff.mp htest
  obtain ⟨node, params, ret, call, callee, args, hclosure, hstart, hend⟩ := eq_of_isDirectCallAt hat
  obtain ⟨p, hparse, hcheck⟩ := checkedSource?_eq_some.mp hsource
  obtain ⟨s, e, text, hs, he, -, -, hreplacement, -, p', hp', htree⟩ :=
    direct_fix hparse hcheck (by simpa using hclean) hF hplace hx hclosure hf
  -- the closure stands where the test says
  obtain rfl : 77 = s := by exact_mod_cast Option.some.inj (hstart.symm.trans hs)
  obtain rfl : 89 = e := by exact_mod_cast Option.some.inj (hend.symm.trans he)
  obtain rfl : text = "inc" := Option.some.inj (hreplacement.symm.trans (eq_of_beq htext))
  refine ⟨p, p', x.id, callee, hparse, ?_, htree⟩
  have hspliced : String.ofList (splice (wrappedCall "|x| (inc)(x)").toList 77 89 "inc".toList)
      = wrappedCall "inc" := by decide +kernel
  exact hspliced ▸ hp'

end ClosureLint.Eta
