import ClosureLint.Source.Position

/-!
# Cutting a piece out of a text

Offsets are signed: a negative one counts from the end, and one that lies outside the text stands
for its nearer end. A piece whose end lies before its start is empty.

* `slice` — the piece between two offsets.
* `Span.textIn` — the text of a span.
-/

namespace ClosureLint

/-- The place that the signed offset `i` stands for in a text of length `n`. -/
def clampOffset (n : Nat) (i : Int) : Nat :=
  if i < 0 then (i + n).toNat else min i.toNat n

/-- The piece of `cs` from offset `a` up to offset `b`. -/
def slice (cs : List Char) (a b : Int) : List Char :=
  let start := clampOffset cs.length a
  (cs.drop start).take (clampOffset cs.length b - start)

/-- Offsets that lie inside the text cut out exactly what stands between them. -/
theorem slice_eq_take_drop {cs : List Char} {a b : Nat} (hab : a ≤ b) (hb : b ≤ cs.length) :
    slice cs a b = (cs.drop a).take (b - a) := by
  have ha : ¬ (a : Int) < 0 := by omega
  have hb' : ¬ (b : Int) < 0 := by omega
  simp only [slice, clampOffset, ha, hb', if_false, Int.toNat_natCast]
  rw [Nat.min_eq_left hb, Nat.min_eq_left (Nat.le_trans hab hb)]

/-- The text of a span, if there is a text and both offsets are known. -/
def Span.textIn (s : Span) (source : Option String) : Option String :=
  match source, s.startPos, s.endPos with
  | some text, some a, some b => some (String.ofList (slice text.toList a b))
  | _, _, _ => none

end ClosureLint
