import ClosureLint.Text.Hex

/-!
# Names that follow from a rule

* `ideographNamed?` — unified ideographs are named by their number.
* `syllableNamed?` — Hangul syllables are named by their sounds.
* `numberedNamed?` — a few other scripts have names that end in the number.
-/

namespace ClosureLint.Text

/-- The number that upper-case hexadecimal digits write. -/
def upperHex? (cs : List Char) : Option Nat :=
  if cs.all fun c => (hexValue? c).isSome && !c.isLower then
    some ((cs.filterMap hexValue?).foldl (fun n d => n * 16 + d) 0)
  else none

/-- Whether a number lies in one of the ranges. -/
def inRanges (ranges : List (Nat × Nat)) (n : Nat) : Bool :=
  ranges.any fun (first, last) => first ≤ n && n ≤ last

/-- The unified ideographs of Unicode 14. -/
def ideographs : List (Nat × Nat) :=
  [(0x3400, 0x4dbf), (0x4e00, 0x9fff), (0x20000, 0x2a6df), (0x2a700, 0x2b738), (0x2b740, 0x2b81d),
    (0x2b820, 0x2cea1), (0x2ceb0, 0x2ebe0), (0x30000, 0x3134a)]

/-- The ideograph whose number the four or five digits `cs` write. -/
def ideographNamed? (cs : List Char) : Option Nat :=
  if cs.length = 4 ∨ cs.length = 5 then (upperHex? cs).filter (inRanges ideographs) else none

/-- The initial sounds of syllables, in order. -/
def initials : List String :=
  ["G", "GG", "N", "D", "DD", "R", "M", "B", "BB", "S", "SS", "", "J", "JJ", "C", "K", "T", "P",
    "H"]

/-- The vowels of syllables, in order. -/
def vowels : List String :=
  ["A", "AE", "YA", "YAE", "EO", "E", "YEO", "YE", "O", "WA", "WAE", "OE", "YO", "U", "WEO", "WE",
    "WI", "YU", "EU", "YI", "I"]

/-- The final sounds of syllables, in order. -/
def finals : List String :=
  ["", "G", "GG", "GS", "N", "NJ", "NH", "D", "L", "LG", "LM", "LB", "LS", "LT", "LP", "LH", "M",
    "B", "BS", "S", "SS", "NG", "J", "C", "K", "T", "P", "H"]

/-- The longest of `sounds` that `cs` starts with, as its place among them and the rest of `cs`. -/
def longestSound (sounds : List String) (cs : List Char) : Option (Nat × List Char) :=
  sounds.zipIdx.foldl
    (fun best (sound, i) =>
      match sound.toList.isPrefixOf? cs, best with
      | some rest, some (_, shortest) =>
        if rest.length < shortest.length then some (i, rest) else best
      | some rest, none => some (i, rest)
      | none, _ => best)
    none

/-- The syllable of the sounds that `cs` spells. -/
def syllableNamed? (cs : List Char) : Option Nat := do
  let (l, cs) ← longestSound initials cs
  let (v, cs) ← longestSound vowels cs
  let (t, cs) ← longestSound finals cs
  if cs.isEmpty then some (0xac00 + (l * vowels.length + v) * finals.length + t) else none

/-- The scripts whose names end in the number, with what stands in front of it. -/
def numbered : List (String × List (Nat × Nat)) :=
  [("CJK COMPATIBILITY IDEOGRAPH-", [(0xf900, 0xfa6d), (0xfa70, 0xfad9), (0x2f800, 0x2fa1d)]),
    ("KHITAN SMALL SCRIPT CHARACTER-", [(0x18b00, 0x18cd5)]),
    ("NUSHU CHARACTER-", [(0x1b170, 0x1b2fb)])]

/-- The character whose number `cs` writes without leading zeros, if it is in the ranges. -/
def numberIn? (ranges : List (Nat × Nat)) (cs : List Char) : Option Nat :=
  if cs.head? = some '0' then none else (upperHex? cs).filter (inRanges ranges)

/-- The character of a name that ends in the number. -/
def numberedNamed? (name : List Char) : Option Nat :=
  numbered.findSome? fun (start, ranges) =>
    (start.toList.isPrefixOf? name).bind (numberIn? ranges)

end ClosureLint.Text
