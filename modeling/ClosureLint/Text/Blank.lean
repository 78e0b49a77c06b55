/-!
# Blanks and lines

* `isBlank` — the characters that count as white space around a name: all of Unicode's, and the
  four information separators.
* `strip` — a text without blanks at either end.
* `isLineEnd`, `firstLine` — the part of a text before its first line boundary.
* `unifyLineFeeds` — a text with every kind of line break as a line feed.
-/

namespace ClosureLint.Text

/-- White space, in the widest sense. -/
def isBlank (c : Char) : Bool :=
  let n := c.toNat
  (0x09 ≤ n && n ≤ 0x0d) || (0x1c ≤ n && n ≤ 0x20) || n == 0x85 || n == 0xa0 || n == 0x1680
    || (0x2000 ≤ n && n ≤ 0x200a) || n == 0x2028 || n == 0x2029 || n == 0x202f || n == 0x205f
    || n == 0x3000

/-- Every character that core counts as white space is blank. -/
theorem isBlank_of_isWhitespace {c : Char} (h : c.isWhitespace = true) : isBlank c = true := by
  simp only [Char.isWhitespace, Bool.or_eq_true, decide_eq_true_eq] at h
  rcases h with ((rfl | rfl) | rfl) | rfl <;> rfl

/-- The characters of a text without the blanks at either end. -/
def stripChars (cs : List Char) : List Char :=
  ((cs.dropWhile isBlank).reverse.dropWhile isBlank).reverse

/-- A text without the blanks at either end. -/
def strip (s : String) : String := String.ofList (stripChars s.toList)

/-- The characters that end a line of a report: those of ASCII that move to a new line, the file,
group and record separators, and Unicode's next line, line and paragraph separators. -/
def isLineEnd (c : Char) : Bool :=
  let n := c.toNat
  (0x0a ≤ n && n ≤ 0x0d) || (0x1c ≤ n && n ≤ 0x1e) || n == 0x85 || n == 0x2028 || n == 0x2029

/-- A text up to its first line boundary. -/
def firstLine (s : String) : String :=
  String.ofList (s.toList.takeWhile fun c => !isLineEnd c)

/-- The characters with each carriage return as a line feed; a line feed behind it belongs to it. -/
def unifyLineFeeds : List Char → List Char
  | '\r' :: '\n' :: cs => '\n' :: unifyLineFeeds cs
  | '\r' :: cs => '\n' :: unifyLineFeeds cs
  | c :: cs => c :: unifyLineFeeds cs
  | [] => []

end ClosureLint.Text
