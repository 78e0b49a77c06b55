/-!
# Positions in a source text

A text is read as a list of code points. A position knows its offset and the line and column it
stands on; only a line feed starts a new line.

* `Pos` — a place between two code points; `Pos.advance` steps over one of them.
* `Loc` — the extent of a piece of source, any part of which may be unknown.
* `Span` — an extent together with the file it lies in and a mark for code the user never wrote.
* `Span.le` — the order in which diagnostics are reported.
-/

namespace ClosureLint

/-- A place between two code points: the offset counts from 0, line and column from 1. -/
structure Pos where
  offset : Nat := 0
  line : Nat := 1
  column : Nat := 1
deriving DecidableEq, Repr, Inhabited

namespace Pos

/-- The position after `c`. A line feed starts the next line, every other code point moves one
column on. -/
def advance (p : Pos) (c : Char) : Pos :=
  if c = '\n' then ⟨p.offset + 1, p.line + 1, 1⟩ else ⟨p.offset + 1, p.line, p.column + 1⟩

/-- The position after all of `cs`. -/
def advanceAll (p : Pos) (cs : List Char) : Pos :=
  cs.foldl advance p

@[simp] theorem advanceAll_nil (p : Pos) : p.advanceAll [] = p := rfl

@[simp] theorem advanceAll_cons (p : Pos) (c : Char) (cs : List Char) :
    p.advanceAll (c :: cs) = (p.advance c).advanceAll cs := rfl

theorem advanceAll_append (p : Pos) (cs ds : List Char) :
    p.advanceAll (cs ++ ds) = (p.advanceAll cs).advanceAll ds := by
  simp [advanceAll, List.foldl_append]

@[simp] theorem offset_advance (p : Pos) (c : Char) : (p.advance c).offset = p.offset + 1 := by
  unfold advance; split <;> rfl

@[simp] theorem offset_advanceAll (p : Pos) (cs : List Char) :
    (p.advanceAll cs).offset = p.offset + cs.length := by
  induction cs generalizing p with
  | nil => rfl
  | cons c cs ih => rw [advanceAll_cons, ih, offset_advance, List.length_cons]; omega

end Pos

/-- The extent of a piece of source. A part that is not known is `none`; offsets of hand-made
extents may be negative. -/
structure Loc where
  line : Option Int := none
  column : Option Int := none
  endLine : Option Int := none
  endColumn : Option Int := none
  startPos : Option Int := none
  endPos : Option Int := none
deriving DecidableEq, Repr, Inhabited

/-- The extent from `a` up to `b`. -/
def Loc.between (a b : Pos) : Loc where
  line := some a.line
  column := some a.column
  endLine := some b.line
  endColumn := some b.column
  startPos := some a.offset
  endPos := some b.offset

/-- An extent in a file. `fromMacro` marks code that came out of a macro, which the user cannot
edit. -/
structure Span extends Loc where
  file : Option String := none
  fromMacro : Bool := false
deriving DecidableEq, Repr, Inhabited

namespace Span

/-- The span of an extent whose file is not known. -/
def ofLoc (l : Loc) : Span := { toLoc := l }

/-- A span is known when its first line is. -/
def isKnown (s : Span) : Bool := s.line.isSome

/-- Whether the span can be cut out of its text. -/
def hasOffsets (s : Span) : Bool := s.startPos.isSome && s.endPos.isSome

/-- The same extent in another file. -/
def withFile (s : Span) (file : Option String) : Span := { s with file := file }

/-- The same extent, marked as macro output. -/
def inMacro (s : Span) : Span := { s with fromMacro := true }

/-- The line or column that an unknown one counts as, so that it sorts behind the known ones. -/
def unknownRank : Int := 0x40000000

/-- What spans are ordered by: file, line, column. -/
def sortKey (s : Span) : String × Int × Int :=
  (s.file.getD "", s.line.getD unknownRank, s.column.getD unknownRank)

/-- The reporting order: by file, then line, then column. -/
def le (a b : Span) : Bool :=
  let (f, l, c) := a.sortKey
  let (g, m, d) := b.sortKey
  if f = g then (if l = m then decide (c ≤ d) else decide (l < m)) else decide (f < g)

end Span

end ClosureLint
