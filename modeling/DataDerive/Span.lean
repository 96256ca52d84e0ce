/-!
# Source positions

A span is a byte range of the source text.  Reports show the line and the
column where it starts: lines are counted by line feeds, columns by characters,
and both start at one.
-/

namespace DataDerive

/-- The bytes from `start` up to and not including `stop`. -/
structure Span where
  start : Nat
  stop : Nat
  deriving Repr, DecidableEq, Inhabited

/--
A line and a column, both counted from one in thirty-two bits.  After the last
number a counter goes on with zero, where a build that checks for overflow stops.
-/
structure Position where
  lineNumber : UInt32
  columnNumber : UInt32
  deriving Repr, DecidableEq, Inhabited

namespace Position

/-- The line. -/
def line (position : Position) : Nat :=
  position.lineNumber.toNat

/-- The column. -/
def column (position : Position) : Nat :=
  position.columnNumber.toNat

/-- The position of the first character. -/
def first : Position := ⟨1, 1⟩

/-- The position after one more character. -/
def step (position : Position) (c : Char) : Position :=
  if c = '\n' then
    ⟨position.lineNumber + 1, 1⟩
  else
    ⟨position.lineNumber, position.columnNumber + 1⟩

/-- Step over the characters that start before a byte offset. -/
def advance (offset : Nat) : Nat → Position → List Char → Position
  | _, position, [] => position
  | index, position, c :: rest =>
      if offset ≤ index then
        position
      else
        advance offset (index + c.utf8Size) (position.step c) rest

end Position

namespace Span

/-- The span of what has no place in the source. -/
def absent : Span := ⟨0, 0⟩

/-- Whether this is the span of what has no place in the source. -/
def isAbsent (span : Span) : Bool :=
  span.start == 0 && span.stop == 0

/-- The smallest span that covers both. -/
def merge (left right : Span) : Span :=
  ⟨min left.start right.start, max left.stop right.stop⟩

/-- The line and the column where a span starts in a source text. -/
def position (span : Span) (source : String) : Position :=
  Position.advance span.start 0 Position.first source.toList

/-- The two offsets, as reports write them. -/
def text (span : Span) : String :=
  s!"{span.start}..{span.stop}"

end Span

end DataDerive
