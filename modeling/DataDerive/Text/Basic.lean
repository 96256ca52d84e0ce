/-!
# Characters and parts of texts

A character class of the Unicode standard is written as a list of ranges.  A
range is an arithmetic progression, because upper and lower case letters
alternate in many scripts.  Membership scans the list; the classes that use it
answer ASCII characters without the scan.

Trimming removes exactly the longest run of characters with the property
`White_Space` at an end.  A text is split at a separator, either once or
everywhere, and a run of decimal digits has a value.
-/

namespace DataDerive.Text

/-! ## Sets of characters -/

/-- The code points `first`, `first + step`, and so on up to `last`. -/
structure CodeRange where
  first : Nat
  last : Nat
  step : Nat
  deriving Repr, DecidableEq

namespace CodeRange

/-- Whether a code point is one of the progression. -/
def contains (range : CodeRange) (point : Nat) : Bool :=
  range.first ≤ point && point ≤ range.last &&
    (point - range.first) % range.step == 0

/-- Read one row of a table. -/
def ofRow : Nat × Nat × Nat → CodeRange
  | (first, last, step) => ⟨first, last, step⟩

end CodeRange

/-- Whether a code point lies in one of the rows of a table. -/
def inRows (rows : List (Nat × Nat × Nat)) (point : Nat) : Bool :=
  rows.any fun row => (CodeRange.ofRow row).contains point

/-- Whether a code point lies in one of the intervals of a table. -/
def inIntervals (intervals : List (Nat × Nat)) (point : Nat) : Bool :=
  intervals.any fun interval => interval.1 ≤ point && point ≤ interval.2

theorem inIntervals_iff (intervals : List (Nat × Nat)) (point : Nat) :
    inIntervals intervals point = true ↔
      ∃ interval ∈ intervals, interval.1 ≤ point ∧ point ≤ interval.2 := by
  simp [inIntervals]

/-! ## White space -/

/-- The intervals of the property `White_Space`. -/
def blankIntervals : List (Nat × Nat) :=
  [
    (0x9, 0xd), (0x20, 0x20), (0x85, 0x85), (0xa0, 0xa0), (0x1680, 0x1680), (0x2000, 0x200a),
    (0x2028, 0x2029), (0x202f, 0x202f), (0x205f, 0x205f), (0x3000, 0x3000)]

/-- Whether a character is white space. -/
def isBlank (c : Char) : Bool :=
  inIntervals blankIntervals c.toNat

/-- The text without the white space it starts with. -/
def trimStart (text : List Char) : List Char :=
  text.dropWhile isBlank

/-- The text without the white space it ends with. -/
def trimEnd (text : List Char) : List Char :=
  (text.reverse.dropWhile isBlank).reverse

/-- The text without white space at either end. -/
def trim (text : List Char) : List Char :=
  trimEnd (trimStart text)

theorem trimStart_suffix (text : List Char) : trimStart text <:+ text :=
  List.dropWhile_suffix isBlank

theorem trimStart_cons_blank
    {c : Char} (blank : isBlank c = true) (rest : List Char) :
    trimStart (c :: rest) = trimStart rest := by
  simp [trimStart, blank]

theorem trimStart_cons_dark
    {c : Char} (dark : isBlank c = false) (rest : List Char) :
    trimStart (c :: rest) = c :: rest := by
  simp [trimStart, dark]

/-! ## Separators -/

/-- The text before the first separator and the text after it, if there is a separator. -/
def splitOnce? (separator : Char) (text : String) : Option (String × String) :=
  match text.toList.span (· != separator) with
  | (_, []) => none
  | (before, _ :: after) => some (String.ofList before, String.ofList after)

/-- The parts between the separators; `current` is the part so far. -/
def partsFrom (separator : Char) (current : List Char) : List Char → List (List Char)
  | [] => [current]
  | c :: rest =>
      if c = separator then
        current :: partsFrom separator [] rest
      else
        partsFrom separator (current ++ [c]) rest

/-- The parts between the separators that are not empty. -/
def nonemptyParts (separator : Char) (text : String) : List String :=
  ((partsFrom separator [] text.toList).filter fun part => !part.isEmpty).map String.ofList

/-! ## Decimal numbers -/

/-- The value of decimal digits, the highest first. -/
def decimal (digits : List Char) : Nat :=
  digits.foldl (fun value digit => value * 10 + (digit.toNat - 48)) 0

/-- A text without the plus sign it starts with. -/
def dropPlus : List Char → List Char
  | '+' :: rest => rest
  | text => text

/-- The number below a bound that a text spells: digits, after at most one plus sign. -/
def numberBelow? (bound : Nat) (text : String) : Option Nat :=
  let digits := dropPlus text.toList
  if !digits.isEmpty && digits.all Char.isDigit && decimal digits < bound then
    some (decimal digits)
  else
    none

end DataDerive.Text
