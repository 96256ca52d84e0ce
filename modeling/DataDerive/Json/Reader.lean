import DataDerive.Json.Basic
import DataDerive.Json.Quoted
import DataDerive.Text.Basic

/-!
# Reading JSON

The reader takes exactly the documents of the format: no comments, no trailing
commas, no leading zeros, no control characters inside strings.  Two bounds
come on top.  Arrays and objects nest at most `deepest` levels, and a number
has to be below the range of double precision.

Each step gives back what it read and what is left.
-/

namespace DataDerive.Json

open Text (decimal)

/-- How deep arrays and objects may nest. -/
def deepest : Nat := 127

/-- The text without the white space it starts with. -/
def skipBlank (text : List Char) : List Char :=
  text.dropWhile fun c => c = ' ' ∨ c = '\t' ∨ c = '\n' ∨ c = '\r'

/-- The rest of a text after a word it starts with. -/
def afterWord : (word text : List Char) → Option (List Char)
  | [], text => some text
  | _ :: _, [] => none
  | w :: word, c :: text => if w = c then afterWord word text else none

/-- Split a text after the digits it starts with. -/
def takeDigits (text : List Char) : List Char × List Char :=
  (text.takeWhile Char.isDigit, text.dropWhile Char.isDigit)

/-- The parts of a number as it is written. -/
structure NumberParts where
  negative : Bool
  whole : List Char
  /-- The digits after the point, if there is a point. -/
  fraction : Option (List Char)
  /-- The sign and the digits of the exponent, if there is one. -/
  exponent : Option (Option Char × List Char)

namespace NumberParts

/-- The characters of a number. -/
def chars (parts : NumberParts) : List Char :=
  (if parts.negative then ['-'] else []) ++ parts.whole ++
    (match parts.fraction with
      | some digits => '.' :: digits
      | none => []) ++
    (match parts.exponent with
      | some (some sign, digits) => 'e' :: sign :: digits
      | some (none, digits) => 'e' :: digits
      | none => [])

/-- The power of ten by which the digits of a number are multiplied. -/
def scale (parts : NumberParts) : Int :=
  let fraction : Int := ((parts.fraction.getD []).length : Int)
  match parts.exponent with
  | none => -fraction
  | some (some '-', digits) => -(decimal digits : Int) - fraction
  | some (_, digits) => (decimal digits : Int) - fraction

/-- The least number that double precision rounds to infinity. -/
def infinity : Nat := Nat.pow 2 1024 - Nat.pow 2 970

/-- Whether a number is below the range of double precision. -/
def inRange (parts : NumberParts) : Bool :=
  let digits := (parts.whole ++ parts.fraction.getD []).dropWhile (· = '0')
  let magnitude : Int := digits.length + parts.scale
  if digits.isEmpty || magnitude < 300 then
    true
  else if magnitude > 310 then
    false
  else if parts.scale < 0 then
    decimal digits < infinity * Nat.pow 10 (-parts.scale).toNat
  else
    decimal digits * Nat.pow 10 parts.scale.toNat < infinity

/-- The number that the parts stand for. -/
def number (parts : NumberParts) : Number :=
  match parts.negative, parts.fraction, parts.exponent with
  | false, none, none => .natural (decimal parts.whole)
  | _, _, _ => .other (String.ofList parts.chars)

end NumberParts

/-- Read the digits before the point: a single zero, or digits that start with no zero. -/
def readWhole (text : List Char) : Option (List Char × List Char) :=
  match text with
  | '0' :: rest =>
      match rest with
      | c :: _ => if c.isDigit then none else some (['0'], rest)
      | [] => some (['0'], rest)
  | _ =>
      match takeDigits text with
      | ([], _) => none
      | read => some read

/-- Read the point and the digits after it. -/
def readFraction (text : List Char) : Option (Option (List Char) × List Char) :=
  match text with
  | '.' :: rest =>
      match takeDigits rest with
      | ([], _) => none
      | (digits, rest) => some (some digits, rest)
  | _ => some (none, text)

/-- Read the exponent. -/
def readExponent (text : List Char) :
    Option (Option (Option Char × List Char) × List Char) :=
  match text with
  | c :: rest =>
      if c = 'e' ∨ c = 'E' then
        let (sign, rest) : Option Char × List Char :=
          match rest with
          | '+' :: rest => (some '+', rest)
          | '-' :: rest => (some '-', rest)
          | _ => (none, rest)
        match takeDigits rest with
        | ([], _) => none
        | (digits, rest) => some (some (sign, digits), rest)
      else
        some (none, text)
  | [] => some (none, [])

/-- Read a number. -/
def readNumber (text : List Char) : Option (Number × List Char) := do
  let (negative, rest) : Bool × List Char :=
    match text with
    | '-' :: rest => (true, rest)
    | _ => (false, text)
  let (whole, rest) ← readWhole rest
  let (fraction, rest) ← readFraction rest
  let (exponent, rest) ← readExponent rest
  let parts : NumberParts := ⟨negative, whole, fraction, exponent⟩
  if parts.inRange then
    some (parts.number, rest)
  else
    none

/--
Read the rest of a list after one of its entries, up to and including `close`.
`budget` bounds the number of entries.
-/
def readMore
    {α : Type}
    (entry : List Char → Option (α × List Char))
    (close : Char) :
    (budget : Nat) → List Char → Option (List α × List Char)
  | 0, _ => none
  | budget + 1, text =>
      match skipBlank text with
      | c :: rest =>
          if c = close then
            some ([], rest)
          else if c = ',' then do
            let (first, rest) ← entry (skipBlank rest)
            let (others, rest) ← readMore entry close budget rest
            some (first :: others, rest)
          else
            none
      | [] => none

/-- Read entries separated by commas, up to and including `close`. -/
def readEntries
    {α : Type}
    (entry : List Char → Option (α × List Char))
    (close : Char)
    (text : List Char) : Option (List α × List Char) :=
  match skipBlank text with
  | c :: rest =>
      if c = close then
        some ([], rest)
      else do
        let (first, rest) ← entry (c :: rest)
        let (others, rest) ← readMore entry close (rest.length + 1) rest
        some (first :: others, rest)
  | [] => none

/-- Read a key, a colon and a value. -/
def readEntry
    (value : List Char → Option (Json × List Char))
    (text : List Char) : Option ((String × Json) × List Char) :=
  match text with
  | '"' :: rest => do
      let (key, rest) ← readQuoted rest
      match skipBlank rest with
      | ':' :: rest => do
          let (read, rest) ← value (skipBlank rest)
          some ((String.ofList key, read), rest)
      | _ => none
  | _ => none

/-- Read a value that is no array and no object. -/
def readScalar (text : List Char) : Option (Json × List Char) :=
  match text with
  | '"' :: rest => (readQuoted rest).map fun (read, rest) => (.string (String.ofList read), rest)
  | 'n' :: _ => (afterWord "null".toList text).map fun rest => (.null, rest)
  | 't' :: _ => (afterWord "true".toList text).map fun rest => (.bool true, rest)
  | 'f' :: _ => (afterWord "false".toList text).map fun rest => (.bool false, rest)
  | _ => (readNumber text).map fun (read, rest) => (.number read, rest)

/-- Read a value that starts here, in which at most `depth` levels nest. -/
def readValue : (depth : Nat) → List Char → Option (Json × List Char)
  | 0, text => readScalar text
  | depth + 1, text =>
      match text with
      | '[' :: rest =>
          (readEntries (readValue depth) ']' rest).map fun (items, rest) => (.array items, rest)
      | '\x7b' :: rest =>
          (readEntries (readEntry (readValue depth)) '\x7d' rest).map fun (members, rest) =>
            (.object members, rest)
      | _ => readScalar text

/-- Read a whole document. -/
def read (text : String) : Option Json := do
  let (value, rest) ← readValue deepest (skipBlank text.toList)
  match skipBlank rest with
  | [] => some value
  | _ => none

end DataDerive.Json
