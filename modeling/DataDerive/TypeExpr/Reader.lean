import DataDerive.Text.Basic
import DataDerive.Text.Letter
import DataDerive.TypeExpr.Basic

/-!
# Reading types

The grammar of type texts is

    type  := "fn" "(" [type {"," type}] ")" "->" type
           | "(" type ")"
           | "(" type "," type {"," type} ")"
           | path ["<" type {"," type} ">"]
    path  := segment {"::" segment}

with white space between tokens.  A path without arguments is a variable when
it is in scope and a constructor otherwise; a list of two or more types in
parentheses is a tuple.

A reading step takes the remaining characters and gives back what it read and
what is left.  A failure keeps the characters left where it happened, so its
offset is the length of the text before them.
-/

namespace DataDerive.TypeExpr

/-- Why a text is not a type. -/
inductive ReadFault where
  /-- A token is missing. -/
  | expected (token : String)
  /-- A segment of a name is missing. -/
  | noName
  /-- Angle brackets hold nothing. -/
  | noArguments
  /-- Parentheses hold nothing. -/
  | noItems
  /-- Characters follow the type. -/
  | trailing
  deriving Repr, DecidableEq

/-- What a fault says. -/
def ReadFault.message : ReadFault → String
  | .expected token => s!"expected `{token}`"
  | .noName => "expected a type name"
  | .noArguments => "empty type argument list"
  | .noItems => "empty parentheses"
  | .trailing => "unexpected trailing input"

/-- A fault and the characters left where it happened. -/
structure ReadFailure where
  fault : ReadFault
  rest : List Char
  deriving Repr, DecidableEq

/-- The outcome of a reading step. -/
abbrev Reading : Type → Type :=
  Except ReadFailure

/-- The rest of a text after a token it starts with. -/
def dropToken : (token input : List Char) → Option (List Char)
  | [], input => some input
  | _ :: _, [] => none
  | t :: token, c :: input => if t = c then dropToken token input else none

/-- The characters after a token that may follow white space. -/
def afterToken? (token input : List Char) : Option (List Char) :=
  dropToken token (Text.trimStart input)

/-- The characters after a token that has to come next. -/
def afterToken (token : String) (input : List Char) : Reading (List Char) :=
  match afterToken? token.toList input with
  | some rest => .ok rest
  | none => .error ⟨.expected token, Text.trimStart input⟩

/-- Whether a character may start a segment of a path. -/
def startsSegment (c : Char) : Bool :=
  c == '_' || (Text.isAlphanumeric c && !Text.isNumeric c)

/-- Whether a character may continue a segment of a path. -/
def continuesSegment (c : Char) : Bool :=
  c == '_' || Text.isAlphanumeric c

/-- Put a character in front of what was read. -/
def consRead
    (c : Char)
    (reading : Reading (List Char × List Char)) : Reading (List Char × List Char) :=
  reading.map fun (read, rest) => (c :: read, rest)

/-- Read the rest of a path, inside a segment (`true`) or before one (`false`). -/
def readPathFrom : Bool → List Char → Reading (List Char × List Char)
  | false, [] => .error ⟨.noName, []⟩
  | false, c :: rest =>
      if startsSegment c then
        consRead c (readPathFrom true rest)
      else
        .error ⟨.noName, c :: rest⟩
  | true, [] => .ok ([], [])
  | true, ':' :: ':' :: rest => consRead ':' (consRead ':' (readPathFrom false rest))
  | true, c :: rest =>
      if continuesSegment c then
        consRead c (readPathFrom true rest)
      else
        .ok ([], c :: rest)

/-- Read a path. -/
def readPath (input : List Char) : Reading (List Char × List Char) :=
  readPathFrom false (Text.trimStart input)

/--
Read the rest of a list after an item, up to and including `close`.  `budget`
bounds the number of items.
-/
def readMore
    (item : List Char → Reading (TypeExpr × List Char))
    (close : String) :
    (budget : Nat) → List Char → Reading (List TypeExpr × List Char)
  | 0, input => .error ⟨.expected ",", Text.trimStart input⟩
  | budget + 1, input =>
      match afterToken? close.toList input with
      | some rest => .ok ([], rest)
      | none => do
          let rest ← afterToken "," input
          let (first, rest) ← item rest
          let (others, rest) ← readMore item close budget rest
          return (first :: others, rest)

/-- Read a list of types separated by commas, up to and including `close`. -/
def readList
    (item : List Char → Reading (TypeExpr × List Char))
    (close : String)
    (input : List Char) : Reading (List TypeExpr × List Char) :=
  match afterToken? close.toList input with
  | some rest => .ok ([], rest)
  | none => do
      let (first, rest) ← item input
      let (others, rest) ← readMore item close (rest.length + 1) rest
      return (first :: others, rest)

/-- What parentheses around a list of types stand for. -/
def ofParenthesized (items : List TypeExpr) (rest : List Char) : Reading (TypeExpr × List Char) :=
  match items with
  | [] => .error ⟨.noItems, rest⟩
  | [type] => .ok (type, rest)
  | types => .ok (.con ("Tuple" ++ toString types.length) types, rest)

/-- What a path without arguments stands for. -/
def ofPath (scope : List String) (path : String) : TypeExpr :=
  if scope.contains path then .var path else .atom path

/-- Read a type.  `budget` bounds how deep types nest. -/
def readAt (scope : List String) : (budget : Nat) → List Char → Reading (TypeExpr × List Char)
  | 0, input => .error ⟨.noName, Text.trimStart input⟩
  | budget + 1, input =>
      match afterToken? ['('] input with
      | some rest => do
          let (items, rest) ← readList (readAt scope budget) ")" rest
          ofParenthesized items rest
      | none => do
          let (path, rest) ← readPath input
          match afterToken? ['('] rest, path == ['f', 'n'] with
          | some rest, true => do
              let (parameters, rest) ← readList (readAt scope budget) ")" rest
              let rest ← afterToken "->" rest
              let (result, rest) ← readAt scope budget rest
              return (.arrow parameters result, rest)
          | _, _ =>
              match afterToken? ['<'] rest with
              | some rest => do
                  let (arguments, rest) ← readList (readAt scope budget) ">" rest
                  if arguments.isEmpty then
                    .error ⟨.noArguments, rest⟩
                  else
                    return (.con (String.ofList path) arguments, rest)
              | none => return (ofPath scope (String.ofList path), rest)

/-- A text that is not a type: the text, why, and the byte offset of the fault. -/
structure SyntaxError where
  text : String
  offset : Nat
  fault : ReadFault
  deriving Repr, DecidableEq

/-- What a syntax error says. -/
def SyntaxError.message (error : SyntaxError) : String :=
  s!"malformed type `{error.text}` at offset {error.offset}: {error.fault.message}"

/-- Read a whole text as a type, with the names in `scope` as its variables. -/
def read (scope : List String) (text : String) : Except SyntaxError TypeExpr :=
  let input := text.toList
  let at_ (failure : ReadFailure) : SyntaxError :=
    ⟨text, text.utf8ByteSize - (String.ofList failure.rest).utf8ByteSize, failure.fault⟩
  match readAt scope (input.length + 1) input with
  | .error failure => .error (at_ failure)
  | .ok (type, rest) =>
      match Text.trimStart rest with
      | [] => .ok type
      | left => .error (at_ ⟨.trailing, left⟩)

end DataDerive.TypeExpr
