import DataDerive.Text.Case

/-!
# Identifiers of the generated code

Names of a declaration are respelled for the generated items: functions and
modules in snake case, types and variants in pascal case.  A spelling that the
generated language reserves is escaped: most reserved words become raw
identifiers, and the four that cannot get a trailing underscore.
-/

namespace DataDerive.Identifier

/--
Whether a capital letter after `previous` starts a new word.  It does after a
lower case letter or a digit, and inside a run of capitals when a lower case
letter follows it.
-/
def startsWord (previous next : Option Char) : Bool :=
  match previous with
  | none => false
  | some c =>
      Text.isLowercase c || c.isDigit || (Text.isUppercase c && next.any Text.isLowercase)

/-- Snake case of the characters after `previous`. -/
def snakeFrom : Option Char → List Char → List Char
  | _, [] => []
  | previous, c :: rest =>
      if Text.isUppercase c then
        if startsWord previous rest.head? then
          '_' :: Text.toLowercase c ++ snakeFrom (some c) rest
        else
          Text.toLowercase c ++ snakeFrom (some c) rest
      else
        c :: snakeFrom (some c) rest

/-- Words in lower case, joined by underscores. -/
def snakeCase (name : String) : String :=
  String.ofList (snakeFrom none name.toList)

/-- Drop underscores and raise the character after each of them. -/
def pascalFrom : Bool → List Char → List Char
  | _, [] => []
  | raised, c :: rest =>
      if c = '_' then
        pascalFrom true rest
      else if raised then
        Text.toUppercase c ++ pascalFrom false rest
      else
        c :: pascalFrom false rest

/-- The reserved words of the generated code. -/
def reservedWords : List String :=
  ["as", "async", "await", "break", "const", "continue", "crate", "dyn", "else", "enum",
    "extern", "false", "fn", "for", "if", "impl", "in", "let", "loop", "match", "mod", "move",
    "mut", "pub", "ref", "return", "self", "Self", "static", "struct", "super", "trait", "true",
    "type", "unsafe", "use", "where", "while", "yield"]

/-- The reserved words that stay reserved as raw identifiers. -/
def neverRaw : List String :=
  ["self", "Self", "super", "crate"]

/-- Whether a name is a reserved word of the generated code. -/
def isReserved (name : String) : Bool :=
  reservedWords.contains name

/-- Words with a capital each and no underscores; a word that cannot be raw gets one. -/
def pascalCase (name : String) : String :=
  let joined := String.ofList (pascalFrom true name.toList)
  if neverRaw.contains joined then joined ++ "_" else joined

/-- Spell a name so that it can be used as an identifier. -/
def escape (name : String) : String :=
  if neverRaw.contains name then
    name ++ "_"
  else if isReserved name then
    "r#" ++ name
  else
    name

/-- The escaped snake case of a name, as functions, parameters and locals use it. -/
def snakeName (name : String) : String :=
  escape (snakeCase name)

end DataDerive.Identifier
