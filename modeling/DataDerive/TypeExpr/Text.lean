import DataDerive.TypeExpr.Basic

/-!
# The text of a type

Constructors are followed by their arguments in angle brackets, a tuple is
written in parentheses, and a function type as `fn(A, B) -> R`.
-/

namespace DataDerive.TypeExpr

/-- Join the texts of a list with a comma and a space. -/
def commaSeparated : List (List Char) → List Char
  | [] => []
  | [text] => text
  | text :: rest => text ++ ", ".toList ++ commaSeparated rest

mutual

/-- The characters of a type's text. -/
def chars : TypeExpr → List Char
  | .var name => name.toList
  | .con name [] => name.toList
  | .con name (argument :: rest) =>
      let inner := commaSeparated (chars argument :: charsAll rest)
      if isTupleName name (rest.length + 1) then
        '(' :: inner ++ [')']
      else
        name.toList ++ '<' :: inner ++ ['>']
  | .arrow parameters result =>
      "fn(".toList ++ commaSeparated (charsAll parameters) ++ ") -> ".toList ++ chars result

/-- The characters of the texts of a list of types. -/
def charsAll : List TypeExpr → List (List Char)
  | [] => []
  | type :: rest => chars type :: charsAll rest

end

/-- The text of a type. -/
def text (type : TypeExpr) : String :=
  String.ofList type.chars

instance : ToString TypeExpr := ⟨text⟩

end DataDerive.TypeExpr
