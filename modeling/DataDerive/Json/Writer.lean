import DataDerive.Json.Basic
import DataDerive.Json.Quoted

/-!
# Writing JSON

A value is written without white space, the members of an object in their
order.
-/

namespace DataDerive.Json

/-- The digits of a number. -/
def Number.chars : Number → List Char
  | .natural value => Nat.toDigits 10 value
  | .other literal => literal.toList

/-- A text in quotation marks. -/
def quotedChars (text : String) : List Char :=
  '"' :: escape text.toList ++ ['"']

/-- Put commas between texts. -/
def separated : List (List Char) → List Char
  | [] => []
  | [text] => text
  | text :: rest => text ++ ',' :: separated rest

mutual

/-- The characters of a value. -/
def chars : Json → List Char
  | .null => "null".toList
  | .bool true => "true".toList
  | .bool false => "false".toList
  | .number value => value.chars
  | .string value => quotedChars value
  | .array items => '[' :: separated (itemChars items) ++ [']']
  | .object members => '\x7b' :: separated (memberChars members) ++ ['\x7d']
termination_by structural value => value

/-- The characters of each item. -/
def itemChars : List Json → List (List Char)
  | [] => []
  | item :: rest => chars item :: itemChars rest
termination_by structural items => items

/-- The characters of each member. -/
def memberChars : List (String × Json) → List (List Char)
  | [] => []
  | member :: rest => entryChars member :: memberChars rest
termination_by structural members => members

/-- The characters of a member: its key, a colon and its value. -/
def entryChars : String × Json → List Char
  | (key, value) => quotedChars key ++ ':' :: chars value
termination_by structural member => member

end

/-- The text of a value. -/
def write (value : Json) : String :=
  String.ofList value.chars

end DataDerive.Json
