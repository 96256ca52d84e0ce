/-!
# Types of the generated code

The types that occur in generated signatures and in the storage of the generated
enum, and their text.  A function type that returns the empty tuple is written
without its result.
-/

namespace DataDerive

/-- A type of the generated code. -/
inductive CodeType where
  /-- A type parameter. -/
  | param (name : String)
  /-- A named type applied to its arguments. -/
  | named (name : String) (arguments : List CodeType)
  /-- A borrowed value. -/
  | reference (target : CodeType)
  | tuple (items : List CodeType)
  /-- A value behind a shared pointer. -/
  | shared (target : CodeType)
  /-- Any function that can be called once. -/
  | implOnce (parameters : List CodeType) (result : CodeType)
  /-- A borrowed function. -/
  | dynRef (parameters : List CodeType) (result : CodeType)
  /-- A function behind a shared pointer. -/
  | sharedFn (parameters : List CodeType) (result : CodeType)
  /-- A function behind an owning pointer that can be called once. -/
  | boxedOnce (parameters : List CodeType) (result : CodeType)
  /-- A value of unknown type behind a shared pointer. -/
  | sharedAny
  /-- Any type that implements a trait. -/
  | implTrait (name : String) (arguments : List CodeType)
  deriving Repr, Inhabited

namespace CodeType

/-- A named type without arguments. -/
def atom (name : String) : CodeType :=
  .named name []

/-- The empty tuple. -/
def unit : CodeType :=
  .tuple []

/-- The type of truth values. -/
def bool : CodeType :=
  .atom "bool"

/-- A value that may be missing. -/
def option (type : CodeType) : CodeType :=
  .named "Option" [type]

/-- Whether a type is the empty tuple. -/
def isUnit : CodeType → Bool
  | .tuple [] => true
  | _ => false

/-- Texts joined by a comma and a space. -/
def commaSeparated (texts : List String) : String :=
  ", ".intercalate texts

/-- A name with arguments in angle brackets, if there are arguments. -/
def applied (name : String) (arguments : List String) : String :=
  if arguments.isEmpty then name else name ++ "<" ++ commaSeparated arguments ++ ">"

/-- What follows the parameters of a function: an arrow and the result, if it is no unit. -/
def arrow (result : CodeType) (text : String) : String :=
  if result.isUnit then "" else " -> " ++ text

/-- The text of a tuple; a single item is followed by a comma. -/
def tupleText : List String → String
  | [item] => "(" ++ item ++ ",)"
  | items => "(" ++ commaSeparated items ++ ")"

mutual

/-- The text of a type. -/
def text : CodeType → String
  | .param name => name
  | .named name arguments => applied name (textAll arguments)
  | .reference target => "&" ++ text target
  | .tuple items => tupleText (textAll items)
  | .shared target => "Rc<" ++ text target ++ ">"
  | .implOnce parameters result =>
      "impl FnOnce(" ++ commaSeparated (textAll parameters) ++ ")" ++ arrow result (text result)
  | .dynRef parameters result =>
      "&dyn Fn(" ++ commaSeparated (textAll parameters) ++ ")" ++ arrow result (text result)
  | .sharedFn parameters result =>
      "Rc<dyn Fn(" ++ commaSeparated (textAll parameters) ++ ")" ++
        arrow result (text result) ++ ">"
  | .boxedOnce parameters result =>
      "Box<dyn FnOnce(" ++ commaSeparated (textAll parameters) ++ ")" ++
        arrow result (text result) ++ ">"
  | .sharedAny => "Rc<dyn Any>"
  | .implTrait name arguments => "impl " ++ applied name (textAll arguments)

/-- The texts of types. -/
def textAll : List CodeType → List String
  | [] => []
  | type :: rest => text type :: textAll rest

end

instance : ToString CodeType := ⟨text⟩

mutual

/-- Every occurrence of a type parameter. -/
def paramOccurrences : CodeType → List String
  | .param name => [name]
  | .named _ arguments => paramOccurrencesAll arguments
  | .reference target => paramOccurrences target
  | .tuple items => paramOccurrencesAll items
  | .shared target => paramOccurrences target
  | .implOnce parameters result => paramOccurrencesAll parameters ++ paramOccurrences result
  | .dynRef parameters result => paramOccurrencesAll parameters ++ paramOccurrences result
  | .sharedFn parameters result => paramOccurrencesAll parameters ++ paramOccurrences result
  | .boxedOnce parameters result => paramOccurrencesAll parameters ++ paramOccurrences result
  | .sharedAny => []
  | .implTrait _ arguments => paramOccurrencesAll arguments

/-- Every occurrence of a type parameter in a list of types. -/
def paramOccurrencesAll : List CodeType → List String
  | [] => []
  | type :: rest => paramOccurrences type ++ paramOccurrencesAll rest

end

end CodeType

/-- A bound of a generic parameter. -/
inductive Bound where
  /-- A trait or a lifetime. -/
  | named (name : String)
  /-- A function without parameters that lives for ever and can be called once. -/
  | producer (result : CodeType)
  deriving Repr, Inhabited

/-- The text of a bound. -/
def Bound.text : Bound → String
  | .named name => name
  | .producer result => "FnOnce() -> " ++ result.text ++ " + 'static"

/-- The bound of what lives for ever. -/
def Bound.forEver : Bound := .named "'static"

/-- A generic parameter with its bounds. -/
structure Generic where
  name : String
  bounds : List Bound
  deriving Repr, Inhabited

namespace Generic

/-- A generic parameter without bounds. -/
def plain (name : String) : Generic := ⟨name, []⟩

/-- Add a bound unless it is there. -/
def bound (parameter : Generic) (bound : Bound) : Generic :=
  if (parameter.bounds.map Bound.text).contains bound.text then
    parameter
  else
    { parameter with bounds := parameter.bounds ++ [bound] }

/-- The text of a generic parameter. -/
def text (parameter : Generic) : String :=
  if parameter.bounds.isEmpty then
    parameter.name
  else
    parameter.name ++ ": " ++ " + ".intercalate (parameter.bounds.map Bound.text)

/-- The text of generic parameters in angle brackets, if there are any. -/
def listText (parameters : List Generic) : String :=
  CodeType.applied "" (parameters.map text)

end Generic

end DataDerive
