import DataDerive.Code.CodeType

/-!
# Expressions and patterns of the generated code

The bodies of generated functions are trees, so that what they bind and what
they refer to can be read off.  A name that a pattern around an expression has
bound is told apart from a name of the surroundings, although both are written
alike.  The text of a tree is produced in one place.

A pattern of a variant binds some of its fields and ignores the rest.  A binding
and a field of a construction are written short when both sides are one name.
-/

namespace DataDerive

/-- A variant of the generated enum. -/
structure VariantPath where
  enumName : String
  variant : String
  deriving Repr, DecidableEq, Inhabited

/-- The text of a variant. -/
def VariantPath.text (path : VariantPath) : String :=
  path.enumName ++ "::" ++ path.variant

/-- A name and what it stands for, written short if both are the same. -/
def shorthand (name value : String) : String :=
  if value == name then name else name ++ ": " ++ value

/-- A pattern. -/
inductive Pattern where
  /-- A variant without fields. -/
  | unit (path : VariantPath)
  /-- A variant with fields, of which some are bound to names. -/
  | fields (path : VariantPath) (bindings : List (String × String))
  /-- One pattern for each of two values. -/
  | pair (left right : Pattern)
  /-- One of several patterns. -/
  | oneOf (alternatives : List Pattern)
  /-- Anything, under a name. -/
  | ident (name : String)
  /-- Anything. -/
  | anything
  deriving Repr, Inhabited

namespace Pattern

mutual

/-- The text of a pattern. -/
def text : Pattern → String
  | .unit path => path.text
  | .fields path bindings =>
      let parts := bindings.map fun (field, binding) => shorthand field binding
      path.text ++ " \x7b " ++ ", ".intercalate (parts ++ [".."]) ++ " \x7d"
  | .pair left right => "(" ++ text left ++ ", " ++ text right ++ ")"
  | .oneOf alternatives => " | ".intercalate (textAll alternatives)
  | .ident name => name
  | .anything => "_"

/-- The texts of patterns. -/
def textAll : List Pattern → List String
  | [] => []
  | pattern :: rest => text pattern :: textAll rest

end

mutual

/-- The names that a pattern binds. -/
def boundNames : Pattern → List String
  | .unit _ => []
  | .fields _ bindings => bindings.map Prod.snd
  | .pair left right => boundNames left ++ boundNames right
  | .oneOf alternatives => boundNamesAll alternatives
  | .ident name => [name]
  | .anything => []

/-- The names that patterns bind. -/
def boundNamesAll : List Pattern → List String
  | [] => []
  | pattern :: rest => boundNames pattern ++ boundNamesAll rest

end

end Pattern

/-- An expression. -/
inductive Expr where
  /-- A local name or a function. -/
  | ident (name : String)
  /-- What the pattern around has bound to a name. -/
  | bound (name : String)
  /-- A member of a named item. -/
  | member (item part : String)
  /-- A number of a suffixed type. -/
  | number (value : Nat) (suffix : String)
  /-- A text between quotation marks. -/
  | quoted (text : String)
  /-- What a binding points to through its pointer, borrowed. -/
  | throughPointer (value : Expr)
  | call (function : Expr) (arguments : List Expr)
  | method (receiver : Expr) (name : String) (arguments : List Expr)
  /-- A variant without fields. -/
  | unit (path : VariantPath)
  /-- A variant with a value for each field. -/
  | construct (path : VariantPath) (fields : List (String × Expr))
  | tuple (items : List Expr)
  | array (items : List Expr)
  /-- All of several conditions; at least one. -/
  | all (conditions : List Expr)
  /-- The function that returns its argument. -/
  | identity (type : CodeType)
  /-- A function without parameters. -/
  | delayed (value : Expr)
  /-- A function that ignores its argument and returns a captured value. -/
  | constant (value : Expr)
  /-- Whether a value matches a pattern. -/
  | matching (value : Expr) (pattern : Pattern)
  /-- A text with a hole for each argument. -/
  | formatted (template : String) (arguments : List Expr)
  /-- The hash made of a list of hashes. -/
  | hashOf (items : List Expr)
  deriving Inhabited

namespace Expr

/-- A shared pointer to a value. -/
def share (value : Expr) : Expr :=
  .call (.member "Rc" "new") [value]

/-- A value that is there. -/
def present (value : Expr) : Expr :=
  .call (.ident "Some") [value]

/-- A copy of a value. -/
def clone (value : Expr) : Expr :=
  .method value "clone" []

mutual

/-- The text of an expression. -/
def text : Expr → String
  | .ident name => name
  | .bound name => name
  | .member item part => item ++ "::" ++ part
  | .number value suffix => toString value ++ suffix
  | .quoted text => "\"" ++ text ++ "\""
  | .throughPointer value => "&**" ++ text value
  | .call function arguments =>
      text function ++ "(" ++ ", ".intercalate (textAll arguments) ++ ")"
  | .method receiver name arguments =>
      text receiver ++ "." ++ name ++ "(" ++ ", ".intercalate (textAll arguments) ++ ")"
  | .unit path => path.text
  | .construct path fields =>
      path.text ++ " \x7b " ++ ", ".intercalate (fieldTexts fields) ++ " \x7d"
  | .tuple items => CodeType.tupleText (textAll items)
  | .array items => "[" ++ ", ".intercalate (textAll items) ++ "]"
  | .all conditions => " && ".intercalate (textAll conditions)
  | .identity type => "|v: " ++ type.text ++ "| v"
  | .delayed value => "|| " ++ text value
  | .constant value => "move |_| " ++ text value
  | .matching value pattern => "matches!(" ++ text value ++ ", " ++ pattern.text ++ ")"
  | .formatted template arguments =>
      "format!(\"" ++ template ++ "\", " ++ ", ".intercalate (textAll arguments) ++ ")"
  | .hashOf items =>
      "[" ++ ", ".intercalate (textAll items) ++
        "].into_iter().fold(17_u64, |h, x| h.wrapping_mul(31).wrapping_add(x))"
termination_by structural value => value

/-- The texts of expressions. -/
def textAll : List Expr → List String
  | [] => []
  | value :: rest => text value :: textAll rest
termination_by structural values => values

/-- The texts of fields with their values. -/
def fieldTexts : List (String × Expr) → List String
  | [] => []
  | field :: rest => fieldText field :: fieldTexts rest
termination_by structural fields => fields

/-- The text of a field with its value. -/
def fieldText : String × Expr → String
  | (name, value) => shorthand name (text value)
termination_by structural field => field

end

end Expr

end DataDerive
