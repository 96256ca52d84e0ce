import DataDerive.Code.Expr

/-!
# Bodies of generated functions

A body is an expression, a match over a value, a value taken apart, or the
construction of a class instance.  Its lines are relative to the level at which
it stands.
-/

namespace DataDerive

/-- One arm of a match. -/
structure Arm where
  pattern : Pattern
  result : Expr
  deriving Inhabited

/-- The line of an arm. -/
def Arm.line (arm : Arm) : String :=
  "    " ++ arm.pattern.text ++ " => " ++ arm.result.text ++ ","

/-- What the function of a class instance takes. -/
inductive Operands where
  /-- A single value. -/
  | one
  /-- Two values to be compared. -/
  | two
  deriving Repr, DecidableEq, Inhabited

/-- The names of the operands. -/
def Operands.names : Operands → List String
  | .one => ["value"]
  | .two => ["left", "right"]

/-- What the operands are matched as. -/
def Operands.scrutinee : Operands → Expr
  | .one => .ident "value"
  | .two => .tuple [.ident "left", .ident "right"]

/-- How operands are treated that no arm matches. -/
inductive Fallback where
  /-- There are none. -/
  | none
  /-- With a fixed result. -/
  | constant (result : Expr)
  /-- By comparing the numbers of their cases. -/
  | caseNumbers (numbers : List (Pattern × Nat))
  deriving Inhabited

/-- A function that matches its operands, as the only method of a class. -/
structure ClassFunction where
  className : String
  /-- The type of the operands. -/
  type : CodeType
  operands : Operands
  arms : List Arm
  fallback : Fallback
  deriving Inhabited

namespace Fallback

/-- The lines of a fallback. -/
def lines (type : CodeType) : Fallback → List String
  | .none => []
  | .constant result => [Arm.line ⟨.anything, result⟩]
  | .caseNumbers numbers =>
      ["    _ => \x7b",
        "        let ordinal = |value: &" ++ type.text ++ "| -> usize \x7b",
        "            match value \x7b"] ++
      numbers.map (fun (pattern, number) =>
        "            " ++ Arm.line ⟨pattern, .number number ""⟩) ++
      ["            \x7d",
        "        \x7d;",
        "        ordinal(left).cmp(&ordinal(right))",
        "    \x7d"]

end Fallback

namespace ClassFunction

/-- The line that opens the function of an instance. -/
def opening (value : ClassFunction) : String :=
  let parameters := value.operands.names.map fun name => name ++ ": &" ++ value.type.text
  value.className ++ "::new(move |" ++ ", ".intercalate parameters ++ "| match " ++
    value.operands.scrutinee.text ++ " \x7b"

/-- The lines of an instance. -/
def lines (value : ClassFunction) : List String :=
  value.opening :: value.arms.map Arm.line ++ value.fallback.lines value.type ++ ["\x7d)"]

end ClassFunction

/-- A class instance. -/
inductive ClassValue where
  /-- Made from a function that matches its operands. -/
  | function (value : ClassFunction)
  /-- Lines as they stand. -/
  | verbatim (lines : List String)
  deriving Inhabited

/-- The lines of an instance. -/
def ClassValue.lines : ClassValue → List String
  | .function value => value.lines
  | .verbatim lines => lines

/-- The body of a generated function or the initial value of a static. -/
inductive Body where
  /-- An expression. -/
  | expression (result : Expr)
  /-- A match over a value. -/
  | cases (value : Expr) (arms : List Arm)
  /-- A value whose parts are bound by a pattern and returned as a tuple. -/
  | unpack (pattern : Pattern) (value : Expr) (items : List Expr)
  /-- A class instance after the locals that it uses. -/
  | classValue (locals : List (String × Expr)) (value : ClassValue)
  /-- Lines as they stand. -/
  | verbatim (lines : List String)
  deriving Inhabited

/-- The line that binds a local. -/
def letLine (name value : String) : String :=
  "let " ++ name ++ " = " ++ value ++ ";"

/-- The lines of a body. -/
def Body.lines : Body → List String
  | .expression result => [result.text]
  | .cases value arms => ("match " ++ value.text ++ " \x7b") :: arms.map Arm.line ++ ["\x7d"]
  | .unpack pattern value items =>
      letLine pattern.text value.text ::
        if items.isEmpty then [] else [(Expr.tuple items).text]
  | .classValue locals value =>
      locals.map (fun (name, bound) => letLine name bound.text) ++ value.lines
  | .verbatim lines => lines

end DataDerive
