import DataDerive.Derive.Spelling
import DataDerive.Instance.Location

/-!
# Names inside a generated instance

The instance of a data type without parameters is a static, and that of a data
type with parameters a function, which takes an instance for each pair of a
class and a type variable that its fields need.

A field whose instance is made by a static method, without the instance under
construction, has it bound to a local once, however many fields share it.  What
mentions the instance under construction is written where it is used, so that it
is looked at only when the instance is called.
-/

namespace DataDerive

/-- The names inside the generated instance of a class. -/
structure InstanceNaming where
  data : DataType
  className : String
  /-- How each argument of each constructor gets its instance. -/
  locations : List (List Location)

namespace InstanceNaming

/-- The name of the parameter for a class at a type variable. -/
def parameterName : String × String → String
  | (className, name) => Identifier.snakeCase className ++ "_" ++ Identifier.snakeCase name

/-- The parameters that the instance needs, in the order of their first use. -/
def parameters (naming : InstanceNaming) : List (String × String) :=
  distinct (naming.locations.flatten.flatMap Location.parameters)

/-- Whether an instance is bound to a local. -/
def isHoisted : Location → Bool
  | location@(.method _ _ _ _ _) => !location.mentionsGenerated
  | _ => false

/-- The instances that are bound to locals, in the order of their first use. -/
def hoisted (naming : InstanceNaming) : List Location :=
  distinct (naming.locations.flatten.filter isHoisted)

/-- The class inside longer names. -/
def classSnake (naming : InstanceNaming) : String :=
  Identifier.snakeCase naming.className

/-- The name of the generated function. -/
def functionName (naming : InstanceNaming) : String :=
  naming.data.snake ++ "_" ++ naming.classSnake

/-- The name of the generated static. -/
def staticName (naming : InstanceNaming) : String :=
  String.ofList (naming.functionName.toList.flatMap Text.toUppercase)

/-- The name of the local to which an instance is bound. -/
def localName? (naming : InstanceNaming) (location : Location) : Option String :=
  (naming.hoisted.idxOf? location).map fun index => naming.classSnake ++ toString index

/-- The position of a type variable among the parameters of the data type. -/
def parameterIndex? (naming : InstanceNaming) (name : String) : Option Nat :=
  naming.data.typeParams.idxOf? name

/--
What a recursive use of the generated function passes for one of its parameters:
the instance made for that type variable if the class is the one that is derived,
and its own parameter otherwise.
-/
def passed
    (naming : InstanceNaming)
    (dependencies : List Expr)
    (parameter : String × String) : Expr :=
  let made : Option Expr :=
    if parameter.1 = naming.className then do
      dependencies[← naming.parameterIndex? parameter.2]?
    else
      none
  made.getD (Expr.ident (parameterName parameter)).clone

mutual

/-- An instance as a value of its own. -/
def owned (naming : InstanceNaming) : Location → Expr
  | .field source member _ => (Expr.member source member).clone
  | .method source member _ _ dependencies =>
      .call (.member source member) (ownedAll naming dependencies)
  | .parameter className name => (Expr.ident (parameterName (className, name))).clone
  | .generated _ _ dependencies =>
      if naming.data.isParametric then
        .call (.ident naming.functionName)
          (naming.parameters.map (naming.passed (ownedAll naming dependencies)))
      else
        (Expr.ident naming.staticName).clone

/-- Several instances as values of their own. -/
def ownedAll (naming : InstanceNaming) : List Location → List Expr
  | [] => []
  | location :: rest => owned naming location :: ownedAll naming rest

end

/-- An instance as it is consulted inside the generated instance. -/
def receiver (naming : InstanceNaming) (location : Location) : Expr :=
  match naming.localName? location, location with
  | some name, _ => .ident name
  | none, .field source member _ => .member source member
  | none, .parameter className name => .ident (parameterName (className, name))
  | none, .generated className type dependencies =>
      if naming.data.isParametric then
        naming.owned (.generated className type dependencies)
      else
        .ident naming.staticName
  | none, location => naming.owned location

/-- The locals with what they are bound to. -/
def locals (naming : InstanceNaming) : List (String × Expr) :=
  naming.hoisted.zipIdx.map fun (location, index) =>
    (naming.classSnake ++ toString index, naming.owned location)

/-- How each argument of each constructor is consulted. -/
def receivers (naming : InstanceNaming) : List (List Expr) :=
  naming.locations.map fun row => row.map naming.receiver

mutual

/-- The types at which the instance under construction is used. -/
def instantiations : Location → List TypeExpr
  | .generated _ type dependencies => type :: instantiationsAll dependencies
  | .method _ _ _ _ dependencies => instantiationsAll dependencies
  | .field _ _ _ => []
  | .parameter _ _ => []

/-- The types at which the instance under construction is used in several locations. -/
def instantiationsAll : List Location → List TypeExpr
  | [] => []
  | location :: rest => instantiations location ++ instantiationsAll rest

end

/-- The type that a parameter has at an instantiation, if it is not the parameter itself. -/
def changedArgument?
    (naming : InstanceNaming)
    (type : TypeExpr)
    (parameter : String × String) : Option TypeExpr :=
  match type with
  | .con _ arguments => do
      let argument ← arguments[← naming.parameterIndex? parameter.2]?
      if argument = .var parameter.2 then none else some argument
  | _ => none

/--
A class and a type for which a recursive use would need an instance that it
cannot be given.  Only instances of the derived class are made for each use.
-/
def unpassable? (naming : InstanceNaming) : Option (String × TypeExpr) :=
  let others := naming.parameters.filter fun parameter => parameter.1 ≠ naming.className
  let uses := (instantiationsAll naming.locations.flatten).filter (· ≠ naming.data.selfType)
  uses.findSome? fun type =>
    others.findSome? fun parameter =>
      (naming.changedArgument? type parameter).map fun argument => (parameter.1, argument)

end InstanceNaming

end DataDerive
