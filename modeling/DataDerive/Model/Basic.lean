import DataDerive.Span
import DataDerive.Substitution

/-!
# The model of a data type

A data type is described by its matcher: a method with one case for each
constructor.  The model keeps the constructors with their fields.  A field of
function type from a concrete type to a type parameter may be a witness: it
narrows the parameter to that type inside its constructor.  Witnesses are kept
apart from the arguments, together with their positions, so that the cases of
the matcher can be put together again.
-/

namespace DataDerive

/-- A field of a case. -/
structure Field where
  name : String
  span : Span
  type : TypeExpr
  deriving Repr, DecidableEq, Inhabited

/-- One case of a matcher as it is declared. -/
structure Case where
  name : String
  span : Span
  fields : List Field
  /-- The type parameters of the case itself. -/
  existentials : List String
  deriving Repr, DecidableEq, Inhabited

/-- A type parameter narrowed inside one constructor. -/
structure Restriction where
  parameter : String
  /-- The type that the parameter is narrowed to. -/
  type : TypeExpr
  /-- The field that witnesses it. -/
  witness : Field
  /-- The position of the witness among the fields of the case. -/
  position : Nat
  deriving Repr, DecidableEq, Inhabited

/-- A constructor of a data type. -/
structure Constructor where
  name : String
  span : Span
  /-- The position among the constructors. -/
  index : Nat
  /-- The fields that are no witnesses, in their order. -/
  arguments : List Field
  restrictions : List Restriction
  /-- The type parameters of the case itself. -/
  existentials : List String
  /-- The declared type parameters that are not narrowed, then the case's own. -/
  typeParams : List String
  deriving Repr, DecidableEq, Inhabited

namespace Constructor

/-- The number of arguments. -/
def arity (constructor : Constructor) : Nat :=
  constructor.arguments.length

/-- Whether a type parameter is narrowed. -/
def isRestricted (constructor : Constructor) : Bool :=
  !constructor.restrictions.isEmpty

/-- The narrowed parameters with their types. -/
def narrowing (constructor : Constructor) : Substitution :=
  .ofPairs (constructor.restrictions.map fun restriction =>
    (restriction.parameter, restriction.type))

/-- A type as it is seen through a value of the constructor. -/
def narrow (constructor : Constructor) (type : TypeExpr) : TypeExpr :=
  constructor.narrowing.substitute type

/-- Whether a field has the name of a witness. -/
def isWitness (constructor : Constructor) (field : Field) : Bool :=
  constructor.restrictions.any fun restriction => restriction.witness.name == field.name

/-- The restriction whose witness stands at a position. -/
def restrictionAt? (constructor : Constructor) (position : Nat) : Option Restriction :=
  constructor.restrictions.find? fun restriction => restriction.position == position

/--
Lay out so many fields from a position on: witnesses at their positions, and
arguments in their order everywhere else.
-/
def layOut (constructor : Constructor) :
    (remaining position : Nat) → List Field → List Field
  | 0, _, _ => []
  | remaining + 1, position, arguments =>
      match constructor.restrictionAt? position, arguments with
      | some restriction, arguments =>
          restriction.witness :: constructor.layOut remaining (position + 1) arguments
      | none, argument :: rest =>
          argument :: constructor.layOut remaining (position + 1) rest
      | none, [] => constructor.layOut remaining (position + 1) []

/-- All fields of the case, witnesses back at their positions. -/
def caseFields (constructor : Constructor) : List Field :=
  constructor.layOut
    (constructor.arguments.length + constructor.restrictions.length) 0 constructor.arguments

/-- The case of the matcher for a constructor. -/
def toCase (constructor : Constructor) : Case :=
  ⟨constructor.name, constructor.span, constructor.caseFields, constructor.existentials⟩

end Constructor

/-- How a matcher lists its cases. -/
inductive Encoding where
  /-- One parameter of function type for each case. -/
  | lambdas
  /-- A single parameter whose type is an interface with a method for each case. -/
  | visitor (interface parameter : String)
  deriving Repr, DecidableEq, Inhabited

/-- The model of a data type. -/
structure DataType where
  name : String
  span : Span
  typeParams : List String
  constructors : List Constructor
  /-- The name of the matcher. -/
  matcher : String
  /-- The type variable that stands for the result of the matcher. -/
  resultVar : String
  encoding : Encoding
  deriving Repr, DecidableEq, Inhabited

namespace DataType

/-- The data type applied to its own type parameters. -/
def selfType (data : DataType) : TypeExpr :=
  .con data.name (data.typeParams.map .var)

/-- The type of the values that a constructor builds. -/
def resultType (data : DataType) (constructor : Constructor) : TypeExpr :=
  constructor.narrow data.selfType

/-- Whether a field holds a value of the data type itself. -/
def isRecursiveField (data : DataType) (field : Field) : Bool :=
  field.type.head? == some data.name

/-- Whether some argument holds a value of the data type itself. -/
def isRecursive (data : DataType) : Bool :=
  data.constructors.any fun constructor => constructor.arguments.any data.isRecursiveField

/-- Whether there is exactly one constructor. -/
def isSingleCase (data : DataType) : Bool :=
  data.constructors.length == 1

/-- Whether there are type parameters. -/
def isParametric (data : DataType) : Bool :=
  !data.typeParams.isEmpty

/-- Whether some constructor narrows a type parameter. -/
def hasRestrictions (data : DataType) : Bool :=
  data.constructors.any Constructor.isRestricted

/-- The cases of the matcher, put together from the model. -/
def cases (data : DataType) : List Case :=
  data.constructors.map Constructor.toCase

end DataType

end DataDerive
