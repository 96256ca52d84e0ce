import DataDerive.Code.Item
import DataDerive.Identifier
import DataDerive.Model.Basic

/-!
# A data type in generated code

How the names, the types, the patterns and the values of a data type are spelled
in generated code.  Three rules decide how a field is stored.  A field whose type
mentions a type variable of its own case is stored as a value of unknown type,
a field of the data type itself behind a shared pointer, and every other field
as it is.
-/

namespace DataDerive

namespace TypeExpr

mutual

/-- The type of the generated code for a declared type. -/
def toCode : TypeExpr → CodeType
  | .var name => .param name
  | .con name arguments =>
      let inner := toCodeAll arguments
      if isTupleName name arguments.length then .tuple inner else .named name inner
  | .arrow parameters result => .sharedFn (toCodeAll parameters) (toCode result)

/-- The types of the generated code for declared types. -/
def toCodeAll : List TypeExpr → List CodeType
  | [] => []
  | type :: rest => toCode type :: toCodeAll rest

end

mutual

/-- Whether a function type occurs as a type or among its arguments. -/
def containsArrow : TypeExpr → Bool
  | .var _ => false
  | .con _ arguments => anyContainsArrow arguments
  | .arrow _ _ => true

/-- Whether a function type occurs in one of several types. -/
def anyContainsArrow : List TypeExpr → Bool
  | [] => false
  | type :: rest => containsArrow type || anyContainsArrow rest

end

end TypeExpr

namespace Constructor

/-- The name of the function that builds a constructor. -/
def functionName (constructor : Constructor) : String :=
  Identifier.snakeName constructor.name

/-- The name of a constructor inside longer names. -/
def snake (constructor : Constructor) : String :=
  Identifier.snakeCase constructor.name

/-- The name of the handler for a constructor. -/
def handlerName (constructor : Constructor) : String :=
  "on_" ++ constructor.snake

/-- The name of a constructor's variant. -/
def variantName (constructor : Constructor) : String :=
  Identifier.pascalCase constructor.name

/-- Whether the variant has no fields at all. -/
def isUnit (constructor : Constructor) : Bool :=
  constructor.arguments.isEmpty && constructor.restrictions.isEmpty

/-- Whether a field's type mentions a type variable of the case itself. -/
def isErased (constructor : Constructor) (field : Field) : Bool :=
  constructor.existentials.any field.type.mentions

/--
The generic parameters of a function that builds a constructor.  To store a value
of unknown type everything that it mentions has to live for ever.
-/
def generics (constructor : Constructor) : List Generic :=
  constructor.typeParams.map fun name =>
    if constructor.existentials.contains name then
      (Generic.plain name).bound (.named "Any")
    else if constructor.existentials.isEmpty then
      .plain name
    else
      (Generic.plain name).bound .forEver

/-- The generic parameters of a function that takes a value of a constructor apart. -/
def outerGenerics (constructor : Constructor) : List Generic :=
  (constructor.typeParams.filter fun name =>
    !constructor.existentials.contains name).map Generic.plain

end Constructor

/-- The name of a field in generated code. -/
def Field.spelling (field : Field) : String :=
  Identifier.snakeName field.name

namespace DataType

/-- The name of the generated enum. -/
def typeName (data : DataType) : String :=
  Identifier.pascalCase data.name

/-- The name of the companion module. -/
def moduleName (data : DataType) : String :=
  Identifier.snakeName data.name

/-- The name of the data type inside longer names. -/
def snake (data : DataType) : String :=
  Identifier.snakeCase data.name

/-- The data type applied to its own parameters. -/
def selfCode (data : DataType) : CodeType :=
  data.selfType.toCode

/-- The type of the values that a constructor builds. -/
def resultCode (data : DataType) (constructor : Constructor) : CodeType :=
  (data.resultType constructor).toCode

/-- The generic parameters of the data type. -/
def generics (data : DataType) : List Generic :=
  data.typeParams.map Generic.plain

/-- The generic parameters of the data type, each with a bound. -/
def boundGenerics (data : DataType) (bound : Bound) : List Generic :=
  data.generics.map fun parameter => parameter.bound bound

/-- The variant of a constructor. -/
def variantPath (data : DataType) (constructor : Constructor) : VariantPath :=
  ⟨data.typeName, constructor.variantName⟩

/-- Whether a field is stored behind a shared pointer. -/
def isPointed (data : DataType) (constructor : Constructor) (field : Field) : Bool :=
  data.isRecursiveField field && !constructor.isErased field

/-- The type as which a field is stored. -/
def storedType (data : DataType) (constructor : Constructor) (field : Field) : CodeType :=
  if constructor.isErased field then
    .sharedAny
  else if data.isRecursiveField field then
    .shared field.type.toCode
  else
    field.type.toCode

/-- The type as which a field is handed out. -/
def borrowedType (data : DataType) (constructor : Constructor) (field : Field) : CodeType :=
  if data.isPointed constructor field then
    .reference field.type.toCode
  else
    .reference (data.storedType constructor field)

/-- The type as which a field is handed out where narrowed parameters are known. -/
def narrowedType (data : DataType) (constructor : Constructor) (field : Field) : CodeType :=
  if constructor.isWitness field then
    .reference (constructor.narrow field.type).toCode
  else
    data.borrowedType constructor field

/-- What hands out a field that a pattern has bound to a name. -/
def borrowed
    (data : DataType)
    (constructor : Constructor)
    (field : Field)
    (binding : String) : Expr :=
  if data.isPointed constructor field then
    .throughPointer (.bound binding)
  else
    .bound binding

/-- What hands out a field that a pattern has bound to its own name. -/
def borrowedField (data : DataType) (constructor : Constructor) (field : Field) : Expr :=
  data.borrowed constructor field field.spelling

/-- What stores a value in a field. -/
def stored
    (data : DataType)
    (constructor : Constructor)
    (field : Field)
    (value : Expr) : Expr :=
  if constructor.isErased field || data.isRecursiveField field then value.share else value

/-- The fields of a variant as they are stored. -/
def storedFields (data : DataType) (constructor : Constructor) : List Slot :=
  constructor.caseFields.map fun field =>
    ⟨field.spelling, data.storedType constructor field⟩

/-- The parameters of a function that builds a constructor. -/
def argumentSlots (constructor : Constructor) : List Slot :=
  constructor.arguments.map fun field => ⟨field.spelling, field.type.toCode⟩

/-- A pattern for a constructor with some bindings. -/
def patternWith
    (data : DataType)
    (constructor : Constructor)
    (bindings : List (String × String)) : Pattern :=
  if constructor.isUnit then
    .unit (data.variantPath constructor)
  else
    .fields (data.variantPath constructor) bindings

/-- The pattern that binds each argument to a letter and its position. -/
def numberedPattern (data : DataType) (letter : String) (constructor : Constructor) : Pattern :=
  data.patternWith constructor (constructor.arguments.zipIdx.map fun (field, index) =>
    (field.spelling, letter ++ toString index))

/-- The pattern that binds every field to its own name. -/
def fieldPattern (data : DataType) (constructor : Constructor) : Pattern :=
  data.patternWith constructor (constructor.caseFields.map fun field =>
    (field.spelling, field.spelling))

/-- The pattern that binds nothing. -/
def openPattern (data : DataType) (constructor : Constructor) : Pattern :=
  data.patternWith constructor []

/-- The values of fields: those of the arguments in their order, and those of witnesses. -/
def fieldValues
    (constructor : Constructor)
    (witness : Restriction → Expr) :
    List Field → List Expr → List (String × Expr)
  | [], _ => []
  | field :: rest, values =>
      match constructor.restrictions.find? fun restriction =>
          restriction.witness.name == field.name, values with
      | some restriction, values =>
          (field.spelling, witness restriction) :: fieldValues constructor witness rest values
      | none, value :: values =>
          (field.spelling, value) :: fieldValues constructor witness rest values
      | none, [] => fieldValues constructor witness rest []

/-- Build a constructor from the values of its arguments. -/
def constructWith
    (data : DataType)
    (constructor : Constructor)
    (values : List Expr)
    (witness : Restriction → Expr) : Expr :=
  if constructor.isUnit then
    .unit (data.variantPath constructor)
  else
    .construct (data.variantPath constructor)
      (fieldValues constructor witness constructor.caseFields values)

/-- Build a constructor again from bindings; witnesses are taken over. -/
def rebuilt (data : DataType) (constructor : Constructor) (values : List Expr) : Expr :=
  data.constructWith constructor values fun restriction => .bound restriction.witness.spelling

/-- Build a constructor from parameters named after its fields; witnesses are identities. -/
def constructed (data : DataType) (constructor : Constructor) : Expr :=
  data.constructWith constructor
    (constructor.arguments.map fun field =>
      data.stored constructor field (.ident field.spelling))
    fun restriction => Expr.share (.identity restriction.type.toCode)

/-- The paths that the storage of the data type imports. -/
def storageImports (data : DataType) : List String :=
  let sharesField (constructor : Constructor) (field : Field) : Bool :=
    data.isRecursiveField field || constructor.isErased field || field.type.containsArrow
  let shares (constructor : Constructor) : Bool :=
    constructor.caseFields.any (sharesField constructor)
  let erases (constructor : Constructor) : Bool :=
    constructor.arguments.any constructor.isErased
  (if data.constructors.any shares then ["std::rc::Rc"] else []) ++
    (if data.constructors.any erases then ["std::any::Any"] else [])

end DataType

end DataDerive
