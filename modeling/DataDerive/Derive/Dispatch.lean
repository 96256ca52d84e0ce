import DataDerive.Derive.Spelling

/-!
# Code that takes values apart

The trait of the cases with the function that dispatches to it, the match by
handlers, a test and a conditional match for each constructor, the fields of a
single constructor as a tuple, and the structural fold.
-/

namespace DataDerive.DataType

/-- The parameter that every one of these functions takes. -/
def valueSlot (type : CodeType) : Slot :=
  ⟨"value", .reference type⟩

/-- The generic parameters of the data type and the result of its matcher. -/
def matcherGenerics (data : DataType) : List Generic :=
  data.generics ++ [.plain data.resultVar]

/-- The type of results. -/
def resultParam (data : DataType) : CodeType :=
  .param data.resultVar

/-- The name of the trait of the cases: that of the interface, if the matcher takes one. -/
def traitName (data : DataType) : String :=
  match data.encoding with
  | .visitor interface _ => Identifier.pascalCase interface
  | .lambdas => data.typeName ++ "Cases"

/-- The fields of a constructor, handed out from a pattern that binds them. -/
def borrowedFields (data : DataType) (constructor : Constructor) : List Expr :=
  constructor.caseFields.map (data.borrowedField constructor)

/-- The types of the fields of a constructor as they are handed out. -/
def borrowedTypes (data : DataType) (constructor : Constructor) : List CodeType :=
  constructor.caseFields.map (data.borrowedType constructor)

/-- The types of the fields of a constructor where narrowed parameters are known. -/
def narrowedTypes (data : DataType) (constructor : Constructor) : List CodeType :=
  constructor.caseFields.map (data.narrowedType constructor)

/-- A match over `value` with an arm for each constructor. -/
def matchEach (data : DataType) (result : Constructor → Expr) : Body :=
  .cases (.ident "value") (data.constructors.map fun constructor =>
    ⟨data.fieldPattern constructor, result constructor⟩)

/-- The method of the trait for a constructor. -/
def caseMethod (data : DataType) (constructor : Constructor) : FunctionItem where
  name := constructor.functionName
  doc := none
  generics := []
  receiver := true
  parameters := constructor.caseFields.map fun field =>
    ⟨field.spelling, data.borrowedType constructor field⟩
  result := data.resultParam
  body := none

/-- The trait with a method for each case. -/
def casesTrait (data : DataType) : TypeItem :=
  .trait data.traitName
    (some s!"One method per case of `{data.name}`; see [`{data.moduleName}::accept`].")
    data.matcherGenerics (data.constructors.map data.caseMethod)

/-- The function that dispatches a value to the methods of the trait. -/
def acceptFunction (data : DataType) : FunctionItem where
  name := "accept"
  doc := some "Dispatch `value` to the method of `cases` for its case."
  generics := data.matcherGenerics
  receiver := false
  parameters := [valueSlot data.selfCode,
    ⟨"cases", .reference (.implTrait data.traitName
      (data.matcherGenerics.map fun parameter => .param parameter.name))⟩]
  result := data.resultParam
  body := some (data.matchEach fun constructor =>
    .method (.ident "cases") constructor.functionName (data.borrowedFields constructor))

/-- The function that applies the handler for a value's case to its fields. -/
def matchFunction (data : DataType) : FunctionItem where
  name := "match_" ++ data.snake
  doc := some "Apply the handler for `value`'s case to its fields."
  generics := data.matcherGenerics
  receiver := false
  parameters := valueSlot data.selfCode :: data.constructors.map fun constructor =>
    ⟨constructor.handlerName, .implOnce (data.borrowedTypes constructor) data.resultParam⟩
  result := data.resultParam
  body := some (data.matchEach fun constructor =>
    .call (.ident constructor.handlerName) (data.borrowedFields constructor))

/-- The trait of the cases and the two functions that match. -/
def matcherCode (data : DataType) : CodeUnit :=
  { CodeUnit.ofType data.casesTrait with
    functions := [data.acceptFunction, data.matchFunction] }

/-- The test for a constructor. -/
def isFunction (data : DataType) (constructor : Constructor) : FunctionItem where
  name := "is_" ++ constructor.snake
  doc := none
  generics := constructor.outerGenerics
  receiver := false
  parameters := [valueSlot (data.resultCode constructor)]
  result := .bool
  body := some (.expression (.matching (.ident "value") (data.openPattern constructor)))

/-- The conditional match for a constructor. -/
def ifFunction (data : DataType) (constructor : Constructor) : FunctionItem where
  name := "if_" ++ constructor.snake
  doc := some
    s!"`Some` of the handler's result when `value` is `{constructor.variantName}`."
  generics := constructor.outerGenerics ++ [.plain data.resultVar]
  receiver := false
  parameters := [valueSlot (data.resultCode constructor),
    ⟨constructor.handlerName, .implOnce (data.narrowedTypes constructor) data.resultParam⟩]
  result := .option data.resultParam
  body :=
    let handled := Expr.call (.ident constructor.handlerName) (data.borrowedFields constructor)
    some (.cases (.ident "value")
      (⟨data.fieldPattern constructor, handled.present⟩ ::
        if data.isSingleCase then [] else [⟨.anything, .ident "None"⟩]))

/-- A test and a conditional match for each constructor. -/
def caseFunctions (data : DataType) : CodeUnit :=
  .ofFunctions (data.constructors.flatMap fun constructor =>
    [data.isFunction constructor, data.ifFunction constructor])

/-- The function that borrows all fields of a constructor at once. -/
def destructureFunction (data : DataType) (constructor : Constructor) : FunctionItem where
  name := "destructure"
  doc := some "Borrow every field at once."
  generics := constructor.outerGenerics
  receiver := false
  parameters := [valueSlot (data.resultCode constructor)]
  result := .tuple (data.narrowedTypes constructor)
  body := some (.unpack (data.fieldPattern constructor) (.ident "value")
    (data.borrowedFields constructor))

/-- The fields of the only constructor as a tuple, or a warning if there are several. -/
def destructuring (data : DataType) (request : Span) : CodeUnit :=
  match data.constructors with
  | [constructor] => .ofFunctions [data.destructureFunction constructor]
  | constructors =>
      .ofWarning (.at_ .severalConstructors
        s!"`destructure` needs a single-case type, but `{data.name}` has {constructors.length} cases; nothing generated"
        (.request data.name request))

/-- The name of the fold. -/
def foldName (data : DataType) : String :=
  "cata_" ++ data.snake

/-- The type as which a handler of the fold takes a field. -/
def foldedType (data : DataType) (constructor : Constructor) (field : Field) : CodeType :=
  if field.type = data.selfType then
    data.resultParam
  else
    data.borrowedType constructor field

/-- What a handler of the fold is given for a field. -/
def foldedField (data : DataType) (constructor : Constructor) (field : Field) : Expr :=
  if field.type = data.selfType then
    .call (.ident data.foldName) (.throughPointer (.bound field.spelling) ::
      data.constructors.map fun other => .ident other.handlerName)
  else
    data.borrowedField constructor field

/-- The function that folds a value from the bottom up. -/
def foldFunction (data : DataType) : FunctionItem where
  name := data.foldName
  doc := some "Fold `value` bottom-up, one handler per case."
  generics := data.matcherGenerics
  receiver := false
  parameters := valueSlot data.selfCode :: data.constructors.map fun constructor =>
    ⟨constructor.handlerName,
      .dynRef (constructor.caseFields.map (data.foldedType constructor)) data.resultParam⟩
  result := data.resultParam
  body := some (data.matchEach fun constructor =>
    .call (.ident constructor.handlerName)
      (constructor.caseFields.map (data.foldedField constructor)))

/-- The structural fold. -/
def catamorphism (data : DataType) : CodeUnit :=
  .ofFunctions [data.foldFunction]

end DataDerive.DataType
