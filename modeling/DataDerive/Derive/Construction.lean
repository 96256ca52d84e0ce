import DataDerive.Derive.Spelling

/-!
# Code that builds values

A function for each constructor, a structure whose methods do the same, and
values that are built on first access.
-/

namespace DataDerive.DataType

/-- The function that builds a constructor. -/
def buildingFunction
    (data : DataType)
    (receiver : Bool)
    (constructor : Constructor) : FunctionItem where
  name := constructor.functionName
  doc := none
  generics := constructor.generics
  receiver
  parameters := argumentSlots constructor
  result := data.resultCode constructor
  body := some (.expression (data.constructed constructor))

/-- A function for each constructor. -/
def constructorFunctions (data : DataType) : CodeUnit :=
  .ofFunctions (data.constructors.map (data.buildingFunction false))

/-- A structure with a method for each constructor. -/
def factory (data : DataType) : CodeUnit :=
  .ofType (.struct (data.typeName ++ "Factory")
    (some s!"Constructs `{data.typeName}` values; pass it where a factory value is expected.")
    [] [] (data.constructors.map (data.buildingFunction true)))

/-- A function that defers building a value until it is accessed. -/
def lazyValue (data : DataType) : CodeUnit :=
  let self := data.selfCode
  let function : FunctionItem := {
    name := "lazy"
    doc := some "A value built by `build` on first access."
    generics := data.boundGenerics .forEver ++ [(Generic.plain "F").bound (.producer self)]
    receiver := false
    parameters := [⟨"build", .param "F"⟩]
    result := .named "LazyCell" [self, .boxedOnce [] self]
    body := some (.expression (.call (.member "LazyCell" "new")
      [.call (.member "Box" "new") [.ident "build"]])) }
  (CodeUnit.ofFunctions [function]).importing ["std::cell::LazyCell"]

end DataDerive.DataType
