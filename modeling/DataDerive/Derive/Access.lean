import DataDerive.Derive.Spelling
import DataDerive.Model.FieldIndex
import DataDerive.TypeExpr.Text

/-!
# Code that reads and changes fields

A field name that occurs in several constructors gets one function to read it
and one to change it.  A field that is stored as a value of unknown type gets
none, and one whose occurrences differ in type gets a warning.
-/

namespace DataDerive.DataType

/-- A constructor that has a field, with the field and its position. -/
structure Holder where
  constructor : Constructor
  field : Field
  position : Nat
  deriving Inhabited

/-- The constructors that have a field. -/
def holders (data : DataType) (entry : FieldEntry) : List Holder :=
  entry.occurrences.filterMap fun occurrence => do
    let constructor ← data.constructors[occurrence.constructor]?
    let field ← constructor.arguments[occurrence.position]?
    return ⟨constructor, field, occurrence.position⟩

/-- The name of a field in generated code. -/
def entryName (entry : FieldEntry) : String :=
  Identifier.snakeName entry.name

/-- The name of a field inside longer names. -/
def entrySnake (entry : FieldEntry) : String :=
  Identifier.snakeCase entry.name

/-- The warning that the occurrences of a field differ in type. -/
def conflict
    (data : DataType)
    (request : Span)
    (what : String)
    (entry : FieldEntry) : Message :=
  let types := entry.occurrences.map fun occurrence => "`" ++ occurrence.type.text ++ "`"
  .at_ .conflictingField
    ("field `" ++ entry.name ++ "` of `" ++ data.name ++ "` has conflicting types (" ++
      ", ".intercalate types ++ "); no " ++ what ++ " generated")
    (.request data.name request)

/-- Derive functions for a field unless it is stored as unknown or its types differ. -/
def forField
    (data : DataType)
    (request : Span)
    (what : String)
    (functions : FieldEntry → Holder → List Holder → List FunctionItem)
    (entry : FieldEntry) : CodeUnit :=
  let holders := data.holders entry
  if holders.any fun holder => holder.constructor.isErased holder.field then
    .empty
  else if entry.hasConflict then
    .ofWarning (data.conflict request what entry)
  else
    match holders with
    | [] => .empty
    | first :: _ => .ofFunctions (functions entry first holders)

/-- The function that reads a field. -/
def getter
    (data : DataType)
    (entry : FieldEntry)
    (first : Holder)
    (holders : List Holder) : List FunctionItem :=
  let name := entryName entry
  let value := data.borrowed first.constructor first.field name
  let type := data.borrowedType first.constructor first.field
  let pattern := Pattern.oneOf (holders.map fun holder =>
    .fields (data.variantPath holder.constructor) [(holder.field.spelling, name)])
  let arms : List Arm :=
    if data.isTotal entry then
      [⟨pattern, value⟩]
    else
      [⟨pattern, value.present⟩, ⟨.anything, .ident "None"⟩]
  [{ name := "get_" ++ entrySnake entry
     doc := none
     generics := data.generics
     receiver := false
     parameters := [⟨"value", .reference data.selfCode⟩]
     result := if data.isTotal entry then type else .option type
     body := some (.cases (.ident "value") arms) }]

/-- The value of an argument in a variant that is built again with one field changed. -/
def changedValue (data : DataType) (position : Nat) (field : Field) (index : Nat) : Expr :=
  let binding := Expr.bound field.spelling
  let update (value : Expr) : Expr := .call (.ident "update") [value]
  if index ≠ position then
    binding
  else if data.isRecursiveField field then
    (update (.call (.member "Rc" "unwrap_or_clone") [binding])).share
  else
    update binding

/-- The arm that builds a variant again with one field changed. -/
def changingArm (data : DataType) (holder : Holder) : Arm :=
  ⟨data.fieldPattern holder.constructor,
    data.rebuilt holder.constructor (holder.constructor.arguments.zipIdx.map
      fun (field, index) => data.changedValue holder.position field index)⟩

/-- The functions that replace and change a field. -/
def modifier
    (data : DataType)
    (entry : FieldEntry)
    (first : Holder)
    (holders : List Holder) : List FunctionItem :=
  let snake := entrySnake entry
  let type := first.field.type.toCode
  let generics :=
    if data.isRecursiveField first.field then
      data.boundGenerics (.named "Clone")
    else
      data.generics
  let others : List Arm :=
    if data.isTotal entry then [] else [⟨.ident "other", .bound "other"⟩]
  let replacement := "new_" ++ snake
  [{ name := "set_" ++ snake
     doc := none
     generics
     receiver := false
     parameters := [⟨"value", data.selfCode⟩, ⟨replacement, type⟩]
     result := data.selfCode
     body := some (.expression (.call (.ident ("modify_" ++ snake))
       [.ident "value", .constant (.ident replacement)])) },
   { name := "modify_" ++ snake
     doc := some s!"Replace `{snake}` by `update` of its current value."
     generics
     receiver := false
     parameters := [⟨"value", data.selfCode⟩, ⟨"update", .implOnce [type] type⟩]
     result := data.selfCode
     body := some (.cases (.ident "value") (holders.map data.changingArm ++ others)) }]

/-- The functions that read fields. -/
def getters (data : DataType) (request : Span) : CodeUnit :=
  .concat (data.fieldIndex.map (data.forField request "getter" data.getter))

/-- The functions that replace and change fields. -/
def modifiers (data : DataType) (request : Span) : CodeUnit :=
  .concat (data.fieldIndex.map (data.forField request "modifier" data.modifier))

end DataDerive.DataType
