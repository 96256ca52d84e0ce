import DataDerive.Code.Body
import DataDerive.Diagnostic.Basic
import DataDerive.NameTable

/-!
# Items of the generated code

A derivation produces items: types, statics and functions, with the paths that
they import and the messages that go with them.  The items of several
derivations are put one after the other, and each path is imported once.
-/

namespace DataDerive

/-- A parameter of a function, or a field of a structure or variant. -/
structure Slot where
  name : String
  type : CodeType
  deriving Repr, Inhabited

/-- The text of a slot. -/
def Slot.text (slot : Slot) : String :=
  slot.name ++ ": " ++ slot.type.text

/-- A function or a method. -/
structure FunctionItem where
  name : String
  doc : Option String
  generics : List Generic
  /-- Whether it takes the value that it is called on. -/
  receiver : Bool
  parameters : List Slot
  result : CodeType
  /-- Nothing for a required method of a trait. -/
  body : Option Body
  deriving Inhabited

/-- The signature of a function. -/
def FunctionItem.signature (item : FunctionItem) : String :=
  let receiver := if item.receiver then ["&self"] else []
  "fn " ++ item.name ++ Generic.listText item.generics ++ "(" ++
    ", ".intercalate (receiver ++ item.parameters.map Slot.text) ++ ")" ++
    CodeType.arrow item.result item.result.text

/-- A variant of an enum. -/
structure VariantItem where
  name : String
  fields : List Slot
  deriving Repr, Inhabited

/-- A type. -/
inductive TypeItem where
  | enum
      (name : String)
      (doc : Option String)
      (generics : List Generic)
      (derives : List String)
      (variants : List VariantItem)
  | trait
      (name : String)
      (doc : Option String)
      (generics : List Generic)
      (methods : List FunctionItem)
  | struct
      (name : String)
      (doc : Option String)
      (generics : List Generic)
      (fields : List Slot)
      (methods : List FunctionItem)
  deriving Inhabited

namespace TypeItem

/-- The name of a type. -/
def name : TypeItem → String
  | .enum name _ _ _ _ => name
  | .trait name _ _ _ => name
  | .struct name _ _ _ _ => name

/-- The word for the kind of a type. -/
def kind : TypeItem → String
  | .enum _ _ _ _ _ => "enum"
  | .trait _ _ _ _ => "trait"
  | .struct _ _ _ _ _ => "struct"

end TypeItem

/-- A static that is initialized on first use. -/
structure StaticItem where
  name : String
  doc : Option String
  type : CodeType
  body : Body
  deriving Inhabited

/-- The items of one or several derivations. -/
structure CodeUnit where
  types : List TypeItem
  statics : List StaticItem
  /-- The functions of the companion module. -/
  functions : List FunctionItem
  /-- The imported paths, each once. -/
  imports : List String
  notes : List Message
  warnings : List Message
  deriving Inhabited

namespace CodeUnit

/-- No items. -/
def empty : CodeUnit := ⟨[], [], [], [], [], []⟩

/-- A type alone. -/
def ofType (item : TypeItem) : CodeUnit :=
  { empty with types := [item] }

/-- Functions alone. -/
def ofFunctions (items : List FunctionItem) : CodeUnit :=
  { empty with functions := items }

/-- A warning alone. -/
def ofWarning (message : Message) : CodeUnit :=
  { empty with warnings := [message] }

/-- Import paths as well. -/
def importing (unit : CodeUnit) (paths : List String) : CodeUnit :=
  { unit with imports := distinct (unit.imports ++ paths) }

/-- The items of one unit and then those of another. -/
def append (first second : CodeUnit) : CodeUnit where
  types := first.types ++ second.types
  statics := first.statics ++ second.statics
  functions := first.functions ++ second.functions
  imports := distinct (first.imports ++ second.imports)
  notes := first.notes ++ second.notes
  warnings := first.warnings ++ second.warnings

instance : Append CodeUnit := ⟨append⟩

/-- The items of several units. -/
def concat (units : List CodeUnit) : CodeUnit :=
  units.foldl append empty

/-- Whether there are no items at all. -/
def hasNoCode (unit : CodeUnit) : Bool :=
  unit.types.isEmpty && unit.statics.isEmpty && unit.functions.isEmpty

end CodeUnit

end DataDerive
