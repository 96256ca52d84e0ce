import DataDerive.Model.Basic

/-!
# Fields across constructors

A field name may occur in several constructors.  The index lists the names in
the order of their first occurrence, each with all its occurrences.
-/

namespace DataDerive

/-- Where a field name occurs. -/
structure FieldOccurrence where
  /-- The index of the constructor. -/
  constructor : Nat
  /-- The position among the arguments of the constructor. -/
  position : Nat
  type : TypeExpr
  deriving Repr, DecidableEq, Inhabited

/-- A field name with its occurrences. -/
structure FieldEntry where
  name : String
  occurrences : List FieldOccurrence
  deriving Repr, DecidableEq, Inhabited

namespace FieldEntry

/-- The type at the first occurrence. -/
def type? (entry : FieldEntry) : Option TypeExpr :=
  entry.occurrences.head?.map FieldOccurrence.type

/-- The first occurrence in a constructor. -/
def occurrenceIn? (entry : FieldEntry) (constructor : Nat) : Option FieldOccurrence :=
  entry.occurrences.find? fun occurrence => occurrence.constructor == constructor

/-- Whether the occurrences differ in type. -/
def hasConflict (entry : FieldEntry) : Bool :=
  match entry.occurrences with
  | [] => false
  | first :: rest => rest.any fun occurrence => occurrence.type != first.type

end FieldEntry

namespace DataType

/-- The arguments of a constructor with their names, as occurrences. -/
def occurrencesIn (constructor : Constructor) : List (String × FieldOccurrence) :=
  constructor.arguments.zipIdx.map fun (field, position) =>
    (field.name, ⟨constructor.index, position, field.type⟩)

/-- All arguments of all constructors, as occurrences. -/
def occurrences (data : DataType) : List (String × FieldOccurrence) :=
  data.constructors.flatMap occurrencesIn

/-- The field names with their occurrences. -/
def fieldIndex (data : DataType) : List FieldEntry :=
  (distinct (data.occurrences.map Prod.fst)).map fun name =>
    ⟨name, (data.occurrences.filter fun occurrence => occurrence.1 == name).map Prod.snd⟩

/-- Whether a field occurs in every constructor. -/
def isTotal (data : DataType) (entry : FieldEntry) : Bool :=
  entry.occurrences.length == data.constructors.length

end DataType

end DataDerive
