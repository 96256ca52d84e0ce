import DataDerive.Identifier
import DataDerive.TypeExpr.Basic

/-!
# Names for unnamed fields

The fields of a case that names none are named after their types: the head of
the type in snake case, `value` for the primitive types and `f` for functions.
A name that several fields would get is followed by a number from one up, and
numbers that would repeat a name already given are left out.
-/

namespace DataDerive.FieldName

/-- Types whose names say nothing about a field. -/
def primitives : List String :=
  ["i8", "i16", "i32", "i64", "i128", "isize", "u8", "u16", "u32", "u64", "u128", "usize",
    "f32", "f64", "bool", "char", "str", "String"]

/-- The name that a type suggests. -/
def base : TypeExpr → String
  | .con name [] => if primitives.contains name then "value" else Identifier.snakeCase name
  | .con name _ => Identifier.snakeCase name
  | .var name => Identifier.snakeCase name
  | .arrow _ _ => "f"

/-- Whether several fields would get a name. -/
def isRepeated (bases : List String) (name : String) : Bool :=
  1 < bases.count name

/-- A name followed by a number. -/
def numbered (name : String) (number : Nat) : String :=
  name ++ toString number

/-- The first numbered form of a name that is not taken. -/
def firstFree (taken : List String) (name : String) : String :=
  (((List.range (taken.length + 1)).map fun count => numbered name (count + 1)).find?
    fun candidate => !taken.contains candidate).getD ""

/-- Name fields from left to right; `taken` are the names that are not free any more. -/
def assign (isRepeated : String → Bool) : (taken bases : List String) → List String
  | _, [] => []
  | taken, name :: rest =>
      if isRepeated name then
        let free := firstFree taken name
        free :: assign isRepeated (free :: taken) rest
      else
        name :: assign isRepeated taken rest

/-- Names for fields of these types. -/
def ofTypes (types : List TypeExpr) : List String :=
  let bases := types.map base
  assign (isRepeated bases) (bases.filter fun name => !isRepeated bases name) bases

end DataDerive.FieldName
