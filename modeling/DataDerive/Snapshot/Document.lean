import DataDerive.Declaration
import DataDerive.Json.Basic

/-!
# Decoding snapshots

A snapshot document is decoded strictly.  A record is written as an object or as
the array of its fields in their order.  An object has no key twice and no key
that the record does not define; an array has no item too many.  A field that
is missing takes its default, and a field without a default has to be there.

Two kinds of object are lenient about further keys: the written-out form of a
named item and a static member.
-/

namespace DataDerive.Document

/-- A decoder refuses what it does not know. -/
abbrev Decoder (α : Type) : Type := Json → Option α

/-- A text. -/
def text : Decoder String
  | .string value => some value
  | _ => none

/-- A truth value. -/
def truth : Decoder Bool
  | .bool value => some value
  | _ => none

/-- A value, or nothing for null. -/
def nullable {α : Type} (value : Decoder α) : Decoder (Option α)
  | .null => some none
  | json => (value json).map some

/-- A list of values. -/
def list {α : Type} (item : Decoder α) : Decoder (List α)
  | .array items => items.mapM item
  | _ => none

/-- An offset: a natural number of at most thirty-two bits. -/
def offset : Decoder Nat
  | .number (.natural value) => if value < UInt32.size then some value else none
  | _ => none

/-- A span: the array of its two offsets. -/
def span : Decoder Span
  | .array [start, stop] => do return ⟨← offset start, ← offset stop⟩
  | _ => none

/-- A field that has to be there. -/
def required {α : Type} (value : Decoder α) (field : Option Json) : Option α :=
  field.bind value

/-- A field that takes a default if it is missing. -/
def optional {α : Type} (default : α) (value : Decoder α) (field : Option Json) : Option α :=
  match field with
  | some json => value json
  | none => some default

/-- The fields under the keys, each at most once. -/
def fieldsOf (keys : List String) (members : List (String × Json)) :
    Option (List (Option Json)) :=
  keys.mapM fun key =>
    match Json.valuesOf key members with
    | [] => some none
    | [value] => some (some value)
    | _ => none

/-- Whether every key is one of a list. -/
def onlyKeys (keys : List String) (members : List (String × Json)) : Bool :=
  members.all fun member => keys.contains member.1

/-- The fields of a record that is written as an array. -/
def positional (keys : List String) (items : List Json) : Option (List (Option Json)) :=
  if items.length ≤ keys.length then
    some (items.map some ++ List.replicate (keys.length - items.length) none)
  else
    none

/-- The fields of a record that defines exactly these keys. -/
def record (keys : List String) : Decoder (List (Option Json))
  | .object members => if onlyKeys keys members then fieldsOf keys members else none
  | .array items => positional keys items
  | _ => none

/-- The fields of an object that may have further keys. -/
def lenient (keys : List String) : Decoder (List (Option Json))
  | .object members => fieldsOf keys members
  | _ => none

/-- A named item: its name alone, or an object of the name and the span. -/
def named : Decoder Named
  | .string name => some ⟨name, .absent⟩
  | json => do
      match ← lenient ["name", "span"] json with
      | [name, place] => return ⟨← required text name, ← optional .absent span place⟩
      | _ => none

/-- A parameter of a method. -/
def parameter : Decoder (Parameter String) := fun json => do
  match ← record ["name", "span", "type", "fields"] json with
  | [name, place, type, fields] =>
      return ⟨← required text name, ← optional .absent span place, ← required text type,
        ← optional [] (list text) fields⟩
  | _ => none

/-- A method. -/
def method : Decoder (Method String) := fun json => do
  match ← record ["name", "span", "type_params", "params", "returns", "abstract"] json with
  | [name, place, typeParams, parameters, result, isAbstract] =>
      return ⟨← required text name, ← optional .absent span place,
        ← optional [] (list named) typeParams, ← optional [] (list parameter) parameters,
        ← required text result, ← optional true truth isAbstract⟩
  | _ => none

/-- The annotation that asks for derived code. -/
def request : Decoder Request := fun json => do
  match ← record ["span", "derive", "instances"] json with
  | [place, derivations, instances] =>
      return ⟨← optional .absent span place, ← optional none (nullable (list named)) derivations,
        ← optional [] (list named) instances⟩
  | _ => none

/-- A static field, from its fields after the kind. -/
def staticField : List (Option Json) → Option (StaticMember String)
  | [name, place, type] =>
      return .field (← required text name) (← optional .absent span place) (← required text type)
  | _ => none

/-- A static method, from its fields after the kind. -/
def staticMethod : List (Option Json) → Option (StaticMember String)
  | [name, place, typeParams, parameters, result] =>
      return .method (← required text name) (← optional .absent span place)
        (← optional [] (list named) typeParams) (← optional [] (list text) parameters)
        (← required text result)
  | _ => none

/-- The keys of a kind of static member, and how its fields are decoded. -/
def memberKind (kind : String) :
    Option (List String × (List (Option Json) → Option (StaticMember String))) :=
  match kind with
  | "field" => some (["name", "span", "type"], staticField)
  | "method" => some (["name", "span", "type_params", "params", "returns"], staticMethod)
  | _ => none

/-- A static member: its kind, and the fields of that kind. -/
def member : Decoder (StaticMember String)
  | .object members => do
      match ← fieldsOf ["kind"] members with
      | [kind] =>
          let (keys, decode) ← memberKind (← required text kind)
          decode (← fieldsOf keys members)
      | _ => none
  | .array (kind :: items) => do
      let (keys, decode) ← memberKind (← text kind)
      decode (← positional keys items)
  | _ => none

/-- A data declaration. -/
def declaration : Decoder (Declaration String) := fun json => do
  match ← record ["name", "span", "type_params", "annotation", "methods", "statics"] json with
  | [name, place, typeParams, wanted, methods, statics] =>
      return ⟨← required text name, ← optional .absent span place,
        ← optional [] (list named) typeParams,
        ← optional ⟨.absent, none, []⟩ request wanted, ← optional [] (list method) methods,
        ← optional [] (list member) statics⟩
  | _ => none

/-- An interface. -/
def interface : Decoder (Interface String) := fun json => do
  match ← record ["name", "span", "type_params", "methods"] json with
  | [name, place, typeParams, methods] =>
      return ⟨← required text name, ← optional .absent span place,
        ← optional [] (list named) typeParams, ← optional [] (list method) methods⟩
  | _ => none

/-- A provider. -/
def provider : Decoder (Provider String) := fun json => do
  match ← record ["name", "span", "members"] json with
  | [name, place, members] =>
      return ⟨← required text name, ← optional .absent span place,
        ← optional [] (list member) members⟩
  | _ => none

/-- A snapshot whose types are texts still. -/
def snapshot : Decoder (Snapshot String) := fun json => do
  match ← record
      ["path", "source", "declarations", "interfaces", "providers", "low_priority"] json with
  | [path, source, declarations, interfaces, providers, lowPriority] =>
      return ⟨← optional none (nullable text) path, ← optional none (nullable text) source,
        ← optional [] (list declaration) declarations,
        ← optional [] (list interface) interfaces, ← optional [] (list provider) providers,
        ← optional [] (list text) lowPriority⟩
  | _ => none

end DataDerive.Document
