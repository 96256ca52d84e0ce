import DataDerive.Proofs.Derive.Names
import DataDerive.Proofs.Derive.Scoping

/-!
# Type parameters in the storage of a data type

A model is built only if every declared type parameter is mentioned in a field of
a constructor that does not hide it.  The enum is made of the types as which
fields are stored, and a field that mentions a variable of its own case is stored
as a value of unknown type, which mentions nothing.  So a type parameter that
stands beside such variables only is accepted and stored nowhere.  Where no case
has type variables of its own, every type parameter is stored.
-/

namespace DataDerive

/-! ## The enum -/

namespace TypeItem

/-- Whether a type is an enum. -/
def isEnum : TypeItem → Bool
  | .enum _ _ _ _ _ => true
  | _ => false

/-- The generic parameters of a type. -/
def generics : TypeItem → List Generic
  | .enum _ _ generics _ _ => generics
  | .trait _ _ generics _ => generics
  | .struct _ _ generics _ _ => generics

/-- A type parameter occurs in the type of a field of a variant. -/
def Stores (item : TypeItem) (name : String) : Prop :=
  ∃ variant ∈ item.variants, ∃ slot ∈ variant.fields, name ∈ slot.type.paramOccurrences

end TypeItem

/-- The enums of a unit. -/
def CodeUnit.enums (unit : CodeUnit) : List TypeItem :=
  unit.types.filter TypeItem.isEnum

namespace DataType

variable {data : DataType}

/-- The enum with a variant for each constructor. -/
def enumItem (data : DataType) : TypeItem :=
  .enum data.typeName (some s!"Cases of `{data.name}`, one variant per matcher case.")
    data.generics ["Clone"]
    (data.constructors.map fun constructor =>
      ⟨constructor.variantName, data.storedFields constructor⟩)

/-- The types that a derivation adds to the enum. -/
def addedTypes (data : DataType) : Derivation → List TypeItem
  | .matcher => data.matcherCode.types
  | .factory => data.factory.types
  | _ => []

theorem types_eq_addedTypes (data : DataType) (request : Span) (derivation : Derivation) :
    (data.derive request derivation).types = data.addedTypes derivation := by
  cases derivation with
  | getters => exact data.types_forFields data.getter request "getter"
  | modifiers => exact data.types_forFields data.modifier request "modifier"
  | destructure =>
      change (data.destructuring request).types = []
      rcases data.destructuring_cases request with
        ⟨-, constructor, outcome⟩ | ⟨-, message, -, outcome⟩ <;> rw [outcome] <;> rfl
  | matcher | factory | constructors | lazy | caseOf | catamorphism => rfl

/-- No derivation adds an enum. -/
theorem enums_derive (request : Span) (derivation : Derivation) :
    (data.derive request derivation).enums = [] := by
  rw [CodeUnit.enums, types_eq_addedTypes]
  cases derivation <;> rfl

/-- Generated code has one enum, that of the data type. -/
theorem enums_of_generate
    {request : Span}
    {derivations : List Derivation}
    {code : CodeUnit}
    (generated : data.generate request derivations = .ok code) :
    code.enums = [data.enumItem] := by
  have added : (distinct derivations).flatMap (fun derivation =>
      (data.derive request derivation).enums) = [] :=
    List.flatMap_eq_nil_iff.mpr fun derivation _ => data.enums_derive request derivation
  rw [eq_concat_of_generate generated, CodeUnit.enums, CodeUnit.types_concat, List.flatMap_cons,
    List.filter_append, List.flatMap_map, List.filter_flatMap]
  exact congrArg (_ :: ·) added

end DataType

/-! ## Stored types -/

/-- The type parameters in the code for a type are its variables. -/
theorem TypeExpr.mem_paramOccurrences_toCode {type : TypeExpr} {name : String} :
    name ∈ type.toCode.paramOccurrences ↔ name ∈ type.variableOccurrences :=
  ⟨within_toCode.mpr (fun _ occurs => occurs) name,
    within_toCode.mp (fun _ occurs => occurs) name⟩

namespace DataType

variable {data : DataType} {constructor : Constructor} {field : Field} {name : String}

/-- A stored field mentions what its type mentions, and an erased field nothing. -/
theorem mem_paramOccurrences_storedType :
    name ∈ (data.storedType constructor field).paramOccurrences ↔
      constructor.isErased field = false ∧ name ∈ field.type.variableOccurrences := by
  rw [storedType, ← TypeExpr.mem_paramOccurrences_toCode]
  cases constructor.isErased field with
  | true => simp [CodeType.paramOccurrences]
  | false =>
      rw [if_neg Bool.false_ne_true]
      split <;> simp [CodeType.paramOccurrences]

/-- A type parameter stands in a field in which no variable of the case itself stands. -/
def Keeps (data : DataType) (name : String) : Prop :=
  ∃ constructor ∈ data.constructors, ∃ field ∈ constructor.caseFields,
    name ∈ field.type.freeVars ∧ ∀ own ∈ constructor.existentials, own ∉ field.type.freeVars

/-- The enum stores what stands in fields apart from the variables of their cases. -/
theorem stores_enumItem : data.enumItem.Stores name ↔ data.Keeps name := by
  have field_iff (constructor : Constructor) (field : Field) :
      name ∈ (data.storedType constructor field).paramOccurrences ↔
        name ∈ field.type.freeVars ∧
          ∀ own ∈ constructor.existentials, own ∉ field.type.freeVars := by
    rw [mem_paramOccurrences_storedType, Constructor.isErased_eq_false_iff, and_comm]
    simp only [TypeExpr.mem_freeVars]
    exact and_congr_right fun _ => List.disjoint_comm
  simp only [TypeItem.Stores, enumItem, TypeItem.variants, storedFields, List.mem_map,
    exists_exists_and_eq_and, field_iff, Keeps]

end DataType

/-! ## Accepted type parameters -/

namespace Declaration

variable {declaration : Declaration} {snapshot : Snapshot} {data : DataType}

/--
The generated enum has the declared type parameters.  It stores those that stand
in some field without any variable of its case.  Every other one is accepted for
a field in which it stands beside such a variable without being one itself, and
so there is none if the cases are parameters of the matcher.
-/
theorem stored_parameters
    {request : Span}
    {derivations : List Derivation}
    {code : CodeUnit}
    (built : declaration.toDataType snapshot = .ok data)
    (generated : data.generate request derivations = .ok code) :
    ∃ enum, code.enums = [enum] ∧ enum.name = data.typeName ∧
      enum.generics.map Generic.name = declaration.parameterNames ∧
      (∀ name ∈ declaration.parameterNames, enum.Stores name ↔ data.Keeps name) ∧
      (∀ name ∈ declaration.parameterNames, ¬ enum.Stores name →
        ∃ constructor ∈ data.constructors, name ∉ constructor.existentials ∧
          ∃ field ∈ constructor.caseFields, name ∈ field.type.freeVars ∧
            ∃ own ∈ constructor.existentials, own ∈ field.type.freeVars) ∧
      (data.encoding = .lambdas → ∀ name ∈ declaration.parameterNames, enum.Stores name) := by
  have names := typeParams_of_toDataType built
  have wellFormed := wellFormed_of_toDataType built
  have beside : ∀ name ∈ declaration.parameterNames, ¬ data.enumItem.Stores name →
      ∃ constructor ∈ data.constructors, name ∉ constructor.existentials ∧
        ∃ field ∈ constructor.caseFields, name ∈ field.type.freeVars ∧
          ∃ own ∈ constructor.existentials, own ∈ field.type.freeVars := by
    intro name declared lost
    rcases wellFormed.used name (names ▸ declared) with
      ⟨constructor, listed, visible, field, among, occurs⟩
    refine ⟨constructor, listed, visible, field, among, occurs, ?_⟩
    by_contra apart
    push Not at apart
    exact lost (DataType.stores_enumItem.mpr ⟨constructor, listed, field, among, occurs, apart⟩)
  refine ⟨data.enumItem, DataType.enums_of_generate generated, rfl, ?_, ?_, beside, ?_⟩
  · rw [← names]
    exact data.map_name_generics
  · exact fun name _ => DataType.stores_enumItem
  · intro lambdas name declared
    by_contra lost
    rcases beside name declared lost with ⟨constructor, listed, -, -, -, -, own, among, -⟩
    rw [((toDataType_wellFormed built).2.2 lambdas constructor listed).1] at among
    cases among

/-- Callbacks with a result, whose cases are those of an interface. -/
def callback : Declaration where
  name := "Callback"
  span := ⟨1, 10⟩
  typeParams := [⟨"T", ⟨8, 9⟩⟩]
  request := ⟨⟨11, 12⟩, none, []⟩
  methods := [{
    name := "match"
    span := ⟨13, 18⟩
    typeParams := [⟨"R", ⟨19, 20⟩⟩]
    parameters := [⟨"cases", ⟨22, 27⟩, .con "CallbackCases" [.var "T", .var "R"], []⟩]
    result := .var "R"
    isAbstract := true }]
  statics := []

/-- A callback runs on values of a type that only its case knows. -/
def callbackCases : Interface where
  name := "CallbackCases"
  span := ⟨30, 42⟩
  typeParams := [⟨"U", ⟨43, 44⟩⟩, ⟨"X", ⟨46, 47⟩⟩]
  methods := [{
    name := "On"
    span := ⟨50, 52⟩
    typeParams := [⟨"A", ⟨53, 54⟩⟩]
    parameters := [⟨"run", ⟨56, 59⟩, .arrow [.var "A"] (.var "U"), []⟩]
    result := .var "X"
    isAbstract := true }]

/-- Everything that is known about callbacks. -/
def callbackSnapshot : Snapshot :=
  { (default : Snapshot) with declarations := [callback], interfaces := [callbackCases] }

/-- The model of callbacks. -/
def callbackModel : DataType where
  name := "Callback"
  span := ⟨1, 10⟩
  typeParams := ["T"]
  constructors := [{
    name := "On"
    span := ⟨50, 52⟩
    index := 0
    arguments := [⟨"run", ⟨56, 59⟩, .arrow [.var "A"] (.var "T")⟩]
    restrictions := []
    existentials := ["A"]
    typeParams := ["T", "A"] }]
  matcher := "match"
  resultVar := "R"
  encoding := .visitor "CallbackCases" "cases"

/-- The result of a callback is a type parameter that its enum does not use. -/
theorem stored_parameters_callback :
    ∃ code enum,
      callback.toDataType callbackSnapshot = .ok callbackModel ∧
      callbackModel.generate ⟨11, 12⟩ [] = .ok code ∧
      code.enums = [enum] ∧ enum.generics.map Generic.name = ["T"] ∧
      (enum.Stores "T" ↔ callbackModel.Keeps "T") ∧ ¬ enum.Stores "T" := by
  have built : callback.toDataType callbackSnapshot = .ok callbackModel := rfl
  obtain ⟨code, generated⟩ : ∃ code, callbackModel.generate ⟨11, 12⟩ [] = .ok code := ⟨_, rfl⟩
  obtain ⟨enum, only, -, generics, stores, -, -⟩ := stored_parameters built generated
  have lost : ¬ callbackModel.Keeps "T" := by
    unfold DataType.Keeps
    decide
  have stores := stores "T" (List.mem_singleton_self _)
  exact ⟨code, enum, built, generated, only, generics, stores, mt stores.mp lost⟩

end Declaration

end DataDerive
