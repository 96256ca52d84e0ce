import DataDerive.ClassInstance.Derive
import DataDerive.Proofs.ClassInstance.Found
import DataDerive.Proofs.Code.Unit
import DataDerive.Proofs.Derive.Outcomes

/-!
# Names of generated items

The names of the types, variants and functions of a generated module are read off
the data type.  Each derivation has its own list of names, and the instances have
one name for each class if the data type has parameters.  Only fields that are
accessed have functions of their own.
-/

namespace DataDerive

/-! ## Items -/

/-- The variants of a type. -/
def TypeItem.variants : TypeItem → List VariantItem
  | .enum _ _ _ _ variants => variants
  | _ => []

namespace CodeUnit

/-- The variants of the types of a unit. -/
def variants (unit : CodeUnit) : List VariantItem :=
  unit.types.flatMap TypeItem.variants

/-- The names of the types of a unit. -/
def typeNames (unit : CodeUnit) : List String :=
  unit.types.map TypeItem.name

/-- The names of the functions of a unit. -/
def functionNames (unit : CodeUnit) : List String :=
  unit.functions.map FunctionItem.name

theorem variants_append (first second : CodeUnit) :
    (first.append second).variants = first.variants ++ second.variants :=
  List.flatMap_append

theorem typeNames_append (first second : CodeUnit) :
    (first.append second).typeNames = first.typeNames ++ second.typeNames :=
  List.map_append

theorem functionNames_append (first second : CodeUnit) :
    (first.append second).functionNames = first.functionNames ++ second.functionNames :=
  List.map_append

theorem variants_concat (units : List CodeUnit) :
    (concat units).variants = units.flatMap variants :=
  part_concat rfl variants_append units

theorem typeNames_concat (units : List CodeUnit) :
    (concat units).typeNames = units.flatMap typeNames :=
  part_concat rfl typeNames_append units

theorem functionNames_concat (units : List CodeUnit) :
    (concat units).functionNames = units.flatMap functionNames :=
  part_concat rfl functionNames_append units

end CodeUnit

namespace DataType

variable (data : DataType)

/-! ## Accessed fields -/

/-- The names of the functions for a field depend on its name alone. -/
theorem functionNames_forField
    {functions : FieldEntry → Holder → List Holder → List FunctionItem}
    {names : FieldEntry → List String}
    (spelled : ∀ entry first holders,
      (functions entry first holders).map FunctionItem.name = names entry)
    (request : Span)
    (what : String)
    (entry : FieldEntry) :
    (data.forField request what functions entry).functionNames =
      if data.isAccessed entry then names entry else [] := by
  rcases data.forField_cases request what functions entry with
    ⟨hidden, outcome⟩ | ⟨hidden, outcome⟩ | ⟨shown, first, -, outcome⟩
  · rw [outcome, hidden]
    rfl
  · rw [outcome, hidden]
    rfl
  · rw [outcome, shown, if_pos rfl]
    exact spelled entry first (data.holders entry)

theorem functionNames_forFields
    (functions : FieldEntry → Holder → List Holder → List FunctionItem)
    (names : FieldEntry → List String)
    (spelled : ∀ entry first holders,
      (functions entry first holders).map FunctionItem.name = names entry)
    (request : Span)
    (what : String) :
    (CodeUnit.concat (data.fieldIndex.map (data.forField request what functions))).functionNames =
      data.accessed.flatMap names := by
  rw [CodeUnit.functionNames_concat, List.flatMap_map, accessed]
  induction data.fieldIndex with
  | nil => rfl
  | cons entry rest ih =>
      rw [List.flatMap_cons, ih, data.functionNames_forField spelled, List.filter_cons]
      split
      next => rw [List.flatMap_cons]
      next => rfl

/-! ## Derivations -/

/-- The names of the types that a derivation adds to the enum. -/
def addedTypeNames : Derivation → List String
  | .matcher => [data.traitName]
  | .factory => [data.typeName ++ "Factory"]
  | _ => []

/-- The names of the functions of a derivation. -/
def addedFunctionNames : Derivation → List String
  | .matcher => ["accept", "match_" ++ data.snake]
  | .constructors => data.constructors.map Constructor.functionName
  | .lazy => ["lazy"]
  | .caseOf => data.constructors.flatMap fun constructor =>
      ["is_" ++ constructor.snake, "if_" ++ constructor.snake]
  | .destructure => if data.isSingleCase then ["destructure"] else []
  | .getters => data.accessed.map fun entry => "get_" ++ entrySnake entry
  | .modifiers => data.accessed.flatMap fun entry =>
      ["set_" ++ entrySnake entry, "modify_" ++ entrySnake entry]
  | .catamorphism => ["cata_" ++ data.snake]
  | .factory => []

theorem functionNames_derive (request : Span) (derivation : Derivation) :
    (data.derive request derivation).functionNames = data.addedFunctionNames derivation := by
  cases derivation with
  | constructors => exact List.map_map
  | caseOf => exact List.map_flatMap
  | destructure =>
      change (data.destructuring request).functionNames = if data.isSingleCase then _ else _
      rcases data.destructuring_cases request with
        ⟨single, constructor, outcome⟩ | ⟨several, message, -, outcome⟩
      · rw [outcome, single]
        rfl
      · rw [outcome, several]
        rfl
  | getters =>
      have names := data.functionNames_forFields data.getter
        (fun entry => ["get_" ++ entrySnake entry]) (fun _ _ _ => rfl) request "getter"
      exact names.trans List.map_eq_flatMap.symm
  | modifiers =>
      exact data.functionNames_forFields data.modifier
        (fun entry => ["set_" ++ entrySnake entry, "modify_" ++ entrySnake entry])
        (fun _ _ _ => rfl) request "modifier"
  | matcher | lazy | catamorphism | factory => rfl

/-- No function for a field comes with a type. -/
theorem types_forFields
    (functions : FieldEntry → Holder → List Holder → List FunctionItem)
    (request : Span)
    (what : String) :
    (CodeUnit.concat (data.fieldIndex.map (data.forField request what functions))).types = [] := by
  rw [CodeUnit.types_concat, List.flatMap_eq_nil_iff, List.forall_mem_map]
  intro entry _
  rcases data.forField_cases request what functions entry with
    ⟨-, outcome⟩ | ⟨-, outcome⟩ | ⟨-, first, -, outcome⟩ <;> rw [outcome] <;> rfl

theorem types_derive (request : Span) (derivation : Derivation) :
    (data.derive request derivation).typeNames = data.addedTypeNames derivation ∧
      (data.derive request derivation).variants = [] := by
  have ofTypes {unit : CodeUnit} (none : unit.types = []) :
      unit.typeNames = [] ∧ unit.variants = [] := by
    rw [CodeUnit.typeNames, CodeUnit.variants, none]
    exact ⟨rfl, rfl⟩
  cases derivation with
  | getters => exact ofTypes (data.types_forFields data.getter request "getter")
  | modifiers => exact ofTypes (data.types_forFields data.modifier request "modifier")
  | destructure =>
      refine ofTypes ?_
      change (data.destructuring request).types = []
      rcases data.destructuring_cases request with
        ⟨-, constructor, outcome⟩ | ⟨-, message, -, outcome⟩ <;> rw [outcome] <;> rfl
  | matcher | factory | constructors | lazy | caseOf | catamorphism => exact ⟨rfl, rfl⟩

/-- The names in the code of the derivations that were asked for. -/
theorem names_of_generate
    {data : DataType}
    {request : Span}
    {derivations : List Derivation}
    {unit : CodeUnit}
    (generated : data.generate request derivations = .ok unit) :
    unit.variants = data.constructors.map (fun constructor =>
        ⟨constructor.variantName, data.storedFields constructor⟩) ∧
      unit.typeNames = data.typeName :: (distinct derivations).flatMap data.addedTypeNames ∧
      unit.functionNames = (distinct derivations).flatMap data.addedFunctionNames := by
  rw [eq_concat_of_generate generated]
  simp only [CodeUnit.variants_concat, CodeUnit.typeNames_concat, CodeUnit.functionNames_concat,
    List.flatMap_cons, List.flatMap_map, (data.types_derive request _).1,
    (data.types_derive request _).2, data.functionNames_derive request]
  have none : (distinct derivations).flatMap (fun _ => ([] : List VariantItem)) = [] :=
    List.flatMap_eq_nil_iff.mpr fun _ _ => rfl
  rw [none]
  exact ⟨(List.append_nil _).trans (List.append_nil _), rfl, rfl⟩

/-- The name of the function that makes the instance of a class. -/
def instanceName (className : String) : String :=
  data.snake ++ "_" ++ Identifier.snakeCase className

end DataType

/-! ## Instances -/

section FirstOfEachName

variable {seen : List String} {items : List Named} {name : String}

theorem mem_map_firstOfEachName :
    name ∈ (firstOfEachName seen items).map Named.name ↔
      name ∈ items.map Named.name ∧ name ∉ seen := by
  induction items generalizing seen with
  | nil => simp [firstOfEachName]
  | cons item rest ih =>
      rw [firstOfEachName]
      split
      next known =>
        rw [ih, List.map_cons, List.mem_cons]
        have inSeen : item.name ∈ seen := List.contains_iff_mem.mp known
        constructor
        · exact fun both => ⟨.inr both.1, both.2⟩
        · rintro ⟨rfl | later, new⟩
          · exact absurd inSeen new
          · exact ⟨later, new⟩
      next new =>
        rw [List.map_cons, List.mem_cons, ih, List.map_cons, List.mem_cons, List.mem_cons, not_or]
        have notSeen : item.name ∉ seen := fun known => new (List.contains_iff_mem.mpr known)
        by_cases same : name = item.name
        · simp [same, notSeen]
        · simp [same]

theorem nodup_map_firstOfEachName : ((firstOfEachName seen items).map Named.name).Nodup := by
  induction items generalizing seen with
  | nil => simp [firstOfEachName]
  | cons item rest ih =>
      rw [firstOfEachName]
      split
      next => exact ih
      next =>
        rw [List.map_cons, List.nodup_cons, mem_map_firstOfEachName]
        exact ⟨fun both => both.2 List.mem_cons_self, ih⟩

end FirstOfEachName

theorem InstanceRequest.names_of_generate
    {request : InstanceRequest}
    {generator : InstanceGenerator}
    {unit : CodeUnit}
    (generated : request.generate generator = .ok unit) :
    unit.types = [] ∧
      unit.functionNames =
        if request.data.isParametric then
          [request.data.instanceName request.className]
        else
          [] := by
  rcases generate_eq_ok_iff.mp generated with ⟨found, -, -, rfl⟩
  change (request.item _ _).types = [] ∧ (request.item _ _).functionNames = _
  rw [item]
  split <;> exact ⟨rfl, rfl⟩

/-- The names in the code of the instances that were asked for. -/
theorem DataType.names_of_deriveInstances
    {data : DataType}
    {asking : Declaration}
    {searched : Snapshot}
    {registry : GeneratorRegistry}
    {unit : CodeUnit}
    (derived : data.deriveInstances asking searched registry = .ok unit) :
    unit.types = [] ∧
      unit.functionNames =
        if data.isParametric then
          ((firstOfEachName [] asking.request.instances).map Named.name).map data.instanceName
        else
          [] := by
  rcases Derived.bind_eq_ok_iff.mp derived with ⟨units, each, same⟩
  cases same
  rw [CodeUnit.types_concat, CodeUnit.functionNames_concat]
  have pairs := Derived.mapM_eq_ok_iff.mp each
  clear each derived
  generalize firstOfEachName [] asking.request.instances = items at pairs ⊢
  induction pairs with
  | nil => simp
  | @cons item unit items units one _ ih =>
      have names : unit.types = [] ∧ unit.functionNames =
          if data.isParametric then [data.instanceName item.name] else [] := by
        dsimp only at one
        split at one
        next generator _ => exact InstanceRequest.names_of_generate one
        next => cases one
      rw [List.flatMap_cons, List.flatMap_cons, ih.1, ih.2, names.1, names.2]
      refine ⟨rfl, ?_⟩
      split <;> rfl

end DataDerive
