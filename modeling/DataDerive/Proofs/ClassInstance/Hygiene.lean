import DataDerive.Proofs.ClassInstance.Receivers
import DataDerive.Proofs.Derive.Hygiene

/-!
# Hygiene of class instances

The arms of an instance bind a letter and a number for each argument.  What they
need from the surroundings is the locals, which start with the class, and names
that have an underscore: the parameters for other instances, and the instance
itself.  For the standard classes no local starts with one of the letters.  The
parameters of an instance are named after a class and a type variable, and nothing
keeps these names apart.
-/

namespace DataDerive

/-! ## Instances as they are consulted -/

namespace InstanceNaming

/-- An instance refers to nothing but names with an underscore. -/
theorem inherited_resolvesIn
    {names : List String}
    (plain : ∀ name ∈ names, ¬ Underscored name) :
    Inherited fun value => value.ResolvesIn names where
  member _ _ := Expr.resolvesIn_member
  underscored _ underscored :=
    Expr.resolvesIn_ident.mpr fun listed => plain _ listed underscored
  clone _ := Expr.resolvesIn_clone.mpr
  call _ _ function arguments := Expr.resolvesIn_call.mpr ⟨function, arguments⟩

theorem resolvesIn_receivers
    {names : List String}
    (plain : ∀ name ∈ names, ¬ Underscored name)
    (naming : InstanceNaming)
    (noLocal : ∀ index : Nat, naming.classSnake ++ toString index ∉ names) :
    ∀ row ∈ naming.receivers, ∀ receiver ∈ row, receiver.ResolvesIn names :=
  List.forall_mem_map.mpr fun _ _ => List.forall_mem_map.mpr fun location _ =>
    (inherited_resolvesIn plain).receiver naming
      (fun index => Expr.resolvesIn_ident.mpr (noLocal index)) location

end InstanceNaming

/-! ## Arms of the standard classes -/

namespace StandardClass

variable {standard : StandardClass} {data : DataType} {constructor : Constructor}
variable {names : List String}

/-- The names that the pattern for operands of one constructor binds. -/
def numbered (standard : StandardClass) (constructor : Constructor) : List String :=
  standard.letters.flatMap fun letter =>
    constructor.arguments.zipIdx.map fun (_, index) => letter ++ toString index

theorem boundNames_numberedPattern (data : DataType) (letter : String) (constructor : Constructor) :
    (data.numberedPattern letter constructor).boundNames =
      constructor.arguments.zipIdx.map fun (_, index) => letter ++ toString index := by
  have ofUnit (unit : constructor.isUnit = true) : constructor.arguments.zipIdx = [] := by
    rw [Constructor.arguments_of_isUnit unit, List.zipIdx_nil]
  rw [DataType.numberedPattern,
    DataType.boundNames_patternWith fun unit => List.map_eq_nil_iff.mpr (ofUnit unit),
    List.map_map]
  rfl

theorem boundNames_pattern (standard : StandardClass) (data : DataType)
    (constructor : Constructor) :
    (standard.pattern data constructor).boundNames = standard.numbered constructor := by
  have one (letter : String) := boundNames_numberedPattern data letter constructor
  cases standard with
  | equality | ordering =>
      change (data.numberedPattern "l" constructor).boundNames ++
        (data.numberedPattern "r" constructor).boundNames = _
      rw [one, one]
      exact congrArg _ (List.append_nil _).symm
  | display | hashing =>
      change (data.numberedPattern "v" constructor).boundNames = _
      rw [one]
      exact (List.append_nil _).symm

theorem mem_numbered {name : String} (bound : name ∈ standard.numbered constructor) :
    ∃ letter ∈ standard.letters, ∃ index : Nat, name = letter ++ toString index := by
  obtain ⟨letter, among, numbered⟩ := List.mem_flatMap.mp bound
  obtain ⟨⟨field, index⟩, -, rfl⟩ := List.mem_map.mp numbered
  exact ⟨letter, among, index, rfl⟩

/-- No name that an instance binds has an underscore. -/
theorem not_underscored_of_mem_numbered :
    ∀ name ∈ standard.numbered constructor, ¬ Underscored name := by
  intro name bound
  obtain ⟨letter, among, index, rfl⟩ := mem_numbered bound
  have plain : ∀ letter ∈ standard.letters, ¬ Underscored letter := by
    unfold Underscored
    cases standard <;> decide
  exact not_underscored_numbered (plain letter among) index

/-- No name that an instance binds starts as a text that is unlike all letters. -/
theorem append_not_mem_numbered
    {start : String}
    (unlike : ∀ letter ∈ standard.letters, Unlike letter start)
    (rest : String) :
    start ++ rest ∉ standard.numbered constructor := by
  intro bound
  obtain ⟨letter, among, index, same⟩ := mem_numbered bound
  exact (unlike letter among).append_ne (toString index) rest same.symm

theorem resolvesIn_thenCompare {outcomes : List Expr}
    (each : ∀ outcome ∈ outcomes, outcome.ResolvesIn names) :
    (thenCompare outcomes).ResolvesIn names := by
  cases outcomes with
  | nil => exact Expr.resolvesIn_member
  | cons first rest =>
      rw [List.forall_mem_cons] at each
      rw [thenCompare]
      obtain ⟨ofFirst, ofRest⟩ := each
      induction rest generalizing first with
      | nil => exact ofFirst
      | cons second rest ih =>
          rw [List.forall_mem_cons] at ofRest
          refine ih _ ?_ ofRest.2
          exact Expr.resolvesIn_method.mpr ⟨ofFirst, List.forall_mem_singleton.mpr
            (Expr.resolvesIn_delayed.mpr ofRest.1)⟩

/-- The outcomes for the arguments are put together with nothing but a truth value. -/
theorem resolvesIn_combine
    {outcomes : List Expr}
    (each : ∀ outcome ∈ outcomes, outcome.ResolvesIn (standard.numbered constructor)) :
    (standard.combine constructor outcomes).ResolvesIn (standard.numbered constructor) := by
  cases standard with
  | equality =>
      rw [combine]
      split
      next =>
        have unlike : ∀ letter ∈ equality.letters, Unlike letter "true" := by decide
        exact Expr.resolvesIn_ident.mpr (append_not_mem_numbered unlike "")
      next => exact Expr.resolvesIn_all.mpr each
  | display =>
      rw [combine]
      split
      next =>
        exact Expr.resolvesIn_call.mpr ⟨Expr.resolvesIn_member,
          List.forall_mem_singleton.mpr Expr.resolvesIn_quoted⟩
      next => exact Expr.resolvesIn_formatted.mpr each
  | ordering => exact resolvesIn_thenCompare each
  | hashing =>
      exact Expr.resolvesIn_hashOf.mpr (List.forall_mem_cons.mpr ⟨Expr.resolvesIn_number, each⟩)

theorem resolvesIn_consultations
    {receivers : List Expr}
    (each : ∀ receiver ∈ receivers, receiver.ResolvesIn (standard.numbered constructor)) :
    ∀ outcome ∈ standard.consultations data constructor receivers,
      outcome.ResolvesIn (standard.numbered constructor) := by
  refine List.forall_mem_map.mpr ?_
  rintro ⟨⟨field, receiver⟩, index⟩ listed
  have found : (constructor.arguments.zip receivers)[index]? = some (field, receiver) :=
    List.mem_zipIdx_iff_getElem?.mp listed
  have pair := List.getElem?_zip_eq_some.mp found
  refine Expr.resolvesIn_method.mpr ⟨each receiver (List.mem_of_getElem? pair.2), ?_⟩
  refine List.forall_mem_map.mpr fun letter among => DataType.resolvesIn_borrowed.mpr ?_
  refine List.mem_flatMap.mpr ⟨letter, among, List.mem_map.mpr ⟨(field, index), ?_, rfl⟩⟩
  exact List.mem_zipIdx_iff_getElem?.mpr pair.1

theorem hygienic_fallback (standard : StandardClass) (data : DataType) :
    ∀ arm ∈ (standard.fallback data).arms, arm.Hygienic := by
  rw [fallback.eq_def]
  split
  next => exact List.forall_mem_nil _
  next =>
    cases standard with
    | equality => exact List.forall_mem_singleton.mpr DataType.hygienic_anything
    | ordering => exact List.forall_mem_map.mpr fun _ _ => Expr.resolvesIn_number
    | display | hashing => exact List.forall_mem_nil _

/-- The arms of an instance are hygienic if the instances that it consults are named apart. -/
theorem hygienic_value
    {receivers : List (List Expr)}
    (each : ∀ constructor ∈ data.constructors, ∀ row ∈ receivers, ∀ receiver ∈ row,
      receiver.ResolvesIn (standard.numbered constructor)) :
    ∀ arm ∈ (standard.generator.value data receivers).arms, arm.Hygienic := by
  refine List.forall_mem_append.mpr ⟨?_, hygienic_fallback standard data⟩
  refine List.forall_mem_map.mpr fun constructor listed => ?_
  rw [Arm.Hygienic, boundNames_pattern]
  refine resolvesIn_combine (resolvesIn_consultations ?_)
  cases found : receivers[constructor.index]? with
  | none => exact List.forall_mem_nil _
  | some row => exact each constructor listed row (List.mem_of_getElem? found)

end StandardClass

/-! ## Generated instances -/

/-- The built-in generators are those of the standard classes. -/
theorem InstanceGenerator.exists_standard
    {generator : InstanceGenerator}
    (listed : generator ∈ InstanceGenerator.all) :
    ∃ standard : StandardClass, generator = standard.generator := by
  have all : InstanceGenerator.all = StandardClass.all.map StandardClass.generator := rfl
  rw [all] at listed
  rcases List.mem_map.mp listed with ⟨standard, -, same⟩
  exact ⟨standard, same.symm⟩

/-- Some pairs of a class and a type variable are the parameters of a function, in their order. -/
def DataType.TakesInstances (data : DataType) (item : FunctionItem) : Prop :=
  ∃ pairs : List (String × String), pairs.Nodup ∧ (∀ pair ∈ pairs, pair.2 ∈ data.typeParams) ∧
    item.parameters = pairs.map InstanceRequest.slot ∧
    (item.parameterNames.Nodup ↔ ∀ pair ∈ pairs, ∀ other ∈ pairs,
      InstanceNaming.parameterName pair = InstanceNaming.parameterName other → pair = other)

namespace InstanceRequest

variable {request : InstanceRequest} {generator : InstanceGenerator} {unit : CodeUnit}

theorem functions_of_generate (success : request.generate generator = .ok unit) :
    ∀ item ∈ unit.allFunctions,
      item.genericNames = request.data.typeParams ∧ request.data.TakesInstances item := by
  rcases generate_eq_ok_iff.mp success with ⟨found, finds, -, rfl⟩
  change ∀ item ∈ (request.item _ _).allFunctions, _
  rw [InstanceRequest.item]
  split
  next =>
    have distinct : (request.naming found).parameters.Nodup := nodup_distinct _
    rw [CodeUnit.allFunctions_ofFunctions]
    refine List.forall_mem_singleton.mpr ⟨request.data.map_name_boundGenerics .forEver,
      (request.naming found).parameters, distinct, fun _ => declared_of_findings finds, rfl, ?_⟩
    rw [FunctionItem.parameterNames, List.map_map]
    exact List.nodup_map_iff_inj_on distinct
  next => exact List.forall_mem_nil _

/-- The arms of a standard class are hygienic, whatever instances it consults. -/
theorem hygienic_standardValue
    {standard : StandardClass}
    (isClass : request.className = standard.className)
    (found : List (List (Field × FoundInstance))) :
    ∀ arm ∈ (standard.generator.value request.data (request.naming found).receivers).arms,
      arm.Hygienic := by
  refine StandardClass.hygienic_value fun constructor _ => ?_
  refine InstanceNaming.resolvesIn_receivers
    StandardClass.not_underscored_of_mem_numbered (request.naming found) fun index => ?_
  have unlike : ∀ letter ∈ standard.letters,
      Unlike letter (Identifier.snakeCase standard.className) := by
    cases standard <;> decide
  rw [← isClass] at unlike
  exact StandardClass.append_not_mem_numbered unlike (toString index)

/-- The arms of the instance of a standard class are hygienic. -/
theorem hygienic_of_generate
    {standard : StandardClass}
    (isClass : request.className = standard.className)
    (success : request.generate standard.generator = .ok unit) :
    ∀ arm ∈ unit.arms, arm.Hygienic := by
  rcases generate_eq_ok_iff.mp success with ⟨found, -, -, rfl⟩
  have value := hygienic_standardValue isClass found
  change ∀ arm ∈ (request.item _ _).arms, _
  rw [InstanceRequest.item]
  split
  next =>
    rw [CodeUnit.forall_mem_arms_of_functions rfl, CodeUnit.allFunctions_ofFunctions]
    exact List.forall_mem_singleton.mpr value
  next =>
    exact List.forall_mem_append.mpr
      ⟨List.forall_mem_nil _, List.forall_mem_flatMap.mpr (List.forall_mem_singleton.mpr value)⟩

end InstanceRequest

section Instances

variable {data : DataType} {asking : Declaration} {searched : Snapshot}
variable {registry : GeneratorRegistry} {unit : CodeUnit}

theorem DataType.functions_of_deriveInstances
    (derived : data.deriveInstances asking searched registry = .ok unit) :
    ∀ item ∈ unit.allFunctions,
      item.genericNames = data.typeParams ∧ data.TakesInstances item := by
  rcases Derived.bind_eq_ok_iff.mp derived with ⟨units, each, same⟩
  cases same
  refine CodeUnit.forall_mem_allFunctions_concat.mpr fun unit listed => ?_
  rcases Derived.exists_of_mem_mapM each listed with ⟨item, -, one⟩
  dsimp only at one
  split at one
  next => exact InstanceRequest.functions_of_generate one
  next => cases one

theorem DataType.hygienic_of_deriveInstances
    (standard : ∀ generator ∈ registry.generators, generator ∈ InstanceGenerator.all)
    (derived : data.deriveInstances asking searched registry = .ok unit) :
    ∀ arm ∈ unit.arms, arm.Hygienic := by
  rcases Derived.bind_eq_ok_iff.mp derived with ⟨units, each, same⟩
  cases same
  refine CodeUnit.forall_mem_arms_concat.mpr fun unit listed => ?_
  rcases Derived.exists_of_mem_mapM each listed with ⟨item, -, one⟩
  dsimp only at one
  split at one
  next generator found =>
    rcases InstanceGenerator.exists_standard (standard _ (List.mem_of_find?_eq_some found)) with
      ⟨which, rfl⟩
    rw [GeneratorRegistry.get?] at found
    have named := List.find?_some found
    exact InstanceRequest.hygienic_of_generate (beq_iff_eq.mp named).symm one
  next => cases one

/-- There are functions for instances if the data type has parameters and a class is asked for. -/
theorem DataType.allFunctions_eq_nil_iff
    (derived : data.deriveInstances asking searched registry = .ok unit) :
    unit.allFunctions = [] ↔
      ¬ (data.isParametric = true ∧ asking.request.instances ≠ []) := by
  obtain ⟨noTypes, names⟩ := names_of_deriveInstances derived
  have functions : unit.allFunctions = [] ↔ unit.functionNames = [] := by
    rw [CodeUnit.allFunctions, noTypes, List.flatMap_nil, List.append_nil]
    exact List.map_eq_nil_iff.symm
  have first : firstOfEachName [] asking.request.instances = [] ↔
      asking.request.instances = [] := by
    cases asking.request.instances <;> simp [firstOfEachName]
  rw [functions, names]
  split
  next parametric =>
    rw [List.map_eq_nil_iff, List.map_eq_nil_iff, first]
    simp [parametric]
  next closed => exact iff_of_true rfl fun both => closed both.1

theorem DataType.nodup_genericNames_of_deriveInstances_iff
    (derived : data.deriveInstances asking searched registry = .ok unit) :
    (∀ item ∈ unit.allFunctions, item.genericNames.Nodup) ↔
      (data.isParametric = true → asking.request.instances ≠ [] → data.typeParams.Nodup) := by
  have functions := DataType.functions_of_deriveInstances derived
  have asked := DataType.allFunctions_eq_nil_iff derived
  refine ⟨fun distinct parametric named => ?_, fun distinct item listed => ?_⟩
  · have some : unit.allFunctions ≠ [] := fun none => asked.mp none ⟨parametric, named⟩
    obtain ⟨item, listed⟩ := List.exists_mem_of_ne_nil _ some
    exact (functions item listed).1 ▸ distinct item listed
  · have both : data.isParametric = true ∧ asking.request.instances ≠ [] :=
      not_not.mp fun absent => List.ne_nil_of_mem listed (asked.mpr absent)
    rw [(functions item listed).1]
    exact distinct both.1 both.2

end Instances

/-! ## Models -/

namespace Declaration

theorem resultVar_not_mem_typeParams
    {declaration : Declaration}
    {snapshot : Snapshot}
    {data : DataType}
    (built : declaration.toDataType snapshot = .ok data) :
    data.resultVar ∉ data.typeParams := by
  rcases toDataType_eq_ok_iff.mp built with
    ⟨matcher, resultVar, encoding, cases, -, generic, -, -, -, -, rfl⟩
  exact not_mem_parameterNames_of_resultVar generic

/--
What keeps the functions for a model hygienic, and nothing else: for the generic
parameters those of the derivations and, where there are functions for instances,
the type parameters of the model; for the value parameters of derived functions the
spellings of cases and fields; and for the arms the names that a derivation uses
beside what a pattern binds.  The arms of instances are hygienic whatever the names,
and each function for an instance takes one parameter for every pair of a class and
a type variable, so its parameters are distinct if the pairs are spelled apart.
-/
theorem hygienic_iff
    {declaration asking : Declaration}
    {snapshot searched : Snapshot}
    {registry : GeneratorRegistry}
    {data : DataType}
    {request : Span}
    {derivations : List Derivation}
    {code instances : CodeUnit}
    (built : declaration.toDataType snapshot = .ok data)
    (generated : data.generate request derivations = .ok code)
    (derived : data.deriveInstances asking searched registry = .ok instances) :
    let unit := code.append instances
    ((∀ item ∈ unit.allFunctions, item.genericNames.Nodup) ↔
      (∀ derivation ∈ derivations, data.GenericsApart derivation) ∧
        (data.isParametric = true → asking.request.instances ≠ [] → data.typeParams.Nodup)) ∧
    ((∀ item ∈ code.allFunctions, item.parameterNames.Nodup) ↔
      ∀ derivation ∈ derivations, data.ParametersApart derivation) ∧
    (∀ item ∈ instances.allFunctions, data.TakesInstances item) ∧
    ((∀ generator ∈ registry.generators, generator ∈ InstanceGenerator.all) →
      ((∀ arm ∈ unit.arms, arm.Hygienic) ↔
        ∀ derivation ∈ derivations, data.ArmsApart derivation)) := by
  intro unit
  have wellFormed := wellFormed_of_toDataType built
  have laidOut := laidOut_of_toDataType built
  have fresh := resultVar_not_mem_typeParams built
  have functions {holds : FunctionItem → Prop} : (∀ item ∈ unit.allFunctions, holds item) ↔
      (∀ item ∈ code.allFunctions, holds item) ∧ ∀ item ∈ instances.allFunctions, holds item := by
    simp only [unit, CodeUnit.mem_allFunctions_append, or_imp, forall_and]
  have arms {holds : Arm → Prop} : (∀ arm ∈ unit.arms, holds arm) ↔
      (∀ arm ∈ code.arms, holds arm) ∧ ∀ arm ∈ instances.arms, holds arm := by
    simp only [unit, CodeUnit.mem_arms_append, or_imp, forall_and]
  have ofCode {holds : FunctionItem → Prop} :=
    @DataType.forall_allFunctions_generate_iff _ _ _ _ generated holds
  have ofInstances := DataType.functions_of_deriveInstances derived
  refine ⟨?_, ?_, fun item listed => (ofInstances item listed).2, fun standard => ?_⟩
  · rw [functions, ofCode, DataType.nodup_genericNames_of_deriveInstances_iff derived]
    exact and_congr_left' (forall₂_congr fun derivation _ =>
      DataType.nodup_genericNames_derive_iff wellFormed fresh request derivation)
  · rw [ofCode]
    exact forall₂_congr fun derivation _ =>
      DataType.nodup_parameterNames_derive_iff wellFormed.nodup_names laidOut request derivation
  · rw [arms, DataType.forall_arms_generate_iff generated,
      and_iff_left (DataType.hygienic_of_deriveInstances standard derived)]
    exact forall₂_congr fun derivation _ => DataType.hygienic_derive_iff laidOut request derivation

theorem hygienic_conversion :
    ∃ code instances,
      conversion.toDataType default = .ok conversionModel ∧
      conversionModel.generate ⟨0, 9⟩ Derivation.all = .ok code ∧
      conversionModel.deriveInstances conversionWithInstances default .full = .ok instances ∧
      (∀ item ∈ (code.append instances).allFunctions, item.genericNames.Nodup) ∧
      (∀ item ∈ code.allFunctions, item.parameterNames.Nodup) ∧
      (∀ item ∈ instances.allFunctions, conversionModel.TakesInstances item) ∧
      ∀ arm ∈ (code.append instances).arms, arm.Hygienic := by
  have built : conversion.toDataType default = .ok conversionModel := rfl
  obtain ⟨code, generated⟩ :
      ∃ code, conversionModel.generate ⟨0, 9⟩ Derivation.all = .ok code := ⟨_, rfl⟩
  obtain ⟨instances, derived⟩ :
      ∃ instances, conversionModel.deriveInstances conversionWithInstances default .full =
        .ok instances := ⟨_, rfl⟩
  obtain ⟨generics, parameters, ofInstances, arms⟩ := hygienic_iff built generated derived
  have standard : ∀ generator ∈ GeneratorRegistry.full.generators,
      generator ∈ InstanceGenerator.all := fun _ listed => listed
  exact ⟨code, instances, built, generated, derived,
    generics.mpr ⟨by decide, fun _ _ => by decide⟩, parameters.mpr (by decide), ofInstances,
    (arms standard).mpr (by decide)⟩

/-- Replacements, with type parameters that differ in case and a field named `update`. -/
def replacement : Declaration where
  name := "Replacement"
  span := ⟨0, 11⟩
  typeParams := [⟨"F", ⟨12, 13⟩⟩, ⟨"f", ⟨14, 15⟩⟩]
  request := ⟨⟨16, 17⟩, none, [⟨"Eq", ⟨18, 20⟩⟩]⟩
  methods :=
    [{ name := "match"
       span := ⟨21, 26⟩
       typeParams := [⟨"R", ⟨27, 28⟩⟩]
       parameters :=
         [⟨"Swap", ⟨30, 34⟩, .arrow [.var "F", .var "f"] (.var "R"), ["update", "previous"]⟩]
       result := .var "R"
       isAbstract := true }]
  statics := []

/-- Names that stay different in all cases do not keep a generated function hygienic. -/
theorem unhygienic_replacement :
    ∃ data code instances,
      replacement.toDataType default = .ok data ∧
      data.generate ⟨16, 17⟩ Derivation.all = .ok code ∧
      data.deriveInstances replacement default .full = .ok instances ∧
      (∀ spell ∈ [Identifier.snakeCase, Identifier.pascalCase, Identifier.snakeName],
        KeepsApart spell (data.constructors.map Constructor.name) ∧
        ∀ constructor ∈ data.constructors,
          KeepsApart spell (constructor.caseFields.map Field.name)) ∧
      (∃ item ∈ (code.append instances).allFunctions, ¬ item.genericNames.Nodup) ∧
      (∃ item ∈ (code.append instances).allFunctions, ¬ item.parameterNames.Nodup) ∧
      ∃ arm ∈ (code.append instances).arms, ¬ arm.Hygienic := by
  refine ⟨_, _, _, rfl, rfl, rfl, ?_⟩
  decide +kernel

end Declaration

end DataDerive
