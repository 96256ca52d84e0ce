import DataDerive.Proofs.Model.Build

/-!
# Well-formed models

Code is generated from a model by the positions of its constructors and by the
names of their fields and type parameters.  A model is well formed if these
identify what they name and every variable is in scope.  The checks of a build
make every model well formed, in both encodings.  The cases that are parameters
of the matcher have no type parameters of their own, so the result variable of
the matcher is in the scope of none of them.
-/

namespace DataDerive

open Derived

/-- What a model promises to those who use it. -/
structure DataType.WellFormed (data : DataType) : Prop where
  /-- There is a constructor. -/
  nonempty : data.constructors ≠ []
  /-- A constructor knows its position. -/
  index_eq : ∀ (index : Nat) (constructor : Constructor),
    data.constructors[index]? = some constructor → constructor.index = index
  /-- The name of a constructor identifies it. -/
  nodup_names : (data.constructors.map Constructor.name).Nodup
  /-- The name of a field identifies it within its constructor, witnesses included. -/
  nodup_fieldNames : ∀ constructor ∈ data.constructors,
    (constructor.caseFields.map Field.name).Nodup
  /-- A variable of a field is a type parameter of the data type or the constructor's own. -/
  inScope : ∀ constructor ∈ data.constructors, ∀ field ∈ constructor.caseFields,
    ∀ name ∈ field.type.freeVars, name ∈ data.typeParams ∨ name ∈ constructor.existentials
  /-- Every type parameter occurs in a field of a constructor in which it is not hidden. -/
  used : ∀ name ∈ data.typeParams, ∃ constructor ∈ data.constructors,
    name ∉ constructor.existentials ∧
      ∃ field ∈ constructor.caseFields, name ∈ field.type.freeVars
  /-- A constructor has the type parameters that it does not narrow, then its own. -/
  typeParams_eq : ∀ constructor ∈ data.constructors,
    constructor.typeParams =
      data.typeParams.filter
        (fun name => name ∉ constructor.restrictions.map Restriction.parameter) ++
      constructor.existentials

/-- A constructor stands at its position. -/
theorem DataType.WellFormed.getElem?_index
    {data : DataType}
    (wellFormed : data.WellFormed)
    {constructor : Constructor}
    (listed : constructor ∈ data.constructors) :
    data.constructors[constructor.index]? = some constructor := by
  rcases List.mem_iff_getElem?.mp listed with ⟨index, found⟩
  rwa [wellFormed.index_eq index constructor found]

/-- The positions of constructors grow in their order. -/
theorem DataType.WellFormed.pairwise_index {data : DataType} (wellFormed : data.WellFormed) :
    data.constructors.Pairwise fun first second => first.index < second.index := by
  refine List.pairwise_iff_getElem.mpr fun i j inside further before => ?_
  rwa [wellFormed.index_eq i _ (List.getElem?_eq_getElem inside),
    wellFormed.index_eq j _ (List.getElem?_eq_getElem further)]

theorem DataType.WellFormed.mem_typeParams_iff
    {data : DataType}
    (wellFormed : data.WellFormed)
    {constructor : Constructor}
    (listed : constructor ∈ data.constructors)
    {name : String} :
    name ∈ constructor.typeParams ↔
      (name ∈ data.typeParams ∧
        ∀ restriction ∈ constructor.restrictions, restriction.parameter ≠ name) ∨
      name ∈ constructor.existentials := by
  rw [wellFormed.typeParams_eq _ listed, List.mem_append, List.mem_filter]
  simp

namespace Declaration

variable {declaration : Declaration} {snapshot : Snapshot} {data : DataType}

theorem declares_iff {name : String} :
    declaration.declares name = true ↔ name ∈ declaration.parameterNames :=
  List.contains_iff_mem

theorem mem_constructorsOf_cases
    {cases : List Case}
    {constructor : Constructor}
    (member : constructor ∈ declaration.constructorsOf cases) :
    constructor.toCase ∈ cases := by
  rcases exists_of_mem_constructorsOf member with ⟨index, case, listed, rfl⟩
  rwa [toCase_toConstructor]

theorem typeParams_toConstructor (declaration : Declaration) (index : Nat) (case : Case) :
    (declaration.toConstructor index case).typeParams =
      declaration.parameterNames.filter
        (fun name => name ∉
          (declaration.toConstructor index case).restrictions.map Restriction.parameter) ++
      case.existentials := by
  change declaration.parameterNames.filter (fun name => !List.contains _ name) ++ _ = _
  congr 2
  funext name
  rw [List.contains_eq_mem, decide_not]
  rfl

/-- Every model that is built is well formed. -/
theorem wellFormed_of_toDataType (built : declaration.toDataType snapshot = .ok data) :
    data.WellFormed := by
  rcases toDataType_eq_ok_iff.mp built with
    ⟨matcher, resultVar, encoding, cases, -, -, -, nonempty, names, scopes, rfl⟩
  rcases checkCaseNames_eq_ok_iff.mp names with ⟨caseNames, -, fieldNames⟩
  rcases checkTypeParams_eq_ok_iff.mp scopes with ⟨declared, used⟩
  constructor
  case nonempty =>
    intro empty
    exact nonempty (constructorsOf_eq_nil_iff.mp empty)
  case index_eq =>
    intro index constructor found
    change (declaration.constructorsOf cases)[index]? = _ at found
    rw [getElem?_constructorsOf, Option.map_eq_some_iff] at found
    rcases found with ⟨case, -, rfl⟩
    rfl
  case nodup_names =>
    rw [← declaration.map_toCase_constructorsOf cases, List.map_map] at caseNames
    exact caseNames
  case nodup_fieldNames =>
    intro constructor member
    exact fieldNames _ (mem_constructorsOf_cases member)
  case inScope =>
    intro constructor member field among name occurs
    by_cases own : name ∈ constructor.existentials
    · exact Or.inr own
    · refine Or.inl (declares_iff.mp (declared name ?_))
      exact mem_usedVars.mpr ⟨constructor, member, field, among, mem_outerVars.mpr ⟨occurs, own⟩⟩
  case used =>
    intro name listed
    rcases mem_usedVars.mp (used name listed) with ⟨constructor, member, field, among, outer⟩
    rcases mem_outerVars.mp outer with ⟨occurs, visible⟩
    exact ⟨constructor, member, visible, field, among, occurs⟩
  case typeParams_eq =>
    intro constructor member
    rcases exists_of_mem_constructorsOf member with ⟨index, case, -, rfl⟩
    exact declaration.typeParams_toConstructor index case

/-! ## The result variable -/

/-- The result variable of a matcher is no type parameter of the declaration. -/
theorem not_mem_parameterNames_of_resultVar
    {matcher : Method}
    {name : String}
    (generic : declaration.resultVar matcher = .ok name) :
    name ∉ declaration.parameterNames := by
  rw [resultVar] at generic
  split at generic
  next => cases generic
  next =>
    split at generic
    next => cases generic
    next =>
      split at generic
      next => cases generic
      next free =>
        cases generic
        rwa [declares_iff] at free

theorem existentials_of_lambdaCase
    {resultVar : String}
    {parameter : Parameter}
    {case : Case}
    (read : declaration.lambdaCase resultVar parameter = .ok case) :
    case.existentials = [] := by
  rw [lambdaCase] at read
  split at read
  next =>
    split at read
    next =>
      rcases bind_eq_ok_iff.mp read with ⟨names, -, same⟩
      cases same
      rfl
    next => cases read
  next => cases read

/-- Cases that are no methods of an interface are read from the parameters of the matcher. -/
theorem exists_parameter_of_readCases
    {matcher : Method}
    {resultVar : String}
    {cases : List Case}
    (read : declaration.readCases snapshot matcher resultVar = .ok (.lambdas, cases))
    {case : Case}
    (listed : case ∈ cases) :
    ∃ parameter ∈ matcher.parameters, declaration.lambdaCase resultVar parameter = .ok case := by
  rw [readCases] at read
  split at read
  next =>
    split at read
    next =>
      rcases bind_eq_ok_iff.mp read with ⟨others, -, same⟩
      cases same
    next => cases read
  next =>
    rcases bind_eq_ok_iff.mp read with ⟨others, ends, same⟩
    cases same
    exact exists_of_mem_mapM ends listed

/-- Cases that are parameters have no type parameters of their own. -/
theorem existentials_of_readCases
    {matcher : Method}
    {resultVar : String}
    {cases : List Case}
    (read : declaration.readCases snapshot matcher resultVar = .ok (.lambdas, cases)) :
    ∀ case ∈ cases, case.existentials = [] := by
  intro case listed
  rcases exists_parameter_of_readCases read listed with ⟨parameter, -, lambda⟩
  exact existentials_of_lambdaCase lambda

/--
Every model that is built is well formed over the declared type parameters.  If
the cases are parameters of the matcher, its result variable occurs in no field.
-/
theorem toDataType_wellFormed (built : declaration.toDataType snapshot = .ok data) :
    data.WellFormed ∧ data.typeParams = declaration.parameterNames ∧
      (data.encoding = .lambdas →
        ∀ constructor ∈ data.constructors, constructor.existentials = [] ∧
          ∀ field ∈ constructor.caseFields, data.resultVar ∉ field.type.freeVars) := by
  have wellFormed := wellFormed_of_toDataType built
  rcases toDataType_eq_ok_iff.mp built with
    ⟨matcher, resultVar, encoding, cases, -, generic, read, -, -, -, rfl⟩
  refine ⟨wellFormed, rfl, ?_⟩
  rintro (rfl : encoding = .lambdas) constructor member
  have closed : constructor.existentials = [] :=
    existentials_of_readCases read _ (mem_constructorsOf_cases member)
  refine ⟨closed, ?_⟩
  intro field among occurs
  rcases wellFormed.inScope constructor member field among _ occurs with declared | own
  · exact not_mem_parameterNames_of_resultVar generic declared
  · rw [closed] at own
    cases own

theorem toDataType_wellFormed_conversion :
    conversion.toDataType default = .ok conversionModel ∧
      conversionModel.WellFormed ∧ conversionModel.typeParams = conversion.parameterNames ∧
        (conversionModel.encoding = .lambdas →
          ∀ constructor ∈ conversionModel.constructors, constructor.existentials = [] ∧
            ∀ field ∈ constructor.caseFields,
              conversionModel.resultVar ∉ field.type.freeVars) := by
  have built : conversion.toDataType default = .ok conversionModel := rfl
  exact ⟨built, toDataType_wellFormed built⟩

end Declaration

end DataDerive
