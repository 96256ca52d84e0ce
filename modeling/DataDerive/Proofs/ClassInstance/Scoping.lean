import DataDerive.Proofs.ClassInstance.Found
import DataDerive.Proofs.Derive.Scoping

/-!
# Scopes in all code that is generated from a model

A generated instance takes an instance for each pair of a class and a type
parameter that its fields need, so it is well scoped whatever is found.  Together
with the derivations this is all code that is generated from a model.
-/

namespace DataDerive

/-! ## Instances -/

namespace InstanceRequest

variable {request : InstanceRequest}

theorem wellScoped_item
    {naming : InstanceNaming}
    (declared : ∀ parameter ∈ naming.parameters, parameter.2 ∈ request.data.typeParams)
    (body : Body) :
    (request.item naming body).WellScoped := by
  rw [item]
  split
  next parametric =>
    refine CodeUnit.wellScoped_ofFunctions (List.forall_mem_singleton.mpr ?_)
    refine FunctionItem.scopedIn_of_unbound
      ((List.append_nil _).trans (request.data.map_name_boundGenerics .forEver))
      (DataType.paramOccurrences_of_mem_boundGenerics "'static") ?_ ?_
    · refine List.forall_mem_map.mpr fun parameter needed => ?_
      exact CodeType.within_named.mpr (List.forall_mem_singleton.mpr
        (CodeType.within_param.mpr (declared parameter needed)))
    · exact CodeType.within_named.mpr (List.forall_mem_singleton.mpr
        (DataType.within_selfCode fun _ => id))
  next closed =>
    have none : request.data.typeParams = [] := by
      simpa [DataType.isParametric] using closed
    refine ⟨List.forall_mem_nil _, List.forall_mem_singleton.mpr ?_, List.forall_mem_nil _⟩
    refine CodeType.within_named.mpr (List.forall_mem_singleton.mpr ?_)
    exact DataType.within_selfCode (by simp [none])

theorem wellScoped_of_generate
    {generator : InstanceGenerator}
    {unit : CodeUnit}
    (success : request.generate generator = .ok unit) :
    unit.WellScoped := by
  rcases generate_eq_ok_iff.mp success with ⟨found, finds, -, rfl⟩
  have scopes : (request.item (request.naming found) _).WellScoped :=
    wellScoped_item (fun _ needed => declared_of_findings finds needed)
      (Body.classValue (request.naming found).locals
        (generator.value request.data (request.naming found).receivers))
  exact ⟨scopes.types, scopes.statics, scopes.functions⟩

end InstanceRequest

namespace DataType

variable {data : DataType}

/-- The instances that a declaration asks for are well scoped, for every registry. -/
theorem wellScoped_of_deriveInstances
    {declaration : Declaration}
    {snapshot : Snapshot}
    {registry : GeneratorRegistry}
    {unit : CodeUnit}
    (success : data.deriveInstances declaration snapshot registry = .ok unit) :
    unit.WellScoped := by
  rcases Derived.bind_eq_ok_iff.mp success with ⟨units, each, same⟩
  cases same
  refine CodeUnit.wellScoped_concat fun unit listed => ?_
  rcases Derived.exists_of_mem_mapM each listed with ⟨item, -, one⟩
  dsimp only at one
  split at one
  next generator _ => exact InstanceRequest.wellScoped_of_generate one
  next => cases one

/-! ## Narrowed parameters -/

namespace Scopes

variable {constructor : Constructor} {restriction : Restriction}
variable (scopes : data.Scopes constructor)
variable (unshadowed : ∀ name ∈ constructor.existentials, name ∉ data.typeParams)
variable (restricts : restriction ∈ constructor.restrictions)

include scopes unshadowed restricts

theorem not_mem_typeParams : restriction.parameter ∉ constructor.typeParams := by
  intro kept
  rcases scopes.kept _ kept with own | apart
  · exact unshadowed _ own (scopes.narrowed restriction restricts)
  · exact apart restriction restricts rfl

theorem not_mem_outerParams : restriction.parameter ∉ constructor.outerParams :=
  fun outer => scopes.not_mem_typeParams unshadowed restricts
    (Constructor.mem_outerParams.mp outer).1

/-- The functions that build a value of a constructor or take one apart know nothing of it. -/
theorem not_mentions_narrowed (fresh : data.resultVar ∉ data.typeParams) :
    ∀ item ∈ [data.buildingFunction false constructor, data.buildingFunction true constructor,
        data.isFunction constructor, data.ifFunction constructor,
        data.destructureFunction constructor],
      ¬ item.Mentions restriction.parameter := by
  have kept := scopes.not_mem_typeParams unshadowed restricts
  have outer := scopes.not_mem_outerParams unshadowed restricts
  have result : restriction.parameter ≠ data.resultVar :=
    fun same => fresh (same ▸ scopes.narrowed restriction restricts)
  simp only [List.forall_mem_cons, List.not_mem_nil, false_imp_iff, implies_true, and_true]
  refine ⟨?_, ?_, ?_, ?_, ?_⟩
  · exact (scopes.scopedIn_buildingFunction false).not_mentions (by simpa using kept)
  · exact (scopes.scopedIn_buildingFunction true).not_mentions (by simpa using kept)
  · exact (scopes.scopedIn_isFunction unshadowed).not_mentions
      (by rwa [genericNames_isFunction])
  · refine (scopes.scopedIn_ifFunction unshadowed).not_mentions ?_
    rw [genericNames_ifFunction, List.mem_append, List.mem_singleton, not_or]
    exact ⟨outer, result⟩
  · exact (scopes.scopedIn_destructureFunction unshadowed).not_mentions
      (by rwa [genericNames_destructureFunction])

end Scopes

end DataType

/-! ## Models -/

namespace Declaration

variable {declaration : Declaration} {snapshot : Snapshot} {data : DataType}

/-- Cases that are parameters of the matcher have no type parameters to hide others with. -/
theorem unshadowed_of_lambdas
    (built : declaration.toDataType snapshot = .ok data)
    (lambdas : data.encoding = .lambdas) :
    data.Unshadowed := by
  rcases toDataType_eq_ok_iff.mp built with
    ⟨matcher, resultVar, encoding, cases, -, -, reads, -, -, -, rfl⟩
  cases lambdas
  intro constructor listed name own
  have closed : constructor.existentials = [] :=
    existentials_of_readCases reads _ (mem_constructorsOf_cases listed)
  rw [closed] at own
  cases own

/--
If no constructor of a model hides a type parameter, everything that is derived
from the model is well scoped: the code of all derivations that may be asked for,
and the instances for every registry.  A type parameter that a constructor
narrows occurs nowhere in the signatures that are about that constructor alone.
-/
theorem toDataType_wellScoped (built : declaration.toDataType snapshot = .ok data) :
    (data.encoding = .lambdas → data.Unshadowed) ∧
      (data.Unshadowed →
        (∀ request derivations, ∃ unit,
          data.generate request derivations = .ok unit ∧ unit.WellScoped) ∧
        (∀ asking known registry unit,
          data.deriveInstances asking known registry = .ok unit → unit.WellScoped) ∧
        ∀ constructor ∈ data.constructors, ∀ restriction ∈ constructor.restrictions,
          ∀ item ∈ [data.buildingFunction false constructor,
              data.buildingFunction true constructor, data.isFunction constructor,
              data.ifFunction constructor, data.destructureFunction constructor],
            ¬ item.Mentions restriction.parameter) := by
  have scopes : ∀ constructor ∈ data.constructors, data.Scopes constructor :=
    fun constructor => scopes_of_toDataType built
  have fresh : data.resultVar ∉ data.typeParams := by
    rcases toDataType_eq_ok_iff.mp built with
      ⟨matcher, resultVar, encoding, cases, -, generic, -, -, -, -, rfl⟩
    exact not_mem_parameterNames_of_resultVar generic
  refine ⟨unshadowed_of_lambdas built, fun unshadowed => ⟨?_, ?_, ?_⟩⟩
  · exact DataType.exists_generate scopes unshadowed (wellFormed_of_toDataType built).nonempty
  · exact fun _ _ _ _ success => DataType.wellScoped_of_deriveInstances success
  · intro constructor listed restriction restricts
    exact (scopes constructor listed).not_mentions_narrowed (unshadowed constructor listed)
      restricts fresh

def queryMatcher : Method where
  name := "run"
  span := ⟨10, 13⟩
  typeParams := [⟨"R", ⟨10, 13⟩⟩]
  parameters := [⟨"cases", ⟨14, 19⟩, .con "QueryCases" [.var "T", .var "R"], []⟩]
  result := .var "R"
  isAbstract := true

/-- Queries of values of a type. -/
def query : Declaration where
  name := "Query"
  span := ⟨1, 6⟩
  typeParams := [⟨"T", ⟨7, 8⟩⟩]
  request := default
  methods := [queryMatcher]
  statics := []

/-- A count has a known type, and a step has an unknown one in between, with a name of its own. -/
def queryCases (own : String) : Interface where
  name := "QueryCases"
  span := ⟨20, 30⟩
  typeParams := [⟨"X", ⟨20, 30⟩⟩, ⟨"R", ⟨20, 30⟩⟩]
  methods :=
    [{ name := "Count"
       span := ⟨31, 36⟩
       typeParams := []
       parameters :=
         [⟨"rows", ⟨37, 41⟩, .con "Query" [.atom "i32"], []⟩,
          ⟨"is", ⟨42, 44⟩, .arrow [.atom "i32"] (.var "X"), []⟩]
       result := .var "R"
       isAbstract := true },
     { name := "Step"
       span := ⟨45, 49⟩
       typeParams := [⟨own, ⟨45, 49⟩⟩]
       parameters :=
         [⟨"before", ⟨50, 56⟩, .con "Query" [.var own], []⟩,
          ⟨"apply", ⟨57, 62⟩, .arrow [.var own] (.var "X"), []⟩]
       result := .var "R"
       isAbstract := true }]

def querySnapshot (own : String) : Snapshot :=
  { (default : Snapshot) with interfaces := [queryCases own] }

/-- The model of queries: one constructor narrows, the other has a variable of its own. -/
def queryModel : DataType where
  name := "Query"
  span := ⟨1, 6⟩
  typeParams := ["T"]
  constructors :=
    [{ name := "Count"
       span := ⟨31, 36⟩
       index := 0
       arguments := [⟨"rows", ⟨37, 41⟩, .con "Query" [.atom "i32"]⟩]
       restrictions :=
         [⟨"T", .atom "i32", ⟨"is", ⟨42, 44⟩, .arrow [.atom "i32"] (.var "T")⟩, 1⟩]
       existentials := []
       typeParams := [] },
     { name := "Step"
       span := ⟨45, 49⟩
       index := 1
       arguments :=
         [⟨"before", ⟨50, 56⟩, .con "Query" [.var "A"]⟩,
          ⟨"apply", ⟨57, 62⟩, .arrow [.var "A"] (.var "T")⟩]
       restrictions := []
       existentials := ["A"]
       typeParams := ["T", "A"] }]
  matcher := "run"
  resultVar := "R"
  encoding := .visitor "QueryCases" "cases"

theorem toDataType_wellScoped_query :
    query.toDataType (querySnapshot "A") = .ok queryModel ∧ queryModel.Unshadowed ∧
      (∀ request derivations, ∃ unit,
        queryModel.generate request derivations = .ok unit ∧ unit.WellScoped) ∧
      (∀ asking known registry unit,
        queryModel.deriveInstances asking known registry = .ok unit → unit.WellScoped) ∧
      ∀ constructor ∈ queryModel.constructors, ∀ restriction ∈ constructor.restrictions,
        ∀ item ∈ [queryModel.buildingFunction false constructor,
            queryModel.buildingFunction true constructor, queryModel.isFunction constructor,
            queryModel.ifFunction constructor, queryModel.destructureFunction constructor],
          ¬ item.Mentions restriction.parameter := by
  have built : query.toDataType (querySnapshot "A") = .ok queryModel := rfl
  have unshadowed : queryModel.Unshadowed := by
    unfold DataType.Unshadowed
    decide
  exact ⟨built, unshadowed, (toDataType_wellScoped built).2 unshadowed⟩

/-- If the step hides the type parameter, the test for it mentions what is not in scope. -/
example :
    ((query.toDataType (querySnapshot "T")).toOption.map fun data =>
      data.constructors.map fun constructor =>
        ((data.isFunction constructor).genericNames,
          (data.isFunction constructor).paramOccurrences)) =
      some [([], []), ([], ["T"])] :=
  rfl

end Declaration

end DataDerive
