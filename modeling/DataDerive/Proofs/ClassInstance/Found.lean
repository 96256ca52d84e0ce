import DataDerive.ClassInstance.Derive
import DataDerive.Proofs.Derived
import DataDerive.Proofs.Instance.Invariants
import DataDerive.Proofs.Instance.Occurrences

/-!
# Instances found for a request

A request searches an instance for every argument of every constructor, and the
generated instance is made of what is found.  Each found location derives the
instance of its argument.  Its parameters are at type parameters of the data
type, and it uses the instance under construction only at types that the data
type matches.
-/

namespace DataDerive

open InstanceNaming

/-! ## One search -/

namespace SearchContext

/-- Parameters are at type parameters of the data type. -/
theorem keeps_declared (context : SearchContext) :
    context.Keeps fun location => ∀ className name,
      (Location.parameter className name).OccursIn location → name ∈ context.data.typeParams where
  field _ _ _ _ _ occurs := nomatch occurs
  method source member span typeArguments dependencies declared className name occurs := by
    rcases Location.occursIn_method_iff.mp occurs with same | ⟨dependency, listed, inside⟩
    · cases same
    · exact declared dependency listed className name inside
  generated ownClass type dependencies _ declared className name occurs := by
    rcases Location.occursIn_generated_iff.mp occurs with same | ⟨dependency, listed, inside⟩
    · cases same
    · exact declared dependency listed className name inside
  parameter ownClass own declared className name occurs := by
    cases occurs
    exact declared

/-- The instance under construction is used at types that the data type matches. -/
theorem keeps_matched (context : SearchContext) :
    context.Keeps fun location => ∀ type, UsedAt type location →
      ∃ found, Unification.matchType? context.data.selfType type = some found where
  field _ _ _ _ used := nomatch used
  method source member span typeArguments dependencies matched type used := by
    rcases usedAt_method_iff.mp used with ⟨dependency, listed, inside⟩
    exact matched dependency listed type inside
  generated className own dependencies matches_ matched type used := by
    rcases usedAt_generated_iff.mp used with rfl | ⟨dependency, listed, inside⟩
    · exact matches_
    · exact matched dependency listed type inside
  parameter _ _ _ _ used := nomatch used

end SearchContext

/-! ## All searches -/

namespace InstanceRequest

/-- The search for the instance of an argument. -/
def context (request : InstanceRequest) (field : Field) : SearchContext :=
  ⟨request.data, request.className, field.span, request.providers, request.lowPriority⟩

/-- The instances for the arguments of all constructors. -/
def findings (request : InstanceRequest) : Derived (List (List (Field × FoundInstance))) :=
  request.data.constructors.mapM request.findAll

/-- The names inside the instance that is made of some instances. -/
def naming
    (request : InstanceRequest)
    (found : List (List (Field × FoundInstance))) : InstanceNaming where
  data := request.data
  className := request.className
  locations := found.map fun row => row.map fun (_, instance_) => instance_.location

/-- The code of the instance that is made of some instances. -/
def unitOf
    (request : InstanceRequest)
    (generator : InstanceGenerator)
    (found : List (List (Field × FoundInstance))) : CodeUnit :=
  let naming := request.naming found
  let body := Body.classValue naming.locals (generator.value request.data naming.receivers)
  { (request.item naming body).importing generator.imports with
    notes := found.flatMap request.notes }

theorem generate_eq (request : InstanceRequest) (generator : InstanceGenerator) :
    request.generate generator =
      request.findings >>= fun found =>
        request.checkPassable (request.naming found) >>= fun _ =>
          .ok (request.unitOf generator found) :=
  rfl

theorem generate_eq_ok_iff
    {request : InstanceRequest}
    {generator : InstanceGenerator}
    {unit : CodeUnit} :
    request.generate generator = .ok unit ↔
      ∃ found, request.findings = .ok found ∧
        request.checkPassable (request.naming found) = .ok () ∧
          request.unitOf generator found = unit := by
  rw [generate_eq, Derived.bind_eq_ok_iff]
  simp only [Derived.check_bind_eq_ok_iff, Except.ok.injEq]

variable {request : InstanceRequest} {found : List (List (Field × FoundInstance))}

theorem mem_locations {location : Location} :
    location ∈ (request.naming found).locations.flatten ↔
      ∃ row ∈ found, ∃ entry ∈ row, entry.2.location = location := by
  simp [naming, List.mem_flatten]

theorem mem_parameters {parameter : String × String} :
    parameter ∈ (request.naming found).parameters ↔
      ∃ row ∈ found, ∃ entry ∈ row,
        (Location.parameter parameter.1 parameter.2).OccursIn entry.2.location := by
  rw [InstanceNaming.parameters, mem_distinct, List.mem_flatMap]
  simp only [mem_locations, Location.parameters, mem_distinct, Location.mem_parameterOccurrences]
  constructor
  · rintro ⟨_, ⟨row, listed, entry, among, rfl⟩, occurs⟩
    exact ⟨row, listed, entry, among, occurs⟩
  · rintro ⟨row, listed, entry, among, occurs⟩
    exact ⟨_, ⟨row, listed, entry, among, rfl⟩, occurs⟩

section Finds

variable (finds : request.findings = .ok found)
variable {row : List (Field × FoundInstance)} {entry : Field × FoundInstance}

include finds

/-- Each instance that is found is the one for an argument of a constructor. -/
theorem find_of_findings (listed : row ∈ found) (among : entry ∈ row) :
    (∃ constructor ∈ request.data.constructors, entry.1 ∈ constructor.arguments) ∧
      (request.context entry.1).find entry.1.type = .ok entry.2 := by
  rcases Derived.exists_of_mem_mapM finds listed with ⟨constructor, isConstructor, rowFound⟩
  rcases Derived.exists_of_mem_mapM rowFound among with ⟨field, isArgument, fieldFound⟩
  rcases Derived.bind_eq_ok_iff.mp fieldFound with ⟨location, isFound, same⟩
  cases same
  exact ⟨⟨constructor, isConstructor, isArgument⟩, isFound⟩

theorem declared_of_findings
    {parameter : String × String}
    (needed : parameter ∈ (request.naming found).parameters) :
    parameter.2 ∈ request.data.typeParams := by
  rcases mem_parameters.mp needed with ⟨row, listed, entry, among, occurs⟩
  rcases find_of_findings finds listed among with ⟨-, isFound⟩
  exact SearchContext.holds_of_find (request.context entry.1).keeps_declared isFound _ _ occurs

theorem matched_of_findings
    (listed : row ∈ found)
    (among : entry ∈ row)
    {type : TypeExpr}
    (used : UsedAt type entry.2.location) :
    ∃ bindings, Unification.matchType? request.data.selfType type = some bindings := by
  rcases find_of_findings finds listed among with ⟨-, isFound⟩
  exact SearchContext.holds_of_find (request.context entry.1).keeps_matched isFound type used

theorem derives_of_findings
    (listed : row ∈ found)
    (among : entry ∈ row)
    {part : Location}
    (occurs : part.OccursIn entry.2.location) :
    ∃ goal tiers, Derives (request.context entry.1) Signature.Unrestricted goal part tiers := by
  rcases find_of_findings finds listed among with ⟨-, isFound⟩
  have admits := (request.context entry.1).admits_unrestricted
  rcases (SearchContext.solve_ensures admits (deepestGoal + 1) _ .start).value_of_ok isFound with
    ⟨tiers, derives, -⟩
  exact derives.of_occursIn occurs

end Finds

end InstanceRequest

end DataDerive
