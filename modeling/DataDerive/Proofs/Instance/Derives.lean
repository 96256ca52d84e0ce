import DataDerive.Instance.Search
import DataDerive.Proofs.Substitution

/-!
# Derivations of instances

A derivation says which members make an instance of a goal, without any search.
A field serves every goal that is an instance of its type.  A method serves a
goal that its result is an instance of, and needs a derivation for each of its
parameters under the same choice of types.  A goal about the data type itself is
only served by the instance under construction, and a type parameter of the data
type by a parameter of that instance.

How freely the types of a method may be chosen is left open in `Derives`.  The
two predicates on choices below are what a search can promise to record, and
what it is able to find.
-/

namespace DataDerive

theorem Goal.type_of_ofType? {type : TypeExpr} {goal : Goal} (asks : Goal.ofType? type = some goal) :
    goal.type = type := by
  unfold Goal.ofType? at asks
  split at asks
  next => cases asks; rfl
  next => cases asks

/-- Which providers a member is taken from. -/
inductive Tier where
  | normal
  | low
  deriving DecidableEq

/-- The type of a static method. -/
structure Signature where
  typeParams : List String
  parameters : List TypeExpr
  result : TypeExpr

namespace Signature

/-- The type of a method with declared type parameters. -/
def ofMethod
    (typeParams : List Named)
    (parameters : List TypeExpr)
    (result : TypeExpr) : Signature :=
  ⟨typeParams.map Named.name, parameters, result⟩

/-- The type arguments that a choice of types amounts to. -/
def typeArguments
    (signature : Signature)
    (choice : String → TypeExpr) : List (String × TypeExpr) :=
  signature.typeParams.map fun name => (name, choice name)

/-- Every variable is a type parameter. -/
def Closed (signature : Signature) : Prop :=
  ∀ name ∈ (TypeExpr.arrow signature.parameters signature.result).variableOccurrences,
    name ∈ signature.typeParams

/-- Every choice of types is allowed. -/
def Unrestricted (_ : Signature) (_ : String → TypeExpr) : Prop :=
  True

/-- The type arguments alone turn the signature into what the choice makes of it. -/
def Recorded (signature : Signature) (choice : String → TypeExpr) : Prop :=
  ∀ type ∈ signature.result :: signature.parameters,
    (Substitution.ofPairs (signature.typeArguments choice)).substitute type = type.replace choice

/-- A variable that occurs in a parameter and not in the result. -/
def IsExtra (signature : Signature) (name : String) : Prop :=
  name ∉ signature.result.variableOccurrences ∧
    ∃ parameter ∈ signature.parameters, name ∈ parameter.variableOccurrences

/--
A variable of the parameters that is not in the result stands for a type variable
of its own, which is not in the goal and none of the listed names.
-/
def Generic (names : List String) (signature : Signature) (choice : String → TypeExpr) : Prop :=
  ∀ extra, signature.IsExtra extra → ∃ own,
    choice extra = .var own ∧ own ∉ names ∧
      own ∉ (signature.result.replace choice).variableOccurrences ∧
      ∀ other, signature.IsExtra other → choice other = .var own → other = extra

theorem Closed.recorded
    {signature : Signature}
    (closed : signature.Closed)
    (choice : String → TypeExpr) :
    signature.Recorded choice := by
  intro type member
  refine Substitution.substitute_ofPairs_map fun name occurs => closed name ?_
  rcases List.mem_cons.mp member with isResult | isParameter
  · rw [isResult] at occurs
    exact TypeExpr.mem_variableOccurrences_result occurs
  · exact TypeExpr.mem_variableOccurrences_parameter isParameter occurs

end Signature

namespace SearchContext

/-- The providers of a tier. -/
def tier (context : SearchContext) : Tier → List Provider
  | .normal => context.providers
  | .low => context.lowPriority

theorem isOwn_iff {context : SearchContext} {goal : Goal} :
    context.isOwn goal = true ↔
      ∃ arguments, goal = ⟨context.className, .con context.data.name arguments⟩ := by
  rcases goal with ⟨className, target⟩
  cases target <;> simp [isOwn, TypeExpr.head?]

theorem ownParameter?_eq_some {context : SearchContext} {type : TypeExpr} {name : String} :
    context.ownParameter? type = some name ↔
      type = .var name ∧ name ∈ context.data.typeParams := by
  simp [ownParameter?, TypeExpr.asVar?_eq_some]

/-- A predicate on choices holds of all choices for all methods of the providers. -/
def Admits
    (context : SearchContext)
    (admissible : Signature → (String → TypeExpr) → Prop) : Prop :=
  ∀ tier, ∀ provider ∈ context.tier tier, ∀ name span typeParams parameters result,
    .method name span typeParams parameters result ∈ provider.members →
      ∀ choice, admissible (.ofMethod typeParams parameters result) choice

/-- Every variable in the type of a method of the providers is one of its type parameters. -/
def MethodsClosed (context : SearchContext) : Prop :=
  ∀ tier, ∀ provider ∈ context.tier tier, ∀ name span typeParams parameters result,
    .method name span typeParams parameters result ∈ provider.members →
      (Signature.ofMethod typeParams parameters result).Closed

theorem admits_unrestricted (context : SearchContext) : context.Admits Signature.Unrestricted :=
  fun _ _ _ _ _ _ _ _ _ _ => trivial

theorem MethodsClosed.admits_recorded
    {context : SearchContext}
    (closed : context.MethodsClosed) :
    context.Admits Signature.Recorded :=
  fun tier provider listed name span typeParams parameters result member =>
    (closed tier provider listed name span typeParams parameters result member).recorded

end SearchContext

section

variable (context : SearchContext) (admissible : Signature → (String → TypeExpr) → Prop)

mutual

/--
An instance made as a location says serves a goal.  The tiers are those of the
members used, from the outermost one on.
-/
inductive Derives : Goal → Location → List Tier → Prop
  | field
      {tier : Tier}
      {provider : Provider}
      {name : String}
      {span : Span}
      {type : TypeExpr}
      {choice : String → TypeExpr}
      {goal : Goal}
      (notOwn : context.isOwn goal = false)
      (listed : provider ∈ context.tier tier)
      (member : .field name span type ∈ provider.members)
      (matched : type.replace choice = goal.type) :
      Derives goal (.field provider.name name span) [tier]
  | method
      {tier : Tier}
      {provider : Provider}
      {name : String}
      {span : Span}
      {typeParams : List Named}
      {parameters : List TypeExpr}
      {result : TypeExpr}
      {choice : String → TypeExpr}
      {goal : Goal}
      {goals : List Goal}
      {dependencies : List Location}
      {tiers : List Tier}
      (notOwn : context.isOwn goal = false)
      (listed : provider ∈ context.tier tier)
      (member : .method name span typeParams parameters result ∈ provider.members)
      (structural : parameters ≠ [] → SearchContext.hasParts goal.target = true)
      (allowed : admissible (.ofMethod typeParams parameters result) choice)
      (matched : result.replace choice = goal.type)
      (asked : parameters.map (TypeExpr.replace choice) = goals.map Goal.type)
      (parts : DerivesAll goals dependencies tiers) :
      Derives goal
        (.method provider.name name span
          ((Signature.ofMethod typeParams parameters result).typeArguments choice)
          dependencies)
        (tier :: tiers)
  | generated
      {arguments : List TypeExpr}
      {dependencies : List Location}
      {tiers : List Tier}
      (parts : DerivesAll (arguments.map (Goal.mk context.className)) dependencies tiers) :
      Derives ⟨context.className, .con context.data.name arguments⟩
        (.generated context.className (.con context.data.name arguments) dependencies)
        tiers
  | parameter
      {className name : String}
      (declared : name ∈ context.data.typeParams) :
      Derives ⟨className, .var name⟩ (.parameter className name) []

/-- Instances made as locations say serve goals, one for each. -/
inductive DerivesAll : List Goal → List Location → List Tier → Prop
  | nil : DerivesAll [] [] []
  | cons
      {goal : Goal}
      {goals : List Goal}
      {location : Location}
      {locations : List Location}
      {tiers others : List Tier}
      (first : Derives goal location tiers)
      (rest : DerivesAll goals locations others) :
      DerivesAll (goal :: goals) (location :: locations) (tiers ++ others)

end

end

end DataDerive
