import DataDerive.Declaration
import DataDerive.Diagnostic.Basic
import DataDerive.FreshNames
import DataDerive.Instance.Location
import DataDerive.Model.Basic
import DataDerive.Unification

/-!
# Searching instances

A goal is a class at a target type.  At the data type itself the instance under
construction is used, and at one of its type parameters a parameter of that
instance.  Every other goal is searched in two tiers, the normal providers and
then those of low priority.

In a tier the static fields and the static methods without parameters come
first; among those whose type matches the goal the most specific one wins, and
among equally specific ones the one of the earlier provider.  If none matches
and the target has parts, the methods with parameters are tried: each of their
parameters is a goal one level deeper.  Two best candidates of one provider are
an ambiguity.

The type of every member tried is renamed apart, so the supply of fresh
variables runs through the whole search, failed branches included.
-/

namespace DataDerive

/-- How many levels of goals may nest below the first one. -/
def deepestGoal : Nat := 32

/-- A class at a target type. -/
structure Goal where
  className : String
  target : TypeExpr
  deriving Repr, DecidableEq

namespace Goal

/-- The type that an instance for a goal has. -/
def type (goal : Goal) : TypeExpr :=
  .con goal.className [goal.target]

/-- The goal that a type asks for: a class applied to one type. -/
def ofType? : TypeExpr → Option Goal
  | .con className [target] => some ⟨className, target⟩
  | _ => none

@[simp]
theorem ofType?_type (goal : Goal) : ofType? goal.type = some goal := rfl

end Goal

/-- An instance that was found. -/
structure FoundInstance where
  location : Location
  /-- Whether a part of it comes from a provider of low priority. -/
  lowPriority : Bool
  deriving Repr, DecidableEq

/-- What a search is about. -/
structure SearchContext where
  /-- The data type for whose fields instances are searched. -/
  data : DataType
  /-- The class of the instance under construction. -/
  className : String
  /-- Where faults are reported. -/
  span : Span
  /-- The normal providers in the order of their priority. -/
  providers : List Provider
  /-- The providers searched when the normal ones failed. -/
  lowPriority : List Provider

/-- A step of a search: it may end in a message, and it takes fresh variables. -/
abbrev Search : Type → Type := ExceptT Message (StateM FreshNames)

/-- A static member among the providers. -/
structure PlacedMember where
  source : String
  /-- The position of the provider; lower is better. -/
  priority : Nat
  member : StaticMember

namespace PlacedMember

/-- The static members of providers in their order. -/
def ofProviders (providers : List Provider) : List PlacedMember :=
  providers.zipIdx.flatMap fun (provider, priority) =>
    provider.members.map fun member => ⟨provider.name, priority, member⟩

/-- The name of a member with its source. -/
def label (placed : PlacedMember) : String :=
  placed.source ++ "." ++ placed.member.name

/--
How specific the type of a member is as it is declared.

Thirty-two bits are enough for the count.  A type is read from a text, and every node
that is counted takes at least one character of the text for itself: its name, its
bracket or the first letter of `fn`.  So the count is at most the length of the text and
stays below `2 ^ 32` in every text of fewer bytes.
-/
def specificity (placed : PlacedMember) : Nat :=
  placed.member.provides.concreteNodes

/-- Whether a member is more specific than another, or as specific and earlier. -/
def beats (left right : PlacedMember) : Bool :=
  right.specificity < left.specificity ||
    (left.specificity == right.specificity && left.priority < right.priority)

end PlacedMember

/-- A member that provides the goal, and the instance made with it. -/
structure Candidate where
  placed : PlacedMember
  found : FoundInstance

namespace Candidate

/-- The candidates that no other candidate beats. -/
def best (candidates : List Candidate) : List Candidate :=
  candidates.filter fun candidate =>
    candidates.all fun other => !other.placed.beats candidate.placed

end Candidate

namespace SearchContext

/-- A place in the data type that the search is about. -/
def place (context : SearchContext) (span : Span) : Localization :=
  .declaration context.data.name span

/-- A message about the request. -/
def fault (context : SearchContext) (code : Code) (text : String) : Message :=
  .at_ code text (context.place context.span)

/-- The message that there is no instance. -/
def missing (context : SearchContext) (goal : Goal) : Message :=
  context.fault .noInstance
    s!"no `{goal.className}` instance found for `{goal.target.text}`"

/-- The message that goals nest too deep. -/
def tooDeep (context : SearchContext) (goal : Goal) : Message :=
  context.fault .searchTooDeep
    s!"resolving `{goal.className}` for `{goal.target.text}` nested deeper than {deepestGoal} levels"

/-- The message that several candidates are equally good. -/
def ambiguous
    (context : SearchContext)
    (goal : Goal)
    (candidates : List Candidate) : Message :=
  let labels := candidates.map fun candidate => "`" ++ candidate.placed.label ++ "`"
  { code := .ambiguousInstance
    text := "ambiguous instances for `" ++ goal.type.text ++ "`: " ++ ", ".intercalate labels
    places := context.place context.span ::
      candidates.map fun candidate => context.place candidate.placed.member.span }

/-- The best candidate, if there is a candidate. -/
def pick
    (context : SearchContext)
    (goal : Goal)
    (candidates : List Candidate) : Derived (Option FoundInstance) :=
  match Candidate.best candidates with
  | [] => .ok none
  | [candidate] => .ok (some candidate.found)
  | several => .error (context.ambiguous goal several)

/-- A renaming of type variables by fresh ones. -/
def renameApart (names : List String) : Search Substitution :=
  modifyGet fun supply => supply.renameApart names

/-- A method matched against a goal. -/
structure Instantiation where
  /-- What the type parameters of the method stand for. -/
  typeArguments : List (String × TypeExpr)
  /-- The types of the parameters of the method. -/
  parameters : List TypeExpr

/-- Match the result of a method against a goal. -/
def instantiate
    (goal : Goal)
    (typeParams : List Named)
    (parameters : List TypeExpr)
    (result : TypeExpr) : Search (Option Instantiation) := do
  let declared := typeParams.map Named.name
  let others := (TypeExpr.arrow parameters result).freeVars.filter fun name =>
    !declared.contains name
  let fresh ← renameApart (declared ++ others)
  return (Unification.matchType? (fresh.substitute result) goal.type).map fun matched =>
    let apply (type : TypeExpr) : TypeExpr := matched.resolve (fresh.substitute type)
    { typeArguments := declared.map fun name => (name, apply (.var name))
      parameters := parameters.map apply }

/-- The instance that a field or a method without parameters provides for a goal. -/
def direct? (goal : Goal) (placed : PlacedMember) : Search (Option Candidate) :=
  match placed.member with
  | .field name span type => do
      let fresh ← renameApart type.freeVars
      return (Unification.matchType? (fresh.substitute type) goal.type).map fun _ =>
        ⟨placed, .field placed.source name span, false⟩
  | .method name span typeParams [] result => do
      let matched ← instantiate goal typeParams [] result
      return matched.map fun matched =>
        ⟨placed, .method placed.source name span matched.typeArguments [], false⟩
  | .method _ _ _ (_ :: _) _ => return none

/-- Keep the members for which a step gives a candidate. -/
def collect (step : PlacedMember → Search (Option Candidate)) :
    List PlacedMember → Search (List Candidate)
  | [] => return []
  | placed :: rest => do
      let candidate ← step placed
      let others ← collect step rest
      return candidate.toList ++ others

/-- Solve a goal; nothing if there is no instance for it. -/
def solve?
    (solve : Goal → Search FoundInstance)
    (goal : Goal) : Search (Option FoundInstance) :=
  tryCatch (some <$> solve goal) fun message =>
    if message.code = .noInstance then return none else throw message

/-- Solve the goals that types ask for; nothing if one of them cannot be solved. -/
def solveAll? (solve : Goal → Search FoundInstance) :
    List TypeExpr → Search (Option (List FoundInstance))
  | [] => return some []
  | type :: rest =>
      match Goal.ofType? type with
      | none => return none
      | some goal => do
          match ← solve? solve goal with
          | none => return none
          | some found =>
              let others ← solveAll? solve rest
              return others.map (found :: ·)

/-- The instance that a method with parameters provides for a goal. -/
def combined?
    (solve : Goal → Search FoundInstance)
    (goal : Goal)
    (placed : PlacedMember) : Search (Option Candidate) :=
  match placed.member with
  | .method name span typeParams (first :: rest) result => do
      match ← instantiate goal typeParams (first :: rest) result with
      | none => return none
      | some matched =>
          let parts ← solveAll? solve matched.parameters
          return parts.map fun parts =>
            { placed
              found :=
                { location := .method placed.source name span matched.typeArguments
                    (parts.map FoundInstance.location)
                  lowPriority := parts.any FoundInstance.lowPriority } }
  | _ => return none

/-- Whether methods with parameters may provide an instance for a type. -/
def hasParts : TypeExpr → Bool
  | .var _ => false
  | .con _ arguments => !arguments.isEmpty
  | .arrow _ _ => true

/-- Search a goal in one tier of providers. -/
def searchTier
    (context : SearchContext)
    (solve : Goal → Search FoundInstance)
    (goal : Goal)
    (providers : List Provider) : Search (Option FoundInstance) := do
  let members := PlacedMember.ofProviders providers
  match ← context.pick goal (← collect (direct? goal) members) with
  | some found => return some found
  | none =>
      if hasParts goal.target then
        context.pick goal (← collect (combined? solve goal) members)
      else
        return none

/-- Search a goal in both tiers. -/
def searchTiers
    (context : SearchContext)
    (solve : Goal → Search FoundInstance)
    (goal : Goal) : Search FoundInstance := do
  match ← context.searchTier solve goal context.providers with
  | some found => return found
  | none =>
      match ← context.searchTier solve goal context.lowPriority with
      | some found => return { found with lowPriority := true }
      | none => throw (context.missing goal)

/-- The instances that the instance under construction needs for its type parameters. -/
def typeParameters
    (solve : Goal → Search FoundInstance)
    (className : String)
    (arguments : Substitution) :
    List String → Search (List FoundInstance)
  | [] => return []
  | name :: rest => do
      let argument := arguments.resolve (.var name)
      let found ←
        if argument = .var name then
          pure ⟨.parameter className name, false⟩
        else
          solve ⟨className, argument⟩
      return found :: (← typeParameters solve className arguments rest)

/-- The instance under construction at a type with the data type's name. -/
def generated
    (context : SearchContext)
    (solve : Goal → Search FoundInstance)
    (goal : Goal) : Search FoundInstance := do
  match Unification.matchType? context.data.selfType goal.target with
  | none =>
      throw {
        code := .internal
        text := s!"`{goal.target.text}` does not instantiate `{context.data.name}`"
        places := [] }
  | some arguments =>
      let parts ← typeParameters solve goal.className arguments context.data.typeParams
      return {
        location := .generated goal.className goal.target (parts.map FoundInstance.location)
        lowPriority := parts.any FoundInstance.lowPriority }

/-- The type parameter of the data type that a type is. -/
def ownParameter? (context : SearchContext) (type : TypeExpr) : Option String :=
  type.asVar?.filter fun name => context.data.typeParams.contains name

/-- Whether a goal asks for the instance under construction. -/
def isOwn (context : SearchContext) (goal : Goal) : Bool :=
  goal.className == context.className && goal.target.head? == some context.data.name

/-- Solve a goal below which so many levels of goals may nest. -/
def solve (context : SearchContext) : (levels : Nat) → Goal → Search FoundInstance
  | 0, goal => throw (context.tooDeep goal)
  | levels + 1, goal =>
      if context.isOwn goal then
        context.generated (context.solve levels) goal
      else
        match context.ownParameter? goal.target with
        | some name => return ⟨.parameter goal.className name, false⟩
        | none => context.searchTiers (context.solve levels) goal

/-- Find an instance of the context's class for a type. -/
def find (context : SearchContext) (target : TypeExpr) : Derived FoundInstance :=
  ((context.solve (deepestGoal + 1) ⟨context.className, target⟩).run.run .start).1

end SearchContext

end DataDerive
