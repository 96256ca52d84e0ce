import DataDerive.ClassInstance.Naming
import DataDerive.Proofs.Instance.Derives

/-!
# Parts of a location

A location is made of locations, its dependencies and theirs.  The parameters
and the types at which the instance under construction is used are those of all
parts, and every part of a derivation is a derivation itself.
-/

namespace DataDerive

/-- A location is a part of another or the same. -/
inductive Location.OccursIn (part : Location) : Location → Prop
  | here : OccursIn part part
  | method
      {source member : String}
      {span : Span}
      {typeArguments : List (String × TypeExpr)}
      {dependency : Location}
      {dependencies : List Location}
      (listed : dependency ∈ dependencies)
      (inside : OccursIn part dependency) :
      OccursIn part (.method source member span typeArguments dependencies)
  | generated
      {className : String}
      {type : TypeExpr}
      {dependency : Location}
      {dependencies : List Location}
      (listed : dependency ∈ dependencies)
      (inside : OccursIn part dependency) :
      OccursIn part (.generated className type dependencies)

namespace Location

/-- Induction over a location with the hypothesis for every dependency. -/
theorem inductionOn
    {motive : Location → Prop}
    (field : ∀ source member span, motive (.field source member span))
    (method : ∀ source member span typeArguments dependencies,
      (∀ dependency ∈ dependencies, motive dependency) →
        motive (.method source member span typeArguments dependencies))
    (generated : ∀ className type dependencies,
      (∀ dependency ∈ dependencies, motive dependency) →
        motive (.generated className type dependencies))
    (parameter : ∀ className name, motive (.parameter className name))
    (location : Location) :
    motive location :=
  Location.rec (motive_2 := fun locations => ∀ location ∈ locations, motive location)
    field method generated parameter nofun
    (fun _ _ first rest => List.forall_mem_cons.mpr ⟨first, rest⟩) location

theorem occursIn_method_iff
    {part : Location}
    {source member : String}
    {span : Span}
    {typeArguments : List (String × TypeExpr)}
    {dependencies : List Location} :
    part.OccursIn (.method source member span typeArguments dependencies) ↔
      part = .method source member span typeArguments dependencies ∨
        ∃ dependency ∈ dependencies, part.OccursIn dependency := by
  constructor
  · intro occurs
    cases occurs with
    | here => exact Or.inl rfl
    | method listed inside => exact Or.inr ⟨_, listed, inside⟩
  · rintro (rfl | ⟨dependency, listed, inside⟩)
    · exact .here
    · exact .method listed inside

theorem occursIn_generated_iff
    {part : Location}
    {className : String}
    {type : TypeExpr}
    {dependencies : List Location} :
    part.OccursIn (.generated className type dependencies) ↔
      part = .generated className type dependencies ∨
        ∃ dependency ∈ dependencies, part.OccursIn dependency := by
  constructor
  · intro occurs
    cases occurs with
    | here => exact Or.inl rfl
    | generated listed inside => exact Or.inr ⟨_, listed, inside⟩
  · rintro (rfl | ⟨dependency, listed, inside⟩)
    · exact .here
    · exact .generated listed inside

/-! ## Parameters -/

theorem parameterOccurrencesAll_eq_flatMap (locations : List Location) :
    parameterOccurrencesAll locations = locations.flatMap parameterOccurrences := by
  induction locations with
  | nil => rw [parameterOccurrencesAll, List.flatMap_nil]
  | cons location rest ih => rw [parameterOccurrencesAll, ih, List.flatMap_cons]

theorem mem_parameterOccurrences {location : Location} {parameter : String × String} :
    parameter ∈ location.parameterOccurrences ↔
      (Location.parameter parameter.1 parameter.2).OccursIn location := by
  induction location using inductionOn with
  | field source member span =>
      rw [parameterOccurrences]
      exact iff_of_false List.not_mem_nil nofun
  | method source member span typeArguments dependencies ih =>
      rw [parameterOccurrences, parameterOccurrencesAll_eq_flatMap, List.mem_flatMap,
        occursIn_method_iff, or_iff_right nofun]
      exact exists_congr fun dependency => and_congr_right (ih dependency)
  | generated className type dependencies ih =>
      rw [parameterOccurrences, parameterOccurrencesAll_eq_flatMap, List.mem_flatMap,
        occursIn_generated_iff, or_iff_right nofun]
      exact exists_congr fun dependency => and_congr_right (ih dependency)
  | parameter className name =>
      rw [parameterOccurrences, List.mem_singleton]
      constructor
      · rintro rfl
        exact .here
      · rintro ⟨⟩
        rfl

end Location

/-! ## Uses of the instance under construction -/

namespace InstanceNaming

open Location

theorem instantiationsAll_eq_flatMap (locations : List Location) :
    instantiationsAll locations = locations.flatMap instantiations := by
  induction locations with
  | nil => rw [instantiationsAll, List.flatMap_nil]
  | cons location rest ih => rw [instantiationsAll, ih, List.flatMap_cons]

/-- A use at a type occurs in a location. -/
def UsedAt (type : TypeExpr) (location : Location) : Prop :=
  ∃ className dependencies,
    (Location.generated className type dependencies).OccursIn location

theorem usedAt_method_iff
    {type : TypeExpr}
    {source member : String}
    {span : Span}
    {typeArguments : List (String × TypeExpr)}
    {dependencies : List Location} :
    UsedAt type (.method source member span typeArguments dependencies) ↔
      ∃ dependency ∈ dependencies, UsedAt type dependency := by
  simp only [UsedAt, occursIn_method_iff, reduceCtorEq, false_or]
  constructor
  · rintro ⟨className, parts, dependency, listed, inside⟩
    exact ⟨dependency, listed, className, parts, inside⟩
  · rintro ⟨dependency, listed, className, parts, inside⟩
    exact ⟨className, parts, dependency, listed, inside⟩

theorem usedAt_generated_iff
    {type used : TypeExpr}
    {className : String}
    {dependencies : List Location} :
    UsedAt type (.generated className used dependencies) ↔
      type = used ∨ ∃ dependency ∈ dependencies, UsedAt type dependency := by
  simp only [UsedAt, occursIn_generated_iff, Location.generated.injEq]
  constructor
  · rintro ⟨other, parts, ⟨-, same, -⟩ | ⟨dependency, listed, inside⟩⟩
    · exact Or.inl same
    · exact Or.inr ⟨dependency, listed, other, parts, inside⟩
  · rintro (rfl | ⟨dependency, listed, other, parts, inside⟩)
    · exact ⟨className, dependencies, Or.inl ⟨rfl, rfl, rfl⟩⟩
    · exact ⟨other, parts, Or.inr ⟨dependency, listed, inside⟩⟩

theorem mem_instantiations {location : Location} {type : TypeExpr} :
    type ∈ instantiations location ↔ UsedAt type location := by
  induction location using Location.inductionOn with
  | field source member span =>
      rw [instantiations]
      exact iff_of_false List.not_mem_nil nofun
  | method source member span typeArguments dependencies ih =>
      rw [instantiations, instantiationsAll_eq_flatMap, List.mem_flatMap, usedAt_method_iff]
      exact exists_congr fun dependency => and_congr_right (ih dependency)
  | generated className used dependencies ih =>
      rw [instantiations, instantiationsAll_eq_flatMap, List.mem_cons, List.mem_flatMap,
        usedAt_generated_iff]
      exact or_congr_right (exists_congr fun dependency => and_congr_right (ih dependency))
  | parameter className name =>
      rw [instantiations]
      exact iff_of_false List.not_mem_nil nofun

end InstanceNaming

/-! ## Derivations -/

section Derivations

variable {context : SearchContext} {admissible : Signature → (String → TypeExpr) → Prop}

theorem DerivesAll.length_eq
    {goals : List Goal}
    {locations : List Location}
    {tiers : List Tier}
    (derives : DerivesAll context admissible goals locations tiers) :
    locations.length = goals.length := by
  induction goals generalizing locations tiers with
  | nil =>
      cases derives
      rfl
  | cons goal goals ih =>
      cases derives with
      | cons first rest => rw [List.length_cons, List.length_cons, ih rest]

/-- Each of several locations derives the goal at its position. -/
theorem DerivesAll.exists_derives
    {goals : List Goal}
    {locations : List Location}
    {tiers : List Tier}
    (derives : DerivesAll context admissible goals locations tiers)
    {index : Nat}
    {location : Location}
    (found : locations[index]? = some location) :
    ∃ goal own, goals[index]? = some goal ∧ Derives context admissible goal location own := by
  induction goals generalizing locations tiers index with
  | nil =>
      cases derives
      cases found
  | cons goal goals ih =>
      cases derives with
      | cons first rest =>
          cases index with
          | zero =>
              cases found
              exact ⟨goal, _, rfl, first⟩
          | succ index => exact ih rest found

/-- A part of a derivation is a derivation of a goal of its own. -/
theorem Derives.of_occursIn
    {part location : Location}
    (occurs : part.OccursIn location)
    {goal : Goal}
    {tiers : List Tier}
    (derives : Derives context admissible goal location tiers) :
    ∃ inner own, Derives context admissible inner part own := by
  induction occurs generalizing goal tiers with
  | here => exact ⟨goal, tiers, derives⟩
  | method listed _ ih =>
      rcases List.mem_iff_getElem?.mp listed with ⟨index, found⟩
      cases derives with
      | method notOwn inTier member structural allowed matched asked parts =>
          rcases parts.exists_derives found with ⟨inner, own, -, first⟩
          exact ih first
  | generated listed _ ih =>
      rcases List.mem_iff_getElem?.mp listed with ⟨index, found⟩
      cases derives with
      | generated parts =>
          rcases parts.exists_derives found with ⟨inner, own, -, first⟩
          exact ih first

end Derivations

end DataDerive
