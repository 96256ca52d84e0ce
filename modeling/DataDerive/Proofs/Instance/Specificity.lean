import DataDerive.Proofs.Instance.Candidates
import DataDerive.Proofs.Substitution
import Mathlib.Algebra.BigOperators.Group.List.Basic
import Mathlib.Algebra.Order.BigOperators.Group.List

/-!
# Specific types and instances of types

Candidates are ranked by how many nodes of their declared types are no variables.
Replacing variables keeps these nodes and adds those of what is put for each
occurrence, so the count never falls, and it grows as soon as something that is
no variable is put for a variable that occurs.

Hence a member whose type is an instance of the type of another one in this sense
is ahead of it, whatever their providers are.  Where both are candidates the more
general one is neither picked nor part of an ambiguity.
-/

namespace DataDerive

namespace TypeExpr

variable {type : TypeExpr}

/-! ## Counting by parts -/

theorem concreteNodesAll_eq_sum (types : List TypeExpr) :
    concreteNodesAll types = (types.map concreteNodes).sum := by
  induction types with
  | nil => rfl
  | cons type rest ih => rw [concreteNodesAll, ih, List.map_cons, List.sum_cons]

theorem nodesAll_eq_sum (types : List TypeExpr) : nodesAll types = (types.map nodes).sum := by
  induction types with
  | nil => rfl
  | cons type rest ih => rw [nodesAll, ih, List.map_cons, List.sum_cons]

/-- A type that is no variable counts its root and its parts. -/
theorem IsCompound.concreteNodes_eq (compound : type.IsCompound) :
    type.concreteNodes = 1 + (type.parts.map concreteNodes).sum := by
  cases compound with
  | con => rw [concreteNodes, concreteNodesAll_eq_sum, parts]
  | arrow =>
      rw [concreteNodes, concreteNodesAll_eq_sum, parts, List.map_append, List.sum_append,
        List.map_singleton, List.sum_singleton, Nat.add_assoc]

theorem IsCompound.variableOccurrences_eq (compound : type.IsCompound) :
    type.variableOccurrences = type.parts.flatMap variableOccurrences := by
  cases compound with
  | con => rw [variableOccurrences_con, parts]
  | arrow => simp [parts]

theorem isCompound_of_ne_var (noVariable : ∀ name, type ≠ .var name) : type.IsCompound := by
  cases type with
  | var name => exact absurd rfl (noVariable name)
  | con name arguments => exact isCompound_con name arguments
  | arrow parameters result => exact isCompound_arrow parameters result

/-- Every node is counted unless it is the occurrence of a variable. -/
theorem concreteNodes_add_variables (type : TypeExpr) :
    type.concreteNodes + type.variableOccurrences.length = type.nodes := by
  induction type with
  | var name => rfl
  | compound type compound ih =>
      rw [compound.concreteNodes_eq, compound.variableOccurrences_eq, compound.nodes_eq,
        nodesAll_eq_sum, List.length_flatMap, Nat.add_assoc, ← List.sum_map_add,
        List.map_congr_left ih]

theorem concreteNodes_le_nodes (type : TypeExpr) : type.concreteNodes ≤ type.nodes := by
  rw [← concreteNodes_add_variables]
  exact Nat.le_add_right _ _

/-! ## Counting what replaces variables -/

/-- Replacing variables adds the nodes of what is put for each occurrence. -/
theorem concreteNodes_replace (target : String → TypeExpr) (type : TypeExpr) :
    (type.replace target).concreteNodes =
      type.concreteNodes +
        (type.variableOccurrences.map fun name => (target name).concreteNodes).sum := by
  induction type with
  | var name => simp [concreteNodes]
  | compound type compound ih =>
      have inParts : (type.parts.map fun part => (part.replace target).concreteNodes).sum =
          (type.parts.map concreteNodes).sum +
            (type.parts.map fun part =>
              (part.variableOccurrences.map fun name => (target name).concreteNodes).sum).sum := by
        rw [List.map_congr_left ih, List.sum_map_add]
      rw [(compound.replace target).concreteNodes_eq, compound.parts_replace, List.map_map,
        compound.concreteNodes_eq, compound.variableOccurrences_eq, List.map_flatMap,
        List.flatMap_def, List.sum_flatten, List.map_map, Nat.add_assoc]
      exact congrArg (1 + ·) inParts

end TypeExpr

open TypeExpr

namespace Substitution

variable {substitution : Substitution} {type target : TypeExpr} {name : String}

/-- A variable that is not bound stays a variable and adds nothing. -/
theorem sum_concreteNodes_substituted (substitution : Substitution) (names : List String) :
    (names.map fun name => ((substitution.get? name).getD (.var name)).concreteNodes).sum =
      ((names.filterMap substitution.get?).map concreteNodes).sum := by
  induction names with
  | nil => rfl
  | cons name rest ih =>
      rw [List.map_cons, List.sum_cons, ih]
      cases bound : substitution.get? name with
      | none =>
          rw [List.filterMap_cons_none bound, Option.getD_none, concreteNodes, Nat.zero_add]
      | some target =>
          rw [List.filterMap_cons_some bound, Option.getD_some, List.map_cons, List.sum_cons]

/-- Substituting adds the nodes of the targets, once for each occurrence of a bound variable. -/
theorem concreteNodes_substitute (substitution : Substitution) (type : TypeExpr) :
    (substitution.substitute type).concreteNodes =
      type.concreteNodes +
        ((type.variableOccurrences.filterMap substitution.get?).map concreteNodes).sum := by
  rw [substitute, concreteNodes_replace, sum_concreteNodes_substituted]

theorem concreteNodes_lt_substitute
    (occurs : name ∈ type.variableOccurrences)
    (bound : substitution.get? name = some target)
    (noVariable : ∀ other, target ≠ .var other) :
    type.concreteNodes < (substitution.substitute type).concreteNodes := by
  have positive : 0 < target.concreteNodes := by
    rw [(isCompound_of_ne_var noVariable).concreteNodes_eq]
    omega
  have added : target.concreteNodes ∈
      (type.variableOccurrences.filterMap substitution.get?).map concreteNodes :=
    List.mem_map_of_mem (List.mem_filterMap.mpr ⟨name, occurs, bound⟩)
  have counted := List.le_sum_of_mem added
  rw [concreteNodes_substitute]
  omega

end Substitution

namespace Candidate

variable {candidates : List Candidate} {general specific winner : Candidate}

/-- No candidate is more specific than a best one. -/
theorem specificity_le_of_best
    (isBest : winner ∈ best candidates)
    (listed : specific ∈ candidates) :
    specific.placed.specificity ≤ winner.placed.specificity := by
  have unbeaten := (mem_best_iff.mp isBest).2 specific listed
  rw [PlacedMember.beats, Bool.or_eq_false_iff, decide_eq_false_iff_not] at unbeaten
  exact Nat.le_of_not_lt unbeaten.1

end Candidate

namespace SearchContext

/--
Substituting in a type adds the nodes of the targets, once for each occurrence of a
bound variable, and the count stays within the number of all nodes.  So if the type
of one member is that of another one with something that is no variable put for a
variable of it, and the specific one is among the candidates, the general one is
neither the answer nor part of an ambiguity.  Priorities make no difference.
-/
theorem pick_substituted (substitution : Substitution) (type : TypeExpr) :
    (substitution.substitute type).concreteNodes =
        type.concreteNodes +
          ((type.variableOccurrences.filterMap substitution.get?).map concreteNodes).sum ∧
      (substitution.substitute type).concreteNodes ≤ (substitution.substitute type).nodes ∧
      ∀ (context : SearchContext) (goal : Goal) (candidates : List Candidate)
        (general specific : Candidate),
        specific ∈ candidates →
        general.placed.member.provides = type →
        specific.placed.member.provides = substitution.substitute type →
        (∃ name ∈ type.variableOccurrences, ∃ target,
          substitution.get? name = some target ∧ ∀ other, target ≠ .var other) →
        general ∉ Candidate.best candidates ∧
          ∀ found, context.pick goal candidates = .ok (some found) →
            ∃ winner ∈ candidates, found = winner.found ∧
              general.placed.specificity < winner.placed.specificity := by
  refine ⟨substitution.concreteNodes_substitute type, concreteNodes_le_nodes _, ?_⟩
  rintro context goal candidates general specific listed generalType specificType
    ⟨name, occurs, target, bound, noVariable⟩
  have ahead : general.placed.specificity < specific.placed.specificity := by
    rw [PlacedMember.specificity, PlacedMember.specificity, generalType, specificType]
    exact Substitution.concreteNodes_lt_substitute occurs bound noVariable
  refine ⟨fun isBest => ?_, fun found picked => ?_⟩
  · exact absurd (Candidate.specificity_le_of_best isBest listed) (Nat.not_le_of_lt ahead)
  · rcases pick_eq_some_iff.mp picked with ⟨winner, only, same⟩
    have isBest : winner ∈ Candidate.best candidates := by
      rw [only]
      exact List.mem_singleton_self winner
    exact ⟨winner, (Candidate.mem_best_iff.mp isBest).1, same.symm,
      Nat.lt_of_lt_of_le ahead (Candidate.specificity_le_of_best isBest listed)⟩

/-- Equality of pairs of anything, from the first provider. -/
def pairEquality : Candidate where
  placed := ⟨"Pairs", 0,
    .method "pair_eq" ⟨10, 17⟩ [⟨"X", ⟨18, 19⟩⟩] []
      (.con "Eq" [.con "Tuple2" [.var "X", .var "X"]])⟩
  found := ⟨.method "Pairs" "pair_eq" ⟨10, 17⟩ [("X", .con "List" [.atom "i32"])] [], false⟩

/-- Equality of pairs of lists, from the second provider. -/
def listsEquality : Candidate where
  placed := ⟨"Lists", 1,
    .method "lists_eq" ⟨20, 28⟩ [⟨"A", ⟨29, 30⟩⟩] []
      (.con "Eq" [.con "Tuple2" [.con "List" [.var "A"], .con "List" [.var "A"]]])⟩
  found := ⟨.method "Lists" "lists_eq" ⟨20, 28⟩ [("A", .atom "i32")] [], false⟩

/-- Equality of pairs is not picked where that of pairs of lists is there, although it is first. -/
theorem pick_substituted_pairs :
    let substitution := Substitution.empty.bind "X" (.con "List" [.var "A"])
    let type : TypeExpr := .con "Eq" [.con "Tuple2" [.var "X", .var "X"]]
    listsEquality ∈ [pairEquality, listsEquality] ∧
      pairEquality.placed.member.provides = type ∧
      listsEquality.placed.member.provides = substitution.substitute type ∧
      (∃ name ∈ type.variableOccurrences, ∃ target,
        substitution.get? name = some target ∧ ∀ other, target ≠ .var other) ∧
      ∀ context goal, pairEquality ∉ Candidate.best [pairEquality, listsEquality] ∧
        ∀ found, pick context goal [pairEquality, listsEquality] = .ok (some found) →
          ∃ winner ∈ [pairEquality, listsEquality], found = winner.found ∧
            pairEquality.placed.specificity < winner.placed.specificity := by
  intro substitution type
  have listed : listsEquality ∈ [pairEquality, listsEquality] :=
    List.mem_cons_of_mem _ (List.mem_singleton_self _)
  have instantiated : ∃ name ∈ type.variableOccurrences, ∃ target,
      substitution.get? name = some target ∧ ∀ other, target ≠ .var other :=
    ⟨"X", List.mem_cons_self, _, rfl, fun _ same => by cases same⟩
  refine ⟨listed, rfl, rfl, instantiated, fun context goal => ?_⟩
  exact (pick_substituted substitution type).2.2 context goal [pairEquality, listsEquality]
    pairEquality listsEquality listed rfl rfl instantiated

end SearchContext

end DataDerive
