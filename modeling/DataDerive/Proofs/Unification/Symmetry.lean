import DataDerive.Proofs.Unification.Renaming

/-!
# The order of the types

Unification binds a variable of the left type first, so with the types swapped
it takes other steps and may find another substitution.  Both are most general:
what one makes of a type is an instance of what the other makes of it, in both
directions.  Types that are instances of each other differ by a renaming.
-/

namespace DataDerive

namespace TypeExpr

variable {type : TypeExpr} {forth back : String → TypeExpr}

/-- A replacement that another one undoes puts variables for the variables of a type. -/
theorem exists_var_of_undone
    (undone : (type.replace forth).replace back = type)
    {x : String}
    (occurs : x ∈ type.variableOccurrences) :
    ∃ y, forth x = .var y ∧ back y = .var x := by
  have undoes : (forth x).replace back = .var x := by
    rw [replace_replace] at undone
    exact replace_eq_replace_iff.mp (undone.trans type.replace_self.symm) x occurs
  cases put : forth x with
  | var y =>
      rw [put, replace_var] at undoes
      exact ⟨y, rfl, undoes⟩
  | con name arguments =>
      rw [put, replace_con] at undoes
      cases undoes
  | arrow parameters result =>
      rw [put, replace_arrow] at undoes
      cases undoes

/-- Types that are instances of each other differ by a renaming. -/
theorem exists_rename_of_undone (undone : (type.replace forth).replace back = type) :
    ∃ relabel : Equiv.Perm String, type.replace forth = type.rename relabel := by
  choose! variant puts undoes using fun x => exists_var_of_undone (x := x) undone
  have injective : ∀ x ∈ type.variableOccurrences, ∀ y ∈ type.variableOccurrences,
      variant x = variant y → x = y := by
    intro x xOccurs y yOccurs same
    have equal : TypeExpr.var x = .var y := by
      rw [← undoes x xOccurs, same, undoes y yOccurs]
    exact TypeExpr.var.inj equal
  -- Nothing is known before, so any two choices of names for the variables can be aligned.
  have aligned : ∃ relabel : Equiv.Perm String,
      (∀ y ∈ (∅ : Set String), relabel y = Equiv.refl String y) ∧
        ∀ x ∈ type.variableOccurrences, relabel (id x) = variant x :=
    exists_renaming_extending (Equiv.refl String) (fun _ _ _ _ same => same) injective
      (fun _ _ => Set.notMem_empty _) (fun _ _ _ => nofun)
  rcases aligned with ⟨relabel, -, takes⟩
  refine ⟨relabel, replace_congr fun x occurs => ?_⟩
  rw [puts x occurs]
  exact congrArg TypeExpr.var (takes x occurs).symm

end TypeExpr

namespace Unification

open TypeExpr Substitution

section Swap

variable
  {rigid : List String}
  {left right : TypeExpr}
  {start found other : Substitution}

/-- With the types swapped, unification succeeds as well. -/
theorem unifyFrom_swap_succeeds
    (acyclic : start.Acyclic)
    (loose : ∀ name ∈ rigid, start.get? name = none)
    (success : unifyFrom rigid left right start = .ok found) :
    ∃ other, unifyFrom rigid right left start = .ok other := by
  obtain ⟨stage, extended⟩ := unifyFrom_stage acyclic loose success
  have solved := stage.acyclic.solvedBy_resolve
  refine unifyFrom_succeeds acyclic loose (solved.of_extends extended) ⟨?_, ?_⟩
  · exact fun name isRigid => resolve_var_of_unbound (stage.loose name isRigid)
  · exact (replace_eq_of_unifyFrom acyclic loose success solved).symm

/-- What is found with the types swapped puts something for what is found without. -/
theorem replace_resolve_of_swap
    (acyclic : start.Acyclic)
    (loose : ∀ name ∈ rigid, start.get? name = none)
    (success : unifyFrom rigid left right start = .ok found)
    (swapped : unifyFrom rigid right left start = .ok other)
    (type : TypeExpr) :
    (found.resolve type).replace (fun name => other.resolve (.var name)) =
      other.resolve type := by
  obtain ⟨stage, extended⟩ := unifyFrom_stage acyclic loose swapped
  have solved := stage.acyclic.solvedBy_resolve
  have solvedFound := solvedBy_of_unifyFrom success (solved.of_extends extended)
    (replace_eq_of_unifyFrom acyclic loose swapped solved).symm
  rw [solvedFound.replace_resolve, ← resolve_eq_replace]

/-- What is found with the types swapped resolves every type to a renamed one. -/
theorem exists_rename_of_swap
    (acyclic : start.Acyclic)
    (loose : ∀ name ∈ rigid, start.get? name = none)
    (success : unifyFrom rigid left right start = .ok found)
    (swapped : unifyFrom rigid right left start = .ok other)
    (type : TypeExpr) :
    ∃ relabel : Equiv.Perm String, other.resolve type = (found.resolve type).rename relabel := by
  have forth := replace_resolve_of_swap acyclic loose success swapped type
  have back := replace_resolve_of_swap acyclic loose swapped success type
  rw [← forth] at back
  rcases exists_rename_of_undone back with ⟨relabel, renamed⟩
  exact ⟨relabel, forth.symm.trans renamed⟩

end Swap

theorem unify?_eq_some {left right : TypeExpr} {found : Substitution} :
    unify? left right = some found ↔ unifyFrom [] left right .empty = .ok found :=
  Except.toOption_eq_some_iff

/--
Unification is symmetric up to renaming.  It succeeds in one order exactly if it
does in the other, and then the unified types differ only by a renaming that is
one to one on all variables.
-/
theorem unify?_symmetric (left right : TypeExpr) :
    ((unify? left right).isSome ↔ (unify? right left).isSome) ∧
    ∀ found other, unify? left right = some found → unify? right left = some other →
      ∃ relabel : Equiv.Perm String,
        other.resolve left = (found.resolve left).rename relabel := by
  have swaps (left right : TypeExpr) (success : (unify? left right).isSome) :
      (unify? right left).isSome := by
    rcases Option.isSome_iff_exists.mp success with ⟨found, success⟩
    rcases unifyFrom_swap_succeeds acyclic_empty (fun _ _ => rfl) (unify?_eq_some.mp success)
      with ⟨other, swapped⟩
    exact Option.isSome_iff_exists.mpr ⟨other, unify?_eq_some.mpr swapped⟩
  refine ⟨⟨swaps left right, swaps right left⟩, fun found other success swapped => ?_⟩
  exact exists_rename_of_swap acyclic_empty (fun _ _ => rfl) (unify?_eq_some.mp success)
    (unify?_eq_some.mp swapped) left

/-- The two orders bind different variables of a pair. -/
example :
    unify? (.var "A") (.var "B") = some (.ofPairs [("A", .var "B")]) ∧
      unify? (.var "B") (.var "A") = some (.ofPairs [("B", .var "A")]) := by
  decide +kernel

end Unification

end DataDerive
