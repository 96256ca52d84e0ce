import DataDerive.Proofs.Fallible
import DataDerive.Proofs.Unification.MostGeneral

/-!
# One-way matching

Matching is unification in which the variables of the target are rigid.  It
succeeds exactly if some replacement that keeps those variables turns the
pattern into the target, and then resolving the pattern gives the target.

The pattern is mostly renamed apart from the target.  Then matching determines
what is put for its variables, and it leaves all other variables alone.
-/

namespace DataDerive.Unification

open TypeExpr Substitution

variable {pattern target : TypeExpr} {found : Substitution}

theorem matchType?_eq_some :
    matchType? pattern target = some found ↔
      unifyFrom target.freeVars pattern target .empty = .ok found :=
  Except.toOption_eq_some_iff

theorem matchType?_stage (success : matchType? pattern target = some found) :
    Stage target.freeVars (namesInUse pattern target .empty) found :=
  (unifyFrom_stage acyclic_empty (fun _ _ => rfl) (matchType?_eq_some.mp success)).1

/-- A match turns the pattern into the target. -/
theorem resolve_of_matchType? (success : matchType? pattern target = some found) :
    found.resolve pattern = target := by
  have same := resolve_eq_of_unifyFrom acyclic_empty (fun _ _ => rfl)
    (matchType?_eq_some.mp success)
  rw [same]
  apply resolve_of_unbound
  intro name occurs
  exact (matchType?_stage success).loose name (mem_freeVars.mpr occurs)

/-- A match turns a pattern with replaced variables into the target. -/
theorem replace_of_matchType?
    {renamed : String → TypeExpr}
    (success : matchType? (pattern.replace renamed) target = some found) :
    pattern.replace (fun name => found.resolve (renamed name)) = target := by
  rw [← resolve_replace]
  exact resolve_of_matchType? success

/-- A match binds no variable from outside the two types. -/
theorem resolve_var_of_outside
    (success : matchType? pattern target = some found)
    {name : String}
    (notPattern : name ∉ pattern.variableOccurrences)
    (notTarget : name ∉ target.variableOccurrences) :
    found.resolve (.var name) = .var name := by
  refine resolve_var_of_unbound ?_
  cases bound : found.get? name with
  | none => rfl
  | some type =>
      have used := ((matchType?_stage success).named name type bound).1
      have outside : name ∉ namesInUse pattern target .empty := by
        simp [namesInUse, participants, empty, notPattern, notTarget]
      exact absurd used outside

/-- Matching succeeds exactly if a replacement that keeps the target's variables matches. -/
theorem exists_matchType?_iff :
    (∃ found, matchType? pattern target = some found) ↔
      ∃ solution : String → TypeExpr,
        (∀ name ∈ target.variableOccurrences, solution name = .var name) ∧
          pattern.replace solution = target := by
  constructor
  · rintro ⟨found, success⟩
    refine ⟨fun name => found.resolve (.var name), fun name occurs => ?_, ?_⟩
    · refine resolve_var_of_unbound ?_
      exact (matchType?_stage success).loose name (mem_freeVars.mpr occurs)
    · rw [← resolve_eq_replace]
      exact resolve_of_matchType? success
  · rintro ⟨solution, keeps, equal⟩
    have unifies : Unifies target.freeVars pattern target solution := by
      refine ⟨fun name member => keeps name (mem_freeVars.mp member), ?_⟩
      rw [equal, replace_of_fixes keeps]
    rcases unifyFrom_succeeds acyclic_empty (fun _ _ => rfl) (solvedBy_empty solution) unifies
      with ⟨found, success⟩
    exact ⟨found, matchType?_eq_some.mpr success⟩

/--
A pattern that is renamed apart matches every instance of it, its variables
resolve to what makes it that instance, and other variables are left alone.
-/
theorem matchType?_renamed
    {variant : String → String}
    {solution : String → TypeExpr}
    (injective : ∀ x ∈ pattern.variableOccurrences, ∀ y ∈ pattern.variableOccurrences,
      variant x = variant y → x = y)
    (apart : ∀ x ∈ pattern.variableOccurrences, variant x ∉ target.variableOccurrences)
    (equal : pattern.replace solution = target) :
    ∃ found, matchType? (pattern.replace fun name => .var (variant name)) target = some found ∧
      (∀ x ∈ pattern.variableOccurrences, found.resolve (.var (variant x)) = solution x) ∧
      ∀ name ∉ target.variableOccurrences,
        (∀ x ∈ pattern.variableOccurrences, variant x ≠ name) →
          found.resolve (.var name) = .var name := by
  classical
  -- What is put for a variant is put for the variable that it renames.
  let unrenamed (name : String) : TypeExpr :=
    if renames : ∃ x ∈ pattern.variableOccurrences, variant x = name then
      solution renames.choose
    else
      .var name
  have unrenamed_variant (x : String) (occurs : x ∈ pattern.variableOccurrences) :
      unrenamed (variant x) = solution x := by
    have renames : ∃ y ∈ pattern.variableOccurrences, variant y = variant x := ⟨x, occurs, rfl⟩
    have same : renames.choose = x :=
      injective _ renames.choose_spec.1 x occurs renames.choose_spec.2
    simp only [unrenamed, dif_pos renames, same]
  have matched : (pattern.replace fun name => .var (variant name)).replace unrenamed = target := by
    rw [replace_replace, ← equal]
    exact replace_congr fun x occurs => by rw [replace_var, unrenamed_variant x occurs]
  have keeps : ∀ name ∈ target.variableOccurrences, unrenamed name = .var name := by
    intro name occurs
    refine dif_neg ?_
    rintro ⟨x, inside, rfl⟩
    exact apart x inside occurs
  rcases exists_matchType?_iff.mpr ⟨unrenamed, keeps, matched⟩ with ⟨found, success⟩
  refine ⟨found, success, ?_, ?_⟩
  · exact replace_eq_replace_iff.mp ((replace_of_matchType? success).trans equal.symm)
  · intro name notTarget notVariant
    refine resolve_var_of_outside success ?_ notTarget
    intro occurs
    rcases mem_variableOccurrences_replace.mp occurs with ⟨x, inside, same⟩
    exact notVariant x inside (List.mem_singleton.mp same).symm

end DataDerive.Unification
