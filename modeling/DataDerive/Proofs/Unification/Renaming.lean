import DataDerive.Proofs.Unification.Matching
import Mathlib.Logic.Equiv.Basic

/-!
# Matching and renamed variables

Renaming the variables of a target one to one renames what a match puts for the
variables of the pattern, and no match is lost or won by it.  The pattern may be
renamed apart in another way for the renamed target; its variables that the match
does not reach are left alone on both sides.
-/

namespace DataDerive

namespace TypeExpr

/-- A type with its variables renamed. -/
def rename (variant : String → String) (type : TypeExpr) : TypeExpr :=
  type.replace fun name => .var (variant name)

section Rename

variable {variant other : String → String} {type : TypeExpr}

@[simp]
theorem rename_var (variant : String → String) (name : String) :
    (TypeExpr.var name).rename variant = .var (variant name) :=
  replace_var _ name

@[simp]
theorem rename_con (variant : String → String) (name : String) (arguments : List TypeExpr) :
    (TypeExpr.con name arguments).rename variant = .con name (arguments.map (rename variant)) :=
  replace_con _ name arguments

@[simp]
theorem rename_arrow
    (variant : String → String)
    (parameters : List TypeExpr)
    (result : TypeExpr) :
    (TypeExpr.arrow parameters result).rename variant =
      .arrow (parameters.map (rename variant)) (result.rename variant) :=
  replace_arrow _ parameters result

theorem rename_congr (agree : ∀ x ∈ type.variableOccurrences, variant x = other x) :
    type.rename variant = type.rename other :=
  replace_congr fun x occurs => congrArg TypeExpr.var (agree x occurs)

theorem rename_of_fixes (fixes : ∀ x ∈ type.variableOccurrences, variant x = x) :
    type.rename variant = type :=
  replace_of_fixes fun x occurs => congrArg TypeExpr.var (fixes x occurs)

@[simp]
theorem rename_replace (target : String → TypeExpr) (variant : String → String) (type : TypeExpr) :
    (type.replace target).rename variant = type.replace fun x => (target x).rename variant :=
  replace_replace type target _

theorem replace_rename_eq (variant : String → String) (target : String → TypeExpr)
    (type : TypeExpr) :
    (type.rename variant).replace target = type.replace fun x => target (variant x) := by
  rw [rename, replace_replace]
  exact replace_congr fun x _ => replace_var target (variant x)

theorem mem_variableOccurrences_rename {y : String} :
    y ∈ (type.rename variant).variableOccurrences ↔
      ∃ x ∈ type.variableOccurrences, variant x = y := by
  rw [rename, mem_variableOccurrences_replace]
  simp [eq_comm]

/-- Undoing a renaming gives the type back. -/
@[simp]
theorem rename_symm_rename (relabel : Equiv.Perm String) (type : TypeExpr) :
    (type.rename relabel).rename relabel.symm = type := by
  rw [rename, replace_rename_eq]
  exact replace_of_fixes fun x _ => by rw [Equiv.symm_apply_apply]

end Rename

/-- A renaming keeps names apart from each other and from the variables of a type. -/
structure SetsApart
    (names : List String)
    (target : TypeExpr)
    (variant : String → String) : Prop where
  injective : ∀ x ∈ names, ∀ y ∈ names, variant x = variant y → x = y
  outside : ∀ x ∈ names, variant x ∉ target.variableOccurrences

end TypeExpr

namespace Unification

open TypeExpr Substitution

section Renamed

variable {names : List String} {pattern target : TypeExpr} {variant other : String → String}
variable {relabel : Equiv.Perm String} {found : Substitution}

/-- Variables of the pattern that are not in it as it is matched are left alone. -/
theorem resolve_variant_of_outside
    (apart : SetsApart names target variant)
    (covered : ∀ x ∈ pattern.variableOccurrences, x ∈ names)
    (success : matchType? (pattern.rename variant) target = some found)
    {name : String}
    (listed : name ∈ names)
    (absent : name ∉ pattern.variableOccurrences) :
    found.resolve (.var (variant name)) = .var (variant name) := by
  refine resolve_var_of_outside success ?_ (apart.outside name listed)
  intro occurs
  rcases mem_variableOccurrences_rename.mp occurs with ⟨x, inside, same⟩
  rw [apart.injective x (covered x inside) name listed same] at inside
  exact absent inside

/-- What is put for the variables of the pattern has the variables of the target only. -/
theorem mem_target_of_resolve_variant
    (success : matchType? (pattern.rename variant) target = some found)
    {name : String}
    (inside : name ∈ pattern.variableOccurrences)
    {x : String}
    (occurs : x ∈ (found.resolve (.var (variant name))).variableOccurrences) :
    x ∈ target.variableOccurrences := by
  rw [← replace_of_matchType? success]
  exact mem_variableOccurrences_replace.mpr ⟨name, inside, occurs⟩

/-- A match is found for the renamed target as well, and puts what is renamed by it. -/
theorem matchType?_rename
    (apart : SetsApart names (target.rename relabel) other)
    (covered : ∀ x ∈ pattern.variableOccurrences, x ∈ names)
    (success : matchType? (pattern.rename variant) target = some found) :
    ∃ match_, matchType? (pattern.rename other) (target.rename relabel) = some match_ ∧
      ∀ x ∈ pattern.variableOccurrences,
        match_.resolve (.var (other x)) = (found.resolve (.var (variant x))).rename relabel := by
  have instance_ : pattern.replace
      (fun x => (found.resolve (.var (variant x))).rename relabel) = target.rename relabel := by
    rw [← rename_replace, replace_of_matchType? success]
  have matches_ := matchType?_renamed
    (fun x xInside y yInside => apart.injective x (covered x xInside) y (covered y yInside))
    (fun x inside => apart.outside x (covered x inside)) instance_
  rcases matches_ with ⟨match_, renamed, chosen, -⟩
  exact ⟨match_, renamed, chosen⟩

theorem isSome_matchType?_rename
    (apart : SetsApart names target variant)
    (otherApart : SetsApart names (target.rename relabel) other)
    (covered : ∀ x ∈ pattern.variableOccurrences, x ∈ names) :
    (matchType? (pattern.rename other) (target.rename relabel)).isSome =
      (matchType? (pattern.rename variant) target).isSome := by
  rw [Bool.eq_iff_iff, Option.isSome_iff_exists, Option.isSome_iff_exists]
  constructor
  · rintro ⟨found, success⟩
    rw [← rename_symm_rename relabel target] at apart ⊢
    rcases matchType?_rename apart covered success with ⟨back, matched, -⟩
    exact ⟨back, matched⟩
  · rintro ⟨found, success⟩
    rcases matchType?_rename otherApart covered success with ⟨forth, matched, -⟩
    exact ⟨forth, matched⟩

end Renamed

/-- A pattern whose variables keep their names matches a renamed target as well. -/
theorem exists_matchType?_rename_of_fixes
    {pattern target : TypeExpr}
    {relabel : Equiv.Perm String}
    (fixes : ∀ x ∈ pattern.variableOccurrences, relabel x = x)
    (success : ∃ found, matchType? pattern target = some found) :
    ∃ found, matchType? pattern (target.rename relabel) = some found := by
  rcases exists_matchType?_iff.mp success with ⟨solution, keeps, equal⟩
  refine exists_matchType?_iff.mpr ⟨fun y => (solution (relabel.symm y)).rename relabel, ?_, ?_⟩
  · intro y occurs
    rcases mem_variableOccurrences_rename.mp occurs with ⟨x, inside, rfl⟩
    dsimp only
    rw [Equiv.symm_apply_apply, keeps x inside, rename_var]
  · rw [← equal, rename_replace]
    apply replace_congr
    intro x occurs
    rw [relabel.symm_apply_eq.mpr (fixes x occurs).symm]

theorem isSome_matchType?_rename_of_fixes
    {pattern target : TypeExpr}
    {relabel : Equiv.Perm String}
    (fixes : ∀ x ∈ pattern.variableOccurrences, relabel x = x) :
    (matchType? pattern (target.rename relabel)).isSome = (matchType? pattern target).isSome := by
  have fixesBack : ∀ x ∈ pattern.variableOccurrences, relabel.symm x = x :=
    fun x occurs => relabel.symm_apply_eq.mpr (fixes x occurs).symm
  rw [Bool.eq_iff_iff, Option.isSome_iff_exists, Option.isSome_iff_exists]
  constructor
  · intro success
    have back := exists_matchType?_rename_of_fixes fixesBack success
    rwa [rename_symm_rename] at back
  · exact exists_matchType?_rename_of_fixes fixes

end Unification

/-! ## Extending a renaming -/

/--
A renaming can be changed outside the names known so far such that it takes one
choice of new variables for some names to another.
-/
theorem exists_renaming_extending
    {names : List String}
    {known : Set String}
    {front back : String → String}
    (relabel : Equiv.Perm String)
    (frontInjective : ∀ x ∈ names, ∀ y ∈ names, front x = front y → x = y)
    (backInjective : ∀ x ∈ names, ∀ y ∈ names, back x = back y → x = y)
    (frontNew : ∀ x ∈ names, front x ∉ known)
    (backNew : ∀ x ∈ names, ∀ y ∈ known, relabel y ≠ back x) :
    ∃ extended : Equiv.Perm String,
      (∀ y ∈ known, extended y = relabel y) ∧ ∀ x ∈ names, extended (front x) = back x := by
  induction names with
  | nil => exact ⟨relabel, fun _ _ => rfl, nofun⟩
  | cons name rest ih =>
      have inRest {x : String} (member : x ∈ rest) : x ∈ name :: rest :=
        List.mem_cons_of_mem name member
      have shorter := ih
        (fun x xMember y yMember => frontInjective x (inRest xMember) y (inRest yMember))
        (fun x xMember y yMember => backInjective x (inRest xMember) y (inRest yMember))
        (fun x member => frontNew x (inRest member))
        (fun x member => backNew x (inRest member))
      rcases shorter with ⟨relabel', keeps, takes⟩
      by_cases listed : name ∈ rest
      · exact ⟨relabel', keeps, List.forall_mem_cons.mpr ⟨takes name listed, takes⟩⟩
      · -- The first name is put right by a swap, which nothing else is part of.
        refine ⟨relabel'.trans (Equiv.swap (relabel' (front name)) (back name)), ?_, ?_⟩
        · intro y isKnown
          rw [Equiv.trans_apply, keeps y isKnown]
          apply Equiv.swap_apply_of_ne_of_ne
          · rw [← keeps y isKnown]
            refine fun same => frontNew name List.mem_cons_self ?_
            rwa [← relabel'.injective same]
          · exact backNew name List.mem_cons_self y isKnown
        · refine List.forall_mem_cons.mpr ⟨?_, ?_⟩
          · rw [Equiv.trans_apply, Equiv.swap_apply_left]
          · intro x member
            have differ : x ≠ name := by
              rintro rfl
              exact listed member
            rw [Equiv.trans_apply, takes x member]
            apply Equiv.swap_apply_of_ne_of_ne
            · rw [← takes x member]
              refine fun same => differ ?_
              exact frontInjective x (inRest member) name List.mem_cons_self
                (relabel'.injective same)
            · exact fun same =>
                differ (backInjective x (inRest member) name List.mem_cons_self same)

end DataDerive
