import DataDerive.Proofs.Replacement
import DataDerive.Substitution
import Mathlib.Data.List.Induction
import Mathlib.Data.List.Nodup

/-!
# Substitutions of pairs

A substitution that is made from a list of pairs binds each name to its last
target in the list.  Putting its targets once is replacing variables, and a list
with a pair for every variable of a type says all that is put into the type.
-/

namespace DataDerive.Substitution

open TypeExpr

theorem substitute_eq_replace (substitution : Substitution) (type : TypeExpr) :
    substitution.substitute type =
      type.replace fun name => substitution.substitute (.var name) :=
  rfl

theorem contains_iff_mem_keys {substitution : Substitution} {name : String} :
    substitution.contains name = true ↔ name ∈ substitution.bindings.map Prod.fst := by
  rw [contains, get?, List.lookup_isSome_iff, List.mem_map]
  exact exists_congr fun binding => and_congr_right fun _ => beq_iff_eq.trans eq_comm

theorem get?_without (substitution : Substitution) (names : List String) (name : String) :
    (substitution.without names).get? name =
      if name ∈ names then none else substitution.get? name := by
  split
  next listed =>
    refine List.lookup_eq_none_iff.mpr fun binding member => ?_
    have kept := (List.mem_filter.mp member).2
    rw [decide_eq_true_iff] at kept
    rw [bne_iff_ne]
    rintro rfl
    exact kept listed
  next outside => exact lookup_filter_of_not_mem outside substitution.bindings

theorem substitute_var_without
    (substitution : Substitution)
    (names : List String)
    (name : String) :
    (substitution.without names).substitute (.var name) =
      if name ∈ names then .var name else substitution.substitute (.var name) := by
  simp only [substitute, replace_var, get?_without]
  split_ifs <;> rfl

/-- The last pair of a list decides. -/
theorem get?_ofPairs (pairs : List (String × TypeExpr)) (name : String) :
    (ofPairs pairs).get? name = pairs.reverse.lookup name := by
  induction pairs using List.reverseRecOn with
  | nil => rfl
  | append_singleton pairs pair ih =>
      have last : ofPairs (pairs ++ [pair]) = (ofPairs pairs).bind pair.1 pair.2 := by
        rw [ofPairs, List.foldl_append]
        rfl
      rw [last, get?_bind, List.reverse_concat, List.lookup_cons, ih]
      by_cases same : name = pair.1
      · simp [same]
      · have differ : (name == pair.1) = false := by simp [same]
        rw [differ, if_neg same]

theorem mem_of_get?_ofPairs
    {pairs : List (String × TypeExpr)}
    {name : String}
    {target : TypeExpr}
    (found : (ofPairs pairs).get? name = some target) :
    (name, target) ∈ pairs := by
  rw [get?_ofPairs, List.lookup_eq_some_iff] at found
  rcases found with ⟨before, after, split, -⟩
  rw [← List.mem_reverse, split]
  exact List.mem_append_right _ List.mem_cons_self

theorem exists_get?_ofPairs
    {pairs : List (String × TypeExpr)}
    {name : String}
    (bound : name ∈ pairs.map Prod.fst) :
    ∃ target, (ofPairs pairs).get? name = some target := by
  rw [get?_ofPairs]
  refine Option.isSome_iff_exists.mp (List.lookup_isSome_iff.mpr ?_)
  rcases List.mem_map.mp bound with ⟨pair, member, same⟩
  exact ⟨pair, List.mem_reverse.mpr member, by simp [same]⟩

theorem get?_ofPairs_of_mem
    {pairs : List (String × TypeExpr)}
    (distinct : (pairs.map Prod.fst).Nodup)
    {name : String}
    {target : TypeExpr}
    (member : (name, target) ∈ pairs) :
    (ofPairs pairs).get? name = some target := by
  rcases exists_get?_ofPairs (List.mem_map_of_mem member) with ⟨other, found⟩
  have same := List.inj_on_of_nodup_map distinct (mem_of_get?_ofPairs found) member rfl
  cases same
  exact found

theorem get?_ofPairs_map
    {names : List String}
    {target : String → TypeExpr}
    {name : String}
    (member : name ∈ names) :
    (ofPairs (names.map fun name => (name, target name))).get? name = some (target name) := by
  have bound : name ∈ (names.map fun name => (name, target name)).map Prod.fst := by
    simpa using member
  rcases exists_get?_ofPairs bound with ⟨type, found⟩
  rcases List.mem_map.mp (mem_of_get?_ofPairs found) with ⟨other, -, same⟩
  cases same
  exact found

/-- Listing what is put for the variables of a type is enough to replace them. -/
theorem substitute_ofPairs_map
    {names : List String}
    {target : String → TypeExpr}
    {type : TypeExpr}
    (covered : ∀ name ∈ type.variableOccurrences, name ∈ names) :
    (ofPairs (names.map fun name => (name, target name))).substitute type =
      type.replace target := by
  rw [substitute]
  apply replace_congr
  intro name occurs
  rw [get?_ofPairs_map (covered name occurs), Option.getD_some]

end DataDerive.Substitution
