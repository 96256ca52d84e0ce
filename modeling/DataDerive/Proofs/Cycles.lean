import DataDerive.Proofs.Unification.Extension

/-!
# Resolving by cyclic substitutions

A substitution may lead from a variable back to itself.  Following bindings ends
nevertheless, since no variable is entered that is being followed already.
`Follows` says what is done from one type to the next, with no bound on how often;
that a type is followed to a result has a finite derivation.

The variables that are being followed are different and bound, so there are never
more of them than bindings, and the budget of `resolve` is never used up.  Each
of them leads to everything that is met below it.  A bound variable that is left
was met below itself, so it lies on a cycle.
-/

namespace DataDerive.Substitution

open TypeExpr Relation

/-! ## Following without a budget -/

/-- While some variables are being followed, a type is followed to a result. -/
inductive Follows (substitution : Substitution) : List String → TypeExpr → TypeExpr → Prop
  /-- A variable that is not bound stays. -/
  | unbound
      {visiting : List String}
      {name : String}
      (free : substitution.get? name = none) :
      Follows substitution visiting (.var name) (.var name)
  /-- A variable that is being followed already stays. -/
  | again
      {visiting : List String}
      {name : String}
      (visited : name ∈ visiting) :
      Follows substitution visiting (.var name) (.var name)
  /-- Any other variable is replaced by what its target is followed to. -/
  | enter
      {visiting : List String}
      {name : String}
      {target result : TypeExpr}
      (found : substitution.get? name = some target)
      (new : name ∉ visiting)
      (onward : Follows substitution (name :: visiting) target result) :
      Follows substitution visiting (.var name) result
  /-- The arguments of a constructor are followed one by one. -/
  | con
      {visiting : List String}
      {name : String}
      {arguments : List TypeExpr}
      {image : TypeExpr → TypeExpr}
      (each : ∀ part ∈ arguments, Follows substitution visiting part (image part)) :
      Follows substitution visiting (.con name arguments) (.con name (arguments.map image))
  /-- The parameters and the result of a function type are followed one by one. -/
  | arrow
      {visiting : List String}
      {parameters : List TypeExpr}
      {result last : TypeExpr}
      {image : TypeExpr → TypeExpr}
      (each : ∀ part ∈ parameters, Follows substitution visiting part (image part))
      (onward : Follows substitution visiting result last) :
      Follows substitution visiting (.arrow parameters result)
        (.arrow (parameters.map image) last)

variable {substitution : Substitution} {visiting : List String} {budget : Nat}

/-- A type is followed by following its variables. -/
theorem follows_replace
    {type : TypeExpr}
    {target : String → TypeExpr}
    (each : ∀ name ∈ type.variableOccurrences,
      substitution.Follows visiting (.var name) (target name)) :
    substitution.Follows visiting type (type.replace target) := by
  induction type with
  | var name =>
      rw [replace_var]
      exact each name (List.mem_singleton_self name)
  | compound type compound ih =>
      have ofPart (part : TypeExpr) (member : part ∈ type.parts) :
          substitution.Follows visiting part (part.replace target) :=
        ih part member fun name occurs =>
          each name (mem_variableOccurrences_of_part member occurs)
      cases compound with
      | con =>
          rw [replace_con]
          exact .con ofPart
      | arrow =>
          rw [replace_arrow]
          exact .arrow (fun part member => ofPart part (List.mem_append_left _ member))
            (ofPart _ (List.mem_append_right _ (List.mem_singleton_self _)))

/-! ## The budget is never used up -/

/-- The variables being followed are different and bound, and with the budget they cover all. -/
structure Visits (substitution : Substitution) (budget : Nat) (visiting : List String) : Prop where
  nodup : visiting.Nodup
  bound : ∀ name ∈ visiting, substitution.get? name ≠ none
  enough : substitution.size ≤ budget + visiting.length

namespace Visits

theorem start (substitution : Substitution) : Visits substitution substitution.size [] where
  nodup := List.nodup_nil
  bound := List.forall_mem_nil _
  enough := Nat.le_refl _

/-- A bound variable that is not being followed can be entered. -/
theorem enter
    (visits : Visits substitution budget visiting)
    {name : String}
    {target : TypeExpr}
    (found : substitution.get? name = some target)
    (new : name ∉ visiting) :
    ∃ left, budget = left + 1 ∧ Visits substitution left (name :: visiting) := by
  have nodup : (name :: visiting).Nodup := List.nodup_cons.mpr ⟨new, visits.nodup⟩
  have bound : ∀ other ∈ name :: visiting, substitution.get? other ≠ none :=
    List.forall_mem_cons.mpr ⟨by simp [found], visits.bound⟩
  have most : (name :: visiting).length ≤ substitution.size := length_le_size nodup bound
  have enough := visits.enough
  rw [List.length_cons] at most
  refine ⟨budget - 1, by omega, nodup, bound, ?_⟩
  rw [List.length_cons]
  omega

end Visits

/-- A variable that is not bound stays, whatever the budget. -/
theorem resolveAvoiding_of_unbound
    {name : String}
    (free : substitution.get? name = none)
    (budget : Nat)
    (visiting : List String) :
    substitution.resolveAvoiding budget visiting (.var name) = .var name := by
  cases budget with
  | zero => rfl
  | succ budget => rw [resolveAvoiding, replace_var, free]

/-- A variable that is being followed stays, whatever the budget. -/
theorem resolveAvoiding_of_visited
    {name : String}
    (visited : name ∈ visiting)
    (budget : Nat) :
    substitution.resolveAvoiding budget visiting (.var name) = .var name := by
  cases budget with
  | zero => rfl
  | succ budget =>
      rw [resolveAvoiding, replace_var]
      split
      next => rfl
      next => rw [if_pos (List.contains_iff_mem.mpr visited)]

/-- A variable that is entered becomes what its target is resolved to. -/
theorem resolveAvoiding_of_found
    {name : String}
    {target : TypeExpr}
    (found : substitution.get? name = some target)
    (new : name ∉ visiting)
    (budget : Nat) :
    substitution.resolveAvoiding (budget + 1) visiting (.var name) =
      substitution.resolveAvoiding budget (name :: visiting) target := by
  rw [resolveAvoiding, replace_var, found]
  exact if_neg fun visited => new (List.contains_iff_mem.mp visited)

/-- With the budget that is left, a type is followed to what it resolves to. -/
theorem Visits.follows_resolveAvoiding
    (visits : Visits substitution budget visiting)
    (type : TypeExpr) :
    substitution.Follows visiting type (substitution.resolveAvoiding budget visiting type) := by
  induction budget using Nat.strongRecOn generalizing visiting type with
  | ind budget ih =>
      rw [resolveAvoiding_eq_replace]
      refine follows_replace fun name _ => ?_
      cases found : substitution.get? name with
      | none =>
          rw [resolveAvoiding_of_unbound found]
          exact .unbound found
      | some target =>
          by_cases visited : name ∈ visiting
          · rw [resolveAvoiding_of_visited visited]
            exact .again visited
          · rcases visits.enter found visited with ⟨left, rfl, onward⟩
            rw [resolveAvoiding_of_found found visited]
            exact .enter found visited (ih left (Nat.lt_succ_self left) onward target)

/-- What a type is followed to is what it resolves to with the budget that is left. -/
theorem Follows.resolveAvoiding_eq
    {type result : TypeExpr}
    (follows : substitution.Follows visiting type result)
    (visits : Visits substitution budget visiting) :
    substitution.resolveAvoiding budget visiting type = result := by
  induction follows generalizing budget with
  | unbound free => exact resolveAvoiding_of_unbound free budget _
  | again visited => exact resolveAvoiding_of_visited visited budget
  | enter found new _ ih =>
      rcases visits.enter found new with ⟨left, rfl, onward⟩
      rw [resolveAvoiding_of_found found new]
      exact ih onward
  | con _ ih =>
      rw [resolveAvoiding_eq_replace, replace_con]
      congr 1
      refine List.map_congr_left fun part member => ?_
      rw [← resolveAvoiding_eq_replace]
      exact ih part member visits
  | arrow _ _ ih lastIh =>
      rw [resolveAvoiding_eq_replace, replace_arrow, ← resolveAvoiding_eq_replace,
        lastIh visits]
      congr 1
      refine List.map_congr_left fun part member => ?_
      rw [← resolveAvoiding_eq_replace]
      exact ih part member visits

/-! ## What is left -/

/--
If the variables being followed lead to those of a type, then every variable that
is left after following it is unbound or leads back to itself.
-/
theorem Follows.unbound_or_leadsBack
    {type result : TypeExpr}
    (follows : substitution.Follows visiting type result)
    (leads : ∀ earlier ∈ visiting, ∀ name ∈ type.variableOccurrences,
      TransGen substitution.LeadsTo earlier name) :
    ∀ name ∈ result.variableOccurrences,
      substitution.get? name = none ∨ TransGen substitution.LeadsTo name name := by
  induction follows with
  | unbound free =>
      intro name occurs
      rw [variableOccurrences_var, List.mem_singleton] at occurs
      exact Or.inl (occurs ▸ free)
  | again visited =>
      intro name occurs
      rw [variableOccurrences_var, List.mem_singleton] at occurs
      subst occurs
      exact Or.inr (leads name visited name (List.mem_singleton_self name))
  | @enter visiting name target result found _ _ ih =>
      refine ih fun earlier visited other occurs => ?_
      have step : substitution.LeadsTo name other := ⟨target, found, occurs⟩
      rcases List.mem_cons.mp visited with rfl | before
      · exact .single step
      · exact .tail (leads earlier before name (List.mem_singleton_self name)) step
  | @con visiting function arguments image _ ih =>
      intro name occurs
      rw [variableOccurrences_con, List.mem_flatMap] at occurs
      rcases occurs with ⟨_, isImage, inside⟩
      rcases List.mem_map.mp isImage with ⟨part, member, rfl⟩
      have isPart : part ∈ (TypeExpr.con function arguments).parts := member
      refine ih part member (fun earlier visited other below => ?_) name inside
      exact leads earlier visited other (mem_variableOccurrences_of_part isPart below)
  | @arrow visiting parameters result last image _ _ ih lastIh =>
      intro name occurs
      rw [variableOccurrences_arrow, List.mem_append, List.mem_flatMap] at occurs
      rcases occurs with ⟨_, isImage, inside⟩ | inside
      · rcases List.mem_map.mp isImage with ⟨part, member, rfl⟩
        refine ih part member (fun earlier visited other below => ?_) name inside
        exact leads earlier visited other (mem_variableOccurrences_parameter member below)
      · refine lastIh (fun earlier visited other below => ?_) name inside
        exact leads earlier visited other (mem_variableOccurrences_result below)

/--
Following bindings ends for every type and every substitution, cyclic ones too,
and `resolve` gives what it ends with.  Every variable that is left is unbound or
can be reached from its own target through bound variables.
-/
theorem resolve_ends (substitution : Substitution) (type : TypeExpr) :
    (∀ result, substitution.Follows [] type result ↔ substitution.resolve type = result) ∧
    ∀ name ∈ (substitution.resolve type).variableOccurrences,
      substitution.get? name = none ∨ TransGen substitution.LeadsTo name name := by
  have visits := Visits.start substitution
  have follows : substitution.Follows [] type (substitution.resolve type) :=
    visits.follows_resolveAvoiding type
  refine ⟨fun result => ⟨fun ends => ends.resolveAvoiding_eq visits, ?_⟩, ?_⟩
  · rintro rfl
    exact follows
  · exact follows.unbound_or_leadsBack (List.forall_mem_nil _)

/-- On a cycle the variable stays at which the cycle is closed. -/
example :
    (ofPairs [("A", .con "List" [.var "B"]), ("B", .arrow [.var "A"] (.var "C"))]).resolve
      (.var "A") = .con "List" [.arrow [.var "A"] (.var "C")] :=
  rfl

end DataDerive.Substitution
