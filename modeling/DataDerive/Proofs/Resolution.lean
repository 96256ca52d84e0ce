import DataDerive.Proofs.Replacement
import DataDerive.Substitution
import Mathlib.Data.Finset.Card
import Mathlib.Data.List.Perm.Subperm

/-!
# Resolving types by acyclic substitutions

A solution of a substitution is a simultaneous replacement that agrees with all
of its bindings.  Following bindings, once at the root or everywhere, changes
nothing under a solution.

In an acyclic substitution some rank decreases along every binding.  A chain of
bindings then visits a variable at most once, so the number of bindings is a
budget that never runs out: `resolve` satisfies the equations that one expects
of it, leaves no bound variable, and is itself a solution.
-/

namespace DataDerive

namespace TypeExpr

/-- The variables of a type are among some names. -/
def Over (names : Finset String) (type : TypeExpr) : Prop :=
  ∀ name ∈ type.variableOccurrences, name ∈ names

variable {names : Finset String}

@[simp]
theorem over_var {name : String} : (TypeExpr.var name).Over names ↔ name ∈ names := by
  simp [Over]

theorem Over.part
    {type part : TypeExpr}
    (named : type.Over names)
    (member : part ∈ type.parts) :
    part.Over names :=
  fun x occurs => named x (mem_variableOccurrences_of_part member occurs)

theorem Over.replace
    {type : TypeExpr}
    {target : String → TypeExpr}
    (named : type.Over names)
    (targetsOver : ∀ name ∈ names, (target name).Over names) :
    (type.replace target).Over names := by
  intro y occurs
  rcases mem_variableOccurrences_replace.mp occurs with ⟨x, inside, found⟩
  exact targetsOver x (named x inside) y found

end TypeExpr

namespace Substitution

open TypeExpr

/-! ## Bound variables -/

theorem mem_bindings_of_get?
    {substitution : Substitution}
    {name : String}
    {target : TypeExpr}
    (found : substitution.get? name = some target) :
    (name, target) ∈ substitution.bindings := by
  rw [get?, List.lookup_eq_some_iff] at found
  rcases found with ⟨before, after, split, -⟩
  simp [split]

theorem get?_of_mem_bindings
    {substitution : Substitution}
    {name : String}
    {target : TypeExpr}
    (stored : (name, target) ∈ substitution.bindings) :
    substitution.get? name = some target := by
  have bound : (substitution.get? name).isSome := List.lookup_isSome_iff.mpr ⟨_, stored, by simp⟩
  rcases Option.isSome_iff_exists.mp bound with ⟨other, found⟩
  have same := List.inj_on_of_nodup_map substitution.nodup stored (mem_bindings_of_get? found) rfl
  cases same
  exact found

/-- Different bound variables are no more than there are bindings. -/
theorem length_le_size
    {substitution : Substitution}
    {names : List String}
    (nodup : names.Nodup)
    (bound : ∀ name ∈ names, substitution.get? name ≠ none) :
    names.length ≤ substitution.size := by
  have included : names ⊆ substitution.bindings.map Prod.fst := by
    intro name member
    rcases Option.ne_none_iff_exists'.mp (bound name member) with ⟨target, found⟩
    exact List.mem_map_of_mem (mem_bindings_of_get? found)
  have short := (List.subperm_of_subset nodup included).length_le
  rwa [List.length_map] at short

/-- A substitution keeps every binding of an earlier one. -/
def Extends (later earlier : Substitution) : Prop :=
  ∀ name target, earlier.get? name = some target → later.get? name = some target

theorem Extends.refl (substitution : Substitution) : substitution.Extends substitution :=
  fun _ _ found => found

theorem Extends.trans
    {last middle first : Substitution}
    (later : last.Extends middle)
    (earlier : middle.Extends first) :
    last.Extends first :=
  fun name target found => later name target (earlier name target found)

theorem bind_extends
    {substitution : Substitution}
    {name : String}
    (unbound : substitution.get? name = none)
    (target : TypeExpr) :
    (substitution.bind name target).Extends substitution := by
  intro other found same
  rw [get?_bind, if_neg]
  · exact same
  · rintro rfl
    rw [unbound] at same
    cases same

/-! ## Solutions -/

/-- A replacement agrees with every binding. -/
def SolvedBy (substitution : Substitution) (solution : String → TypeExpr) : Prop :=
  ∀ name target, substitution.get? name = some target → solution name = target.replace solution

theorem solvedBy_empty (solution : String → TypeExpr) : empty.SolvedBy solution := by
  intro name target found
  cases found

theorem SolvedBy.of_extends
    {later earlier : Substitution}
    {solution : String → TypeExpr}
    (solved : later.SolvedBy solution)
    (extended : later.Extends earlier) :
    earlier.SolvedBy solution :=
  fun name target found => solved name target (extended name target found)

theorem SolvedBy.bind
    {substitution : Substitution}
    {solution : String → TypeExpr}
    {name : String}
    {target : TypeExpr}
    (solved : substitution.SolvedBy solution)
    (equal : solution name = target.replace solution) :
    (substitution.bind name target).SolvedBy solution := by
  intro other found same
  rw [get?_bind] at same
  split at same
  case isTrue here =>
      cases same
      rw [here, equal]
  case isFalse => exact solved other found same

theorem SolvedBy.replace_resolveAvoiding
    {substitution : Substitution}
    {solution : String → TypeExpr}
    (solved : substitution.SolvedBy solution)
    (budget : Nat)
    (visiting : List String)
    (type : TypeExpr) :
    (substitution.resolveAvoiding budget visiting type).replace solution =
      type.replace solution := by
  induction budget generalizing visiting type with
  | zero => rfl
  | succ budget ih =>
      rw [resolveAvoiding, replace_replace]
      apply replace_congr
      intro name _
      split
      next => rw [replace_var]
      next target found =>
          split
          · rw [replace_var]
          · rw [ih, ← solved name target found]

/-- Resolving a type changes nothing under a solution. -/
theorem SolvedBy.replace_resolve
    {substitution : Substitution}
    {solution : String → TypeExpr}
    (solved : substitution.SolvedBy solution)
    (type : TypeExpr) :
    (substitution.resolve type).replace solution = type.replace solution :=
  solved.replace_resolveAvoiding substitution.size [] type

theorem SolvedBy.replace_walk
    {substitution : Substitution}
    {solution : String → TypeExpr}
    (solved : substitution.SolvedBy solution)
    (budget : Nat)
    (type : TypeExpr) :
    (substitution.walk budget type).replace solution = type.replace solution := by
  induction budget generalizing type with
  | zero => rfl
  | succ budget ih =>
      cases type with
      | var name =>
          rw [walk]
          split
          next => rfl
          next target found => rw [ih, replace_var, solved name target found]
      | con name arguments => rfl
      | arrow parameters result => rfl

/-- Following the bindings at the root changes nothing under a solution. -/
theorem SolvedBy.replace_shallow
    {substitution : Substitution}
    {solution : String → TypeExpr}
    (solved : substitution.SolvedBy solution)
    (type : TypeExpr) :
    (substitution.shallow type).replace solution = type.replace solution :=
  solved.replace_walk (substitution.size + 1) type

/-! ## Resolving replaces variables -/

theorem resolveAvoiding_eq_replace
    (substitution : Substitution)
    (budget : Nat)
    (visiting : List String)
    (type : TypeExpr) :
    substitution.resolveAvoiding budget visiting type =
      type.replace fun name => substitution.resolveAvoiding budget visiting (.var name) := by
  cases budget with
  | zero => exact type.replace_self.symm
  | succ budget => rfl

/-- A type is resolved by resolving its variables. -/
theorem resolve_eq_replace (substitution : Substitution) (type : TypeExpr) :
    substitution.resolve type =
      type.replace fun name => substitution.resolve (.var name) :=
  substitution.resolveAvoiding_eq_replace substitution.size [] type

theorem resolve_con (substitution : Substitution) (name : String) (arguments : List TypeExpr) :
    substitution.resolve (.con name arguments) =
      .con name (arguments.map substitution.resolve) := by
  rw [resolve_eq_replace, replace_con]
  congr 1
  exact List.map_congr_left fun part _ => (substitution.resolve_eq_replace part).symm

theorem mem_parts_resolve
    (substitution : Substitution)
    {type part : TypeExpr}
    (member : part ∈ type.parts) :
    substitution.resolve part ∈ (substitution.resolve type).parts := by
  rw [resolve_eq_replace _ part, resolve_eq_replace _ type]
  exact mem_parts_replace member _

/-- Resolving after replacing is replacing by what is resolved. -/
theorem resolve_replace
    (substitution : Substitution)
    (type : TypeExpr)
    (target : String → TypeExpr) :
    substitution.resolve (type.replace target) =
      type.replace fun name => substitution.resolve (target name) := by
  rw [resolve_eq_replace, replace_replace]
  exact replace_congr fun name _ => (substitution.resolve_eq_replace (target name)).symm

theorem resolve_var_of_unbound
    {substitution : Substitution}
    {name : String}
    (unbound : substitution.get? name = none) :
    substitution.resolve (.var name) = .var name := by
  rw [resolve]
  cases substitution.size with
  | zero => rfl
  | succ budget => rw [resolveAvoiding, replace_var, unbound]

/-- A type without bound variables is resolved already. -/
theorem resolve_of_unbound
    {substitution : Substitution}
    {type : TypeExpr}
    (unbound : ∀ name ∈ type.variableOccurrences, substitution.get? name = none) :
    substitution.resolve type = type := by
  rw [resolve_eq_replace]
  exact replace_of_fixes fun name occurs => resolve_var_of_unbound (unbound name occurs)

/-! ## Acyclic substitutions -/

/-- A rank decreases from a bound variable to the variables of its target. -/
def RankedBy (substitution : Substitution) (rank : String → Nat) : Prop :=
  ∀ name target, substitution.get? name = some target →
    ∀ other ∈ target.variableOccurrences, rank other < rank name

/-- No variable leads back to itself. -/
def Acyclic (substitution : Substitution) : Prop :=
  ∃ rank, substitution.RankedBy rank

theorem acyclic_empty : empty.Acyclic :=
  ⟨fun _ => 0, fun _ _ found => by cases found⟩

/-- Binding an unbound variable to a resolved type that does not contain it closes no cycle. -/
theorem Acyclic.bind
    {substitution : Substitution}
    {name : String}
    {target : TypeExpr}
    (acyclic : substitution.Acyclic)
    (settled : ∀ other ∈ target.variableOccurrences, substitution.get? other = none)
    (absent : name ∉ target.variableOccurrences) :
    (substitution.bind name target).Acyclic := by
  rcases acyclic with ⟨rank, ranked⟩
  -- Unbound variables come last, then the new one, then the others in their old order.
  let lifted (other : String) : Nat :=
    if other = name then 1
    else if substitution.get? other = none then 0
    else rank other + 2
  refine ⟨lifted, fun source found same other occurs => ?_⟩
  rw [get?_bind] at same
  split at same
  case isTrue here =>
      cases same
      have differ : other ≠ name := fun equal => absent (equal ▸ occurs)
      simp [lifted, here, differ, settled other occurs]
  case isFalse differ =>
      have smaller := ranked source found same other occurs
      have bound : substitution.get? source ≠ none := by simp [same]
      simp only [lifted, if_neg differ, if_neg bound]
      split
      · omega
      · split <;> omega

/--
The variables that were entered on the way to a type.  They are different and
bound, none of them is met again, and with the budget they cover all bindings.
-/
structure Trail
    (substitution : Substitution)
    (rank : String → Nat)
    (budget : Nat)
    (entered : List String)
    (type : TypeExpr) : Prop where
  nodup : entered.Nodup
  bound : ∀ name ∈ entered, substitution.get? name ≠ none
  above : ∀ name ∈ entered, ∀ other ∈ type.variableOccurrences, rank other < rank name
  enough : substitution.size ≤ budget + entered.length

namespace Trail

variable
  {substitution : Substitution}
  {rank : String → Nat}
  {budget : Nat}
  {entered : List String}
  {type : TypeExpr}

theorem start (substitution : Substitution) (rank : String → Nat) (type : TypeExpr) :
    Trail substitution rank substitution.size [] type where
  nodup := List.nodup_nil
  bound := by simp
  above := by simp
  enough := by simp

theorem not_mem
    (trail : Trail substitution rank budget entered type)
    {name : String}
    (occurs : name ∈ type.variableOccurrences) :
    name ∉ entered :=
  fun member => Nat.lt_irrefl _ (trail.above name member name occurs)

/-- With a bound variable to enter, the budget is not used up. -/
theorem budget_pos
    (trail : Trail substitution rank budget entered type)
    {name : String}
    (occurs : name ∈ type.variableOccurrences)
    (bound : substitution.get? name ≠ none) :
    0 < budget := by
  have longer : (name :: entered).length ≤ substitution.size := by
    refine length_le_size (List.nodup_cons.mpr ⟨trail.not_mem occurs, trail.nodup⟩) ?_
    intro other member
    rcases List.mem_cons.mp member with same | later
    · exact same ▸ bound
    · exact trail.bound other later
  have enough := trail.enough
  rw [List.length_cons] at longer
  omega

/-- Entering a bound variable leads to its target. -/
theorem enter
    (ranked : substitution.RankedBy rank)
    (trail : Trail substitution rank (budget + 1) entered type)
    {name : String}
    {target : TypeExpr}
    (occurs : name ∈ type.variableOccurrences)
    (found : substitution.get? name = some target) :
    Trail substitution rank budget (name :: entered) target where
  nodup := List.nodup_cons.mpr ⟨trail.not_mem occurs, trail.nodup⟩
  bound := by
    intro other member
    rcases List.mem_cons.mp member with same | later
    · simp [same, found]
    · exact trail.bound other later
  above := by
    intro other member inside insideOccurs
    have down := ranked name target found inside insideOccurs
    rcases List.mem_cons.mp member with same | later
    · exact same ▸ down
    · exact Nat.lt_trans down (trail.above other later name occurs)
  enough := by
    have enough := trail.enough
    rw [List.length_cons]
    omega

end Trail

/-- The way on which a type was reached does not matter for how it is resolved. -/
theorem resolveAvoiding_eq_of_trail
    {substitution : Substitution}
    {rank : String → Nat}
    (ranked : substitution.RankedBy rank)
    {budget budget' : Nat}
    {entered entered' : List String}
    {type : TypeExpr}
    (trail : Trail substitution rank budget entered type)
    (trail' : Trail substitution rank budget' entered' type) :
    substitution.resolveAvoiding budget entered type =
      substitution.resolveAvoiding budget' entered' type := by
  induction budget generalizing budget' entered entered' type with
  | zero =>
      have unbound : ∀ name ∈ type.variableOccurrences, substitution.get? name = none := by
        intro name occurs
        by_contra bound
        exact absurd (trail.budget_pos occurs bound) (Nat.lt_irrefl 0)
      rw [resolveAvoiding_eq_replace _ budget', resolveAvoiding]
      refine (replace_of_fixes fun name occurs => ?_).symm
      cases budget' with
      | zero => rfl
      | succ budget' => rw [resolveAvoiding, replace_var, unbound name occurs]
  | succ budget ih =>
      rw [resolveAvoiding_eq_replace _ (budget + 1), resolveAvoiding_eq_replace _ budget']
      apply replace_congr
      intro name occurs
      cases found : substitution.get? name with
      | none =>
          cases budget' with
          | zero => rw [resolveAvoiding, resolveAvoiding, replace_var, found]
          | succ budget' =>
              rw [resolveAvoiding, resolveAvoiding, replace_var, replace_var, found]
      | some target =>
          cases budget' with
          | zero =>
              have positive := trail'.budget_pos occurs (by simp [found])
              exact absurd positive (Nat.lt_irrefl 0)
          | succ budget' =>
              have outside : entered.contains name = false := by
                simpa using trail.not_mem occurs
              have outside' : entered'.contains name = false := by
                simpa using trail'.not_mem occurs
              simp only [resolveAvoiding, replace_var, found, outside, outside',
                Bool.false_eq_true, if_false]
              exact ih (trail.enter ranked occurs found) (trail'.enter ranked occurs found)

section Acyclic

variable {substitution : Substitution}

/-- A bound variable resolves to what its target resolves to. -/
theorem Acyclic.resolve_var
    (acyclic : substitution.Acyclic)
    {name : String}
    {target : TypeExpr}
    (found : substitution.get? name = some target) :
    substitution.resolve (.var name) = substitution.resolve target := by
  rcases acyclic with ⟨rank, ranked⟩
  have start : Trail substitution rank substitution.size [] (.var name) := .start _ _ _
  have occurs : name ∈ (TypeExpr.var name).variableOccurrences := by simp
  obtain ⟨budget, size⟩ :=
    Nat.exists_eq_succ_of_ne_zero
      (Nat.pos_iff_ne_zero.mp (start.budget_pos occurs (by simp [found])))
  rw [size] at start
  rw [resolve, resolve, size, resolveAvoiding, replace_var, found]
  simp only [List.contains_nil, Bool.false_eq_true, if_false]
  refine resolveAvoiding_eq_of_trail ranked (start.enter ranked occurs found) ?_
  exact size ▸ Trail.start substitution rank target

/-- Resolving by an acyclic substitution is one of its solutions. -/
theorem Acyclic.solvedBy_resolve (acyclic : substitution.Acyclic) :
    substitution.SolvedBy fun name => substitution.resolve (.var name) := by
  intro name target found
  exact (acyclic.resolve_var found).trans (substitution.resolve_eq_replace target)

/-- What is resolved has no bound variable left. -/
theorem Acyclic.unbound_of_mem_resolve
    (acyclic : substitution.Acyclic)
    {type : TypeExpr}
    {other : String}
    (occurs : other ∈ (substitution.resolve type).variableOccurrences) :
    substitution.get? other = none := by
  have ⟨rank, ranked⟩ := acyclic
  -- The rank of a variable decreases on the way to what it resolves to.
  have ofVariable (name : String) :
      ∀ other ∈ (substitution.resolve (.var name)).variableOccurrences,
        substitution.get? other = none := by
    induction level : rank name using Nat.strongRecOn generalizing name with
    | ind _ ih =>
        subst level
        intro other occurs
        cases found : substitution.get? name with
        | none =>
            rw [resolve_var_of_unbound found] at occurs
            rw [List.mem_singleton.mp occurs, found]
        | some target =>
            rw [acyclic.resolve_var found, resolve_eq_replace,
              mem_variableOccurrences_replace] at occurs
            rcases occurs with ⟨inside, insideOccurs, left⟩
            exact ih (rank inside) (ranked name target found inside insideOccurs) inside rfl
              other left
  rw [resolve_eq_replace, mem_variableOccurrences_replace] at occurs
  rcases occurs with ⟨name, -, left⟩
  exact ofVariable name other left

/-- Following the bindings at the root ends at no bound variable. -/
theorem Acyclic.unbound_of_shallow
    (acyclic : substitution.Acyclic)
    {type : TypeExpr}
    {name : String}
    (ends : substitution.shallow type = .var name) :
    substitution.get? name = none := by
  have ⟨rank, ranked⟩ := acyclic
  have ofTrail
      {budget : Nat}
      {entered : List String}
      {type : TypeExpr}
      (trail : Trail substitution rank budget entered type)
      (ends : substitution.walk (budget + 1) type = .var name) :
      substitution.get? name = none := by
    induction budget generalizing entered type with
    | zero =>
        cases type with
        | con function arguments => cases ends
        | arrow parameters result => cases ends
        | var source =>
            have unbound : substitution.get? source = none := by
              by_contra bound
              exact absurd (trail.budget_pos (by simp) bound) (Nat.lt_irrefl 0)
            rw [walk, unbound] at ends
            cases ends
            exact unbound
    | succ budget ih =>
        cases type with
        | con function arguments => cases ends
        | arrow parameters result => cases ends
        | var source =>
            rw [walk] at ends
            cases found : substitution.get? source with
            | none =>
                rw [found] at ends
                cases ends
                exact found
            | some target =>
                rw [found] at ends
                exact ih (trail.enter ranked (by simp) found) ends
  exact ofTrail (Trail.start substitution rank type) ends

theorem Acyclic.resolve_shallow (acyclic : substitution.Acyclic) (type : TypeExpr) :
    substitution.resolve (substitution.shallow type) = substitution.resolve type := by
  rw [resolve_eq_replace, resolve_eq_replace _ type]
  exact acyclic.solvedBy_resolve.replace_shallow type

/-- After one more binding, its variable is replaced in what was resolved before. -/
theorem Acyclic.resolve_bind
    (acyclic : substitution.Acyclic)
    {name : String}
    {target : TypeExpr}
    (unbound : substitution.get? name = none)
    (settled : ∀ other ∈ target.variableOccurrences, substitution.get? other = none)
    (absent : name ∉ target.variableOccurrences)
    (type : TypeExpr) :
    (substitution.bind name target).resolve type =
      (substitution.resolve type).replace fun other =>
        if other = name then target else .var other := by
  have later : (substitution.bind name target).Acyclic := acyclic.bind settled absent
  have solved := later.solvedBy_resolve.of_extends (bind_extends unbound target)
  rw [resolve_eq_replace, ← solved.replace_resolve]
  apply replace_congr
  intro other occurs
  split
  case isTrue here =>
      have found : (substitution.bind name target).get? name = some target := by simp
      rw [here, later.resolve_var found]
      apply resolve_of_unbound
      intro inside insideOccurs
      have differ : inside ≠ name := fun equal => absent (equal ▸ insideOccurs)
      rw [get?_bind, if_neg differ, settled inside insideOccurs]
  case isFalse differ =>
      refine resolve_var_of_unbound ?_
      rw [get?_bind, if_neg differ, acyclic.unbound_of_mem_resolve occurs]

end Acyclic

/-! ## Variables in use -/

/-- Bound variables and the variables of targets are among some names. -/
def Over (names : Finset String) (substitution : Substitution) : Prop :=
  ∀ name target, substitution.get? name = some target → name ∈ names ∧ target.Over names

theorem Over.bind
    {names : Finset String}
    {substitution : Substitution}
    {name : String}
    {target : TypeExpr}
    (named : substitution.Over names)
    (member : name ∈ names)
    (targetOver : target.Over names) :
    (substitution.bind name target).Over names := by
  intro other found same
  rw [get?_bind] at same
  split at same
  case isTrue here =>
      cases same
      exact ⟨here ▸ member, targetOver⟩
  case isFalse => exact named other found same

theorem Over.resolveAvoiding
    {names : Finset String}
    {substitution : Substitution}
    (named : substitution.Over names)
    (budget : Nat)
    (visiting : List String)
    {type : TypeExpr}
    (typeOver : type.Over names) :
    (substitution.resolveAvoiding budget visiting type).Over names := by
  induction budget generalizing visiting type with
  | zero => exact typeOver
  | succ budget ih =>
      rw [Substitution.resolveAvoiding]
      apply typeOver.replace
      intro name member
      split
      next => exact TypeExpr.over_var.mpr member
      next target found =>
          split
          · exact TypeExpr.over_var.mpr member
          · exact ih _ (named name target found).2

theorem Over.resolve
    {names : Finset String}
    {substitution : Substitution}
    (named : substitution.Over names)
    {type : TypeExpr}
    (typeOver : type.Over names) :
    (substitution.resolve type).Over names :=
  named.resolveAvoiding substitution.size [] typeOver

theorem Over.walk
    {names : Finset String}
    {substitution : Substitution}
    (named : substitution.Over names)
    (budget : Nat)
    {type : TypeExpr}
    (typeOver : type.Over names) :
    (substitution.walk budget type).Over names := by
  induction budget generalizing type with
  | zero => exact typeOver
  | succ budget ih =>
      cases type with
      | con name arguments => exact typeOver
      | arrow parameters result => exact typeOver
      | var name =>
          rw [Substitution.walk]
          split
          next => exact typeOver
          next target found => exact ih (named name target found).2

theorem Over.shallow
    {names : Finset String}
    {substitution : Substitution}
    (named : substitution.Over names)
    {type : TypeExpr}
    (typeOver : type.Over names) :
    (substitution.shallow type).Over names :=
  named.walk (substitution.size + 1) typeOver

end Substitution

end DataDerive
