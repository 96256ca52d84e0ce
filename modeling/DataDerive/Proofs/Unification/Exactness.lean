import DataDerive.Proofs.Unification.Matching

/-!
# One-way matching is exact

The variables of the target are rigid, so matching binds variables of the
pattern only.  It goes through both types from the same side, and what it binds
is always a part of the target: such a target of a binding has rigid variables
alone, and no later binding changes it.

If pattern and target share no variable, putting the targets once and following
them is therefore the same.  What is found then binds every variable of the
pattern and nothing else, and nothing else makes the pattern the target.
-/

namespace DataDerive

/-! ## Parts at any depth -/

namespace TypeExpr

/-- A type stands inside another one, or is the whole of it. -/
inductive PartOf (part : TypeExpr) : TypeExpr → Prop
  | whole : PartOf part part
  | inside
      {between type : TypeExpr}
      (member : between ∈ type.parts)
      (deeper : PartOf part between) :
      PartOf part type

theorem PartOf.mem_variableOccurrences
    {part type : TypeExpr}
    (within : part.PartOf type)
    {name : String}
    (occurs : name ∈ part.variableOccurrences) :
    name ∈ type.variableOccurrences := by
  induction within with
  | whole => exact occurs
  | inside member _ ih => exact mem_variableOccurrences_of_part member ih

/-- What is put for a variable of a type is a part of the result. -/
theorem partOf_replace
    {type : TypeExpr}
    {name : String}
    (occurs : name ∈ type.variableOccurrences)
    (target : String → TypeExpr) :
    (target name).PartOf (type.replace target) := by
  induction type with
  | var other =>
      rw [variableOccurrences_var, List.mem_singleton] at occurs
      rw [replace_var, occurs]
      exact .whole
  | compound type compound ih =>
      rcases compound.mem_variableOccurrences.mp occurs with ⟨part, member, inside⟩
      exact .inside (mem_parts_replace member target) (ih part member inside)

end TypeExpr

/-! ## Targets without bound variables -/

namespace Substitution

open TypeExpr

/-- No bound variable occurs in the target of a binding. -/
def Settled (substitution : Substitution) : Prop :=
  ∀ name target, substitution.get? name = some target →
    ∀ other ∈ target.variableOccurrences, substitution.get? other = none

variable {substitution : Substitution}

theorem Settled.acyclic (settled : substitution.Settled) : substitution.Acyclic := by
  refine ⟨fun name => if substitution.get? name = none then 0 else 1, ?_⟩
  intro name target found other occurs
  simp [settled name target found other occurs, found]

/-- Where no target has a bound variable, there is nothing to follow after the first step. -/
theorem Settled.resolve_eq_substitute (settled : substitution.Settled) (type : TypeExpr) :
    substitution.resolve type = substitution.substitute type := by
  rw [resolve_eq_replace, substitute]
  apply replace_congr
  intro name _
  cases found : substitution.get? name with
  | none => exact resolve_var_of_unbound found
  | some target =>
      calc substitution.resolve (.var name)
          = substitution.resolve target := settled.acyclic.resolve_var found
        _ = target := resolve_of_unbound (settled name target found)

/-- The bindings at the root of a type without bound variables lead nowhere. -/
theorem shallow_of_unbound
    {type : TypeExpr}
    (unbound : ∀ name ∈ type.variableOccurrences, substitution.get? name = none) :
    substitution.shallow type = type := by
  cases type with
  | con name arguments => rfl
  | arrow parameters result => rfl
  | var name =>
      have free : substitution.get? name = none := unbound name List.mem_cons_self
      rw [shallow, walk, free]

/-- A substitution binds the variables of a pattern and nothing else. -/
def BindsExactly (substitution : Substitution) (pattern : TypeExpr) : Prop :=
  ∀ name, substitution.contains name = true ↔ name ∈ pattern.variableOccurrences

/-- Every target of a binding is a part of a type. -/
def BindsPartsOf (substitution : Substitution) (target : TypeExpr) : Prop :=
  ∀ name type, substitution.get? name = some type → type.PartOf target

theorem contains_iff {name : String} :
    substitution.contains name = true ↔ ∃ type, substitution.get? name = some type :=
  Option.isSome_iff_exists

theorem get?_eq_none_of_not_contains
    {name : String}
    (outside : ¬ substitution.contains name = true) :
    substitution.get? name = none := by
  rw [contains, Option.not_isSome_iff_eq_none] at outside
  exact outside

/-- Parts of a target that shares no variable with the pattern have no bound variable. -/
theorem settled_of_bindsPartsOf
    {pattern target : TypeExpr}
    (apart : ∀ name ∈ pattern.variableOccurrences, name ∉ target.variableOccurrences)
    (binds : substitution.BindsExactly pattern)
    (parts : substitution.BindsPartsOf target) :
    substitution.Settled := by
  intro name type found other occurs
  refine get?_eq_none_of_not_contains fun bound => ?_
  exact apart other ((binds other).mp bound)
    ((parts name type found).mem_variableOccurrences occurs)

/-- Substitutions of the same variables that make the same of a pattern are the same. -/
theorem get?_eq_of_substitute_eq
    {pattern : TypeExpr}
    {other : Substitution}
    (binds : substitution.BindsExactly pattern)
    (otherBinds : other.BindsExactly pattern)
    (equal : other.substitute pattern = substitution.substitute pattern)
    (name : String) :
    other.get? name = substitution.get? name := by
  by_cases occurs : name ∈ pattern.variableOccurrences
  · rcases contains_iff.mp ((binds name).mpr occurs) with ⟨type, found⟩
    rcases contains_iff.mp ((otherBinds name).mpr occurs) with ⟨otherType, otherFound⟩
    have same := replace_eq_replace_iff.mp equal name occurs
    rw [found, otherFound, Option.getD_some, Option.getD_some] at same
    rw [found, otherFound, same]
  · rw [get?_eq_none_of_not_contains fun bound => occurs ((binds name).mp bound),
      get?_eq_none_of_not_contains fun bound => occurs ((otherBinds name).mp bound)]

end Substitution

/-! ## What matching binds -/

namespace Unification

open TypeExpr Substitution

/--
If each pair has a side whose variables are all rigid, a run only binds variables
to types whose variables are all rigid.
-/
theorem Run.targets_over
    {rigid : List String}
    {pairs : List (TypeExpr × TypeExpr)}
    {start final : Substitution}
    (run : Run rigid pairs start final)
    (loose : ∀ name ∈ rigid, start.get? name = none)
    (sided : ∀ pair ∈ pairs, pair.1.Over rigid.toFinset ∨ pair.2.Over rigid.toFinset)
    (earlier : ∀ name type, start.get? name = some type → type.Over rigid.toFinset) :
    ∀ name type, final.get? name = some type → type.Over rigid.toFinset := by
  -- Nothing rigid is bound, so the rigid side of a pair is what it resolves to.
  have unbound {current : Substitution} (loose : ∀ name ∈ rigid, current.get? name = none)
      {type : TypeExpr} (rigidOver : type.Over rigid.toFinset) :
      ∀ name ∈ type.variableOccurrences, current.get? name = none :=
    fun name occurs => loose name (List.mem_toFinset.mp (rigidOver name occurs))
  induction run with
  | done => exact earlier
  | agree _ _ ih => exact ih loose (List.forall_mem_cons.mp sided).2 earlier
  | swap _ ih =>
      rw [List.forall_mem_cons] at sided
      exact ih loose (List.forall_mem_cons.mpr ⟨sided.1.symm, sided.2⟩) earlier
  | @bind left right name _ start _ root free _ _ ih =>
      rw [List.forall_mem_cons] at sided
      have rightOver : right.Over rigid.toFinset := by
        rcases sided.1 with leftOver | rightOver
        · rw [shallow_of_unbound (unbound loose leftOver)] at root
          exact absurd (List.mem_toFinset.mp (over_var.mp (root ▸ leftOver))) free
        · exact rightOver
      have target : start.resolve (start.shallow right) = right := by
        rw [shallow_of_unbound (unbound loose rightOver),
          resolve_of_unbound (unbound loose rightOver)]
      rw [target] at ih
      refine ih ?_ sided.2 ?_
      · intro other isRigid
        have differ : other ≠ name := fun same => free (same ▸ isRigid)
        rw [get?_bind, if_neg differ, loose other isRigid]
      · intro other type found
        rw [get?_bind] at found
        split at found
        next =>
          cases found
          exact rightOver
        next => exact earlier other type found
  | @enter left right _ start _ _ _ ih =>
      rw [List.forall_mem_cons] at sided
      refine ih loose (List.forall_mem_append.mpr ⟨?_, sided.2⟩) earlier
      rintro ⟨x, y⟩ listed
      rcases sided.1 with leftOver | rightOver
      · have part := (List.of_mem_zip listed).1
        rw [shallow_of_unbound (unbound loose leftOver)] at part
        exact Or.inl (leftOver.part part)
      · have part := (List.of_mem_zip listed).2
        rw [shallow_of_unbound (unbound loose rightOver)] at part
        exact Or.inr (rightOver.part part)

section Matching

variable {pattern target : TypeExpr} {found : Substitution}

/-- A match binds variables to types over the variables of the target. -/
theorem matchType?_targets
    (success : matchType? pattern target = some found)
    {name : String}
    {type : TypeExpr}
    (bound : found.get? name = some type) :
    ∀ other ∈ type.variableOccurrences, other ∈ target.variableOccurrences := by
  have run := run_of_unifyAt (matchType?_eq_some.mp success)
  have targetOver : target.Over target.freeVars.toFinset :=
    fun other occurs => List.mem_toFinset.mpr (mem_freeVars.mpr occurs)
  have closed := run.targets_over (fun _ _ => rfl)
    (List.forall_mem_singleton.mpr (Or.inr targetOver)) (fun _ _ found => nomatch found)
  intro other occurs
  exact mem_freeVars.mp (List.mem_toFinset.mp (closed name type bound other occurs))

/-- A match leaves no bound variable in a target. -/
theorem settled_of_matchType? (success : matchType? pattern target = some found) :
    found.Settled := by
  intro name type bound other occurs
  exact (matchType?_stage success).loose other
    (mem_freeVars.mpr (matchType?_targets success bound other occurs))

/-- A match turns the pattern into the target in one step. -/
theorem substitute_of_matchType? (success : matchType? pattern target = some found) :
    found.substitute pattern = target := by
  rw [← (settled_of_matchType? success).resolve_eq_substitute]
  exact resolve_of_matchType? success

/-- A match binds the variables of a pattern that shares none with the target. -/
theorem bindsExactly_of_matchType?
    (apart : ∀ name ∈ pattern.variableOccurrences, name ∉ target.variableOccurrences)
    (success : matchType? pattern target = some found) :
    found.BindsExactly pattern := by
  intro name
  constructor
  · intro bound
    rcases contains_iff.mp bound with ⟨type, isBound⟩
    by_contra outside
    have rigid : name ∉ target.variableOccurrences := by
      intro occurs
      have free := (matchType?_stage success).loose name (mem_freeVars.mpr occurs)
      cases free.symm.trans isBound
    have used := ((matchType?_stage success).named name type isBound).1
    simp [namesInUse, participants, empty, outside, rigid] at used
  · intro occurs
    by_contra outside
    -- A variable that is not bound would be left in the target.
    have left : found.resolve (.var name) = .var name :=
      resolve_var_of_unbound (get?_eq_none_of_not_contains outside)
    refine apart name occurs ?_
    rw [← resolve_of_matchType? success, resolve_eq_replace, mem_variableOccurrences_replace]
    refine ⟨name, occurs, ?_⟩
    rw [left]
    exact List.mem_cons_self

/-- A match binds each variable of the pattern to the part of the target at its place. -/
theorem bindsPartsOf_of_matchType?
    (apart : ∀ name ∈ pattern.variableOccurrences, name ∉ target.variableOccurrences)
    (success : matchType? pattern target = some found) :
    found.BindsPartsOf target := by
  intro name type bound
  have occurs : name ∈ pattern.variableOccurrences :=
    (bindsExactly_of_matchType? apart success name).mp (contains_iff.mpr ⟨type, bound⟩)
  have part := partOf_replace occurs fun name => (found.get? name).getD (.var name)
  rw [bound, Option.getD_some] at part
  exact substitute_of_matchType? success ▸ part

end Matching

/--
Matching a pattern against a target that shares no variable with it succeeds
exactly if some substitution of the pattern's variables turns it into the target.
What is found binds exactly these variables, to parts of the target, and turns
the pattern into the target in one step and transitively.  It is the only
substitution of these variables that does so in one step, and the only one by
parts of the target that does so transitively.
-/
theorem matchType?_exact
    (pattern target : TypeExpr)
    (apart : ∀ name ∈ pattern.variableOccurrences, name ∉ target.variableOccurrences) :
    ((∃ found, matchType? pattern target = some found) ↔
      ∃ solution : Substitution,
        (∀ name, solution.contains name = true → name ∈ pattern.variableOccurrences) ∧
          solution.substitute pattern = target) ∧
    ∀ found, matchType? pattern target = some found →
      found.BindsExactly pattern ∧ found.BindsPartsOf target ∧
      found.substitute pattern = target ∧ found.resolve pattern = target ∧
      ∀ other : Substitution, other.BindsExactly pattern →
        (other.substitute pattern = target ∨
          other.BindsPartsOf target ∧ other.resolve pattern = target) →
        ∀ name, other.get? name = found.get? name := by
  refine ⟨⟨?_, ?_⟩, ?_⟩
  · rintro ⟨found, success⟩
    exact ⟨found, fun name => (bindsExactly_of_matchType? apart success name).mp,
      substitute_of_matchType? success⟩
  · rintro ⟨solution, ofPattern, equal⟩
    refine exists_matchType?_iff.mpr
      ⟨fun name => solution.substitute (.var name), fun name occurs => ?_, equal⟩
    have unbound : solution.get? name = none :=
      get?_eq_none_of_not_contains fun bound => apart name (ofPattern name bound) occurs
    change (solution.get? name).getD (.var name) = .var name
    rw [unbound, Option.getD_none]
  · intro found success
    have binds := bindsExactly_of_matchType? apart success
    refine ⟨binds, bindsPartsOf_of_matchType? apart success, substitute_of_matchType? success,
      resolve_of_matchType? success, ?_⟩
    intro other otherBinds turns
    have once : other.substitute pattern = target := by
      rcases turns with once | ⟨parts, followed⟩
      · exact once
      · rw [← (settled_of_bindsPartsOf apart otherBinds parts).resolve_eq_substitute]
        exact followed
    exact get?_eq_of_substitute_eq binds otherBinds
      (once.trans (substitute_of_matchType? success).symm)

/-- A pattern in which a variable is repeated. -/
def repeatingPattern : TypeExpr :=
  .con "Pair" [.var "A", .con "Map" [.var "B", .var "A"]]

/-- An instance of it with a variable of its own. -/
def repeatingTarget : TypeExpr :=
  .con "Pair" [.con "List" [.var "T"], .con "Map" [.var "T", .con "List" [.var "T"]]]

/-- Both occurrences of `A` stand for the same part of the target. -/
theorem matchType?_exact_repeating :
    (∀ name ∈ repeatingPattern.variableOccurrences,
      name ∉ repeatingTarget.variableOccurrences) ∧
    ∃ found, matchType? repeatingPattern repeatingTarget = some found ∧
      found.get? "A" = some (.con "List" [.var "T"]) ∧ found.get? "B" = some (.var "T") ∧
      found.BindsExactly repeatingPattern ∧ found.BindsPartsOf repeatingTarget := by
  have apart : ∀ name ∈ repeatingPattern.variableOccurrences,
      name ∉ repeatingTarget.variableOccurrences := by
    simp [repeatingPattern, repeatingTarget]
  have success : matchType? repeatingPattern repeatingTarget =
      some ((Substitution.empty.bind "A" (.con "List" [.var "T"])).bind "B" (.var "T")) :=
    rfl
  have exact_ := (matchType?_exact repeatingPattern repeatingTarget apart).2 _ success
  exact ⟨apart, _, success, rfl, rfl, exact_.1, exact_.2.1⟩

end Unification

end DataDerive
