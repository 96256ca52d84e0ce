import DataDerive.FreshNames
import DataDerive.Proofs.Substitution
import Std.Data.String.ToNat

/-!
# Renaming apart

The number of a fresh variable is what follows its only `#`, so a variable has
at most one number.  Variables taken later have greater numbers, and a name
whose number is not above those already taken is none of the variables that are
taken afterwards.  Names that a declaration can write have no number at all.
-/

namespace DataDerive.FreshNames

open TypeExpr Substitution

/-! ## Numbers of names -/

/-- A name is a base without `#`, then `#` and a number. -/
def Numbered (number : Nat) (name : String) : Prop :=
  ∃ base : List Char, '#' ∉ base ∧ name.toList = base ++ '#' :: (toString number).toList

/-- Two texts that agree, each split at its first mark, agree after the mark. -/
theorem eq_of_append_mark_eq
    {mark : Char}
    {left right leftRest rightRest : List Char}
    (notLeft : mark ∉ left)
    (notRight : mark ∉ right)
    (same : left ++ mark :: leftRest = right ++ mark :: rightRest) :
    leftRest = rightRest := by
  induction left generalizing right with
  | nil =>
      cases right with
      | nil => exact (List.cons.inj same).2
      | cons first rest =>
          rw [← (List.cons.inj same).1] at notRight
          exact absurd List.mem_cons_self notRight
  | cons first rest ih =>
      cases right with
      | nil =>
          rw [(List.cons.inj same).1] at notLeft
          exact absurd List.mem_cons_self notLeft
      | cons other others =>
          exact ih (fun member => notLeft (List.mem_cons_of_mem _ member))
            (fun member => notRight (List.mem_cons_of_mem _ member)) (List.cons.inj same).2

theorem Numbered.unique
    {left right : Nat}
    {name : String}
    (isLeft : Numbered left name)
    (isRight : Numbered right name) :
    left = right := by
  rcases isLeft with ⟨base, notBase, split⟩
  rcases isRight with ⟨other, notOther, otherSplit⟩
  have digits := eq_of_append_mark_eq notBase notOther (split.symm.trans otherSplit)
  exact Nat.repr_injective (String.toList_injective digits)

theorem Numbered.isFresh
    {number : Nat}
    {name : String}
    (numbered : Numbered number name) :
    isFresh name = true := by
  rcases numbered with ⟨base, -, split⟩
  rw [FreshNames.isFresh, split]
  simp

theorem numbered_fresh (supply : FreshNames) (name : String) :
    Numbered (supply.taken + 1) (supply.fresh name).1 := by
  refine ⟨name.toList.takeWhile (· ≠ '#'), ?_, ?_⟩
  · intro member
    have passes := List.all_eq_true.mp List.all_takeWhile '#' member
    simp at passes
  · simp [fresh, base]

/-- A name has no number above a limit. -/
def Below (limit : Nat) (name : String) : Prop :=
  ∀ number, Numbered number name → number ≤ limit

theorem Below.mono
    {limit later : Nat}
    {name : String}
    (below : Below limit name)
    (grows : limit ≤ later) :
    Below later name :=
  fun number numbered => Nat.le_trans (below number numbered) grows

/-- A name without `#` has no number. -/
theorem below_of_not_isFresh
    {name : String}
    (written : isFresh name = false)
    (limit : Nat) :
    Below limit name := by
  intro number numbered
  rw [numbered.isFresh] at written
  cases written

/-- A variable that is taken has no number above those taken with it. -/
theorem below_fresh (supply : FreshNames) (name : String) :
    Below (supply.fresh name).2.taken (supply.fresh name).1 :=
  fun _ numbered => Nat.le_of_eq (numbered.unique (numbered_fresh supply name))

/-! ## Taking several variables -/

/-- A variable with a number between two states of the supply. -/
def TakenBetween (supply later : FreshNames) (name : String) : Prop :=
  ∃ number, Numbered number name ∧ supply.taken < number ∧ number ≤ later.taken

theorem TakenBetween.below
    {supply later : FreshNames}
    {name : String}
    (taken : TakenBetween supply later name) :
    Below later.taken name := by
  rcases taken with ⟨number, numbered, -, inTime⟩
  intro other otherNumbered
  rwa [otherNumbered.unique numbered]

theorem TakenBetween.ne
    {supply later : FreshNames}
    {name other : String}
    (taken : TakenBetween supply later name)
    (below : Below supply.taken other) :
    name ≠ other := by
  rcases taken with ⟨number, numbered, after, -⟩
  rintro rfl
  exact absurd (below number numbered) (Nat.not_le.mpr after)

theorem freshAll_cons (supply : FreshNames) (name : String) (rest : List String) :
    supply.freshAll (name :: rest) =
      ((name, (supply.fresh name).1) :: ((supply.fresh name).2.freshAll rest).1,
        ((supply.fresh name).2.freshAll rest).2) :=
  rfl

theorem map_fst_freshAll (supply : FreshNames) (names : List String) :
    (supply.freshAll names).1.map Prod.fst = names := by
  induction names generalizing supply with
  | nil => rfl
  | cons name rest ih => rw [freshAll_cons, List.map_cons, ih]

theorem taken_le_freshAll (supply : FreshNames) (names : List String) :
    supply.taken ≤ (supply.freshAll names).2.taken := by
  induction names generalizing supply with
  | nil => exact Nat.le_refl _
  | cons name rest ih =>
      rw [freshAll_cons]
      exact Nat.le_trans (Nat.le_succ supply.taken) (ih (supply.fresh name).2)

theorem takenBetween_freshAll
    {supply : FreshNames}
    {names : List String}
    {pair : String × String}
    (member : pair ∈ (supply.freshAll names).1) :
    TakenBetween supply (supply.freshAll names).2 pair.2 := by
  induction names generalizing supply with
  | nil => cases member
  | cons name rest ih =>
      rw [freshAll_cons] at member ⊢
      rcases List.mem_cons.mp member with first | later
      · have inTime := taken_le_freshAll (supply.fresh name).2 rest
        rw [first]
        exact ⟨supply.taken + 1, numbered_fresh supply name, Nat.lt_succ_self _, inTime⟩
      · rcases ih later with ⟨number, numbered, after, inTime⟩
        exact ⟨number, numbered, Nat.lt_of_succ_lt after, inTime⟩

/-- Different names have different variables. -/
theorem freshAll_injective
    {supply : FreshNames}
    {names : List String}
    {left right : String × String}
    (leftMember : left ∈ (supply.freshAll names).1)
    (rightMember : right ∈ (supply.freshAll names).1)
    (same : left.2 = right.2) :
    left.1 = right.1 := by
  induction names generalizing supply with
  | nil => cases leftMember
  | cons name rest ih =>
      have firstBelow := below_fresh supply name
      rw [freshAll_cons] at leftMember rightMember
      rcases List.mem_cons.mp leftMember with leftFirst | leftLater
      · rcases List.mem_cons.mp rightMember with rightFirst | rightLater
        · rw [leftFirst, rightFirst]
        · rw [leftFirst] at same
          exact absurd same.symm ((takenBetween_freshAll rightLater).ne firstBelow)
      · rcases List.mem_cons.mp rightMember with rightFirst | rightLater
        · rw [rightFirst] at same
          exact absurd same ((takenBetween_freshAll leftLater).ne firstBelow)
        · exact ih leftLater rightLater

/-! ## Substitutions that rename apart -/

/-- A substitution puts variables taken between two states of the supply for names. -/
structure RenamesApart
    (names : List String)
    (supply later : FreshNames)
    (renamed : Substitution)
    (variant : String → String) : Prop where
  get? : ∀ name ∈ names, renamed.get? name = some (.var (variant name))
  taken : ∀ name ∈ names, TakenBetween supply later (variant name)
  injective : ∀ x ∈ names, ∀ y ∈ names, variant x = variant y → x = y

section RenamesApart

variable {names : List String} {supply later : FreshNames}
variable {renamed : Substitution} {variant : String → String}

theorem RenamesApart.substitute_var
    (renames : RenamesApart names supply later renamed variant)
    {name : String}
    (member : name ∈ names) :
    renamed.substitute (.var name) = .var (variant name) := by
  rw [Substitution.substitute, replace_var, renames.get? name member, Option.getD_some]

theorem RenamesApart.substitute
    (renames : RenamesApart names supply later renamed variant)
    {type : TypeExpr}
    (covered : ∀ name ∈ type.variableOccurrences, name ∈ names) :
    renamed.substitute type = type.replace fun name => .var (variant name) := by
  rw [substitute_eq_replace]
  exact replace_congr fun name occurs => renames.substitute_var (covered name occurs)

end RenamesApart

theorem fst_renameApart (supply : FreshNames) (names : List String) :
    (supply.renameApart names).1 =
      .ofPairs ((supply.freshAll names).1.map fun pair => (pair.1, .var pair.2)) :=
  rfl

theorem taken_le_renameApart (supply : FreshNames) (names : List String) :
    supply.taken ≤ (supply.renameApart names).2.taken :=
  taken_le_freshAll supply names

theorem renameApart_spec (supply : FreshNames) (names : List String) :
    ∃ variant, RenamesApart names supply (supply.renameApart names).2
      (supply.renameApart names).1 variant := by
  have found (name : String) (member : name ∈ names) :
      ∃ variant, (supply.renameApart names).1.get? name = some (.var variant) ∧
        (name, variant) ∈ (supply.freshAll names).1 := by
    have bound : name ∈ ((supply.freshAll names).1.map fun pair =>
        (pair.1, TypeExpr.var pair.2)).map Prod.fst := by
      rw [List.map_map]
      change name ∈ (supply.freshAll names).1.map Prod.fst
      rwa [map_fst_freshAll]
    rw [fst_renameApart]
    rcases exists_get?_ofPairs bound with ⟨target, isTarget⟩
    rcases List.mem_map.mp (mem_of_get?_ofPairs isTarget) with ⟨pair, paired, same⟩
    cases same
    exact ⟨pair.2, isTarget, paired⟩
  choose! variant isVariant paired using found
  refine ⟨variant, isVariant, ?_, ?_⟩
  · intro name member
    exact takenBetween_freshAll (paired name member)
  · intro x xMember y yMember same
    exact freshAll_injective (paired x xMember) (paired y yMember) same

end DataDerive.FreshNames
