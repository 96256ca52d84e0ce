import DataDerive.Proofs.Instance.Soundness

/-!
# What holds of every location that is found

The search makes a location from the locations of its dependencies, at the type
parameters of the data type and at types that match the data type.  A property
that every such step keeps holds of whatever is found, and so does one of all
parts of a location.
-/

namespace DataDerive

open FreshNames Search

namespace SearchContext

/-- A property of locations that every step of a search keeps. -/
structure Keeps (context : SearchContext) (holds : Location → Prop) : Prop where
  field : ∀ source member span, holds (.field source member span)
  method : ∀ source member span typeArguments dependencies,
    (∀ dependency ∈ dependencies, holds dependency) →
      holds (.method source member span typeArguments dependencies)
  generated : ∀ className type dependencies,
    (∃ found, Unification.matchType? context.data.selfType type = some found) →
      (∀ dependency ∈ dependencies, holds dependency) →
        holds (.generated className type dependencies)
  parameter : ∀ className name, name ∈ context.data.typeParams →
    holds (.parameter className name)

section Kept

variable {context : SearchContext} {holds : Location → Prop} {solve : Goal → Search FoundInstance}

/-- Any message is allowed. -/
def AnyMessage (_ : Message) : Prop :=
  True

/-- A way to solve goals finds only locations with a property. -/
def Finds (holds : Location → Prop) (solve : Goal → Search FoundInstance) : Prop :=
  ∀ goal supply, Ensures (solve goal) supply (fun found _ => holds found.location) AnyMessage

theorem direct_keeps
    (keeps : context.Keeps holds)
    (goal : Goal)
    (placed : PlacedMember)
    (supply : FreshNames) :
    Ensures (direct? goal placed) supply
      (IfSome fun candidate => holds candidate.found.location) AnyMessage := by
  rw [direct?]
  split
  next name span type _ =>
    apply (ensures_renameApart supply _).bind
    intro renamed left _ _
    apply ensures_pure
    intro found isFound
    rcases Option.map_eq_some_iff.mp isFound with ⟨_, -, rfl⟩
    exact keeps.field _ _ _
  next name span typeParams result _ =>
    apply (instantiate_sound supply goal typeParams [] result).bind
    intro matched left _ _
    apply ensures_pure
    intro found isFound
    rcases Option.map_eq_some_iff.mp isFound with ⟨_, -, rfl⟩
    exact keeps.method _ _ _ _ _ (List.forall_mem_nil _)
  next => exact ensures_none

theorem solve?_keeps (finds : Finds holds solve) (goal : Goal) (supply : FreshNames) :
    Ensures (solve? solve goal) supply (IfSome fun found => holds found.location)
      AnyMessage := by
  have solved : Ensures (some <$> solve goal) supply
      (IfSome fun found => holds found.location) AnyMessage := by
    refine Ensures.map ((finds goal supply).mono ?_ fun _ => id)
    rintro found left - holdsFound other same
    exact Option.some.inj same ▸ holdsFound
  rw [solve?]
  apply solved.tryCatch
  intro fault left _ _
  split
  next => exact ensures_none
  next => exact ensures_throw trivial

theorem solveAll?_keeps (finds : Finds holds solve) (types : List TypeExpr) (supply : FreshNames) :
    Ensures (solveAll? solve types) supply
      (IfSome fun found => ∀ part ∈ found, holds part.location) AnyMessage := by
  induction types generalizing supply with
  | nil =>
      rw [solveAll?]
      refine ensures_pure fun found same => ?_
      cases same
      exact List.forall_mem_nil _
  | cons type rest ih =>
      rw [solveAll?]
      split
      next => exact ensures_none
      next goal _ =>
        apply (solve?_keeps finds goal supply).bind
        intro first left _ firstHolds
        split
        next => exact ensures_none
        next found =>
          apply (ih left).bind
          intro others last _ othersHold
          apply ensures_pure
          intro all same
          rcases Option.map_eq_some_iff.mp same with ⟨tail, isTail, rfl⟩
          exact List.forall_mem_cons.mpr ⟨firstHolds found rfl, othersHold tail isTail⟩

theorem combined_keeps
    (keeps : context.Keeps holds)
    (finds : Finds holds solve)
    (goal : Goal)
    (placed : PlacedMember)
    (supply : FreshNames) :
    Ensures (combined? solve goal placed) supply
      (IfSome fun candidate => holds candidate.found.location) AnyMessage := by
  rw [combined?]
  split
  next name span typeParams first rest result _ =>
    apply (instantiate_sound supply goal typeParams (first :: rest) result).bind
    intro matched left _ _
    split
    next => exact ensures_none
    next instantiation =>
      apply (solveAll?_keeps finds _ left).bind
      intro parts last _ partsHold
      apply ensures_pure
      intro found same
      rcases Option.map_eq_some_iff.mp same with ⟨all, isAll, rfl⟩
      exact keeps.method _ _ _ _ _ (List.forall_mem_map.mpr (partsHold all isAll))
  next => exact ensures_none

theorem searchTier_keeps
    (keeps : context.Keeps holds)
    (finds : Finds holds solve)
    (goal : Goal)
    (providers : List Provider)
    (supply : FreshNames) :
    Ensures (context.searchTier solve goal providers) supply
      (IfSome fun found => holds found.location) AnyMessage := by
  have picks {candidates : List Candidate}
      (hold : ∀ candidate ∈ candidates, holds candidate.found.location)
      (start : FreshNames) :
      Ensures (liftM (context.pick goal candidates)) start
        (IfSome fun found => holds found.location) AnyMessage :=
    (pick_ensures hold start).mono (fun _ _ _ => id) fun _ _ => trivial
  rw [searchTier]
  apply (collect_ensures (fun placed _ => direct_keeps keeps goal placed) supply).bind
  intro simple left _ simpleHold
  apply (picks simpleHold left).bind
  intro picked after _ pickedHolds
  split
  next found => exact ensures_pure pickedHolds
  next =>
    split
    next =>
      apply (collect_ensures (fun placed _ => combined_keeps keeps finds goal placed) after).bind
      intro composed last _ composedHold
      exact picks composedHold last
    next => exact ensures_none

theorem searchTiers_keeps
    (keeps : context.Keeps holds)
    (finds : Finds holds solve)
    (goal : Goal)
    (supply : FreshNames) :
    Ensures (context.searchTiers solve goal) supply
      (fun found _ => holds found.location) AnyMessage := by
  rw [searchTiers]
  apply (searchTier_keeps keeps finds goal context.providers supply).bind
  intro result left _ normalHolds
  split
  next found => exact ensures_pure (normalHolds found rfl)
  next =>
    apply (searchTier_keeps keeps finds goal context.lowPriority left).bind
    intro result last _ lowHolds
    split
    next found => exact ensures_pure (lowHolds found rfl)
    next => exact ensures_throw trivial

theorem typeParameters_keeps
    (keeps : context.Keeps holds)
    (finds : Finds holds solve)
    (className : String)
    (arguments : Substitution)
    (names : List String)
    (declared : ∀ name ∈ names, name ∈ context.data.typeParams)
    (supply : FreshNames) :
    Ensures (typeParameters solve className arguments names) supply
      (fun found _ => ∀ part ∈ found, holds part.location) AnyMessage := by
  induction names generalizing supply with
  | nil =>
      rw [typeParameters]
      exact ensures_pure (List.forall_mem_nil _)
  | cons name rest ih =>
      rw [List.forall_mem_cons] at declared
      have first : Ensures (typeArgument solve className name (arguments.resolve (.var name)))
          supply (fun found _ => holds found.location) AnyMessage := by
        rw [typeArgument]
        split
        next => exact ensures_pure (keeps.parameter className name declared.1)
        next => exact finds _ supply
      rw [typeParameters_cons]
      apply first.bind
      intro found left _ holdsFound
      refine Ensures.map ((ih declared.2 left).mono ?_ fun _ => id)
      exact fun others last _ othersHold => List.forall_mem_cons.mpr ⟨holdsFound, othersHold⟩

theorem generated_keeps
    (keeps : context.Keeps holds)
    (finds : Finds holds solve)
    (goal : Goal)
    (supply : FreshNames) :
    Ensures (context.generated solve goal) supply
      (fun found _ => holds found.location) AnyMessage := by
  rw [generated]
  split
  next => exact ensures_throw trivial
  next arguments success =>
    apply (typeParameters_keeps keeps finds goal.className arguments context.data.typeParams
      (fun _ => id) supply).bind
    intro parts left _ partsHold
    exact ensures_pure (keeps.generated _ _ _ ⟨arguments, success⟩
      (List.forall_mem_map.mpr partsHold))

theorem solve_keeps (keeps : context.Keeps holds) (levels : Nat) :
    Finds holds (context.solve levels) := by
  induction levels with
  | zero =>
      intro goal supply
      rw [solve]
      exact ensures_throw trivial
  | succ levels ih =>
      intro goal supply
      rw [solve]
      split
      next => exact generated_keeps keeps ih goal supply
      next =>
        split
        next name isParameter =>
          exact ensures_pure (keeps.parameter _ _ (ownParameter?_eq_some.mp isParameter).2)
        next => exact searchTiers_keeps keeps ih goal supply

/-- Whatever is found has every property that the steps of the search keep. -/
theorem holds_of_find
    (keeps : context.Keeps holds)
    {target : TypeExpr}
    {found : FoundInstance}
    (success : context.find target = .ok found) :
    holds found.location :=
  (solve_keeps keeps (deepestGoal + 1) _ .start).value_of_ok success

end Kept

end SearchContext

end DataDerive
