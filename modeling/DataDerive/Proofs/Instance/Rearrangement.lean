import DataDerive.Proofs.Instance.Candidates

/-!
# The order of members inside a provider

The members of a provider are tried in their order, and each one takes fresh
variables, so the order shows in the names of the variables.  It does not show
anywhere else, at whatever depth a goal is met.

The same comparison serves a search whose low-priority providers are taken away
from the other one.  What these may change is the `fallback` of the comparison.
-/

namespace DataDerive

open TypeExpr FreshNames Search

/-- The same provider with its members in another order. -/
def Provider.Reordered (first second : Provider) : Prop :=
  second.name = first.name ∧ first.members.Perm second.members

/-- Reordered providers place the same members. -/
theorem PlacedMember.perm_ofProviders
    {first second : List Provider}
    (reordered : List.Forall₂ Provider.Reordered first second) :
    (ofProviders first).Perm (ofProviders second) := by
  have from_ (start : Nat) :
      ((first.zipIdx start).flatMap fun entry => entry.1.members.map fun member =>
        (⟨entry.1.name, entry.2, member⟩ : PlacedMember)).Perm
      ((second.zipIdx start).flatMap fun entry => entry.1.members.map fun member =>
        ⟨entry.1.name, entry.2, member⟩) := by
    induction reordered generalizing start with
    | nil => exact .nil
    | cons one rest ih =>
        rw [List.zipIdx_cons, List.zipIdx_cons, List.flatMap_cons, List.flatMap_cons]
        dsimp only
        rw [one.1]
        exact (one.2.map _).append (ih (start + 1))
  exact from_ 0

namespace SearchContext

open DataDerive.Alignment

/-! ## Whole searches -/

/--
The same search among reordered providers.  With a fallback, the second one may
have providers of low priority where the first one has none.
-/
structure Counterparts (fallback : Prop) (first second : SearchContext) : Prop where
  data : second.data = first.data
  className : second.className = first.className
  providers : List.Forall₂ Provider.Reordered first.providers second.providers
  lowPriority :
    List.Forall₂ Provider.Reordered first.lowPriority second.lowPriority ∨
      (fallback ∧ first.lowPriority = [])
  written : ∀ name ∈ first.data.typeParams, isFresh name = false

section Searching

variable {fallback : Prop} {w : Alignment} {context other : SearchContext} {levels : Nat}
variable {goal counterpart : Goal}

theorem hasParts_eq (goals : w.Goals goal counterpart) :
    hasParts counterpart.target = hasParts goal.target := by
  rw [goals.2.2]
  exact hasParts_rename goal w.rename

theorem aligned_searchTier
    (alike : SolveAlike fallback (context.solve levels) (other.solve levels))
    (goals : w.Goals goal counterpart)
    {providers others : List Provider}
    (reordered : List.Forall₂ Provider.Reordered providers others) :
    Aligned fallback w (fun later => Tried (Excused fallback) later.Instances)
      (context.searchTier (context.solve levels) goal providers)
      (other.searchTier (other.solve levels) counterpart others) := by
  have perm := PlacedMember.perm_ofProviders reordered
  have directs : Aligned False w (SamePlaces False)
      (collect (direct? goal) (PlacedMember.ofProviders providers))
      (collect (direct? counterpart) (PlacedMember.ofProviders others)) := by
    apply aligned_collect perm _ (context.takesOnly_direct goal)
      (other.takesOnly_direct counterpart) (staysInPlace_direct goal)
      (staysInPlace_direct counterpart)
    intro placed _ later grows
    exact (aligned_direct (goals.mono grows) placed).mono fun _ _ _ _ => Tried.weaken
  rw [searchTier, searchTier]
  apply directs.weaken.bind
  intro later first second grows places
  apply (aligned_pick places).weaken.bind
  intro last picked answer further tried
  cases tried with
  | found related => exact aligned_pure (.found related)
  | excused excuse => exact excuse.1.elim
  | missing =>
      have goals' := goals.mono (grows.trans further)
      dsimp only
      rw [hasParts_eq goals]
      split
      next =>
        have combinations : Aligned fallback last (SamePlaces fallback)
            (collect (combined? (context.solve levels) goal)
              (PlacedMember.ofProviders providers))
            (collect (combined? (other.solve levels) counterpart)
              (PlacedMember.ofProviders others)) := by
          apply aligned_collect perm _ (context.takesOnly_combined levels goal)
            (other.takesOnly_combined levels counterpart) (staysInPlace_combined _ goal)
            (staysInPlace_combined _ counterpart)
          intro placed _ final onward
          exact aligned_combined alike (goals'.mono onward) placed
        apply combinations.bind
        intro final candidates answers _ samePlaces
        exact aligned_pick samePlaces
      next => exact aligned_pure .missing

/-- Among no providers there is nothing. -/
theorem searchTier_nil (context : SearchContext) (solve : Goal → Search FoundInstance)
    (goal : Goal) :
    context.searchTier solve goal [] = pure none := by
  apply Search.ext
  intro supply
  rw [searchTier]
  change outcome (if hasParts goal.target = true then pure none else pure none) supply = _
  rw [ite_self]

/-- An instance that is found among the providers of low priority is marked. -/
def markLow (found : FoundInstance) : FoundInstance :=
  { found with lowPriority := true }

theorem aligned_searchTiers
    (counterparts : Counterparts fallback context other)
    (alike : SolveAlike fallback (context.solve levels) (other.solve levels))
    (notOwn : context.isOwn goal = false)
    (notOwnToo : other.isOwn counterpart = false)
    (goals : w.Goals goal counterpart) :
    Aligned fallback w (fun later => Tried (Excused fallback) later.Instances)
      (attempt (context.searchTiers (context.solve levels) goal))
      (attempt (other.searchTiers (other.solve levels) counterpart)) := by
  rw [attempt_searchTiers notOwn, attempt_searchTiers notOwnToo]
  apply (aligned_searchTier alike goals counterparts.providers).bind
  intro later found answer grows tried
  cases tried with
  | found related => exact aligned_pure (.found related)
  | missing =>
      change Aligned fallback later _
        (Option.map markLow <$> context.searchTier (context.solve levels) goal context.lowPriority)
        (Option.map markLow <$>
          other.searchTier (other.solve levels) counterpart other.lowPriority)
      rw [map_eq_pure_bind, map_eq_pure_bind]
      rcases counterparts.lowPriority with reordered | ⟨excuse, empty⟩
      · apply (aligned_searchTier alike (goals.mono grows) reordered).bind
        intro last low reply _ triedLow
        apply aligned_pure
        exact triedLow.map (fun _ _ instances => ⟨instances.1, rfl⟩) fun _ excused =>
          ⟨excused.1, rfl⟩
      · -- The first search has nothing left to try.
        have alone : Aligned fallback later (fun _ first _ => first = none)
            (pure (none : Option FoundInstance))
            (other.searchTier (other.solve levels) counterpart other.lowPriority) :=
          aligned_right excuse (other.takesOnly_searchTier levels counterpart other.lowPriority)
            none fun _ _ _ => rfl
        rw [empty, searchTier_nil]
        apply alone.bind
        rintro last low reply _ rfl
        apply aligned_pure
        cases reply with
        | none => exact .missing
        | some reply => exact .excused ⟨excuse, rfl⟩
  | @excused found answer excuse =>
      cases found with
      | some found => exact aligned_pure (.excused excuse)
      | none =>
          have alone : Aligned fallback later (fun _ _ second => second = answer)
              (context.searchTier (context.solve levels) goal context.lowPriority)
              (pure answer : Search FoundInstance) :=
            aligned_left excuse.1
              (context.takesOnly_searchTier levels goal context.lowPriority) answer
              fun _ _ _ => rfl
          change Aligned fallback later _
            (Option.map markLow <$>
              context.searchTier (context.solve levels) goal context.lowPriority)
            ((pure answer : Search FoundInstance) >>= fun found => pure (some found))
          rw [map_eq_pure_bind]
          apply alone.bind
          rintro last low reply _ rfl
          exact aligned_pure (.excused excuse)

theorem isOwn_eq
    (counterparts : Counterparts fallback context other)
    (goals : w.Goals goal counterpart) :
    other.isOwn counterpart = context.isOwn goal := by
  rw [isOwn, isOwn, counterparts.className, counterparts.data, goals.1, goals.2.2]
  cases goal.target with
  | var name =>
      rw [rename_var]
      rfl
  | con name arguments =>
      rw [rename_con]
      rfl
  | arrow parameters result =>
      rw [rename_arrow]
      rfl

theorem ownParameter?_eq
    (counterparts : Counterparts fallback context other)
    (goals : w.Goals goal counterpart) :
    other.ownParameter? counterpart.target = context.ownParameter? goal.target := by
  have keeps (name : String) (declared : name ∈ context.data.typeParams) : w.rename name = name :=
    (w.written name (counterparts.written name declared)).2
  ext name
  rw [ownParameter?_eq_some, ownParameter?_eq_some, counterparts.data, goals.2.2]
  refine and_congr_left fun declared => ?_
  cases goal.target with
  | var y =>
      rw [rename_var, var.injEq, var.injEq]
      constructor
      · intro same
        exact w.rename.injective (same.trans (keeps name declared).symm)
      · rintro rfl
        exact keeps y declared
  | con y arguments => simp
  | arrow parameters result => simp

/-- At every depth corresponding goals are answered alike. -/
theorem aligned_solve
    (counterparts : Counterparts fallback context other)
    (levels : Nat) :
    SolveAlike fallback (context.solve levels) (other.solve levels) := by
  induction levels with
  | zero =>
      intro w goal counterpart _
      have refuses (context : SearchContext) (goal : Goal) :
          attempt (throw (context.tooDeep goal) : Search FoundInstance) =
            throw (context.tooDeep goal) :=
        attempt_throw (by simp [tooDeep, fault, Message.at_])
      rw [solve, solve, refuses, refuses]
      exact aligned_throw
  | succ levels ih =>
      intro w goal counterpart goals
      have sameOwn := isOwn_eq counterparts goals
      rw [solve, solve, sameOwn, ownParameter?_eq counterparts goals]
      split
      next own => exact aligned_generated ih counterparts.data counterparts.written goals
      next notOwn =>
        rw [Bool.not_eq_true] at notOwn
        split
        next name _ =>
          rw [goals.1]
          exact aligned_pure (.found ⟨locations_parameter goal.className name, rfl⟩)
        next =>
          exact aligned_searchTiers counterparts ih notOwn (sameOwn.trans notOwn) goals

end Searching

end SearchContext

namespace Alignment

/-- The alignment of two searches that have not begun. -/
def start : Alignment where
  known := {name | isFresh name = false}
  rename := Equiv.refl String
  left := .start
  right := .start
  written _ written := ⟨written, rfl⟩
  below_left _ written := below_of_not_isFresh written _
  below_right _ written := below_of_not_isFresh written _

end Alignment

namespace SearchContext

open DataDerive.Alignment

/-- Two results of a search as a whole, where nothing stands for a missing instance. -/
theorem find_alike
    {fallback : Prop}
    {context other : SearchContext}
    (counterparts : Counterparts fallback context other)
    {target : TypeExpr}
    (written : ∀ name ∈ target.variableOccurrences, isFresh name = false) :
    ∃ left right, Agree fallback .start
      (fun later => Tried (Excused fallback) later.Instances)
      (attempted (context.find target), left) (attempted (other.find target), right) := by
  have goals : Alignment.start.Goals ⟨context.className, target⟩ ⟨other.className, target⟩ :=
    ⟨counterparts.className, types_written written⟩
  have aligned := aligned_solve counterparts (deepestGoal + 1) .start _ _ goals
  rw [Aligned, outcome_attempt, outcome_attempt] at aligned
  exact ⟨_, _, aligned⟩

/-- The same search among providers whose members are in another order. -/
structure Reordered (first second : SearchContext) : Prop where
  data : second.data = first.data
  className : second.className = first.className
  providers : List.Forall₂ Provider.Reordered first.providers second.providers
  lowPriority : List.Forall₂ Provider.Reordered first.lowPriority second.lowPriority

/-- Two searches among reordered providers find corresponding instances or fail alike. -/
theorem Reordered.find_cases
    {context other : SearchContext}
    (reordered : context.Reordered other)
    (declared : ∀ name ∈ context.data.typeParams, isFresh name = false)
    {target : TypeExpr}
    (written : ∀ name ∈ target.variableOccurrences, isFresh name = false) :
    (∃ found answer, context.find target = .ok found ∧ other.find target = .ok answer ∧
      ∃ last : Alignment, last.Instances found answer) ∨
    ∃ message fault, context.find target = .error message ∧ other.find target = .error fault ∧
      (message.code = .noInstance ↔ fault.code = .noInstance) := by
  have counterparts : Counterparts False context other :=
    ⟨reordered.data, reordered.className, reordered.providers, Or.inl reordered.lowPriority,
      declared⟩
  rcases find_alike counterparts written with ⟨left, right, agree⟩
  rcases attempted_cases (context.find target) with
    ⟨found, finds, first⟩ | ⟨message, fails, missing, first⟩ | ⟨message, fails, present, first⟩
  · rcases attempted_cases (other.find target) with
      ⟨answer, findsToo, second⟩ | ⟨fault, failsToo, -, second⟩ | ⟨fault, failsToo, -, second⟩
    · rw [first, second] at agree
      cases agree with
      | values last grows tried =>
          cases tried with
          | found instances => exact Or.inl ⟨found, answer, finds, findsToo, last, instances⟩
          | excused excuse => exact excuse.1.elim
    · rw [first, second] at agree
      cases agree with
      | values last grows tried => cases tried
    · rw [first, second] at agree
      cases agree with
      | leftValue excuse => exact excuse.elim
  · rcases attempted_cases (other.find target) with
      ⟨answer, findsToo, second⟩ | ⟨fault, failsToo, missingToo, second⟩ | ⟨fault, -, -, second⟩
    · rw [first, second] at agree
      cases agree with
      | values last grows tried =>
          cases tried with
          | excused excuse => exact excuse.1.elim
    · exact Or.inr ⟨message, fault, fails, failsToo, iff_of_true missing missingToo⟩
    · rw [first, second] at agree
      cases agree with
      | leftValue excuse => exact excuse.elim
  · rcases attempted_cases (other.find target) with
      ⟨answer, -, second⟩ | ⟨fault, -, -, second⟩ | ⟨fault, failsToo, presentToo, second⟩
    · rw [first, second] at agree
      cases agree with
      | rightValue excuse => exact excuse.elim
    · rw [first, second] at agree
      cases agree with
      | rightValue excuse => exact excuse.elim
    · exact Or.inr ⟨message, fault, fails, failsToo, iff_of_false present presentToo⟩

/--
The order of the members inside a provider decides neither whether an instance is
found nor whether there is none.  The instances that are found are marked alike,
and their locations are the same but for a renaming of fresh variables.
-/
theorem find_reordered
    (context other : SearchContext)
    (target : TypeExpr)
    (reordered : context.Reordered other)
    (declared : ∀ name ∈ context.data.typeParams, isFresh name = false)
    (written : ∀ name ∈ target.variableOccurrences, isFresh name = false) :
    ((∃ found, context.find target = .ok found) ↔ ∃ found, other.find target = .ok found) ∧
    ((∃ message, context.find target = .error message ∧ message.code = .noInstance) ↔
      ∃ message, other.find target = .error message ∧ message.code = .noInstance) ∧
    ∀ found answer, context.find target = .ok found → other.find target = .ok answer →
      answer.lowPriority = found.lowPriority ∧
      ∃ relabel : Equiv.Perm String, (∀ name, isFresh name = false → relabel name = name) ∧
        answer.location = found.location.rename relabel := by
  rcases reordered.find_cases declared written with
    ⟨found, answer, finds, findsToo, last, instances⟩ | ⟨message, fault, fails, failsToo, same⟩
  · rw [finds, findsToo]
    refine ⟨by simp, by simp, ?_⟩
    rintro _ _ ⟨⟩ ⟨⟩
    exact ⟨instances.2, last.rename, fun name isWritten => (last.written name isWritten).2,
      instances.1.2⟩
  · rw [fails, failsToo]
    refine ⟨by simp, by simpa using same, ?_⟩
    rintro found answer ⟨⟩

/-- Equality of lists that asks for a text of elements of any type, and one of options. -/
def looseMembers : List StaticMember :=
  [.method "any_show" ⟨1, 6⟩ [⟨"X", ⟨7, 8⟩⟩] [] (.con "Show" [.var "X"]),
    .method "option_eq" ⟨11, 16⟩ [⟨"A", ⟨17, 18⟩⟩] [.con "Eq" [.var "A"]]
      (.con "Eq" [.con "Option" [.var "A"]]),
    .method "list_eq" ⟨21, 26⟩ [⟨"A", ⟨27, 28⟩⟩, ⟨"B", ⟨29, 30⟩⟩] [.con "Show" [.var "B"]]
      (.con "Eq" [.con "List" [.var "A"]])]

/-- A search among some members of one provider. -/
def amongMembers (members : List StaticMember) : SearchContext where
  data := { (default : DataType) with name := "Shape" }
  className := "Eq"
  span := ⟨100, 101⟩
  providers := [⟨"Instances", ⟨31, 36⟩, members⟩]
  lowPriority := []

/-- The variable that the type of the list leaves open is named after the members tried before. -/
theorem find_reordered_looseMembers :
    (amongMembers looseMembers).find (.con "List" [.atom "i32"]) =
      .ok ⟨.method "Instances" "list_eq" ⟨21, 26⟩ [("A", .atom "i32"), ("B", .var "B#4")]
        [.method "Instances" "any_show" ⟨1, 6⟩ [("X", .var "B#4")] []], false⟩ ∧
    (amongMembers looseMembers.reverse).find (.con "List" [.atom "i32"]) =
      .ok ⟨.method "Instances" "list_eq" ⟨21, 26⟩ [("A", .atom "i32"), ("B", .var "B#3")]
        [.method "Instances" "any_show" ⟨1, 6⟩ [("X", .var "B#3")] []], false⟩ ∧
    ∃ relabel : Equiv.Perm String, (∀ name, isFresh name = false → relabel name = name) ∧
      Location.method "Instances" "list_eq" ⟨21, 26⟩ [("A", .atom "i32"), ("B", .var "B#3")]
        [.method "Instances" "any_show" ⟨1, 6⟩ [("X", .var "B#3")] []] =
      Location.rename relabel
        (.method "Instances" "list_eq" ⟨21, 26⟩ [("A", .atom "i32"), ("B", .var "B#4")]
          [.method "Instances" "any_show" ⟨1, 6⟩ [("X", .var "B#4")] []]) := by
  have reordered : (amongMembers looseMembers).Reordered (amongMembers looseMembers.reverse) :=
    ⟨rfl, rfl, .cons ⟨rfl, (List.reverse_perm looseMembers).symm⟩ .nil, .nil⟩
  have compared := find_reordered _ _ (.con "List" [.atom "i32"]) reordered
    (List.forall_mem_nil _) (by simp [atom])
  exact ⟨rfl, rfl, (compared.2.2 _ _ rfl rfl).2⟩

end SearchContext

end DataDerive
