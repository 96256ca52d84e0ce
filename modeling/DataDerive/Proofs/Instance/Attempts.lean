import DataDerive.Proofs.Instance.Invariants

/-!
# Searches that answer with nothing

That there is no instance is a message of a search, and for the search above it
an answer like any other.  `attempt` makes it a value, so the messages that are
left are those that end everything.  Most steps only have such messages.

Each member is tried once, at a supply somewhere between the first and the last
one; what becomes of the members one after the other is a list of results.
-/

namespace DataDerive

open TypeExpr FreshNames

namespace Search

variable {α β : Type}

theorem ext
    {left right : Search α}
    (same : ∀ supply, outcome left supply = outcome right supply) :
    left = right :=
  funext same

/-- A step that gives nothing where it would say that there is no instance. -/
def attempt (step : Search α) : Search (Option α) :=
  tryCatch (some <$> step) fun message =>
    if message.code = .noInstance then return none else throw message

/-- A result in which nothing stands for the message that there is no instance. -/
def attempted : Except Message α → Except Message (Option α)
  | .ok value => .ok (some value)
  | .error message => if message.code = .noInstance then .ok none else .error message

/-- A result is a value, a message that there is no instance, or another message. -/
theorem attempted_cases (result : Except Message α) :
    (∃ value, result = .ok value ∧ attempted result = .ok (some value)) ∨
    (∃ message, result = .error message ∧ message.code = .noInstance ∧
      attempted result = .ok none) ∨
    ∃ message, result = .error message ∧ message.code ≠ .noInstance ∧
      attempted result = .error message := by
  cases result with
  | ok value => exact Or.inl ⟨value, rfl, rfl⟩
  | error message =>
      refine Or.inr ?_
      by_cases missing : message.code = .noInstance
      · exact Or.inl ⟨message, rfl, missing, if_pos missing⟩
      · exact Or.inr ⟨message, rfl, missing, if_neg missing⟩

theorem outcome_attempt (step : Search α) (supply : FreshNames) :
    outcome (attempt step) supply =
      (attempted (outcome step supply).1, (outcome step supply).2) := by
  rw [attempt]
  rcases ends : outcome step supply with ⟨message | value, left⟩
  · have mapped : outcome (some <$> step) supply = (.error message, left) := by
      rw [map_eq_pure_bind]
      exact outcome_bind_of_error ends
    rw [outcome_tryCatch_of_error mapped, attempted]
    split
    next => rfl
    next => rfl
  · rw [outcome_tryCatch_of_ok (outcome_map_eq_ok_iff.mpr ⟨value, ends, rfl⟩)]
    rfl

theorem outcome_attempt_eq_some_iff
    {step : Search α}
    {supply last : FreshNames}
    {value : α} :
    outcome (attempt step) supply = (.ok (some value), last) ↔
      outcome step supply = (.ok value, last) := by
  rw [outcome_attempt]
  rcases outcome step supply with ⟨message | found, left⟩
  · rw [attempted]
    split <;> simp
  · simp [attempted]

theorem outcome_attempt_eq_none_iff
    {step : Search α}
    {supply last : FreshNames} :
    outcome (attempt step) supply = (.ok none, last) ↔
      ∃ message, outcome step supply = (.error message, last) ∧ message.code = .noInstance := by
  rw [outcome_attempt]
  rcases ends : outcome step supply with ⟨message | value, left⟩
  · by_cases missing : message.code = .noInstance
    · simp [attempted, missing]
    · simp [attempted, missing]
  · simp [attempted]

theorem outcome_attempt_eq_error_iff
    {step : Search α}
    {supply : FreshNames}
    {message : Message} :
    (outcome (attempt step) supply).1 = .error message ↔
      message.code ≠ .noInstance ∧ (outcome step supply).1 = .error message := by
  rw [outcome_attempt]
  rcases attempted_cases (outcome step supply).1 with
    ⟨value, gives, attempts⟩ | ⟨fault, fails, missing, attempts⟩ |
    ⟨fault, fails, present, attempts⟩
  · rw [attempts, gives]
    simp only [reduceCtorEq, and_false]
  · rw [attempts, fails]
    simp only [reduceCtorEq, Except.error.injEq, false_iff]
    rintro ⟨present, rfl⟩
    exact present missing
  · rw [attempts, fails]
    simp only [Except.error.injEq]
    constructor
    · rintro rfl
      exact ⟨present, rfl⟩
    · exact And.right

theorem attempt_throw
    {message : Message}
    (refuses : message.code ≠ .noInstance) :
    attempt (throw message : Search α) = throw message := by
  apply ext
  intro supply
  rw [outcome_attempt, outcome_throw, outcome_throw, attempted, if_neg refuses]

theorem attempt_throw_missing
    {message : Message}
    (missing : message.code = .noInstance) :
    attempt (throw message : Search α) = pure none := by
  apply ext
  intro supply
  rw [outcome_attempt, outcome_throw, outcome_pure, attempted, if_pos missing]

theorem attempt_bind (step : Search α) (next : α → Search β) :
    attempt (step >>= next) =
      attempt step >>= fun result =>
        match result with
        | none => pure none
        | some value => attempt (next value) := by
  apply ext
  intro supply
  rcases ends : outcome step supply with ⟨message | value, left⟩
  · rw [outcome_attempt, outcome_bind_of_error ends]
    by_cases missing : message.code = .noInstance
    · have nothing : outcome (attempt step) supply = (.ok none, left) := by
        rw [outcome_attempt, ends, attempted, if_pos missing]
      rw [outcome_bind_of_ok nothing, attempted, if_pos missing, outcome_pure]
    · have fails : outcome (attempt step) supply = (.error message, left) := by
        rw [outcome_attempt, ends, attempted, if_neg missing]
      rw [outcome_bind_of_error fails, attempted, if_neg missing]
  · rw [outcome_bind_of_ok (outcome_attempt_eq_some_iff.mpr ends), outcome_attempt,
      outcome_bind_of_ok ends, ← outcome_attempt]

theorem attempt_map (function : α → β) (step : Search α) :
    attempt (function <$> step) = Option.map function <$> attempt step := by
  rw [map_eq_pure_bind, attempt_bind, map_eq_pure_bind]
  congr 1
  ext1 result
  cases result <;> rfl

/-- No message of a step says that there is no instance. -/
def Refuses (step : Search α) : Prop :=
  ∀ supply message, (outcome step supply).1 = .error message → message.code ≠ .noInstance

theorem attempt_bind_of_refuses
    {step : Search α}
    (refuses : Refuses step)
    (next : α → Search β) :
    attempt (step >>= next) = step >>= fun value => attempt (next value) := by
  apply ext
  intro supply
  rcases ends : outcome step supply with ⟨message | value, left⟩
  · have present : message.code ≠ .noInstance := refuses supply message (by rw [ends])
    rw [outcome_attempt, outcome_bind_of_error ends, outcome_bind_of_error ends, attempted,
      if_neg present]
  · rw [outcome_attempt, outcome_bind_of_ok ends, outcome_bind_of_ok ends, ← outcome_attempt]

/-- A step takes no variable back. -/
def TakesOnly (step : Search α) : Prop :=
  ∀ supply, supply.taken ≤ (outcome step supply).2.taken

/-- A value in front of others, if all of them are given. -/
def consIfSome
    (first : Search (Option α))
    (rest : Search (Option (List α))) : Search (Option (List α)) := do
  match ← first with
  | none => return none
  | some value =>
      let others ← rest
      return others.map (value :: ·)

end Search

namespace SearchContext

open Search

/-! ## Lists of goals -/

section Goals

variable (solve : Goal → Search FoundInstance)

theorem solve?_eq_attempt (goal : Goal) : solve? solve goal = attempt (solve goal) :=
  rfl

theorem solveAll?_cons (type : TypeExpr) (rest : List TypeExpr) :
    solveAll? solve (type :: rest) =
      match Goal.ofType? type with
      | none => pure none
      | some goal => consIfSome (attempt (solve goal)) (solveAll? solve rest) := by
  rw [solveAll?]
  cases Goal.ofType? type with
  | none => rfl
  | some goal =>
      dsimp only
      rw [consIfSome, solve?_eq_attempt]
      congr 1
      ext1 result
      cases result <;> rfl

theorem attempt_typeParameters_cons
    (className : String)
    (arguments : Substitution)
    (name : String)
    (rest : List String) :
    attempt (typeParameters solve className arguments (name :: rest)) =
      consIfSome (attempt (typeArgument solve className name (arguments.resolve (.var name))))
        (attempt (typeParameters solve className arguments rest)) := by
  rw [typeParameters_cons, attempt_bind, consIfSome]
  congr 1
  ext1 result
  cases result with
  | none => rfl
  | some found =>
      dsimp only
      rw [attempt_map, map_eq_pure_bind]

end Goals

/-! ## What steps take and refuse -/

section Bounds

/-- The property that every location has is kept. -/
theorem keeps_true (context : SearchContext) : context.Keeps fun _ => True :=
  ⟨fun _ _ _ => trivial, fun _ _ _ _ _ _ => trivial, fun _ _ _ _ _ => trivial,
    fun _ _ _ => trivial⟩

theorem takesOnly_direct (context : SearchContext) (goal : Goal) (placed : PlacedMember) :
    TakesOnly (direct? goal placed) :=
  fun supply => (direct_keeps context.keeps_true goal placed supply).grows

variable (context : SearchContext) (levels : Nat) (goal : Goal)

theorem takesOnly_solveAll (types : List TypeExpr) :
    TakesOnly (solveAll? (context.solve levels) types) :=
  fun supply => (solveAll?_keeps (solve_keeps context.keeps_true levels) types supply).grows

theorem takesOnly_combined (placed : PlacedMember) :
    TakesOnly (combined? (context.solve levels) goal placed) :=
  fun supply => (combined_keeps context.keeps_true (solve_keeps context.keeps_true levels)
    goal placed supply).grows

theorem takesOnly_searchTier (providers : List Provider) :
    TakesOnly (context.searchTier (context.solve levels) goal providers) :=
  fun supply => (searchTier_keeps context.keeps_true (solve_keeps context.keeps_true levels)
    goal providers supply).grows

theorem takesOnly_typeParameters
    (className : String)
    (arguments : Substitution)
    (names : List String)
    (declared : ∀ name ∈ names, name ∈ context.data.typeParams) :
    TakesOnly (attempt (typeParameters (context.solve levels) className arguments names)) := by
  intro supply
  rw [outcome_attempt]
  exact (typeParameters_keeps context.keeps_true (solve_keeps context.keeps_true levels)
    className arguments names declared supply).grows

variable {context levels goal}

theorem refuses_of_ensures
    {α : Type}
    {step : Search α}
    {value : α → FreshNames → Prop}
    (ensures : ∀ supply, Ensures step supply value IsRefusal) :
    Refuses step := by
  intro supply message fails missing
  have refusal := (ensures supply).message_of_error fails
  simp [IsRefusal, missing] at refusal

theorem refuses_searchTier (notOwn : context.isOwn goal = false) (tier : Tier) :
    Refuses (context.searchTier (context.solve levels) goal (context.tier tier)) :=
  refuses_of_ensures (searchTier_ensures context.admits_unrestricted
    (solve_ensures context.admits_unrestricted levels) notOwn tier)

/-- In both tiers there may be nothing. -/
theorem attempt_searchTiers (notOwn : context.isOwn goal = false) :
    attempt (context.searchTiers (context.solve levels) goal) =
      context.searchTier (context.solve levels) goal context.providers >>= fun result =>
        match result with
        | some found => pure (some found)
        | none =>
            Option.map (fun found => { found with lowPriority := true }) <$>
              context.searchTier (context.solve levels) goal context.lowPriority := by
  have normal : Refuses (context.searchTier (context.solve levels) goal context.providers) :=
    refuses_searchTier notOwn .normal
  have low : Refuses (context.searchTier (context.solve levels) goal context.lowPriority) :=
    refuses_searchTier notOwn .low
  rw [searchTiers, attempt_bind_of_refuses normal]
  congr 1
  ext1 result
  cases result with
  | some found => rfl
  | none =>
      dsimp only
      rw [attempt_bind_of_refuses low, map_eq_pure_bind]
      congr 1
      ext1 result
      cases result with
      | some found => rfl
      | none => exact attempt_throw_missing rfl

end Bounds

/-! ## Members one after the other -/

section Members

variable {step : PlacedMember → Search (Option Candidate)} {supply last : FreshNames}

/-- What a member gives when it is tried between two states of the supply. -/
def TriedBetween
    (step : PlacedMember → Search (Option Candidate))
    (supply last : FreshNames)
    (placed : PlacedMember)
    (result : Option Candidate) : Prop :=
  ∃ start left : FreshNames, supply.taken ≤ start.taken ∧ left.taken ≤ last.taken ∧
    outcome (step placed) start = (.ok result, left)

theorem TriedBetween.mono
    {earlier later : FreshNames}
    {placed : PlacedMember}
    {result : Option Candidate}
    (tried : TriedBetween step supply last placed result)
    (before : earlier.taken ≤ supply.taken)
    (after : last.taken ≤ later.taken) :
    TriedBetween step earlier later placed result := by
  rcases tried with ⟨start, left, begins, ends, gives⟩
  exact ⟨start, left, Nat.le_trans before begins, Nat.le_trans ends after, gives⟩

/-- The candidates that are kept are those that the members give in their order. -/
theorem exists_results_of_collect
    (takes : ∀ placed, TakesOnly (step placed))
    {members : List PlacedMember}
    {candidates : List Candidate}
    (ends : outcome (collect step members) supply = (.ok candidates, last)) :
    supply.taken ≤ last.taken ∧
      ∃ results, candidates = results.flatMap Option.toList ∧
        List.Forall₂ (TriedBetween step supply last) members results := by
  induction members generalizing supply candidates with
  | nil =>
      cases ends
      exact ⟨Nat.le_refl _, [], rfl, .nil⟩
  | cons placed rest ih =>
      rw [collect] at ends
      rcases outcome_bind_eq_ok_iff.mp ends with ⟨result, middle, gives, onward⟩
      rcases outcome_bind_eq_ok_iff.mp onward with ⟨others, final, restEnds, same⟩
      cases same
      rcases ih restEnds with ⟨later, results, rfl, tried⟩
      have first := takes placed supply
      rw [gives] at first
      refine ⟨Nat.le_trans first later, result :: results, rfl, ?_⟩
      refine .cons ⟨supply, middle, Nat.le_refl _, later, gives⟩ ?_
      exact tried.imp fun _ _ between => between.mono first (Nat.le_refl _)

/-- A message of a list of members is that of one of them. -/
theorem exists_of_collect_error
    (takes : ∀ placed, TakesOnly (step placed))
    {members : List PlacedMember}
    {message : Message}
    (fails : (outcome (collect step members) supply).1 = .error message) :
    ∃ before placed after start, members = before ++ placed :: after ∧
      supply.taken ≤ start.taken ∧ (outcome (step placed) start).1 = .error message ∧
      ∃ results, List.Forall₂ (TriedBetween step supply start) before results := by
  induction members generalizing supply with
  | nil => cases fails
  | cons placed rest ih =>
      rw [collect, outcome_bind_eq_error_iff] at fails
      rcases fails with stops | ⟨result, middle, gives, onward⟩
      · exact ⟨[], placed, rest, supply, rfl, Nat.le_refl _, stops, [], .nil⟩
      · rw [outcome_bind_eq_error_iff] at onward
        rcases onward with restFails | ⟨others, final, -, same⟩
        · have first := takes placed supply
          rw [gives] at first
          rcases ih restFails with
            ⟨before, other, after, start, rfl, later, stops, results, tried⟩
          refine ⟨placed :: before, other, after, start, rfl, Nat.le_trans first later, stops,
            result :: results, ?_⟩
          refine .cons ⟨supply, middle, Nat.le_refl _, later, gives⟩ ?_
          exact tried.imp fun _ _ between => between.mono first (Nat.le_refl _)
        · cases same

end Members

end SearchContext

end DataDerive
