import DataDerive.Proofs.Instance.Correspondence
import DataDerive.Proofs.Instance.Matches

/-!
# Groups of candidates

A search tries its members in groups: in each tier the members without
parameters, and then, if the target has parts, the members with parameters.  The
first group with a candidate is the one that decides.

The relations below follow a search through its groups and its supply of fresh
variables.  `Resolves`, `Tries`, `Gathers` and `Decisive` say what types, a
member, a group and all groups come to as long as no dependency ends the search;
`Asks` and its companions say which dependencies are searched on the way.
`Accounts` ties both to a step: it gives what the former allow, and it ends in a
message exactly if one of the latter does, other than by the lack of an instance.
-/

namespace DataDerive

open TypeExpr FreshNames Search

/-- The variables that are renamed apart before a member is tried. -/
def StaticMember.variables : StaticMember → List String
  | .field _ _ type => type.freeVars
  | .method _ _ typeParams parameters result =>
      SearchContext.methodNames typeParams parameters result

namespace PlacedMember

/--
What types of a member become in a goal that it matches, its variables renamed
apart, and the supply that the renaming leaves.
-/
def match?
    (placed : PlacedMember)
    (goal : Goal)
    (supply : FreshNames) : Option (TypeExpr → TypeExpr) × FreshNames :=
  let renamed := supply.renameApart placed.member.variables
  let matched := Unification.matchType? (renamed.1.substitute placed.member.provides) goal.type
  (matched.map fun found type => found.resolve (renamed.1.substitute type), renamed.2)

/-- Where a member is found, with its parts. -/
def location
    (placed : PlacedMember)
    (apply : TypeExpr → TypeExpr)
    (parts : List FoundInstance) : Location :=
  match placed.member with
  | .field name span _ => .field placed.source name span
  | .method name span typeParams _ _ =>
      .method placed.source name span
        ((typeParams.map Named.name).map fun name => (name, apply (.var name)))
        (parts.map FoundInstance.location)

/-- The candidate that a member with its parts is. -/
def candidate
    (placed : PlacedMember)
    (apply : TypeExpr → TypeExpr)
    (parts : List FoundInstance) : Candidate :=
  ⟨placed, placed.location apply parts, parts.any FoundInstance.lowPriority⟩

end PlacedMember

namespace SearchContext

/-! ## What a search comes to -/

section Relations

variable (solve : Goal → Search FoundInstance)

/--
The instances that types ask for, searched one after the other.  There are none
if one of the types is no goal or has no instance.
-/
inductive Resolves :
    List TypeExpr → FreshNames → Option (List FoundInstance) → FreshNames → Prop where
  | done (supply : FreshNames) : Resolves [] supply (some []) supply
  | noGoal {type : TypeExpr} {rest : List TypeExpr} {supply : FreshNames}
      (asksNothing : Goal.ofType? type = none) :
      Resolves (type :: rest) supply none supply
  | missing {type : TypeExpr} {rest : List TypeExpr} {supply left : FreshNames}
      {goal : Goal} {message : Message}
      (asks : Goal.ofType? type = some goal)
      (ends : outcome (solve goal) supply = (.error message, left))
      (noInstance : message.code = .noInstance) :
      Resolves (type :: rest) supply none left
  | found {type : TypeExpr} {rest : List TypeExpr} {supply middle left : FreshNames}
      {goal : Goal} {found : FoundInstance} {others : Option (List FoundInstance)}
      (asks : Goal.ofType? type = some goal)
      (ends : outcome (solve goal) supply = (.ok found, middle))
      (resolves : Resolves rest middle others left) :
      Resolves (type :: rest) supply (others.map (found :: ·)) left

/-- The goals that are searched for types, each with the supply it starts at. -/
inductive Asks : List TypeExpr → FreshNames → Goal → FreshNames → Prop where
  | now {type : TypeExpr} {rest : List TypeExpr} {supply : FreshNames} {goal : Goal}
      (asks : Goal.ofType? type = some goal) :
      Asks (type :: rest) supply goal supply
  | later {type : TypeExpr} {rest : List TypeExpr} {supply middle start : FreshNames}
      {goal asked : Goal} {found : FoundInstance}
      (asks : Goal.ofType? type = some goal)
      (ends : outcome (solve goal) supply = (.ok found, middle))
      (later : Asks rest middle asked start) :
      Asks (type :: rest) supply asked start

variable (goal : Goal)

/-- A member is a candidate if it matches and all its dependencies are resolved. -/
inductive Tries (placed : PlacedMember) (supply : FreshNames) :
    Option Candidate → FreshNames → Prop where
  | unmatched {left : FreshNames} (fails : placed.match? goal supply = (none, left)) :
      Tries placed supply none left
  | matched {apply : TypeExpr → TypeExpr} {middle left : FreshNames}
      {parts : Option (List FoundInstance)}
      (matches_ : placed.match? goal supply = (some apply, middle))
      (resolves : Resolves solve (placed.member.parameters.map apply) middle parts left) :
      Tries placed supply (parts.map (placed.candidate apply)) left

/-- The dependencies that are searched when a member is tried. -/
def MemberAsks (placed : PlacedMember) (supply : FreshNames)
    (asked : Goal) (start : FreshNames) : Prop :=
  ∃ apply middle, placed.match? goal supply = (some apply, middle) ∧
    Asks solve (placed.member.parameters.map apply) middle asked start

/-- The candidates among members, tried one after the other. -/
inductive Gathers :
    List PlacedMember → FreshNames → List Candidate → FreshNames → Prop where
  | done (supply : FreshNames) : Gathers [] supply [] supply
  | next {placed : PlacedMember} {rest : List PlacedMember} {supply middle left : FreshNames}
      {result : Option Candidate} {others : List Candidate}
      (tries : Tries solve goal placed supply result middle)
      (gathers : Gathers rest middle others left) :
      Gathers (placed :: rest) supply (result.toList ++ others) left

/-- The dependencies that are searched when members are tried. -/
inductive MembersAsk : List PlacedMember → FreshNames → Goal → FreshNames → Prop where
  | here {placed : PlacedMember} {rest : List PlacedMember} {supply start : FreshNames}
      {asked : Goal} (asks : MemberAsks solve goal placed supply asked start) :
      MembersAsk (placed :: rest) supply asked start
  | later {placed : PlacedMember} {rest : List PlacedMember} {supply middle start : FreshNames}
      {result : Option Candidate} {asked : Goal}
      (tries : Tries solve goal placed supply result middle)
      (later : MembersAsk rest middle asked start) :
      MembersAsk (placed :: rest) supply asked start

/-- Members that are tried together. -/
structure Group where
  members : List PlacedMember
  /-- Whether the members are those of providers of low priority. -/
  lowPriority : Bool

/--
The candidates of the first group that has some, and whether their providers are
of low priority; no candidates if no group has some.
-/
inductive Decisive : List Group → FreshNames → Bool → List Candidate → Prop where
  | none (supply : FreshNames) : Decisive [] supply false []
  | here {group : Group} {rest : List Group} {supply left : FreshNames}
      {candidates : List Candidate}
      (gathers : Gathers solve goal group.members supply candidates left)
      (nonempty : candidates ≠ []) :
      Decisive (group :: rest) supply group.lowPriority candidates
  | later {group : Group} {rest : List Group} {supply middle : FreshNames}
      {low : Bool} {candidates : List Candidate}
      (gathers : Gathers solve goal group.members supply [] middle)
      (decisive : Decisive rest middle low candidates) :
      Decisive (group :: rest) supply low candidates

/-- The dependencies that are searched in groups until one has a candidate. -/
inductive GroupsAsk : List Group → FreshNames → Goal → FreshNames → Prop where
  | here {group : Group} {rest : List Group} {supply start : FreshNames} {asked : Goal}
      (asks : MembersAsk solve goal group.members supply asked start) :
      GroupsAsk (group :: rest) supply asked start
  | later {group : Group} {rest : List Group} {supply middle start : FreshNames} {asked : Goal}
      (gathers : Gathers solve goal group.members supply [] middle)
      (later : GroupsAsk rest middle asked start) :
      GroupsAsk (group :: rest) supply asked start

end Relations

/-- A type has a structure: it is a type with arguments or a function type. -/
def Structured : TypeExpr → Prop
  | .var _ => False
  | .con _ arguments => arguments ≠ []
  | .arrow _ _ => True

theorem hasParts_iff {type : TypeExpr} : hasParts type = true ↔ Structured type := by
  cases type with
  | var | arrow => simp [hasParts, Structured]
  | con name arguments => cases arguments <;> simp [hasParts, Structured]

instance (type : TypeExpr) : Decidable (Structured type) :=
  decidable_of_iff _ hasParts_iff

/--
The groups of a tier: members without parameters, and those with parameters if the
type of the goal has a structure.
-/
def tierGroups (goal : Goal) (providers : List Provider) (lowPriority : Bool) : List Group :=
  let members := PlacedMember.ofProviders providers
  ⟨members.filter fun placed => placed.member.parameters.isEmpty, lowPriority⟩ ::
    if Structured goal.target then
      [⟨members.filter fun placed => !placed.member.parameters.isEmpty, lowPriority⟩]
    else
      []

/-- The groups of a goal, those of the normal providers first. -/
def groups (context : SearchContext) (goal : Goal) : List Group :=
  tierGroups goal context.providers false ++ tierGroups goal context.lowPriority true

/-! ## Steps and their dependencies -/

/--
A step gives what one relation allows, and the messages it ends in are those of
the dependencies in the other one that do not say that there is no instance.
-/
structure Accounts {α : Type} (solve : Goal → Search FoundInstance) (step : Search α)
    (gives : FreshNames → α → FreshNames → Prop)
    (asks : FreshNames → Goal → FreshNames → Prop) : Prop where
  value_iff : ∀ supply value left,
    outcome step supply = (.ok value, left) ↔ gives supply value left
  message_iff : ∀ supply message,
    (outcome step supply).1 = .error message ↔
      message.code ≠ .noInstance ∧
        ∃ asked start, asks supply asked start ∧
          (outcome (solve asked) start).1 = .error message

section Steps

variable {solve : Goal → Search FoundInstance} {goal : Goal}

/-- A step either gives something or fails by one of its dependencies. -/
theorem Accounts.cases {α : Type} {step : Search α}
    {gives : FreshNames → α → FreshNames → Prop}
    {asks : FreshNames → Goal → FreshNames → Prop}
    (accounts : Accounts solve step gives asks)
    (supply : FreshNames) :
    (∃ value left, gives supply value left ∧ outcome step supply = (.ok value, left)) ∨
    ∃ message asked start, asks supply asked start ∧ message.code ≠ .noInstance ∧
      (outcome (solve asked) start).1 = .error message ∧
      (outcome step supply).1 = .error message := by
  rcases ends : outcome step supply with ⟨message | value, left⟩
  · have fails := congrArg Prod.fst ends
    rcases (accounts.message_iff supply message).mp fails with
      ⟨present, asked, start, asks, stops⟩
    exact Or.inr ⟨message, asked, start, asks, present, stops, rfl⟩
  · exact Or.inl ⟨value, left, (accounts.value_iff supply value left).mp ends, rfl⟩

section Rules

variable {α β : Type} {step : Search α} {next : α → Search β}
variable {gives otherGives : FreshNames → α → FreshNames → Prop}
variable {asks otherAsks : FreshNames → Goal → FreshNames → Prop}

theorem Accounts.congr
    (accounts : Accounts solve step gives asks)
    (sameGives : ∀ supply value left, gives supply value left ↔ otherGives supply value left)
    (sameAsks : ∀ supply asked start, asks supply asked start ↔ otherAsks supply asked start) :
    Accounts solve step otherGives otherAsks where
  value_iff supply value left :=
    (accounts.value_iff supply value left).trans (sameGives supply value left)
  message_iff supply message := by
    rw [accounts.message_iff]
    simp only [sameAsks]

theorem outcome_modifyGet (change : FreshNames → α × FreshNames) (supply : FreshNames) :
    outcome (modifyGet change) supply = (.ok (change supply).1, (change supply).2) :=
  rfl

theorem accounts_modifyGet (change : FreshNames → α × FreshNames) :
    Accounts solve (modifyGet change) (fun supply value left => change supply = (value, left))
      fun _ _ _ => False where
  value_iff supply value left := by
    rw [outcome_modifyGet]
    simp only [Prod.ext_iff, Except.ok.injEq]
  message_iff supply message := by
    rw [outcome_modifyGet]
    simp only [reduceCtorEq, false_and, exists_false, and_false]

theorem accounts_pure (value : α) :
    Accounts solve (pure value) (fun supply found left => found = value ∧ left = supply)
      fun _ _ _ => False where
  value_iff supply found left := by
    rw [outcome_pure, Prod.mk.injEq, Except.ok.injEq]
    exact and_congr eq_comm eq_comm
  message_iff supply message := by
    rw [outcome_pure]
    simp only [reduceCtorEq, false_and, exists_false, and_false]

/-- The second of two steps has its dependencies where the first one ends. -/
theorem Accounts.bind
    {nextGives : α → FreshNames → β → FreshNames → Prop}
    {nextAsks : α → FreshNames → Goal → FreshNames → Prop}
    (first : Accounts solve step gives asks)
    (rest : ∀ found, Accounts solve (next found) (nextGives found) (nextAsks found)) :
    Accounts solve (step >>= next)
      (fun supply value left =>
        ∃ found middle, gives supply found middle ∧ nextGives found middle value left)
      fun supply asked start => asks supply asked start ∨
        ∃ found middle, gives supply found middle ∧ nextAsks found middle asked start where
  value_iff supply value left := by
    rw [outcome_bind_eq_ok_iff]
    simp only [first.value_iff, (rest _).value_iff]
  message_iff supply message := by
    rw [outcome_bind_eq_error_iff, first.message_iff]
    simp only [first.value_iff, (rest _).message_iff]
    constructor
    · rintro (⟨present, asked, start, searched, fails⟩ |
        ⟨found, middle, given, present, asked, start, searched, fails⟩)
      · exact ⟨present, asked, start, Or.inl searched, fails⟩
      · exact ⟨present, asked, start, Or.inr ⟨found, middle, given, searched⟩, fails⟩
    · rintro ⟨present, asked, start, searched | ⟨found, middle, given, searched⟩, fails⟩
      · exact Or.inl ⟨present, asked, start, searched, fails⟩
      · exact Or.inr ⟨found, middle, given, present, asked, start, searched, fails⟩

theorem Accounts.map {function : α → β} (accounts : Accounts solve step gives asks) :
    Accounts solve (function <$> step)
      (fun supply value left => ∃ found, gives supply found left ∧ function found = value)
      asks where
  value_iff supply value left := by
    rw [outcome_map_eq_ok_iff]
    simp only [accounts.value_iff]
  message_iff supply message := by
    rw [outcome_map_eq_error_iff, accounts.message_iff]

/-- A second step that needs a value of the first one, and gives nothing without it. -/
theorem Accounts.bindSome
    {step : Search (Option α)}
    {next : α → Search (Option β)}
    {gives : FreshNames → Option α → FreshNames → Prop}
    {nextGives : α → FreshNames → Option β → FreshNames → Prop}
    {nextAsks : α → FreshNames → Goal → FreshNames → Prop}
    (first : Accounts solve step gives asks)
    (rest : ∀ found, Accounts solve (next found) (nextGives found) (nextAsks found)) :
    Accounts solve (step >>= fun result => result.elim (pure none) next)
      (fun supply value left => gives supply none left ∧ value = none ∨
        ∃ found middle, gives supply (some found) middle ∧ nextGives found middle value left)
      fun supply asked start => asks supply asked start ∨
        ∃ found middle, gives supply (some found) middle ∧
          nextAsks found middle asked start := by
  have either (result : Option α) : Accounts solve (result.elim (pure none) next)
      (fun middle value left => result.elim (value = none ∧ left = middle)
        fun found => nextGives found middle value left)
      (fun middle asked start => result.elim False
        fun found => nextAsks found middle asked start) := by
    cases result with
    | none => exact accounts_pure none
    | some found => exact rest found
  refine (first.bind either).congr (fun supply value left => ?_) fun supply asked start => ?_
  · simp [Option.exists, and_comm]
  · simp [Option.exists]

end Rules

/-! ## Types -/

/-- A goal that is attempted is the only dependency. -/
theorem accounts_attempt (goal : Goal) :
    Accounts solve (attempt (solve goal))
      (fun supply result left => match result with
        | none => ∃ message, outcome (solve goal) supply = (.error message, left) ∧
            message.code = .noInstance
        | some found => outcome (solve goal) supply = (.ok found, left))
      (fun supply asked start => asked = goal ∧ start = supply) where
  value_iff supply result left := by
    cases result with
    | none => exact outcome_attempt_eq_none_iff
    | some found => exact outcome_attempt_eq_some_iff
  message_iff supply message := by
    rw [outcome_attempt_eq_error_iff]
    constructor
    · rintro ⟨present, fails⟩
      exact ⟨present, goal, supply, ⟨rfl, rfl⟩, fails⟩
    · rintro ⟨present, asked, start, ⟨rfl, rfl⟩, fails⟩
      exact ⟨present, fails⟩

/-- Nothing is resolved if the first of some types is no goal. -/
theorem accounts_noGoal {type : TypeExpr} (rest : List TypeExpr)
    (asksNothing : Goal.ofType? type = none) :
    Accounts solve (pure none) (Resolves solve (type :: rest)) (Asks solve (type :: rest)) := by
  refine (accounts_pure none).congr (fun supply value left => ⟨?_, ?_⟩)
    fun supply asked start => ⟨False.elim, ?_⟩
  · rintro ⟨rfl, rfl⟩
    exact .noGoal asksNothing
  · intro resolves
    cases resolves with
    | noGoal => exact ⟨rfl, rfl⟩
    | missing asks => cases asksNothing.symm.trans asks
    | found asks => cases asksNothing.symm.trans asks
  · intro searched
    cases searched with
    | now asks => cases asksNothing.symm.trans asks
    | later asks => cases asksNothing.symm.trans asks

/-- If the first of some types is a goal, it is searched before the rest. -/
theorem accounts_goal {type : TypeExpr} {rest : List TypeExpr} {goal : Goal}
    (asks : Goal.ofType? type = some goal)
    (accounts : Accounts solve (solveAll? solve rest) (Resolves solve rest) (Asks solve rest)) :
    Accounts solve (consIfSome (attempt (solve goal)) (solveAll? solve rest))
      (Resolves solve (type :: rest)) (Asks solve (type :: rest)) := by
  have same : consIfSome (attempt (solve goal)) (solveAll? solve rest) =
      attempt (solve goal) >>= fun result => result.elim (pure none) fun found =>
        Option.map (found :: ·) <$> solveAll? solve rest := by
    rw [consIfSome]
    congr 1
    ext1 result
    cases result with
    | none => rfl
    | some found => exact congrArg ExceptT.run (map_eq_pure_bind _ _).symm
  rw [same]
  refine ((accounts_attempt goal).bindSome fun _ => accounts.map).congr
    (fun supply value left => ⟨?_, ?_⟩) fun supply asked start => ⟨?_, ?_⟩
  · rintro (⟨⟨message, fails, missing⟩, rfl⟩ | ⟨found, middle, ends, others, resolves, rfl⟩)
    · exact .missing asks fails missing
    · exact .found asks ends resolves
  · intro resolves
    cases resolves with
    | noGoal asksNothing => cases asks.symm.trans asksNothing
    | missing isGoal fails missing =>
        cases asks.symm.trans isGoal
        exact Or.inl ⟨⟨_, fails, missing⟩, rfl⟩
    | found isGoal ends resolves =>
        cases asks.symm.trans isGoal
        exact Or.inr ⟨_, _, ends, _, resolves, rfl⟩
  · rintro (⟨rfl, rfl⟩ | ⟨found, middle, ends, later⟩)
    · exact .now asks
    · exact .later asks ends later
  · intro searched
    cases searched with
    | now isGoal =>
        cases asks.symm.trans isGoal
        exact Or.inl ⟨rfl, rfl⟩
    | later isGoal ends later =>
        cases asks.symm.trans isGoal
        exact Or.inr ⟨_, _, ends, later⟩

/-- Types are resolved one after the other, and each search for one is a dependency. -/
theorem accounts_solveAll (solve : Goal → Search FoundInstance) (types : List TypeExpr) :
    Accounts solve (solveAll? solve types) (Resolves solve types) (Asks solve types) := by
  induction types with
  | nil =>
      refine (accounts_pure (some [])).congr (fun supply value left => ⟨?_, ?_⟩)
        fun supply asked start => ⟨False.elim, nofun⟩
      · rintro ⟨rfl, rfl⟩
        exact .done left
      · rintro ⟨⟩
        exact ⟨rfl, rfl⟩
  | cons type rest ih =>
      rw [solveAll?_cons]
      cases asks : Goal.ofType? type with
      | none => exact accounts_noGoal rest asks
      | some goal => exact accounts_goal asks ih

/-! ## Members -/

/-- Try a member with or without parameters. -/
def tryMember (solve : Goal → Search FoundInstance) (goal : Goal) (placed : PlacedMember) :
    Search (Option Candidate) := do
  let matched ← modifyGet (placed.match? goal)
  matched.elim (pure none) fun apply =>
    Option.map (placed.candidate apply) <$> solveAll? solve (placed.member.parameters.map apply)

/-- A member is tried by matching it and then resolving its parameters. -/
theorem accounts_tryMember (solve : Goal → Search FoundInstance) (goal : Goal)
    (placed : PlacedMember) :
    Accounts solve (tryMember solve goal placed) (Tries solve goal placed)
      (MemberAsks solve goal placed) := by
  rw [tryMember]
  refine ((accounts_modifyGet (placed.match? goal)).bindSome fun _ =>
    (accounts_solveAll solve _).map).congr
      (fun supply value left => ⟨?_, ?_⟩) fun supply asked start => iff_of_eq (false_or _)
  · rintro (⟨fails, rfl⟩ | ⟨apply, middle, matched, parts, resolves, rfl⟩)
    · exact .unmatched fails
    · exact .matched matched resolves
  · intro tries
    cases tries with
    | unmatched fails => exact Or.inl ⟨fails, rfl⟩
    | matched matches_ resolves => exact Or.inr ⟨_, _, matches_, _, resolves, rfl⟩

/-- A method is instantiated by what its types become when it is matched. -/
theorem instantiate_eq {placed : PlacedMember} {name : String} {span : Span}
    {typeParams : List Named} {parameters : List TypeExpr} {result : TypeExpr}
    (isMethod : placed.member = .method name span typeParams parameters result) :
    instantiate goal typeParams parameters result =
      Option.map (fun apply =>
        ⟨(typeParams.map Named.name).map fun name => (name, apply (.var name)),
          parameters.map apply⟩) <$> modifyGet (placed.match? goal) := by
  apply ext
  intro supply
  rw [outcome_map_eq_ok_iff.mpr ⟨_, outcome_modifyGet _ supply, rfl⟩, PlacedMember.match?,
    isMethod, Option.map_map]
  rfl

/-- A member without parameters is a candidate if it matches. -/
theorem tryMember_of_simple {placed : PlacedMember} (simple : placed.member.parameters = []) :
    tryMember solve goal placed =
      Option.map (fun apply => placed.candidate apply []) <$>
        modifyGet (placed.match? goal) := by
  rw [tryMember, simple, map_eq_pure_bind]
  congr 1
  ext1 matched
  cases matched <;> rfl

theorem candidate_of_field {placed : PlacedMember} {name : String} {span : Span} {type : TypeExpr}
    (isField : placed.member = .field name span type) (apply : TypeExpr → TypeExpr) :
    placed.candidate apply [] = ⟨placed, .field placed.source name span, false⟩ := by
  rw [PlacedMember.candidate, PlacedMember.location, isField]
  rfl

theorem candidate_of_method {placed : PlacedMember} {name : String} {span : Span}
    {typeParams : List Named} {parameters : List TypeExpr} {result : TypeExpr}
    (isMethod : placed.member = .method name span typeParams parameters result)
    (apply : TypeExpr → TypeExpr)
    (parts : List FoundInstance) :
    placed.candidate apply parts =
      ⟨placed, .method placed.source name span
        ((typeParams.map Named.name).map fun name => (name, apply (.var name)))
        (parts.map FoundInstance.location), parts.any FoundInstance.lowPriority⟩ := by
  rw [PlacedMember.candidate, PlacedMember.location, isMethod]

theorem direct_eq_tryMember {placed : PlacedMember} (simple : placed.member.parameters = []) :
    direct? goal placed = tryMember solve goal placed := by
  rw [tryMember_of_simple simple, direct?]
  split
  next name span type isField =>
    apply ext
    intro supply
    rw [outcome_map_eq_ok_iff.mpr ⟨_, outcome_modifyGet _ supply, rfl⟩, PlacedMember.match?,
      isField, Option.map_map]
    simp only [Function.comp_def, candidate_of_field isField]
    rfl
  next name span typeParams result isMethod =>
    rw [instantiate_eq isMethod, bind_map_left, map_eq_pure_bind]
    congr 1
    ext1 matched
    simp only [candidate_of_method isMethod]
    cases matched <;> rfl
  next name span typeParams first rest result isMethod =>
    rw [isMethod] at simple
    cases simple

theorem combined_eq_tryMember {placed : PlacedMember}
    (composed : placed.member.parameters ≠ []) :
    combined? solve goal placed = tryMember solve goal placed := by
  rw [combined?]
  split
  next name span typeParams first rest result isMethod =>
    have parameters : placed.member.parameters = first :: rest := by
      rw [isMethod]
      rfl
    rw [instantiate_eq isMethod, tryMember, bind_map_left, parameters]
    congr 1
    ext1 matched
    cases matched with
    | none => rfl
    | some apply =>
        rw [Option.elim_some, map_eq_pure_bind, funext (candidate_of_method isMethod apply)]
        rfl
  next other =>
    cases isMember : placed.member with
    | field name span type =>
        rw [isMember] at composed
        exact absurd rfl composed
    | method name span typeParams parameters result =>
        cases parameters with
        | nil =>
            rw [isMember] at composed
            exact absurd rfl composed
        | cons first rest => exact (other name span typeParams first rest result isMember).elim

/-! ## Lists of members -/

/-- Members are tried one after the other. -/
theorem accounts_collect (solve : Goal → Search FoundInstance) (goal : Goal)
    (members : List PlacedMember) :
    Accounts solve (collect (tryMember solve goal) members) (Gathers solve goal members)
      (MembersAsk solve goal members) := by
  induction members with
  | nil =>
      refine (accounts_pure []).congr (fun supply value left => ⟨?_, ?_⟩)
        fun supply asked start => ⟨False.elim, nofun⟩
      · rintro ⟨rfl, rfl⟩
        exact .done left
      · rintro ⟨⟩
        exact ⟨rfl, rfl⟩
  | cons placed rest ih =>
      have same : collect (tryMember solve goal) (placed :: rest) =
          tryMember solve goal placed >>= fun result =>
            (result.toList ++ ·) <$> collect (tryMember solve goal) rest := by
        simp only [collect, map_eq_pure_bind]
      rw [same]
      refine ((accounts_tryMember solve goal placed).bind fun _ => ih.map).congr
        (fun supply value left => ⟨?_, ?_⟩) fun supply asked start => ⟨?_, ?_⟩
      · rintro ⟨result, middle, tries, others, gathers, rfl⟩
        exact .next tries gathers
      · intro gathers
        cases gathers with
        | next tries gathers => exact ⟨_, _, tries, _, gathers, rfl⟩
      · rintro (asks | ⟨result, middle, tries, later⟩)
        · exact .here asks
        · exact .later tries later
      · intro asks
        cases asks with
        | here asks => exact Or.inl asks
        | later tries later => exact Or.inr ⟨_, _, tries, later⟩

/-- Members that a step leaves out need not be tried. -/
theorem collect_filter {step other : PlacedMember → Search (Option Candidate)}
    {keeps : PlacedMember → Bool}
    (same : ∀ placed, keeps placed = true → step placed = other placed)
    (leaves : ∀ placed, keeps placed = false → step placed = pure none)
    (members : List PlacedMember) :
    collect step members = collect other (members.filter keeps) := by
  induction members with
  | nil => rfl
  | cons placed rest ih =>
      rw [collect]
      cases kept : keeps placed with
      | true => rw [List.filter_cons_of_pos kept, collect, same placed kept, ih]
      | false =>
          have gone : ¬ keeps placed = true := Bool.eq_false_iff.mp kept
          rw [List.filter_cons_of_neg gone, leaves placed kept, ih]
          simp

theorem collect_direct (solve : Goal → Search FoundInstance) (goal : Goal)
    (members : List PlacedMember) :
    collect (direct? goal) members =
      collect (tryMember solve goal)
        (members.filter fun placed => placed.member.parameters.isEmpty) := by
  apply collect_filter
  · intro placed simple
    exact direct_eq_tryMember (List.isEmpty_iff.mp simple)
  · intro placed composed
    rw [direct?]
    split
    next isField => simp [isField, StaticMember.parameters] at composed
    next isMethod => simp [isMethod, StaticMember.parameters] at composed
    next => rfl

theorem collect_combined (solve : Goal → Search FoundInstance) (goal : Goal)
    (members : List PlacedMember) :
    collect (combined? solve goal) members =
      collect (tryMember solve goal)
        (members.filter fun placed => !placed.member.parameters.isEmpty) := by
  apply collect_filter
  · intro placed composed
    apply combined_eq_tryMember
    rintro simple
    simp [simple] at composed
  · intro placed simple
    rw [combined?]
    split
    next isMethod => simp [isMethod, StaticMember.parameters] at simple
    next => rfl

end Steps

/-! ## Groups -/

/-- Search a goal in groups of members, one after the other. -/
def searchGroups (context : SearchContext) (solve : Goal → Search FoundInstance) (goal : Goal) :
    List Group → Search FoundInstance
  | [] => throw (context.missing goal)
  | group :: rest => do
      match ← context.pick goal (← collect (tryMember solve goal) group.members) with
      | some found => return { found with lowPriority := found.lowPriority || group.lowPriority }
      | none => context.searchGroups solve goal rest

/-- Searching a tier and then further groups is searching groups. -/
theorem searchTier_bind (context : SearchContext) (solve : Goal → Search FoundInstance)
    (goal : Goal) (providers : List Provider) (low : Bool) (rest : List Group) :
    (context.searchTier solve goal providers >>= fun result =>
        match result with
        | some found => pure { found with lowPriority := found.lowPriority || low }
        | none => context.searchGroups solve goal rest) =
      context.searchGroups solve goal (tierGroups goal providers low ++ rest) := by
  rw [searchTier, tierGroups, List.cons_append, searchGroups, collect_direct solve, bind_assoc]
  congr 1
  ext1 candidates
  rw [bind_assoc]
  congr 1
  ext1 picked
  cases picked with
  | some found => exact pure_bind _ _
  | none =>
      dsimp only
      by_cases structural : Structured goal.target
      · rw [if_pos (hasParts_iff.mpr structural), if_pos structural, List.cons_append,
          List.nil_append, searchGroups, collect_combined solve, bind_assoc]
      · rw [if_neg (mt hasParts_iff.mp structural), if_neg structural, List.nil_append, pure_bind]

/-- A goal is searched in its groups. -/
theorem searchTiers_eq_searchGroups (context : SearchContext)
    (solve : Goal → Search FoundInstance) (goal : Goal) :
    context.searchTiers solve goal = context.searchGroups solve goal (context.groups goal) := by
  rw [groups, ← searchTier_bind, searchTiers]
  congr 1
  ext1 normal
  cases normal with
  | some found => simp
  | none =>
      have last := searchTier_bind context solve goal context.lowPriority true []
      rw [List.append_nil] at last
      rw [← last]
      dsimp only
      congr 1
      ext1 low
      cases low with
      | some found => simp
      | none => rfl

end SearchContext

end DataDerive
