import DataDerive.Proofs.Instance.Derives
import DataDerive.Proofs.Instance.Steps
import DataDerive.Proofs.Unification.Matching

/-!
# Instances that are found are derivations

Each function of the search has one lemma about what it ensures, for a way to
solve goals that is only known to answer with derivations.  The search with a
bounded number of levels is such a way by induction on the bound, whatever
choices of types are admissible as long as all choices for the members that are
searched are.
-/

namespace DataDerive

open TypeExpr FreshNames Search

/-- The type arguments and parameter types that a choice of types amounts to. -/
def SearchContext.Instantiation.ofChoice
    (signature : Signature)
    (choice : String → TypeExpr) : SearchContext.Instantiation :=
  ⟨signature.typeArguments choice, signature.parameters.map (TypeExpr.replace choice)⟩

namespace SearchContext

/-! ## Messages -/

/-- A message that does not say that there is no instance. -/
def IsRefusal (message : Message) : Prop :=
  message.code ∈ [Code.ambiguousInstance, Code.searchTooDeep, Code.internal]

/-- A message that a search may end with. -/
def IsNegative (message : Message) : Prop :=
  message.code = .noInstance ∨ IsRefusal message

theorem IsRefusal.isNegative {message : Message} (refusal : IsRefusal message) :
    IsNegative message :=
  Or.inr refusal

/-! ## Type arguments -/

/-- The instance for a type parameter of the data type that stands for a type. -/
def typeArgument
    (solve : Goal → Search FoundInstance)
    (className name : String)
    (argument : TypeExpr) : Search FoundInstance :=
  if argument = .var name then
    pure ⟨.parameter className name, false⟩
  else
    solve ⟨className, argument⟩

theorem typeParameters_cons
    (solve : Goal → Search FoundInstance)
    (className : String)
    (arguments : Substitution)
    (name : String)
    (rest : List String) :
    typeParameters solve className arguments (name :: rest) =
      typeArgument solve className name (arguments.resolve (.var name)) >>= fun found =>
        (found :: ·) <$> typeParameters solve className arguments rest := by
  rw [typeParameters, typeArgument]
  split
  · simp
  · simp

/-- What the data type's parameters stand for where it matches are the type's arguments. -/
theorem arguments_of_matchType?
    {context : SearchContext}
    {arguments : List TypeExpr}
    {found : Substitution}
    (success : Unification.matchType? context.data.selfType (.con context.data.name arguments) =
      some found) :
    arguments = context.data.typeParams.map fun name => found.resolve (.var name) := by
  have resolved := Unification.resolve_of_matchType? success
  rw [DataType.selfType, Substitution.resolve_con, List.map_map] at resolved
  exact (TypeExpr.con.inj resolved).2.symm

/-! ## Members -/

theorem exists_provider_of_mem_ofProviders
    {providers : List Provider}
    {placed : PlacedMember}
    (member : placed ∈ PlacedMember.ofProviders providers) :
    ∃ provider ∈ providers, provider.name = placed.source ∧ placed.member ∈ provider.members := by
  rcases List.mem_flatMap.mp member with ⟨⟨provider, priority⟩, listed, inside⟩
  rcases List.mem_map.mp inside with ⟨found, ofProvider, rfl⟩
  exact ⟨provider, List.fst_mem_of_mem_zipIdx listed, rfl, ofProvider⟩

/-- Matching a method against a goal is matching its result, renamed apart. -/
theorem instantiate_ensures
    (supply : FreshNames)
    (goal : Goal)
    (typeParams : List Named)
    (parameters : List TypeExpr)
    (result : TypeExpr)
    {message : Message → Prop} :
    Ensures (instantiate goal typeParams parameters result) supply
      (fun matched left => ∃ names renamed variant,
        (∀ name ∈ (TypeExpr.arrow parameters result).variableOccurrences, name ∈ names) ∧
        RenamesApart names supply left renamed variant ∧
        matched = (Unification.matchType? (result.replace fun name => .var (variant name))
          goal.type).map fun found =>
            .ofChoice (.ofMethod typeParams parameters result) fun name =>
              found.resolve (.var (variant name)))
      message := by
  rw [instantiate]
  apply (ensures_renameApart supply _).bind
  intro renamed left _ renames
  rcases renames with ⟨variant, renames⟩
  have covered : ∀ name ∈ (TypeExpr.arrow parameters result).variableOccurrences,
      name ∈ typeParams.map Named.name ++ (TypeExpr.arrow parameters result).freeVars.filter
        fun name => !(typeParams.map Named.name).contains name := by
    intro name occurs
    by_cases declared : name ∈ typeParams.map Named.name
    · exact List.mem_append_left _ declared
    · refine List.mem_append_right _ (List.mem_filter.mpr ⟨mem_freeVars.mpr occurs, ?_⟩)
      simpa using declared
  refine ensures_pure ⟨_, renamed, variant, covered, renames, ?_⟩
  rw [renames.substitute fun name occurs => covered name (mem_variableOccurrences_result occurs)]
  congr 1
  ext1 found
  rw [Instantiation.ofChoice, Instantiation.mk.injEq]
  constructor
  · apply List.map_congr_left
    intro name declared
    change (name, found.resolve (renamed.substitute (.var name))) = _
    rw [renames.substitute_var (List.mem_append_left _ declared)]
  · apply List.map_congr_left
    intro parameter member
    rw [renames.substitute fun name occurs =>
      covered name (mem_variableOccurrences_parameter member occurs)]
    exact found.resolve_replace _ _

/-- A match of a method against a goal makes its result the goal's type. -/
theorem instantiate_sound
    (supply : FreshNames)
    (goal : Goal)
    (typeParams : List Named)
    (parameters : List TypeExpr)
    (result : TypeExpr)
    {message : Message → Prop} :
    Ensures (instantiate goal typeParams parameters result) supply
      (IfSome fun found => ∃ choice, result.replace choice = goal.type ∧
        found = .ofChoice (.ofMethod typeParams parameters result) choice)
      message := by
  refine (instantiate_ensures supply goal typeParams parameters result).mono ?_ fun _ => id
  rintro matched left - ⟨names, renamed, variant, -, -, rfl⟩ found isFound
  rcases Option.map_eq_some_iff.mp isFound with ⟨bindings, success, rfl⟩
  exact ⟨_, Unification.replace_of_matchType? success, rfl⟩

/-! ## What is found -/

section Sound

variable (context : SearchContext) (admissible : Signature → (String → TypeExpr) → Prop)

/-- An instance serves a goal, and it is marked exactly if it uses a member of low priority. -/
def Serves (goal : Goal) (found : FoundInstance) : Prop :=
  ∃ tiers, Derives context admissible goal found.location tiers ∧
    (found.lowPriority = true ↔ Tier.low ∈ tiers)

/-- Instances serve goals, one for each. -/
def ServeAll (goals : List Goal) (found : List FoundInstance) : Prop :=
  ∃ tiers, DerivesAll context admissible goals (found.map FoundInstance.location) tiers ∧
    (found.any FoundInstance.lowPriority = true ↔ Tier.low ∈ tiers)

/-- As `Serves`, with a member of a tier outermost, which the mark leaves out. -/
def ServesFrom (tier : Tier) (goal : Goal) (found : FoundInstance) : Prop :=
  ∃ tiers, Derives context admissible goal found.location (tier :: tiers) ∧
    (found.lowPriority = true ↔ Tier.low ∈ tiers)

/-- A way to solve goals answers with instances that serve them. -/
def SolvesSoundly (solve : Goal → Search FoundInstance) : Prop :=
  ∀ goal supply,
    Ensures (solve goal) supply (fun found _ => Serves context admissible goal found) IsNegative

variable {context admissible}

theorem serveAll_nil : ServeAll context admissible [] [] :=
  ⟨[], .nil, by simp⟩

theorem Serves.cons
    {goal : Goal}
    {goals : List Goal}
    {found : FoundInstance}
    {others : List FoundInstance}
    (first : Serves context admissible goal found)
    (rest : ServeAll context admissible goals others) :
    ServeAll context admissible (goal :: goals) (found :: others) := by
  rcases first with ⟨tiers, derives, marked⟩
  rcases rest with ⟨otherTiers, othersDerive, othersMarked⟩
  refine ⟨tiers ++ otherTiers, .cons derives othersDerive, ?_⟩
  rw [List.any_cons, Bool.or_eq_true, List.mem_append, marked, othersMarked]

/-! ## One tier -/

variable {tier : Tier} {goal : Goal} {placed : PlacedMember}

theorem direct_ensures
    (admits : context.Admits admissible)
    (notOwn : context.isOwn goal = false)
    (listed : placed ∈ PlacedMember.ofProviders (context.tier tier))
    (supply : FreshNames) :
    Ensures (direct? goal placed) supply
      (IfSome fun candidate => ServesFrom context admissible tier goal candidate.found)
      IsRefusal := by
  rcases exists_provider_of_mem_ofProviders listed with ⟨provider, inTier, isSource, member⟩
  rw [direct?]
  split
  next name span type isField =>
    apply (ensures_renameApart supply _).bind
    intro renamed left _ renames
    rcases renames with ⟨variant, renames⟩
    apply ensures_pure
    intro found isFound
    rcases Option.map_eq_some_iff.mp isFound with ⟨bindings, success, rfl⟩
    rw [renames.substitute fun name occurs => mem_freeVars.mpr occurs] at success
    rw [isField] at member
    refine ⟨[], ?_, by simp⟩
    rw [← isSource]
    exact .field notOwn inTier member (Unification.replace_of_matchType? success)
  next name span typeParams result isMethod =>
    apply (instantiate_sound supply goal typeParams [] result).bind
    intro matched left _ sound
    apply ensures_pure
    intro found isFound
    rcases Option.map_eq_some_iff.mp isFound with ⟨instantiation, isMatched, rfl⟩
    rcases sound instantiation isMatched with ⟨choice, matches_, rfl⟩
    rw [isMethod] at member
    refine ⟨[], ?_, by simp⟩
    rw [← isSource]
    exact .method notOwn inTier member (fun some => absurd rfl some)
      (admits tier provider inTier _ _ _ _ _ member choice) matches_ rfl .nil
  next => exact ensures_none

/-- What holds of every candidate that a step gives holds of all that are kept. -/
theorem collect_ensures
    {step : PlacedMember → Search (Option Candidate)}
    {holds : Candidate → Prop}
    {message : Message → Prop}
    {members : List PlacedMember}
    (gives : ∀ placed ∈ members, ∀ supply,
      Ensures (step placed) supply (IfSome holds) message)
    (supply : FreshNames) :
    Ensures (collect step members) supply
      (fun candidates _ => ∀ candidate ∈ candidates, holds candidate) message := by
  induction members generalizing supply with
  | nil =>
      rw [collect]
      exact ensures_pure fun candidate member => by cases member
  | cons placed rest ih =>
      rw [collect]
      apply (gives placed List.mem_cons_self supply).bind
      intro first left _ firstHolds
      apply (ih (fun other member => gives other (List.mem_cons_of_mem _ member)) left).bind
      intro others last _ othersHold
      apply ensures_pure
      intro candidate member
      rcases List.mem_append.mp member with isFirst | isOther
      · exact firstHolds candidate (Option.mem_toList.mp isFirst)
      · exact othersHold candidate isOther

theorem solve?_ensures
    {solve : Goal → Search FoundInstance}
    (solves : SolvesSoundly context admissible solve)
    (goal : Goal)
    (supply : FreshNames) :
    Ensures (solve? solve goal) supply (IfSome (Serves context admissible goal)) IsRefusal := by
  have solved : Ensures (some <$> solve goal) supply
      (IfSome (Serves context admissible goal)) IsNegative := by
    refine Ensures.map ((solves goal supply).mono ?_ fun _ => id)
    rintro found left - serves other same
    exact Option.some.inj same ▸ serves
  rw [solve?]
  apply solved.tryCatch
  intro fault left _ negative
  split
  next => exact ensures_none
  next present =>
    rcases negative with absent | refusal
    · exact absurd absent present
    · exact ensures_throw refusal

theorem solveAll?_ensures
    {solve : Goal → Search FoundInstance}
    (solves : SolvesSoundly context admissible solve)
    (types : List TypeExpr)
    (supply : FreshNames) :
    Ensures (solveAll? solve types) supply
      (IfSome fun found =>
        ∃ goals, types = goals.map Goal.type ∧ ServeAll context admissible goals found)
      IsRefusal := by
  induction types generalizing supply with
  | nil =>
      rw [solveAll?]
      refine ensures_pure fun found same => ⟨[], rfl, ?_⟩
      cases same
      exact serveAll_nil
  | cons type rest ih =>
      rw [solveAll?]
      split
      next => exact ensures_none
      next goal asks =>
        apply (solve?_ensures solves goal supply).bind
        intro first left _ firstServes
        split
        next => exact ensures_none
        next found =>
          apply (ih left).bind
          intro others last _ othersServe
          apply ensures_pure
          intro all same
          rcases Option.map_eq_some_iff.mp same with ⟨tail, isTail, rfl⟩
          rcases othersServe tail isTail with ⟨goals, asked, serve⟩
          refine ⟨goal :: goals, ?_, (firstServes found rfl).cons serve⟩
          rw [List.map_cons, ← asked, Goal.type_of_ofType? asks]

theorem combined_ensures
    {solve : Goal → Search FoundInstance}
    (admits : context.Admits admissible)
    (solves : SolvesSoundly context admissible solve)
    (notOwn : context.isOwn goal = false)
    (structural : hasParts goal.target = true)
    (listed : placed ∈ PlacedMember.ofProviders (context.tier tier))
    (supply : FreshNames) :
    Ensures (combined? solve goal placed) supply
      (IfSome fun candidate => ServesFrom context admissible tier goal candidate.found)
      IsRefusal := by
  rcases exists_provider_of_mem_ofProviders listed with ⟨provider, inTier, isSource, member⟩
  rw [combined?]
  split
  next name span typeParams first rest result isMethod =>
    apply (instantiate_sound supply goal typeParams (first :: rest) result).bind
    intro matched left _ sound
    split
    next => exact ensures_none
    next instantiation =>
      rcases sound instantiation rfl with ⟨choice, equal, rfl⟩
      apply (solveAll?_ensures solves _ left).bind
      intro parts last _ partsServe
      apply ensures_pure
      intro found same
      rcases Option.map_eq_some_iff.mp same with ⟨all, isAll, rfl⟩
      rcases partsServe all isAll with ⟨goals, asked, tiers, derives, marked⟩
      rw [isMethod] at member
      refine ⟨tiers, ?_, marked⟩
      rw [← isSource]
      exact .method notOwn inTier member (fun _ => structural)
        (admits tier provider inTier _ _ _ _ _ member choice) equal asked derives
  next => exact ensures_none

/-- The best candidate is a candidate. -/
theorem mem_of_pick
    {candidates : List Candidate}
    {found : FoundInstance}
    (picked : context.pick goal candidates = .ok (some found)) :
    ∃ candidate ∈ candidates, candidate.found = found := by
  rw [pick] at picked
  split at picked
  next => cases picked
  next candidate isBest =>
    have isFound : candidate.found = found := by simpa using picked
    refine ⟨candidate, ?_, isFound⟩
    have member : candidate ∈ Candidate.best candidates := by rw [isBest]; exact List.mem_cons_self
    exact (List.mem_filter.mp member).1
  next => cases picked

theorem pick_isRefusal
    {candidates : List Candidate}
    {fault : Message}
    (picked : context.pick goal candidates = .error fault) :
    IsRefusal fault := by
  rw [pick] at picked
  split at picked
  next => cases picked
  next => cases picked
  next => cases picked; exact List.mem_cons_self

theorem pick_ensures
    {candidates : List Candidate}
    {holds : FoundInstance → Prop}
    (allHold : ∀ candidate ∈ candidates, holds candidate.found)
    (supply : FreshNames) :
    Ensures (liftM (context.pick goal candidates)) supply (IfSome holds) IsRefusal := by
  refine ensures_liftM ?_
  cases picked : context.pick goal candidates with
  | error fault => exact pick_isRefusal picked
  | ok result =>
      rintro found rfl
      rcases mem_of_pick picked with ⟨candidate, member, rfl⟩
      exact allHold candidate member

theorem searchTier_ensures
    {solve : Goal → Search FoundInstance}
    (admits : context.Admits admissible)
    (solves : SolvesSoundly context admissible solve)
    (notOwn : context.isOwn goal = false)
    (tier : Tier)
    (supply : FreshNames) :
    Ensures (context.searchTier solve goal (context.tier tier)) supply
      (IfSome (ServesFrom context admissible tier goal)) IsRefusal := by
  rw [searchTier]
  apply (collect_ensures (fun placed listed => direct_ensures admits notOwn listed) supply).bind
  intro simple left _ simpleServe
  apply (pick_ensures simpleServe left).bind
  intro picked after _ pickedServes
  split
  next found => exact ensures_pure pickedServes
  next =>
    split
    next structural =>
      apply (collect_ensures (fun placed listed =>
        combined_ensures admits solves notOwn structural listed) after).bind
      intro composed last _ composedServe
      exact pick_ensures composedServe last
    next => exact ensures_none

/-! ## A whole search -/

theorem searchTiers_ensures
    {solve : Goal → Search FoundInstance}
    (admits : context.Admits admissible)
    (solves : SolvesSoundly context admissible solve)
    (notOwn : context.isOwn goal = false)
    (supply : FreshNames) :
    Ensures (context.searchTiers solve goal) supply
      (fun found _ => Serves context admissible goal found) IsNegative := by
  have inTier (tier : Tier) (start : FreshNames) :=
    (searchTier_ensures admits solves notOwn tier start).mono
      (fun _ _ _ => id) fun _ => IsRefusal.isNegative
  rw [searchTiers]
  apply (inTier .normal supply).bind
  intro result left _ normalServes
  split
  next found =>
    rcases normalServes found rfl with ⟨tiers, derives, marked⟩
    refine ensures_pure ⟨_, derives, ?_⟩
    simpa using marked
  next =>
    apply (inTier .low left).bind
    intro result last _ lowServes
    split
    next found =>
      rcases lowServes found rfl with ⟨tiers, derives, -⟩
      exact ensures_pure ⟨_, derives, by simp⟩
    next => exact ensures_throw (Or.inl rfl)

theorem typeArgument_ensures
    {solve : Goal → Search FoundInstance}
    (solves : SolvesSoundly context admissible solve)
    (className : String)
    {name : String}
    (declared : name ∈ context.data.typeParams)
    (argument : TypeExpr)
    (supply : FreshNames) :
    Ensures (typeArgument solve className name argument) supply
      (fun found _ => Serves context admissible ⟨className, argument⟩ found) IsNegative := by
  rw [typeArgument]
  split
  next same =>
    rw [same]
    exact ensures_pure ⟨[], .parameter declared, by simp⟩
  next => exact solves _ supply

theorem typeParameters_ensures
    {solve : Goal → Search FoundInstance}
    (solves : SolvesSoundly context admissible solve)
    (className : String)
    (arguments : Substitution)
    (names : List String)
    (declared : ∀ name ∈ names, name ∈ context.data.typeParams)
    (supply : FreshNames) :
    Ensures (typeParameters solve className arguments names) supply
      (fun found _ => ServeAll context admissible
        (names.map fun name => ⟨className, arguments.resolve (.var name)⟩) found)
      IsNegative := by
  induction names generalizing supply with
  | nil =>
      rw [typeParameters]
      exact ensures_pure serveAll_nil
  | cons name rest ih =>
      rw [typeParameters_cons]
      apply (typeArgument_ensures solves className (declared name List.mem_cons_self) _
        supply).bind
      intro found left _ serves
      refine Ensures.map ((ih (fun other member =>
        declared other (List.mem_cons_of_mem _ member)) left).mono ?_ fun _ => id)
      exact fun others last _ othersServe => serves.cons othersServe

theorem generated_ensures
    {solve : Goal → Search FoundInstance}
    (solves : SolvesSoundly context admissible solve)
    (own : context.isOwn goal = true)
    (supply : FreshNames) :
    Ensures (context.generated solve goal) supply
      (fun found _ => Serves context admissible goal found) IsNegative := by
  rw [generated]
  split
  next => exact ensures_throw (Or.inr (by simp [IsRefusal]))
  next arguments success =>
    have parts := typeParameters_ensures solves goal.className arguments
      context.data.typeParams (fun _ => id) supply
    apply parts.bind
    rintro found left _ ⟨tiers, derives, marked⟩
    rcases isOwn_iff.mp own with ⟨types, rfl⟩
    cases arguments_of_matchType? success
    refine ensures_pure ⟨tiers, .generated ?_, marked⟩
    rw [List.map_map]
    exact derives

theorem solve_ensures
    (admits : context.Admits admissible)
    (levels : Nat) :
    SolvesSoundly context admissible (context.solve levels) := by
  induction levels with
  | zero =>
      intro goal supply
      rw [solve]
      exact ensures_throw (Or.inr (by simp [IsRefusal, tooDeep, fault, Message.at_]))
  | succ levels ih =>
      intro goal supply
      rw [solve]
      split
      next own => exact generated_ensures ih own supply
      next notOwn =>
        split
        next name isParameter =>
          rcases goal with ⟨className, target⟩
          rcases ownParameter?_eq_some.mp isParameter with ⟨isVar, declared⟩
          cases isVar
          exact ensures_pure ⟨[], .parameter declared, by simp⟩
        next => exact searchTiers_ensures admits ih (Bool.eq_false_iff.mpr notOwn) supply

end Sound

/--
An instance that is found is a derivation of the goal in which the recorded type
arguments say all that is put into the methods, and it is marked exactly if some
member of it comes from a provider of low priority.
-/
theorem find_derives
    (context : SearchContext)
    (target : TypeExpr)
    (found : FoundInstance)
    (closed : context.MethodsClosed)
    (success : context.find target = .ok found) :
    ∃ tiers, Derives context Signature.Recorded ⟨context.className, target⟩ found.location tiers ∧
      (found.lowPriority = true ↔ Tier.low ∈ tiers) :=
  (solve_ensures closed.admits_recorded (deepestGoal + 1) _ .start).value_of_ok success

/-- Equality of lists by a normal provider, and of numbers by one of low priority. -/
def listsOverNumbers : SearchContext where
  data := { (default : DataType) with name := "Shape" }
  className := "Eq"
  span := ⟨0, 1⟩
  providers :=
    [⟨"Lists", ⟨31, 36⟩,
      [.method "list_eq" ⟨11, 16⟩ [⟨"A", ⟨17, 18⟩⟩] [.con "Eq" [.var "A"]]
        (.con "Eq" [.con "List" [.var "A"]])]⟩]
  lowPriority := [⟨"Numbers", ⟨51, 56⟩, [.field "int_eq" ⟨41, 46⟩ (.con "Eq" [.atom "i32"])]⟩]

theorem listsOverNumbers_closed : listsOverNumbers.MethodsClosed := by
  intro tier provider listed name span typeParams parameters result member
  cases tier with
  | normal =>
      cases List.mem_singleton.mp listed
      cases List.mem_singleton.mp member
      simp [Signature.Closed, Signature.ofMethod]
  | low =>
      cases List.mem_singleton.mp listed
      cases List.mem_singleton.mp member

theorem find_derives_listsOverNumbers :
    listsOverNumbers.MethodsClosed ∧
      listsOverNumbers.find (.con "List" [.atom "i32"]) =
        .ok ⟨.method "Lists" "list_eq" ⟨11, 16⟩ [("A", .atom "i32")]
          [.field "Numbers" "int_eq" ⟨41, 46⟩], true⟩ ∧
      ∃ tiers, Derives listsOverNumbers Signature.Recorded ⟨"Eq", .con "List" [.atom "i32"]⟩
        (.method "Lists" "list_eq" ⟨11, 16⟩ [("A", .atom "i32")]
          [.field "Numbers" "int_eq" ⟨41, 46⟩]) tiers ∧
        (true = true ↔ Tier.low ∈ tiers) :=
  ⟨listsOverNumbers_closed, rfl,
    find_derives listsOverNumbers (.con "List" [.atom "i32"])
      ⟨.method "Lists" "list_eq" ⟨11, 16⟩ [("A", .atom "i32")]
        [.field "Numbers" "int_eq" ⟨41, 46⟩], true⟩
      listsOverNumbers_closed rfl⟩

end SearchContext

end DataDerive
