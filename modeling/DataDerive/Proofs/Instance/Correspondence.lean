import DataDerive.Proofs.Instance.Alignment

/-!
# Corresponding steps of two searches

Each function of the search, run for corresponding goals in two searches, gives
corresponding results: a member matches in both or in neither, its parameters ask
for corresponding goals, and what is made of corresponding instances corresponds.
Only the way in which the two searches solve goals is a parameter here.

An instance of low priority may be excused: then the other search may have found
another one or none.  What is made of an excused instance is of low priority too,
so the excuse is handed on.
-/

namespace DataDerive

open TypeExpr FreshNames Search

namespace Alignment

variable {w later : Alignment}

theorem Types.replace
    {type : TypeExpr}
    {front back : String → TypeExpr}
    (correspond : ∀ x ∈ type.variableOccurrences, w.Types (front x) (back x)) :
    w.Types (type.replace front) (type.replace back) := by
  refine ⟨?_, ?_⟩
  · intro y occurs
    rcases mem_variableOccurrences_replace.mp occurs with ⟨x, inside, found⟩
    exact (correspond x inside).1 y found
  · rw [rename_replace]
    exact replace_congr fun x inside => (correspond x inside).2

theorem Types.left_setsApart
    {names : List String}
    {last : FreshNames}
    {renamed : Substitution}
    {variant : String → String}
    {first second : TypeExpr}
    (types : w.Types first second)
    (renames : RenamesApart names w.left last renamed variant) :
    SetsApart names first variant where
  injective := renames.injective
  outside x listed occurs :=
    (renames.taken x listed).ne (w.below_left _ (types.1 _ occurs)) rfl

theorem Types.right_setsApart
    {names : List String}
    {last : FreshNames}
    {renamed : Substitution}
    {variant : String → String}
    {first second : TypeExpr}
    (types : w.Types first second)
    (renames : RenamesApart names w.right last renamed variant) :
    SetsApart names (first.rename w.rename) variant where
  injective := renames.injective
  outside x listed occurs := by
    rcases mem_variableOccurrences_rename.mp occurs with ⟨y, inside, same⟩
    exact (renames.taken x listed).ne (w.below_right y (types.1 y inside)) same.symm

/--
A pattern that each search renames apart in its own way matches in both or in
neither, and puts corresponding types.
-/
theorem exists_matching
    {names : List String}
    {pattern target counterpart : TypeExpr}
    {left right : FreshNames}
    {leftRenamed rightRenamed : Substitution}
    {front back : String → String}
    (types : w.Types target counterpart)
    (covered : ∀ x ∈ pattern.variableOccurrences, x ∈ names)
    (leftLater : w.left.taken ≤ left.taken)
    (rightLater : w.right.taken ≤ right.taken)
    (leftRenames : RenamesApart names w.left left leftRenamed front)
    (rightRenames : RenamesApart names w.right right rightRenamed back) :
    ∃ later : Alignment, w.Grows later ∧ later.left = left ∧ later.right = right ∧
      Tried (fun _ => False)
        (fun found other => ∀ x ∈ names,
          later.Types (found.resolve (.var (front x))) (other.resolve (.var (back x))))
        (Unification.matchType? (pattern.rename front) target)
        (Unification.matchType? (pattern.rename back) counterpart) := by
  rcases w.exists_extension leftLater rightLater leftRenames rightRenames with
    ⟨later, grows, leftSame, rightSame, takes⟩
  refine ⟨later, grows, leftSame, rightSame, ?_⟩
  have leftApart := types.left_setsApart leftRenames
  have rightApart := types.right_setsApart rightRenames
  have both := Unification.isSome_matchType?_rename leftApart rightApart covered
  rw [types.2]
  cases success : Unification.matchType? (pattern.rename front) target with
  | none =>
      rw [success, Option.isSome_none, Option.isSome_eq_false_iff, Option.isNone_iff_eq_none]
        at both
      rw [both]
      exact .missing
  | some found =>
      rcases Unification.matchType?_rename rightApart covered success with
        ⟨other, otherSuccess, puts⟩
      rw [otherSuccess]
      refine .found fun x listed => ?_
      by_cases inside : x ∈ pattern.variableOccurrences
      · rw [puts x inside]
        have known (y : String)
            (occurs : y ∈ (found.resolve (.var (front x))).variableOccurrences) : y ∈ w.known :=
          types.1 y (Unification.mem_target_of_resolve_variant success inside occurs)
        exact Types.mono ⟨known, rfl⟩ grows
      · rw [Unification.resolve_variant_of_outside leftApart covered success listed inside,
          Unification.resolve_variant_of_outside rightApart covered otherSuccess listed inside]
        refine ⟨?_, ?_⟩
        · rw [variableOccurrences_var]
          exact List.forall_mem_singleton.mpr (takes x listed).1
        · rw [rename_var, (takes x listed).2]

/-- Instances of a method with corresponding type arguments and parameters. -/
def Instantiations (w : Alignment) (first second : SearchContext.Instantiation) : Prop :=
  w.Arguments first.typeArguments second.typeArguments ∧
    List.Forall₂ w.Types first.parameters second.parameters

/-- Candidates at the same place with corresponding instances. -/
def Candidates (w : Alignment) (first second : Candidate) : Prop :=
  second.placed = first.placed ∧ w.Instances first.found second.found

theorem types_all_mono
    {first second : List TypeExpr}
    (types : List.Forall₂ w.Types first second)
    (grows : w.Grows later) :
    List.Forall₂ later.Types first second :=
  types.imp fun _ _ one => one.mono grows

theorem Arguments.mono
    {first second : List (String × TypeExpr)}
    (arguments : w.Arguments first second)
    (grows : w.Grows later) :
    later.Arguments first second :=
  List.Forall₂.imp (fun _ _ one => ⟨one.1, one.2.mono grows⟩) arguments

/-- Corresponding types ask for corresponding goals, or neither asks for one. -/
theorem Types.ofType?
    {first second : TypeExpr}
    (types : w.Types first second) :
    (Goal.ofType? first = none ∧ Goal.ofType? second = none) ∨
      ∃ goal counterpart, Goal.ofType? first = some goal ∧
        Goal.ofType? second = some counterpart ∧ w.Goals goal counterpart := by
  rcases types with ⟨covered, rfl⟩
  match first with
  | .var name => exact Or.inl ⟨rfl, by rw [rename_var]; rfl⟩
  | .arrow parameters result =>
      refine Or.inl ⟨rfl, ?_⟩
      rw [rename_arrow]
      rfl
  | .con name [] => exact Or.inl ⟨rfl, by rw [rename_con]; rfl⟩
  | .con name (_ :: _ :: _) => exact Or.inl ⟨rfl, by rw [rename_con]; rfl⟩
  | .con name [target] =>
      refine Or.inr ⟨⟨name, target⟩, ⟨name, target.rename w.rename⟩, rfl, ?_, rfl, ?_, rfl⟩
      · rw [rename_con]
        rfl
      · simpa using covered

end Alignment

namespace SearchContext

open DataDerive.Alignment

section Correspondence

variable {w : Alignment} {goal counterpart : Goal}

/-! ## Members -/

/-- The names that are renamed apart when a method is matched. -/
def methodNames
    (typeParams : List Named)
    (parameters : List TypeExpr)
    (result : TypeExpr) : List String :=
  typeParams.map Named.name ++ (TypeExpr.arrow parameters result).freeVars.filter fun name =>
    !(typeParams.map Named.name).contains name

theorem mem_methodNames
    {typeParams : List Named}
    {parameters : List TypeExpr}
    {result : TypeExpr}
    {name : String}
    (occurs : name ∈ (TypeExpr.arrow parameters result).variableOccurrences) :
    name ∈ methodNames typeParams parameters result := by
  by_cases declared : name ∈ typeParams.map Named.name
  · exact List.mem_append_left _ declared
  · refine List.mem_append_right _ (List.mem_filter.mpr ⟨mem_freeVars.mpr occurs, ?_⟩)
    simpa using declared

theorem aligned_instantiate
    (goals : w.Goals goal counterpart)
    (typeParams : List Named)
    (parameters : List TypeExpr)
    (result : TypeExpr) :
    Aligned False w (fun later => Tried (fun _ => False) later.Instantiations)
      (instantiate goal typeParams parameters result)
      (instantiate counterpart typeParams parameters result) := by
  let names := methodNames typeParams parameters result
  rcases renameApart_spec w.left names with ⟨front, leftRenames⟩
  rcases renameApart_spec w.right names with ⟨back, rightRenames⟩
  have inResult : ∀ x ∈ result.variableOccurrences, x ∈ names :=
    fun x occurs => mem_methodNames (mem_variableOccurrences_result occurs)
  have inParameter (parameter : TypeExpr) (listed : parameter ∈ parameters) :
      ∀ x ∈ parameter.variableOccurrences, x ∈ names :=
    fun x occurs => mem_methodNames (mem_variableOccurrences_parameter listed occurs)
  rcases exists_matching goals.type inResult (taken_le_renameApart w.left names)
    (taken_le_renameApart w.right names) leftRenames rightRenames with
    ⟨later, grows, leftSame, rightSame, tried⟩
  have instantiated (supply : FreshNames) (goal : Goal) :
      outcome (instantiate goal typeParams parameters result) supply =
        (.ok ((Unification.matchType? ((supply.renameApart names).1.substitute result)
          goal.type).map fun matched =>
            { typeArguments := (typeParams.map Named.name).map fun name =>
                (name, matched.resolve ((supply.renameApart names).1.substitute (.var name)))
              parameters := parameters.map fun parameter =>
                matched.resolve ((supply.renameApart names).1.substitute parameter) }),
          (supply.renameApart names).2) :=
    rfl
  rw [Aligned, instantiated, instantiated, ← leftSame, ← rightSame,
    leftRenames.substitute inResult, rightRenames.substitute inResult]
  refine .values later grows ?_
  refine tried.map (fun matched other puts => ⟨?_, ?_⟩) fun _ => id
  · apply List.forall₂_map_left_iff.mpr
    apply List.forall₂_map_right_iff.mpr
    refine List.forall₂_same.mpr fun name declared => ⟨rfl, ?_⟩
    have listed : name ∈ names := List.mem_append_left _ declared
    rw [leftRenames.substitute_var listed, rightRenames.substitute_var listed]
    exact puts name listed
  · apply List.forall₂_map_left_iff.mpr
    apply List.forall₂_map_right_iff.mpr
    refine List.forall₂_same.mpr fun parameter listed => ?_
    rw [leftRenames.substitute (inParameter parameter listed),
      rightRenames.substitute (inParameter parameter listed), Substitution.resolve_replace,
      Substitution.resolve_replace]
    exact Types.replace fun x occurs => puts x (inParameter parameter listed x occurs)

theorem aligned_direct (goals : w.Goals goal counterpart) (placed : PlacedMember) :
    Aligned False w (fun later => Tried (fun _ => False) later.Candidates)
      (direct? goal placed) (direct? counterpart placed) := by
  rw [direct?, direct?]
  split
  next name span type _ =>
    rcases renameApart_spec w.left type.freeVars with ⟨front, leftRenames⟩
    rcases renameApart_spec w.right type.freeVars with ⟨back, rightRenames⟩
    have inType : ∀ x ∈ type.variableOccurrences, x ∈ type.freeVars :=
      fun x occurs => mem_freeVars.mpr occurs
    rcases exists_matching goals.type inType (taken_le_renameApart w.left type.freeVars)
      (taken_le_renameApart w.right type.freeVars) leftRenames rightRenames with
      ⟨later, grows, leftSame, rightSame, tried⟩
    have matched (supply : FreshNames) (goal : Goal) :
        outcome (do
          let fresh ← renameApart type.freeVars
          return (Unification.matchType? (fresh.substitute type) goal.type).map fun _ =>
            (⟨placed, .field placed.source name span, false⟩ : Candidate)) supply =
          (.ok ((Unification.matchType? ((supply.renameApart type.freeVars).1.substitute type)
            goal.type).map fun _ => ⟨placed, .field placed.source name span, false⟩),
            (supply.renameApart type.freeVars).2) :=
      rfl
    rw [Aligned, matched, matched, ← leftSame, ← rightSame, leftRenames.substitute inType,
      rightRenames.substitute inType]
    refine .values later grows ?_
    exact tried.map (fun _ _ _ => ⟨rfl, locations_field _ _ _, rfl⟩) fun _ => id
  next name span typeParams result _ =>
    apply (aligned_instantiate goals typeParams [] result).bind
    intro later matched other grows tried
    apply aligned_pure
    exact tried.map (fun _ _ correspond => ⟨rfl, locations_method correspond.1 .nil, rfl⟩)
      fun _ => id
  next => exact aligned_pure .missing

/-! ## Goals one after the other -/

variable {fallback : Prop}

/-- A second instance that need not correspond: one of low priority, if there is an excuse. -/
def Excused (fallback : Prop) (found : FoundInstance) : Prop :=
  fallback ∧ found.lowPriority = true

/-- Several second instances one of which need not correspond. -/
def SomeExcused (fallback : Prop) (found : List FoundInstance) : Prop :=
  fallback ∧ found.any FoundInstance.lowPriority = true

/-- Corresponding goals are answered with corresponding instances, or one is excused. -/
def SolveAlike (fallback : Prop) (first second : Goal → Search FoundInstance) : Prop :=
  ∀ (w : Alignment) (goal counterpart : Goal), w.Goals goal counterpart →
    Aligned fallback w (fun later => Tried (Excused fallback) later.Instances)
      (attempt (first goal)) (attempt (second counterpart))

theorem tried_cons
    {w : Alignment}
    {first second : FoundInstance}
    {others rest : Option (List FoundInstance)}
    (instances : w.Instances first second)
    (tried : Tried (SomeExcused fallback) (List.Forall₂ w.Instances) others rest) :
    Tried (SomeExcused fallback) (List.Forall₂ w.Instances)
      (others.map (first :: ·)) (rest.map (second :: ·)) := by
  cases tried with
  | missing => exact .missing
  | found related => exact .found (.cons instances related)
  | @excused _ rest excuse =>
      refine .excused ⟨excuse.1, ?_⟩
      rw [List.any_cons, excuse.2, Bool.or_true]

/-- An excused instance excuses every list that it is the first of. -/
theorem tried_of_excused
    {w : Alignment}
    {second : FoundInstance}
    (excuse : Excused fallback second)
    {first : Option (List FoundInstance)}
    {rest : Option (List FoundInstance)}
    (missing : rest = none → first = none) :
    Tried (SomeExcused fallback) (List.Forall₂ w.Instances) first (rest.map (second :: ·)) := by
  cases rest with
  | none =>
      rw [missing rfl]
      exact .missing
  | some rest =>
      refine .excused ⟨excuse.1, ?_⟩
      rw [List.any_cons, excuse.2, Bool.true_or]

theorem aligned_consIfSome
    {first second : Search (Option FoundInstance)}
    {rest other : Search (Option (List FoundInstance))}
    (heads : Aligned fallback w (fun later => Tried (Excused fallback) later.Instances)
      first second)
    (tails : ∀ later, w.Grows later → Aligned fallback later
      (fun last => Tried (SomeExcused fallback) (List.Forall₂ last.Instances)) rest other)
    (takes : TakesOnly other) :
    Aligned fallback w
      (fun last => Tried (SomeExcused fallback) (List.Forall₂ last.Instances))
      (consIfSome first rest) (consIfSome second other) := by
  rw [consIfSome, consIfSome]
  apply heads.bind
  intro later left right grows tried
  cases tried with
  | missing => exact aligned_pure .missing
  | found related =>
      apply (tails later grows).bind
      intro last others remaining further triedRest
      exact aligned_pure (tried_cons (related.mono further) triedRest)
  | @excused left right excuse =>
      cases left with
      | none =>
          have alone : Aligned fallback later (fun _ _ _ => True) (pure ()) other :=
            aligned_right excuse.1 takes () fun _ _ _ => trivial
          change Aligned fallback later _ (pure () >>= fun _ => pure none) _
          apply alone.bind
          intro last _ remaining _ _
          exact aligned_pure (tried_of_excused excuse fun _ => rfl)
      | some left =>
          apply (tails later grows).bind
          intro last others remaining _ triedRest
          refine aligned_pure (tried_of_excused excuse ?_)
          rintro rfl
          cases triedRest
          rfl

variable {context other : SearchContext} {levels : Nat}

theorem aligned_solveAll
    (alike : SolveAlike fallback (context.solve levels) (other.solve levels))
    {types counterparts : List TypeExpr}
    (correspond : List.Forall₂ w.Types types counterparts) :
    Aligned fallback w
      (fun last => Tried (SomeExcused fallback) (List.Forall₂ last.Instances))
      (solveAll? (context.solve levels) types) (solveAll? (other.solve levels) counterparts) := by
  induction types generalizing counterparts w with
  | nil =>
      cases correspond
      rw [solveAll?, solveAll?]
      exact aligned_pure (.found .nil)
  | cons type types ih =>
      cases correspond with
      | cons one rest =>
          rw [solveAll?_cons, solveAll?_cons]
          rcases one.ofType? with ⟨first, second⟩ | ⟨goal, counterpart, first, second, goals⟩
          · rw [first, second]
            exact aligned_pure .missing
          · rw [first, second]
            exact aligned_consIfSome (alike w goal counterpart goals)
              (fun later grows => ih (types_all_mono rest grows))
              (other.takesOnly_solveAll levels _)

theorem aligned_combined
    (alike : SolveAlike fallback (context.solve levels) (other.solve levels))
    (goals : w.Goals goal counterpart)
    (placed : PlacedMember) :
    Aligned fallback w
      (fun last => Tried (fun candidate => Excused fallback candidate.found) last.Candidates)
      (combined? (context.solve levels) goal placed)
      (combined? (other.solve levels) counterpart placed) := by
  rw [combined?, combined?]
  split
  next name span typeParams first rest result _ =>
    apply (aligned_instantiate goals typeParams (first :: rest) result).weaken.bind
    intro later matched instantiation grows tried
    cases tried with
    | missing => exact aligned_pure .missing
    | excused excuse => exact excuse.elim
    | found correspond =>
        apply (aligned_solveAll alike correspond.2).bind
        intro last parts others further solved
        refine aligned_pure (solved.map (fun _ _ instances => ⟨rfl, ?_, ?_⟩) fun _ => id)
        · exact locations_method (correspond.1.mono further) instances
        · exact any_lowPriority_eq instances
  next => exact aligned_pure .missing

/-! ## The instance under construction -/

theorem aligned_typeArgument
    (alike : SolveAlike fallback (context.solve levels) (other.solve levels))
    {className name : String}
    (written : isFresh name = false)
    {argument otherArgument : TypeExpr}
    (types : w.Types argument otherArgument) :
    Aligned fallback w (fun later => Tried (Excused fallback) later.Instances)
      (attempt (typeArgument (context.solve levels) className name argument))
      (attempt (typeArgument (other.solve levels) className name otherArgument)) := by
  have keeps : w.rename name = name := (w.written name written).2
  have same : otherArgument = .var name ↔ argument = .var name := by
    rw [types.2]
    constructor
    · intro isName
      cases argument with
      | var y =>
          rw [rename_var, var.injEq] at isName
          rw [w.rename.injective (isName.trans keeps.symm)]
      | con y arguments =>
          rw [rename_con] at isName
          cases isName
      | arrow parameters result =>
          rw [rename_arrow] at isName
          cases isName
    · rintro rfl
      rw [rename_var, keeps]
  rw [typeArgument, typeArgument]
  by_cases itself : argument = .var name
  · rw [if_pos itself, if_pos (same.mpr itself)]
    exact aligned_pure (.found ⟨locations_parameter className name, rfl⟩)
  · rw [if_neg itself, if_neg (mt same.mp itself)]
    exact alike w ⟨className, argument⟩ ⟨className, otherArgument⟩ ⟨rfl, types⟩

theorem aligned_typeParameters
    (alike : SolveAlike fallback (context.solve levels) (other.solve levels))
    {className : String}
    {arguments others : Substitution}
    {names : List String}
    (written : ∀ name ∈ names, isFresh name = false)
    (declared : ∀ name ∈ names, name ∈ other.data.typeParams)
    (types : ∀ name ∈ names,
      w.Types (arguments.resolve (.var name)) (others.resolve (.var name))) :
    Aligned fallback w
      (fun last => Tried (SomeExcused fallback) (List.Forall₂ last.Instances))
      (attempt (typeParameters (context.solve levels) className arguments names))
      (attempt (typeParameters (other.solve levels) className others names)) := by
  induction names generalizing w with
  | nil =>
      rw [typeParameters, typeParameters]
      exact aligned_pure (.found .nil)
  | cons name rest ih =>
      rw [List.forall_mem_cons] at written declared types
      rw [attempt_typeParameters_cons, attempt_typeParameters_cons]
      apply aligned_consIfSome (aligned_typeArgument alike written.1 types.1)
      · intro later grows
        exact ih written.2 declared.2 fun name listed => (types.2 name listed).mono grows
      · exact other.takesOnly_typeParameters levels className others rest declared.2

/-- The data type is matched at corresponding types with corresponding type arguments. -/
theorem tried_selfType
    {data : DataType}
    (written : ∀ name ∈ data.typeParams, isFresh name = false)
    {target otherTarget : TypeExpr}
    (types : w.Types target otherTarget) :
    Tried (fun _ => False)
      (fun found other => ∀ name ∈ data.typeParams,
        w.Types (found.resolve (.var name)) (other.resolve (.var name)))
      (Unification.matchType? data.selfType target)
      (Unification.matchType? data.selfType otherTarget) := by
  have fixes : ∀ x ∈ data.selfType.variableOccurrences, w.rename x = x := by
    intro x occurs
    have declared : x ∈ data.typeParams := by simpa [DataType.selfType] using occurs
    exact (w.written x (written x declared)).2
  have both : (Unification.matchType? data.selfType otherTarget).isSome =
      (Unification.matchType? data.selfType target).isSome := by
    rw [types.2]
    exact Unification.isSome_matchType?_rename_of_fixes fixes
  cases success : Unification.matchType? data.selfType target with
  | none =>
      rw [success, Option.isSome_none, Option.isSome_eq_false_iff, Option.isNone_iff_eq_none]
        at both
      rw [both]
      exact .missing
  | some found =>
      rw [success, Option.isSome_some, Option.isSome_iff_exists] at both
      rcases both with ⟨counterpart, otherSuccess⟩
      rw [otherSuccess]
      refine .found fun name declared => ?_
      have resolved := Unification.resolve_of_matchType? success
      have otherResolved := Unification.resolve_of_matchType? otherSuccess
      rw [DataType.selfType, Substitution.resolve_con, List.map_map] at resolved otherResolved
      rw [types.2, ← resolved, rename_con, List.map_map, con.injEq] at otherResolved
      refine ⟨fun x occurs => types.1 x ?_, List.map_inj_left.mp otherResolved.2 name declared⟩
      rw [← resolved, variableOccurrences_con, List.mem_flatMap]
      exact ⟨_, List.mem_map_of_mem declared, occurs⟩

theorem aligned_generated
    (alike : SolveAlike fallback (context.solve levels) (other.solve levels))
    (sameData : other.data = context.data)
    (written : ∀ name ∈ context.data.typeParams, isFresh name = false)
    (goals : w.Goals goal counterpart) :
    Aligned fallback w (fun later => Tried (Excused fallback) later.Instances)
      (attempt (context.generated (context.solve levels) goal))
      (attempt (other.generated (other.solve levels) counterpart)) := by
  have tried := tried_selfType written goals.2
  rw [generated, generated, sameData]
  generalize Unification.matchType? context.data.selfType goal.target = found,
    Unification.matchType? context.data.selfType counterpart.target = otherFound at tried ⊢
  cases tried with
  | missing =>
      have refuses (text : String) :
          attempt (throw ⟨.internal, text, []⟩ : Search FoundInstance) =
            throw ⟨.internal, text, []⟩ :=
        attempt_throw (by simp)
      dsimp only
      rw [refuses, refuses]
      exact aligned_throw
  | excused excuse => exact excuse.elim
  | @found arguments others types =>
      dsimp only
      rw [attempt_bind, attempt_bind, goals.1]
      have declared : ∀ name ∈ context.data.typeParams, name ∈ other.data.typeParams := by
        rw [sameData]
        exact fun _ => id
      apply (aligned_typeParameters alike written declared types).bind
      intro later parts rest grows solved
      cases solved with
      | missing => exact aligned_pure .missing
      | found instances =>
          refine aligned_pure (.found ⟨?_, any_lowPriority_eq instances⟩)
          exact locations_generated (goals.2.mono grows) instances
      | @excused parts rest excuse =>
          cases parts with
          | none => exact aligned_pure (.excused excuse)
          | some parts => exact aligned_pure (.excused excuse)

end Correspondence

end SearchContext

end DataDerive
