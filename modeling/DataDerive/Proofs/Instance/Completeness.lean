import DataDerive.Proofs.Instance.Soundness

/-!
# No instance means no derivation

A search only says that there is no instance if there is no derivation in which
the variables that a method has in its parameters alone stay variables.  It may
stop earlier for another reason: candidates that are equally good, goals that
nest too deep, or a use of the data type that does not match.

The search takes fresh variables where a derivation has variables of its own, so
the induction on derivations is about all renamings of a goal at once.
-/

namespace DataDerive

open TypeExpr FreshNames Search

namespace Goal

/-- A goal with its variables renamed. -/
def rename (goal : Goal) (variant : String → String) : Goal :=
  ⟨goal.className, goal.target.replace fun name => .var (variant name)⟩

/-- No variable of a goal is taken from a supply later on. -/
def Before (goal : Goal) (supply : FreshNames) : Prop :=
  ∀ name ∈ goal.target.variableOccurrences, Below supply.taken name

@[simp]
theorem rename_self (goal : Goal) : goal.rename id = goal := by
  rw [rename]
  congr 1
  exact replace_self goal.target

theorem type_rename (goal : Goal) (variant : String → String) :
    (goal.rename variant).type = goal.type.replace fun name => .var (variant name) := by
  simp [type, rename]

theorem Before.mono
    {goal : Goal}
    {supply later : FreshNames}
    (before : goal.Before supply)
    (grows : supply.taken ≤ later.taken) :
    goal.Before later :=
  fun name occurs => (before name occurs).mono grows

theorem Before.below
    {goal : Goal}
    {supply : FreshNames}
    (before : goal.Before supply)
    {name : String}
    (occurs : name ∈ goal.type.variableOccurrences) :
    Below supply.taken name := by
  refine before name ?_
  simpa [type] using occurs

end Goal

namespace SearchContext

/-! ## Steps that are not without result -/

section Steps

variable {α β : Type} {supply : FreshNames}

/-- A step ends with a value or with a refusal. -/
def Ends (step : Search α) (supply : FreshNames) : Prop :=
  Ensures step supply (fun _ _ => True) IsRefusal

/-- A step that may leave out its value gives one or ends with a refusal. -/
def Yields (step : Search (Option α)) (supply : FreshNames) : Prop :=
  Ensures step supply (fun result _ => result ≠ none) IsRefusal

theorem ends_of_ensures
    {step : Search α}
    {value : α → FreshNames → Prop}
    (ensures : Ensures step supply value IsRefusal) :
    Ends step supply :=
  ensures.mono (fun _ _ _ _ => trivial) fun _ => id

theorem ends_pure (value : α) : Ends (pure value) supply :=
  ensures_pure trivial

theorem yields_some (value : α) : Yields (pure (some value)) supply :=
  ensures_pure (Option.some_ne_none value)

theorem Yields.bind
    {step : Search (Option α)}
    {next : Option α → Search β}
    {final : β → FreshNames → Prop}
    (yields : Yields step supply)
    (rest : ∀ found left, supply.taken ≤ left.taken →
      Ensures (next (some found)) left final IsRefusal) :
    Ensures (step >>= next) supply final IsRefusal := by
  apply Ensures.bind yields
  intro result left grows present
  rcases Option.ne_none_iff_exists'.mp present with ⟨found, rfl⟩
  exact rest found left grows

end Steps

/-! ## Renamed goals -/

theorem isOwn_rename (context : SearchContext) (goal : Goal) (variant : String → String) :
    context.isOwn (goal.rename variant) = context.isOwn goal := by
  rcases goal with ⟨className, target⟩
  cases target <;> simp [isOwn, Goal.rename, head?]

theorem hasParts_rename (goal : Goal) (variant : String → String) :
    hasParts (goal.rename variant).target = hasParts goal.target := by
  rcases goal with ⟨className, target⟩
  cases target <;> simp [hasParts, Goal.rename]

/-! ## Candidates -/

theorem not_beats_self (placed : PlacedMember) : placed.beats placed = false := by
  simp [PlacedMember.beats]

theorem beats_trans
    {first second third : PlacedMember}
    (firstBeats : first.beats second = true)
    (secondBeats : second.beats third = true) :
    first.beats third = true := by
  simp only [PlacedMember.beats, Bool.or_eq_true, Bool.and_eq_true, decide_eq_true_eq,
    beq_iff_eq] at *
  omega

/-- Among some candidates there is one that no other beats. -/
theorem best_ne_nil {candidates : List Candidate} (nonempty : candidates ≠ []) :
    Candidate.best candidates ≠ [] := by
  have unbeaten : ∃ candidate ∈ candidates,
      ∀ other ∈ candidates, other.placed.beats candidate.placed = false := by
    induction candidates with
    | nil => exact absurd rfl nonempty
    | cons first rest ih =>
        by_cases alone : rest = []
        · cases alone
          refine ⟨first, List.mem_cons_self, fun other member => ?_⟩
          rw [List.mem_singleton.mp member]
          exact not_beats_self first.placed
        · rcases ih alone with ⟨candidate, member, unbeaten⟩
          by_cases beaten : first.placed.beats candidate.placed = true
          · refine ⟨first, List.mem_cons_self, fun other isOther => ?_⟩
            rcases List.mem_cons.mp isOther with same | inRest
            · rw [same]
              exact not_beats_self first.placed
            · apply Bool.eq_false_iff.mpr
              intro wins
              exact absurd (beats_trans wins beaten) (Bool.eq_false_iff.mp (unbeaten other inRest))
          · refine ⟨candidate, List.mem_cons_of_mem _ member, fun other isOther => ?_⟩
            rcases List.mem_cons.mp isOther with same | inRest
            · rw [same]
              exact Bool.eq_false_iff.mpr beaten
            · exact unbeaten other inRest
  rcases unbeaten with ⟨candidate, member, unbeaten⟩
  refine List.ne_nil_of_mem (List.mem_filter.mpr ⟨member, List.all_eq_true.mpr ?_⟩)
  intro other isOther
  rw [unbeaten other isOther]
  rfl

theorem pick_yields
    {context : SearchContext}
    {goal : Goal}
    {candidates : List Candidate}
    (nonempty : candidates ≠ [])
    (supply : FreshNames) :
    Yields (liftM (context.pick goal candidates)) supply := by
  apply ensures_liftM
  cases picked : context.pick goal candidates with
  | error fault => exact pick_isRefusal picked
  | ok result =>
      rintro rfl
      rw [pick] at picked
      split at picked
      next isEmpty => exact best_ne_nil nonempty isEmpty
      next => cases picked
      next => cases picked

/-- A step that gives a candidate for one of the members leaves some. -/
theorem collect_yields
    {step : PlacedMember → Search (Option Candidate)}
    {members : List PlacedMember}
    {placed : PlacedMember}
    {supply : FreshNames}
    (ends : ∀ other ∈ members, ∀ start, Ends (step other) start)
    (member : placed ∈ members)
    (yields : ∀ start, supply.taken ≤ start.taken → Yields (step placed) start) :
    Ensures (collect step members) supply (fun candidates _ => candidates ≠ []) IsRefusal := by
  induction members generalizing supply with
  | nil => cases member
  | cons first rest ih =>
      have restEnds : ∀ other ∈ rest, ∀ start, Ends (step other) start :=
        fun other isOther => ends other (List.mem_cons_of_mem _ isOther)
      rw [collect]
      by_cases isFirst : placed = first
      · cases isFirst
        apply (yields supply (Nat.le_refl _)).bind
        intro found left _
        have others : ∀ other ∈ rest, ∀ start,
            Ensures (step other) start (IfSome fun _ => True) IsRefusal :=
          fun other isOther start =>
            (restEnds other isOther start).mono (fun _ _ _ _ _ _ => trivial) fun _ => id
        apply (collect_ensures others left).bind
        intro more last _ _
        exact ensures_pure (List.cons_ne_nil found more)
      · have inRest : placed ∈ rest := by simpa [isFirst] using member
        apply (ends first List.mem_cons_self supply).bind
        intro candidate left grows _
        apply (ih restEnds inRest fun start later => yields start (Nat.le_trans grows later)).bind
        intro more last _ present
        exact ensures_pure (List.append_ne_nil_of_right_ne_nil _ present)

/-! ## Members that serve a goal -/

theorem exists_placed_of_mem
    {providers : List Provider}
    {provider : Provider}
    {member : StaticMember}
    (listed : provider ∈ providers)
    (isMember : member ∈ provider.members) :
    ∃ placed ∈ PlacedMember.ofProviders providers,
      placed.source = provider.name ∧ placed.member = member := by
  rcases List.mem_iff_getElem.mp listed with ⟨priority, inside, rfl⟩
  refine ⟨⟨providers[priority].name, priority, member⟩, ?_, rfl, rfl⟩
  refine List.mem_flatMap.mpr ⟨(providers[priority], priority), ?_, ?_⟩
  · exact List.mem_zipIdx_iff_getElem?.mpr (List.getElem?_eq_getElem inside)
  · exact List.mem_map.mpr ⟨member, isMember, rfl⟩

section Serving

variable {goal : Goal} {supply : FreshNames}

theorem direct_field_yields
    {placed : PlacedMember}
    {name : String}
    {span : Span}
    {type : TypeExpr}
    {choice : String → TypeExpr}
    (isField : placed.member = .field name span type)
    (matched : type.replace choice = goal.type)
    (before : goal.Before supply) :
    Yields (direct? goal placed) supply := by
  rw [direct?, isField]
  apply (ensures_renameApart supply _).bind
  intro renamed left _ renames
  rcases renames with ⟨variant, renames⟩
  have occurring : ∀ x ∈ type.variableOccurrences, x ∈ type.freeVars :=
    fun x occurs => mem_freeVars.mpr occurs
  have matches_ := Unification.matchType?_renamed
    (fun x xOccurs y yOccurs =>
      renames.injective x (occurring x xOccurs) y (occurring y yOccurs))
    (fun x occurs inGoal =>
      (renames.taken x (occurring x occurs)).ne (before.below inGoal) rfl)
    matched
  rcases matches_ with ⟨found, success, -⟩
  rw [renames.substitute occurring, success]
  exact yields_some _

/--
A method whose result is turned into the goal's type by a choice matches it.  Its
parameters are as under that choice, but for variables that are not in the
result: those become variables that were not taken before.
-/
theorem instantiate_yields
    {typeParams : List Named}
    {parameters : List TypeExpr}
    {result : TypeExpr}
    {choice : String → TypeExpr}
    (matched : result.replace choice = goal.type)
    (before : goal.Before supply) :
    Ensures (instantiate goal typeParams parameters result) supply
      (fun instantiation left => ∃ (found : Instantiation) (variant : String → String),
        instantiation = some found ∧
        (∀ extra, (Signature.ofMethod typeParams parameters result).IsExtra extra →
          Below left.taken (variant extra)) ∧
        found.parameters = parameters.map (TypeExpr.replace fun name =>
          if name ∈ result.variableOccurrences then choice name else .var (variant name)))
      IsRefusal := by
  refine (instantiate_ensures supply goal typeParams parameters result).mono ?_ fun _ => id
  rintro instantiation left - ⟨names, renamed, variant, covered, renames, rfl⟩
  have inResult : ∀ x ∈ result.variableOccurrences, x ∈ names :=
    fun x occurs => covered x (mem_variableOccurrences_result occurs)
  have fresh : ∀ x ∈ names, variant x ∉ goal.type.variableOccurrences :=
    fun x member inGoal => (renames.taken x member).ne (before.below inGoal) rfl
  have matches_ := Unification.matchType?_renamed
    (fun x xOccurs y yOccurs => renames.injective x (inResult x xOccurs) y (inResult y yOccurs))
    (fun x occurs => fresh x (inResult x occurs))
    matched
  rcases matches_ with ⟨found, success, chosen, kept⟩
  refine ⟨_, variant, by rw [success, Option.map_some], ?_, ?_⟩
  · rintro extra ⟨-, parameter, member, occurs⟩
    exact (renames.taken extra (covered extra
      (mem_variableOccurrences_parameter member occurs))).below
  · apply List.map_congr_left
    intro parameter member
    apply replace_congr
    intro x occurs
    have isName : x ∈ names := covered x (mem_variableOccurrences_parameter member occurs)
    split
    next occursInResult => exact chosen x occursInResult
    next notInResult =>
      refine kept (variant x) (fresh x isName) fun y yOccurs same => notInResult ?_
      rw [← renames.injective y (inResult y yOccurs) x isName same]
      exact yOccurs

theorem direct_method_yields
    {placed : PlacedMember}
    {name : String}
    {span : Span}
    {typeParams : List Named}
    {result : TypeExpr}
    {choice : String → TypeExpr}
    (isMethod : placed.member = .method name span typeParams [] result)
    (matched : result.replace choice = goal.type)
    (before : goal.Before supply) :
    Yields (direct? goal placed) supply := by
  rw [direct?, isMethod]
  apply (instantiate_yields matched before).bind
  intro instantiation left _ found
  rcases found with ⟨found, variant, rfl, -⟩
  exact yields_some _

end Serving

/-! ## Goals that are parameters of a method -/

/-- A way to solve goals ends a goal with an instance or with a refusal, from a supply on. -/
def Settles (solve : Goal → Search FoundInstance) (supply : FreshNames) (goal : Goal) : Prop :=
  ∀ start : FreshNames, supply.taken ≤ start.taken → Ends (solve goal) start

section Settles

variable {solve : Goal → Search FoundInstance} {supply later : FreshNames}

theorem Settles.mono
    {goal : Goal}
    (settles : Settles solve supply goal)
    (grows : supply.taken ≤ later.taken) :
    Settles solve later goal :=
  fun start enough => settles start (Nat.le_trans grows enough)

theorem solve?_yields {goal : Goal} (settles : Settles solve supply goal) :
    Yields (solve? solve goal) supply := by
  have solved : Yields (some <$> solve goal) supply :=
    Ensures.map ((settles supply (Nat.le_refl _)).mono
      (fun found _ _ _ => Option.some_ne_none found) fun _ => id)
  rw [solve?]
  apply solved.tryCatch
  intro fault left _ refusal
  split
  next absent => simp [IsRefusal, absent] at refusal
  next => exact ensures_throw refusal

theorem solveAll?_yields
    {goals : List Goal}
    (settle : ∀ goal ∈ goals, Settles solve supply goal) :
    Yields (solveAll? solve (goals.map Goal.type)) supply := by
  induction goals generalizing supply with
  | nil =>
      rw [List.map_nil, solveAll?]
      exact yields_some []
  | cons goal rest ih =>
      rw [List.map_cons, solveAll?, Goal.ofType?_type]
      apply (solve?_yields (settle goal List.mem_cons_self)).bind
      intro found left grows
      apply (ih fun other member =>
        (settle other (List.mem_cons_of_mem _ member)).mono grows).bind
      intro others last _
      exact yields_some (found :: others)

theorem typeParameters_settles
    {className : String}
    {arguments : Substitution}
    {names : List String}
    (settle : ∀ name ∈ names, Settles solve supply ⟨className, arguments.resolve (.var name)⟩) :
    Ends (typeParameters solve className arguments names) supply := by
  induction names generalizing supply with
  | nil =>
      rw [typeParameters]
      exact ends_pure []
  | cons name rest ih =>
      have first : Ends (typeArgument solve className name (arguments.resolve (.var name)))
          supply := by
        rw [typeArgument]
        split
        next => exact ends_pure _
        next => exact settle name List.mem_cons_self supply (Nat.le_refl _)
      rw [typeParameters_cons]
      apply first.bind
      intro found left grows _
      exact Ensures.map
        (ih fun other member => (settle other (List.mem_cons_of_mem _ member)).mono grows)

end Settles

/--
A method whose result is turned into the goal's type provides an instance, if the
goals that its parameters become do not end without one.
-/
theorem combined_yields
    {solve : Goal → Search FoundInstance}
    {goal : Goal}
    {supply : FreshNames}
    {placed : PlacedMember}
    {name : String}
    {span : Span}
    {typeParams : List Named}
    {first : TypeExpr}
    {rest : List TypeExpr}
    {result : TypeExpr}
    {choice : String → TypeExpr}
    (isMethod : placed.member = .method name span typeParams (first :: rest) result)
    (matched : result.replace choice = goal.type)
    (before : goal.Before supply)
    (settle : ∀ (variant : String → String) (left : FreshNames), ∃ goals : List Goal,
      (first :: rest).map (TypeExpr.replace fun name =>
        if name ∈ result.variableOccurrences then choice name else .var (variant name)) =
          goals.map Goal.type ∧
      ∀ part ∈ goals, part.Before left → Settles solve left part) :
    Yields (combined? solve goal placed) supply := by
  rw [combined?, isMethod]
  apply (instantiate_yields matched before).bind
  intro instantiation left grows found
  rcases found with ⟨found, variant, rfl, below, becomes⟩
  rcases settle variant left with ⟨goals, asked, settle⟩
  have settleAll : ∀ part ∈ goals, Settles solve left part := by
    intro part member
    apply settle part member
    intro y occurs
    have isType : part.type ∈ goals.map Goal.type := List.mem_map_of_mem member
    rw [← asked] at isType
    rcases List.mem_map.mp isType with ⟨parameter, isParameter, same⟩
    have inType : y ∈ part.type.variableOccurrences := by simpa [Goal.type] using occurs
    rw [← same] at inType
    rcases mem_variableOccurrences_replace.mp inType with ⟨x, xOccurs, inside⟩
    by_cases inResult : x ∈ result.variableOccurrences
    · rw [if_pos inResult] at inside
      refine (before.below ?_).mono grows
      rw [← matched]
      exact mem_variableOccurrences_replace.mpr ⟨x, inResult, inside⟩
    · rw [if_neg inResult, variableOccurrences_var] at inside
      rw [List.mem_singleton.mp inside]
      exact below x ⟨inResult, parameter, isParameter, xOccurs⟩
  have solved : Yields (solveAll? solve found.parameters) left := by
    rw [becomes, asked]
    exact solveAll?_yields settleAll
  apply solved.bind
  intro parts last _
  exact yields_some _

/-! ## Tiers that serve a goal -/

section Tiers

variable {context : SearchContext} {solve : Goal → Search FoundInstance} {goal : Goal}
variable {tier : Tier} {placed : PlacedMember} {supply : FreshNames}

theorem direct_ends
    (notOwn : context.isOwn goal = false)
    (listed : placed ∈ PlacedMember.ofProviders (context.tier tier)) :
    Ends (direct? goal placed) supply :=
  ends_of_ensures (direct_ensures context.admits_unrestricted notOwn listed supply)

theorem searchTier_yields_of_direct
    (notOwn : context.isOwn goal = false)
    (listed : placed ∈ PlacedMember.ofProviders (context.tier tier))
    (yields : ∀ start, supply.taken ≤ start.taken → Yields (direct? goal placed) start) :
    Yields (context.searchTier solve goal (context.tier tier)) supply := by
  have collected := collect_yields (fun _ isMember _ => direct_ends notOwn isMember) listed yields
  rw [searchTier]
  apply collected.bind
  intro candidates left _ nonempty
  apply (pick_yields nonempty left).bind
  intro found last _
  exact yields_some found

theorem searchTier_yields_of_combined
    (solves : SolvesSoundly context Signature.Unrestricted solve)
    (notOwn : context.isOwn goal = false)
    (structural : hasParts goal.target = true)
    (listed : placed ∈ PlacedMember.ofProviders (context.tier tier))
    (yields : ∀ start, supply.taken ≤ start.taken → Yields (combined? solve goal placed) start) :
    Yields (context.searchTier solve goal (context.tier tier)) supply := by
  have simple := collect_ensures (fun other
    (isMember : other ∈ PlacedMember.ofProviders (context.tier tier)) =>
      direct_ensures context.admits_unrestricted notOwn isMember) supply
  have ends (other : PlacedMember) (isMember : other ∈ PlacedMember.ofProviders (context.tier tier))
      (start : FreshNames) :
      Ends (combined? solve goal other) start :=
    ends_of_ensures
      (combined_ensures context.admits_unrestricted solves notOwn structural isMember start)
  rw [searchTier]
  apply simple.bind
  intro candidates left grows serve
  apply (pick_ensures serve left).bind
  intro picked after later _
  split
  next => exact yields_some _
  next =>
    rw [if_pos structural]
    apply (collect_yields ends listed fun start enough =>
      yields start (Nat.le_trans (Nat.le_trans grows later) enough)).bind
    intro composed last _ nonempty
    exact pick_yields nonempty last

theorem searchTiers_settles
    (tier : Tier)
    (solves : SolvesSoundly context Signature.Unrestricted solve)
    (notOwn : context.isOwn goal = false)
    (yields : ∀ start, supply.taken ≤ start.taken →
      Yields (context.searchTier solve goal (context.tier tier)) start) :
    Ends (context.searchTiers solve goal) supply := by
  have ends := searchTier_ensures context.admits_unrestricted solves notOwn .normal supply
  rw [searchTiers]
  cases tier with
  | normal =>
      apply (yields supply (Nat.le_refl _)).bind
      intro found left _
      exact ends_pure found
  | low =>
      apply ends.bind
      intro result left grows _
      split
      next => exact ends_pure _
      next =>
        apply (yields left grows).bind
        intro found last _
        exact ends_pure _

end Tiers

/-! ## Goals that have a derivation -/

/--
Under every renaming that keeps the data type's parameters, the search for a goal
does not end without instance.
-/
def Solvable (context : SearchContext) (goal : Goal) : Prop :=
  ∀ (variant : String → String) (levels : Nat) (supply : FreshNames),
    (∀ name ∈ context.data.typeParams, variant name = name) →
    (goal.rename variant).Before supply →
    Ends (context.solve levels (goal.rename variant)) supply

section Solvable

variable {context : SearchContext} {goal : Goal} {variant : String → String}

theorem Solvable.settles
    (solvable : Solvable context goal)
    (keeps : ∀ name ∈ context.data.typeParams, variant name = name)
    (levels : Nat)
    {supply : FreshNames}
    (before : (goal.rename variant).Before supply) :
    Settles (context.solve levels) supply (goal.rename variant) :=
  fun start grows => solvable variant levels start keeps (before.mono grows)

/-- Without a level left a search only says that goals nest too deep. -/
theorem solvable_of_succ
    (ends : ∀ (variant : String → String) (levels : Nat) (supply : FreshNames),
      (∀ name ∈ context.data.typeParams, variant name = name) →
      (goal.rename variant).Before supply →
      Ends (context.solve (levels + 1) (goal.rename variant)) supply) :
    Solvable context goal := by
  intro variant levels supply keeps before
  cases levels with
  | zero =>
      rw [solve]
      exact ensures_throw (by simp [IsRefusal, tooDeep, fault, Message.at_])
  | succ levels => exact ends variant levels supply keeps before

theorem solvable_of_parameter
    {className name : String}
    (declared : name ∈ context.data.typeParams) :
    Solvable context ⟨className, .var name⟩ := by
  apply solvable_of_succ
  intro variant levels supply keeps before
  have same : Goal.rename ⟨className, .var name⟩ variant = ⟨className, .var name⟩ := by
    simp [Goal.rename, keeps name declared]
  have notOwn : context.isOwn ⟨className, .var name⟩ = false := by simp [isOwn, head?]
  have isParameter : context.ownParameter? (.var name) = some name :=
    ownParameter?_eq_some.mpr ⟨rfl, declared⟩
  rw [same, solve, notOwn, isParameter]
  exact ends_pure _

theorem solvable_of_generated
    {arguments : List TypeExpr}
    (parts : ∀ part ∈ arguments.map (Goal.mk context.className), Solvable context part) :
    Solvable context ⟨context.className, .con context.data.name arguments⟩ := by
  apply solvable_of_succ
  intro variant levels supply keeps before
  rw [Goal.rename, replace_con] at before ⊢
  rw [solve, if_pos (isOwn_iff.mpr ⟨_, rfl⟩), generated]
  split
  next => exact ensures_throw (by simp [IsRefusal])
  next found success =>
    have settle : ∀ name ∈ context.data.typeParams, Settles (context.solve levels) supply
        ⟨context.className, found.resolve (.var name)⟩ := by
      intro name declared
      have isArgument : found.resolve (.var name) ∈
          arguments.map (TypeExpr.replace fun name => .var (variant name)) := by
        rw [arguments_of_matchType? success]
        exact List.mem_map.mpr ⟨name, declared, rfl⟩
      rcases List.mem_map.mp isArgument with ⟨argument, member, same⟩
      rw [← same]
      have solvable := parts ⟨context.className, argument⟩ (List.mem_map_of_mem member)
      apply solvable.settles keeps levels
      intro y occurs
      exact before y (mem_variableOccurrences_of_part (List.mem_map_of_mem member) occurs)
    apply (typeParameters_settles settle).bind
    intro all left _ _
    exact ends_pure _

theorem solvable_of_tier
    (tier : Tier)
    (notOwn : context.isOwn goal = false)
    (yields : ∀ (variant : String → String) (levels : Nat) (supply : FreshNames),
      (∀ name ∈ context.data.typeParams, variant name = name) →
      (goal.rename variant).Before supply →
      Yields (context.searchTier (context.solve levels) (goal.rename variant)
        (context.tier tier)) supply) :
    Solvable context goal := by
  apply solvable_of_succ
  intro variant levels supply keeps before
  have renamedNotOwn : context.isOwn (goal.rename variant) = false :=
    (isOwn_rename context goal variant).trans notOwn
  rw [solve, if_neg (Bool.eq_false_iff.mp renamedNotOwn)]
  split
  next => exact ends_pure _
  next =>
    apply searchTiers_settles tier (solve_ensures context.admits_unrestricted levels)
      renamedNotOwn
    intro start grows
    exact yields variant levels start keeps (before.mono grows)

theorem replace_rename
    {type : TypeExpr}
    {choice : String → TypeExpr}
    (matched : type.replace choice = goal.type)
    (variant : String → String) :
    type.replace (fun x => (choice x).replace fun y => .var (variant y)) =
      (goal.rename variant).type := by
  rw [Goal.type_rename, ← matched, replace_replace]

theorem solvable_of_field
    {tier : Tier}
    {provider : Provider}
    {name : String}
    {span : Span}
    {type : TypeExpr}
    {choice : String → TypeExpr}
    (notOwn : context.isOwn goal = false)
    (listed : provider ∈ context.tier tier)
    (member : .field name span type ∈ provider.members)
    (matched : type.replace choice = goal.type) :
    Solvable context goal := by
  apply solvable_of_tier tier notOwn
  intro variant levels supply _ before
  rcases exists_placed_of_mem listed member with ⟨placed, isPlaced, -, isField⟩
  apply searchTier_yields_of_direct ((isOwn_rename context goal variant).trans notOwn) isPlaced
  intro start grows
  exact direct_field_yields isField (replace_rename matched variant) (before.mono grows)

/--
If a choice is generic, one renaming turns what the choice makes of the parameters
into what the search makes of them, where the variables that are not in the
result are renamed in their own way and all others as before.
-/
theorem exists_renaming_of_generic
    {names : List String}
    {signature : Signature}
    {choice : String → TypeExpr}
    (generic : signature.Generic names choice)
    (extra outer : String → String) :
    ∃ variant : String → String,
      (∀ name ∈ names, variant name = outer name) ∧
      ∀ parameter ∈ signature.parameters,
        (parameter.replace choice).replace (fun y => .var (variant y)) =
          parameter.replace fun x =>
            if x ∈ signature.result.variableOccurrences then
              (choice x).replace fun y => .var (outer y)
            else
              .var (extra x) := by
  classical
  let variant (y : String) : String :=
    if stands : ∃ x, signature.IsExtra x ∧ choice x = .var y then extra stands.choose else outer y
  -- A variable that some extra variable stands for is neither listed nor in the goal.
  have variant_outer (y : String) (outside : ∀ x, signature.IsExtra x → choice x ≠ .var y) :
      variant y = outer y := by
    refine dif_neg ?_
    rintro ⟨x, isExtra, stands⟩
    exact outside x isExtra stands
  refine ⟨variant, fun name member => variant_outer name fun x isExtra stands => ?_, ?_⟩
  · rcases generic x isExtra with ⟨own, isOwn, notListed, -⟩
    rw [isOwn] at stands
    cases stands
    exact notListed member
  · intro parameter isParameter
    rw [replace_replace]
    apply replace_congr
    intro x occurs
    by_cases inResult : x ∈ signature.result.variableOccurrences
    · rw [if_pos inResult]
      apply replace_congr
      intro y yOccurs
      rw [variant_outer y fun other isExtra stands => ?_]
      rcases generic other isExtra with ⟨own, isOwn, -, notInGoal, -⟩
      rw [isOwn] at stands
      cases stands
      exact notInGoal (mem_variableOccurrences_replace.mpr ⟨x, inResult, yOccurs⟩)
    · have isExtra : signature.IsExtra x := ⟨inResult, parameter, isParameter, occurs⟩
      rcases generic x isExtra with ⟨own, isOwn, -, -, only⟩
      have stands : ∃ other, signature.IsExtra other ∧ choice other = .var own :=
        ⟨x, isExtra, isOwn⟩
      have same : stands.choose = x := only _ stands.choose_spec.1 stands.choose_spec.2
      rw [if_neg inResult, isOwn, replace_var]
      simp only [variant, dif_pos stands, same]

theorem solvable_of_method
    {tier : Tier}
    {provider : Provider}
    {name : String}
    {span : Span}
    {typeParams : List Named}
    {parameters : List TypeExpr}
    {result : TypeExpr}
    {choice : String → TypeExpr}
    {goals : List Goal}
    (notOwn : context.isOwn goal = false)
    (listed : provider ∈ context.tier tier)
    (member : .method name span typeParams parameters result ∈ provider.members)
    (structural : parameters ≠ [] → hasParts goal.target = true)
    (generic : Signature.Generic context.data.typeParams
      (.ofMethod typeParams parameters result) choice)
    (matched : result.replace choice = goal.type)
    (asked : parameters.map (TypeExpr.replace choice) = goals.map Goal.type)
    (parts : ∀ part ∈ goals, Solvable context part) :
    Solvable context goal := by
  apply solvable_of_tier tier notOwn
  intro variant levels supply keeps before
  have renamedNotOwn : context.isOwn (goal.rename variant) = false :=
    (isOwn_rename context goal variant).trans notOwn
  rcases exists_placed_of_mem listed member with ⟨placed, isPlaced, -, isMethod⟩
  cases parameters with
  | nil =>
      apply searchTier_yields_of_direct renamedNotOwn isPlaced
      intro start grows
      exact direct_method_yields isMethod (replace_rename matched variant) (before.mono grows)
  | cons first rest =>
      have renamedStructural : hasParts (goal.rename variant).target = true :=
        (hasParts_rename goal variant).trans (structural (List.cons_ne_nil first rest))
      apply searchTier_yields_of_combined (solve_ensures context.admits_unrestricted levels)
        renamedNotOwn renamedStructural isPlaced
      intro start grows
      apply combined_yields isMethod (replace_rename matched variant) (before.mono grows)
      intro extra left
      rcases exists_renaming_of_generic generic extra variant with ⟨combined, outside, becomes⟩
      refine ⟨goals.map fun part => part.rename combined, ?_, ?_⟩
      · rw [List.map_map]
        have renamedTypes : goals.map (Goal.type ∘ fun part => part.rename combined) =
            (goals.map Goal.type).map (TypeExpr.replace fun y => .var (combined y)) := by
          rw [List.map_map]
          exact List.map_congr_left fun part _ => Goal.type_rename part combined
        rw [renamedTypes, ← asked, List.map_map]
        exact List.map_congr_left fun parameter isParameter => (becomes parameter isParameter).symm
      · intro renamed isRenamed partBefore
        rcases List.mem_map.mp isRenamed with ⟨part, isPart, rfl⟩
        refine (parts part isPart).settles (fun name declared => ?_) levels partBefore
        exact (outside name declared).trans (keeps name declared)

end Solvable

end SearchContext

mutual

/-- A goal that has a derivation with generic choices is solvable. -/
theorem Derives.solvable
    {context : SearchContext}
    {goal : Goal}
    {location : Location}
    {tiers : List Tier} :
    Derives context (Signature.Generic context.data.typeParams) goal location tiers →
      SearchContext.Solvable context goal
  | .field notOwn listed member matched =>
      SearchContext.solvable_of_field notOwn listed member matched
  | .method notOwn listed member structural allowed matched asked parts =>
      SearchContext.solvable_of_method notOwn listed member structural allowed matched asked
        (DerivesAll.solvable parts)
  | .generated parts => SearchContext.solvable_of_generated (DerivesAll.solvable parts)
  | .parameter declared => SearchContext.solvable_of_parameter declared

/-- Goals that have derivations with generic choices are solvable. -/
theorem DerivesAll.solvable
    {context : SearchContext}
    {goals : List Goal}
    {locations : List Location}
    {tiers : List Tier} :
    DerivesAll context (Signature.Generic context.data.typeParams) goals locations tiers →
      ∀ goal ∈ goals, SearchContext.Solvable context goal
  | .nil, _, member => nomatch member
  | .cons first rest, goal, member => by
      rcases List.mem_cons.mp member with same | later
      · rw [same]
        exact Derives.solvable first
      · exact DerivesAll.solvable rest goal later

end

namespace SearchContext

/--
If there is no instance, there is no derivation in which the variables that a
method has in its parameters alone stay variables.  Wherever a search meets a
goal with such a derivation, it finds an instance or stops for another reason.
-/
theorem solve_complete (context : SearchContext) :
    (∀ target message,
      (∀ name ∈ target.variableOccurrences, isFresh name = false) →
      context.find target = .error message →
      message.code = .noInstance →
      ∀ location tiers, ¬ Derives context (Signature.Generic context.data.typeParams)
        ⟨context.className, target⟩ location tiers) ∧
    ∀ levels goal supply location tiers,
      (∀ name ∈ goal.target.variableOccurrences, Below supply.taken name) →
      Derives context (Signature.Generic context.data.typeParams) goal location tiers →
      (∃ found, (outcome (context.solve levels goal) supply).1 = .ok found) ∨
        ∃ message, (outcome (context.solve levels goal) supply).1 = .error message ∧
          message.code ∈ [Code.ambiguousInstance, Code.searchTooDeep, Code.internal] := by
  have ends (levels : Nat) (goal : Goal) (supply : FreshNames) (location : Location)
      (tiers : List Tier) (before : goal.Before supply)
      (derives : Derives context (Signature.Generic context.data.typeParams) goal location tiers) :
      Ensures (context.solve levels goal) supply (fun _ _ => True) IsRefusal := by
    have solvable := derives.solvable id levels supply (fun _ _ => rfl)
    rw [Goal.rename_self] at solvable
    exact solvable before
  refine ⟨?_, ?_⟩
  · intro target message written answer absent location tiers derives
    have before : Goal.Before ⟨context.className, target⟩ .start :=
      fun name occurs => below_of_not_isFresh (written name occurs) _
    have refusal : IsRefusal message :=
      (ends (deepestGoal + 1) _ .start location tiers before derives).message_of_error answer
    simp [IsRefusal, absent] at refusal
  · intro levels goal supply location tiers before derives
    have ensures := ends levels goal supply location tiers before derives
    cases answer : (outcome (context.solve levels goal) supply).1 with
    | ok found => exact Or.inl ⟨found, rfl⟩
    | error message => exact Or.inr ⟨message, rfl, ensures.message_of_error answer⟩

/-- Equality of numbers, and of lists from an equality that the type of the list leaves open. -/
def looseInstances : Provider where
  name := "Instances"
  span := ⟨31, 36⟩
  members :=
    [.field "int_eq" ⟨1, 6⟩ (.con "Eq" [.atom "i32"]),
      .method "list_eq" ⟨11, 16⟩ [⟨"A", ⟨17, 18⟩⟩, ⟨"B", ⟨19, 20⟩⟩] [.con "Eq" [.var "B"]]
        (.con "Eq" [.con "List" [.var "A"]])]

/-- A search among these instances. -/
def looseContext : SearchContext where
  data := { (default : DataType) with name := "Shape" }
  className := "Eq"
  span := ⟨100, 101⟩
  providers := [looseInstances]
  lowPriority := []

theorem looseContext_number
    {admissible : Signature → (String → TypeExpr) → Prop} :
    Derives looseContext admissible ⟨"Eq", .atom "i32"⟩
      (.field looseInstances.name "int_eq" ⟨1, 6⟩) [.normal] := by
  have listed : looseInstances ∈ looseContext.tier .normal := List.mem_cons_self
  exact .field rfl listed List.mem_cons_self (replace_self (.con "Eq" [.atom "i32"]))

/--
With a free choice for the open variable there is an equality of lists of truth
values, made with that of numbers, but there is no instance to be found.
-/
theorem looseContext_derives_freely :
    (∃ message, looseContext.find (.con "List" [.atom "bool"]) = .error message ∧
      message.code = .noInstance) ∧
    Derives looseContext Signature.Recorded ⟨"Eq", .con "List" [.atom "bool"]⟩
      (.method "Instances" "list_eq" ⟨11, 16⟩ [("A", .atom "bool"), ("B", .atom "i32")]
        [.field "Instances" "int_eq" ⟨1, 6⟩])
      [.normal, .normal] := by
  refine ⟨⟨looseContext.missing ⟨"Eq", .con "List" [.atom "bool"]⟩, rfl, rfl⟩, ?_⟩
  have listed : looseInstances ∈ looseContext.tier .normal := List.mem_cons_self
  let choice (name : String) : TypeExpr := if name = "A" then .atom "bool" else .atom "i32"
  let typeParams : List Named := [⟨"A", ⟨17, 18⟩⟩, ⟨"B", ⟨19, 20⟩⟩]
  have recorded : (Signature.ofMethod typeParams [.con "Eq" [.var "B"]]
      (.con "Eq" [.con "List" [.var "A"]])).Recorded choice := by
    refine Signature.Closed.recorded ?_ choice
    simp [Signature.Closed, Signature.ofMethod, typeParams]
  have parts : DerivesAll looseContext Signature.Recorded [⟨"Eq", .atom "i32"⟩]
      [.field looseInstances.name "int_eq" ⟨1, 6⟩] [.normal] :=
    .cons looseContext_number .nil
  exact .method rfl listed (List.mem_cons_of_mem _ List.mem_cons_self) (fun _ => rfl) recorded
    rfl rfl parts

theorem solve_complete_looseContext :
    (∀ location tiers, ¬ Derives looseContext (Signature.Generic looseContext.data.typeParams)
      ⟨"Eq", .con "List" [.atom "bool"]⟩ location tiers) ∧
    ((∃ found, (outcome (looseContext.solve 1 ⟨"Eq", .atom "i32"⟩) .start).1 = .ok found) ∨
      ∃ message, (outcome (looseContext.solve 1 ⟨"Eq", .atom "i32"⟩) .start).1 = .error message ∧
        message.code ∈ [Code.ambiguousInstance, Code.searchTooDeep, Code.internal]) := by
  refine ⟨?_, ?_⟩
  · exact (solve_complete looseContext).1 (.con "List" [.atom "bool"])
      (looseContext.missing ⟨"Eq", .con "List" [.atom "bool"]⟩) (by simp [atom]) rfl rfl
  · exact (solve_complete looseContext).2 1 ⟨"Eq", .atom "i32"⟩ .start
      (.field looseInstances.name "int_eq" ⟨1, 6⟩) [.normal] (by simp [atom]) looseContext_number

end SearchContext

end DataDerive
