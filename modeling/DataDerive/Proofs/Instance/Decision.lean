import DataDerive.Proofs.Instance.Groups
import DataDerive.Proofs.Instance.Ranking
import DataDerive.Proofs.Instance.Specificity

/-!
# How a search is decided

Candidates are ranked by how many nodes of their declared types are no variables,
more first, and then by where their providers stand, earlier first.  Members of one
provider whose types have as many such nodes share a rank.  A candidate that
outranks all others is the only best one; without such a one the best candidates
are those that share the first rank.

A search is therefore decided by its first group with candidates: by the one that
outranks the others, or else by an ambiguity of those that share the first rank.
-/

namespace DataDerive

open TypeExpr FreshNames Search

namespace PlacedMember

/--
A member outranks another one if more nodes of its declared type are no variables,
or if as many are and its provider stands earlier.
-/
def Outranks (left right : PlacedMember) : Prop :=
  right.member.provides.concreteNodes < left.member.provides.concreteNodes ∨
    (left.member.provides.concreteNodes = right.member.provides.concreteNodes ∧
      left.priority < right.priority)

/-- As many nodes of the declared types are no variables, and the providers stand at one place. -/
def SharesRank (left right : PlacedMember) : Prop :=
  left.member.provides.concreteNodes = right.member.provides.concreteNodes ∧
    left.priority = right.priority

instance : DecidableRel Outranks := fun _ _ => inferInstanceAs (Decidable (_ ∨ _))

instance : DecidableRel SharesRank := fun _ _ => inferInstanceAs (Decidable (_ ∧ _))

theorem beats_eq_true_iff {left right : PlacedMember} :
    left.beats right = true ↔ left.Outranks right := by
  simp only [beats, Bool.or_eq_true, Bool.and_eq_true, decide_eq_true_eq, beq_iff_eq]
  exact Iff.rfl

theorem beats_eq_false_iff {left right : PlacedMember} :
    left.beats right = false ↔ ¬ left.Outranks right := by
  rw [← beats_eq_true_iff, Bool.not_eq_true]

theorem not_outranks_self (placed : PlacedMember) : ¬ placed.Outranks placed :=
  beats_eq_false_iff.mp (SearchContext.not_beats_self placed)

theorem sharesRank_iff {left right : PlacedMember} :
    left.SharesRank right ↔ ¬ left.Outranks right ∧ ¬ right.Outranks left := by
  rw [SharesRank, Outranks, Outranks]
  omega

/-- Members of one rank are outranked by the same members. -/
theorem SharesRank.outranks_iff {left right : PlacedMember}
    (shares : left.SharesRank right)
    (other : PlacedMember) :
    other.Outranks left ↔ other.Outranks right := by
  rw [Outranks, Outranks, shares.1, shares.2]

/-- A member stands among providers, with what its rank depends on. -/
structure Stands (placed : PlacedMember) (providers : List Provider) : Prop where
  /-- Its priority is the position of the provider that has it. -/
  provider : ∃ provider, providers[placed.priority]? = some provider ∧
    provider.name = placed.source ∧ placed.member ∈ provider.members
  /-- All nodes of its type count for it but the occurrences of variables. -/
  count : placed.member.provides.concreteNodes +
    placed.member.provides.variableOccurrences.length = placed.member.provides.nodes

theorem stands_of_mem {placed : PlacedMember} {providers : List Provider}
    (listed : placed ∈ ofProviders providers) : placed.Stands providers := by
  rcases List.mem_flatMap.mp listed with ⟨⟨provider, position⟩, isProvider, isMember⟩
  rcases List.mem_map.mp isMember with ⟨member, has, rfl⟩
  exact ⟨⟨provider, List.mem_zipIdx_iff_getElem?.mp isProvider, rfl, has⟩,
    concreteNodes_add_variables _⟩

end PlacedMember

namespace Candidate

variable {candidates : List Candidate} {top chosen : Candidate}

/-- A candidate outranks all others. -/
def Leads (candidate : Candidate) (candidates : List Candidate) : Prop :=
  ∃ front back, candidates = front ++ candidate :: back ∧
    ∀ other ∈ front ++ back, candidate.placed.Outranks other.placed

/-- The best candidates are those that no other one outranks. -/
theorem mem_best_iff_not_outranked :
    chosen ∈ best candidates ↔
      chosen ∈ candidates ∧ ∀ other ∈ candidates, ¬ other.placed.Outranks chosen.placed := by
  simp only [mem_best_iff, PlacedMember.beats_eq_false_iff]

/-- The best candidates share the rank of any of them. -/
theorem best_eq_filter (isBest : top ∈ best candidates) :
    best candidates = candidates.filter fun candidate =>
      candidate.placed.SharesRank top.placed := by
  rcases mem_best_iff_not_outranked.mp isBest with ⟨listed, unbeaten⟩
  rw [best]
  apply List.filter_congr
  intro candidate isCandidate
  rw [Bool.eq_iff_iff, List.all_eq_true, decide_eq_true_iff]
  simp only [Bool.not_eq_true', PlacedMember.beats_eq_false_iff]
  constructor
  · intro stands
    exact PlacedMember.sharesRank_iff.mpr ⟨unbeaten candidate isCandidate, stands top listed⟩
  · intro shares other isOther
    rw [shares.outranks_iff]
    exact unbeaten other isOther

/-- A single best candidate outranks all others. -/
theorem leads_of_best (only : best candidates = [chosen]) : chosen.Leads candidates := by
  have isBest : chosen ∈ best candidates := by
    rw [only]
    exact List.mem_cons_self
  rcases mem_best_iff_not_outranked.mp isBest with ⟨listed, unbeaten⟩
  rcases List.append_of_mem listed with ⟨front, back, rfl⟩
  have itself : chosen.placed.SharesRank chosen.placed := ⟨rfl, rfl⟩
  -- All candidates of the rank are best, so there is no other one of it.
  rw [best_eq_filter isBest, List.filter_append, List.filter_cons,
    if_pos (decide_eq_true itself)] at only
  have alone : (front ++ back).filter (fun candidate =>
      candidate.placed.SharesRank chosen.placed) = [] := by
    have count := congrArg List.length only
    rw [List.length_append, List.length_cons, List.length_singleton] at count
    rw [List.filter_append, ← List.length_eq_zero_iff, List.length_append]
    omega
  refine ⟨front, back, rfl, fun other isOther => ?_⟩
  have loses : ¬ other.placed.Outranks chosen.placed := by
    apply unbeaten other
    rcases List.mem_append.mp isOther with inFront | inBack
    · exact List.mem_append_left _ inFront
    · exact List.mem_append_right _ (List.mem_cons_of_mem _ inBack)
  by_contra notAhead
  exact List.filter_eq_nil_iff.mp alone other isOther
    (decide_eq_true (PlacedMember.sharesRank_iff.mpr ⟨loses, notAhead⟩))

/-- A candidate that outranks all others is the only best one. -/
theorem best_of_leads (leads : chosen.Leads candidates) : best candidates = [chosen] := by
  rcases leads with ⟨front, back, rfl, ahead⟩
  have places : (best (front ++ chosen :: back)).map Candidate.placed = [chosen.placed] := by
    rw [map_placed_best, List.map_append, List.map_cons]
    apply SearchContext.filter_unbeaten_eq_singleton
    rw [← List.map_append]
    intro other listed
    rcases List.mem_map.mp listed with ⟨candidate, isCandidate, rfl⟩
    exact PlacedMember.beats_eq_true_iff.mpr (ahead candidate isCandidate)
  rcases List.map_eq_singleton_iff.mp places with ⟨only, isOnly, place⟩
  have isBest : only ∈ best (front ++ chosen :: back) := by
    rw [isOnly]
    exact List.mem_cons_self
  have listed := (mem_best_iff.mp isBest).1
  have notOther : only ∉ front ++ back := by
    intro isOther
    have outranksItself := ahead only isOther
    rw [place] at outranksItself
    exact PlacedMember.not_outranks_self chosen.placed outranksItself
  rw [List.mem_append, List.mem_cons] at listed
  rcases listed with inFront | isChosen | inBack
  · exact absurd (List.mem_append_left back inFront) notOther
  · rw [isOnly, isChosen]
  · exact absurd (List.mem_append_right front inBack) notOther

end Candidate

namespace SearchContext

/-! ## Answers -/

/-- How candidates decide the answer to a goal. -/
structure Decided (context : SearchContext) (low : Bool) (candidates : List Candidate)
    (answer : Derived FoundInstance) : Prop where
  /-- Without candidates there is no instance. -/
  missing : candidates = [] → ∃ message, answer = .error message ∧ message.code = .noInstance
  /-- A candidate that outranks all others is the answer. -/
  leads : ∀ best : Candidate, best.Leads candidates →
    answer = .ok { best.found with lowPriority := best.found.lowPriority || low }
  /-- Otherwise the candidates of the first rank are an ambiguity. -/
  tied : candidates ≠ [] → (∀ best : Candidate, ¬ best.Leads candidates) →
    ∃ top ∈ candidates, (∀ other ∈ candidates, ¬ other.placed.Outranks top.placed) ∧
      ∃ message, answer = .error message ∧ message.code = .ambiguousInstance ∧
        message.places = .declaration context.data.name context.span ::
          (candidates.filter fun candidate => candidate.placed.SharesRank top.placed).map
            fun candidate => .declaration context.data.name candidate.placed.member.span

/-- The answer to a goal that candidates give. -/
def verdict (context : SearchContext) (goal : Goal) (low : Bool) (candidates : List Candidate) :
    Derived FoundInstance :=
  match context.pick goal candidates with
  | .error message => .error message
  | .ok none => .error (context.missing goal)
  | .ok (some found) => .ok { found with lowPriority := found.lowPriority || low }

section Verdicts

variable {context : SearchContext} {goal : Goal} {low : Bool} {candidates : List Candidate}

theorem decided_verdict : context.Decided low candidates (context.verdict goal low candidates) where
  missing := by
    rintro rfl
    exact ⟨context.missing goal, rfl, rfl⟩
  leads := by
    intro best leads
    rw [verdict, pick, Candidate.best_of_leads leads]
  tied := by
    intro nonempty noLead
    rcases several : Candidate.best candidates with _ | ⟨top, _ | ⟨next, rest⟩⟩
    · exact absurd several (best_ne_nil nonempty)
    · exact absurd (Candidate.leads_of_best several) (noLead top)
    · have isBest : top ∈ Candidate.best candidates := by
        rw [several]
        exact List.mem_cons_self
      rcases Candidate.mem_best_iff_not_outranked.mp isBest with ⟨listed, unbeaten⟩
      refine ⟨top, listed, unbeaten, context.ambiguous goal (top :: next :: rest), ?_, rfl, ?_⟩
      · rw [verdict, pick, several]
      · rw [← Candidate.best_eq_filter isBest, several]
        rfl

end Verdicts

/-! ## Runs through the groups -/

section Runs

variable {context : SearchContext} {solve : Goal → Search FoundInstance} {goal : Goal}
variable {groups : List Group} {supply : FreshNames}

/-- Candidates stand in the order of their members. -/
theorem Gathers.sublist {members : List PlacedMember} {candidates : List Candidate}
    {left : FreshNames}
    (gathers : Gathers solve goal members supply candidates left) :
    (candidates.map Candidate.placed).Sublist members := by
  induction gathers with
  | done => exact List.Sublist.slnil
  | next tries _ ih =>
      cases tries with
      | unmatched => exact ih.cons _
      | @matched apply middle left parts matches_ resolves =>
          cases parts with
          | none => exact ih.cons _
          | some parts => exact ih.cons_cons _

theorem Decisive.exists_sublist {low : Bool} {candidates : List Candidate}
    (decisive : Decisive solve goal groups supply low candidates) :
    candidates = [] ∨ ∃ group ∈ groups, group.lowPriority = low ∧
      (candidates.map Candidate.placed).Sublist group.members := by
  induction decisive with
  | none => exact Or.inl rfl
  | here gathers _ => exact Or.inr ⟨_, List.mem_cons_self, rfl, gathers.sublist⟩
  | later _ _ ih =>
      rcases ih with empty | ⟨group, listed, same, sublist⟩
      · exact Or.inl empty
      · exact Or.inr ⟨group, List.mem_cons_of_mem _ listed, same, sublist⟩

theorem pick_ne_none {candidates : List Candidate} (nonempty : candidates ≠ []) :
    context.pick goal candidates ≠ .ok none :=
  fun nothing => nonempty (pick_eq_none_iff.mp nothing)

/-- The candidates of the first group that has some give the answer. -/
theorem Decisive.outcome_eq {low : Bool} {candidates : List Candidate}
    (decisive : Decisive solve goal groups supply low candidates) :
    (outcome (context.searchGroups solve goal groups) supply).1 =
      context.verdict goal low candidates := by
  induction decisive with
  | none => rfl
  | @here group rest supply left candidates gathers nonempty =>
      have ends := ((accounts_collect solve goal group.members).value_iff _ _ _).mpr gathers
      rw [searchGroups, outcome_bind_of_ok ends, verdict]
      cases picked : context.pick goal candidates with
      | error message => rfl
      | ok result =>
          cases result with
          | none => exact absurd picked (pick_ne_none nonempty)
          | some found => rfl
  | @later group rest supply middle low candidates gathers _ ih =>
      have ends := ((accounts_collect solve goal group.members).value_iff _ _ _).mpr gathers
      rw [searchGroups, outcome_bind_of_ok ends, ← ih]
      rfl

/-- Some group decides unless a dependency ends the search. -/
theorem exists_decisive
    (quiet : ∀ asked start message, GroupsAsk solve goal groups supply asked start →
      (outcome (solve asked) start).1 = .error message → message.code = .noInstance) :
    ∃ low candidates, Decisive solve goal groups supply low candidates := by
  induction groups generalizing supply with
  | nil => exact ⟨false, [], .none supply⟩
  | cons group rest ih =>
      rcases (accounts_collect solve goal group.members).cases supply with
        ⟨candidates, left, gathers, -⟩ | ⟨message, asked, start, asks, present, fails, -⟩
      · by_cases empty : candidates = []
        · cases empty
          rcases ih fun asked start message asks => quiet asked start message (.later gathers asks)
            with ⟨low, candidates, decisive⟩
          exact ⟨low, candidates, .later gathers decisive⟩
        · exact ⟨group.lowPriority, candidates, .here gathers empty⟩
      · exact absurd (quiet asked start message (.here asks) fails) present

/-- A dependency that ends the search in a message makes it the answer. -/
theorem GroupsAsk.outcome_eq {asked : Goal} {start : FreshNames} {message : Message}
    (asks : GroupsAsk solve goal groups supply asked start)
    (fails : (outcome (solve asked) start).1 = .error message)
    (present : message.code ≠ .noInstance) :
    (outcome (context.searchGroups solve goal groups) supply).1 = .error message := by
  induction asks with
  | @here group rest supply start asked asks =>
      have stops := ((accounts_collect solve goal group.members).message_iff supply message).mpr
        ⟨present, asked, start, asks, fails⟩
      rw [searchGroups]
      exact outcome_bind_eq_error_iff.mpr (Or.inl stops)
  | @later group rest supply middle start asked gathers _ ih =>
      have ends := ((accounts_collect solve goal group.members).value_iff _ _ _).mpr gathers
      rw [searchGroups, outcome_bind_of_ok ends]
      exact ih fails

/-- Only members with parameters have dependencies. -/
theorem MembersAsk.exists_composed {members : List PlacedMember} {asked : Goal}
    {start : FreshNames}
    (asks : MembersAsk solve goal members supply asked start) :
    ∃ placed ∈ members, placed.member.parameters ≠ [] := by
  induction asks with
  | @here placed rest supply start asked asks =>
      refine ⟨placed, List.mem_cons_self, fun simple => ?_⟩
      rcases asks with ⟨apply, middle, -, searched⟩
      rw [simple] at searched
      cases searched
  | later _ _ ih =>
      rcases ih with ⟨placed, listed, composed⟩
      exact ⟨placed, List.mem_cons_of_mem _ listed, composed⟩

theorem GroupsAsk.exists_composed {asked : Goal} {start : FreshNames}
    (asks : GroupsAsk solve goal groups supply asked start) :
    ∃ group ∈ groups, ∃ placed ∈ group.members, placed.member.parameters ≠ [] := by
  induction asks with
  | here asks => exact ⟨_, List.mem_cons_self, asks.exists_composed⟩
  | later _ _ ih =>
      rcases ih with ⟨group, listed, composed⟩
      exact ⟨group, List.mem_cons_of_mem _ listed, composed⟩

/-- No dependency is searched for a goal without a structure. -/
theorem not_groupsAsk_of_not_structured {asked : Goal} {start : FreshNames}
    (unstructured : ¬ Structured goal.target) :
    ¬ GroupsAsk solve goal (context.groups goal) supply asked start := by
  intro asks
  rcases asks.exists_composed with ⟨group, listed, placed, isMember, composed⟩
  have simple : placed.member.parameters.isEmpty = true := by
    simp only [groups, tierGroups, unstructured, if_false, List.cons_append, List.nil_append,
      List.mem_cons, List.not_mem_nil, or_false] at listed
    rcases listed with rfl | rfl
    · exact (List.mem_filter.mp isMember).2
    · exact (List.mem_filter.mp isMember).2
  exact composed (List.isEmpty_iff.mp simple)

end Runs

/-! ## The answer to a goal -/

theorem sublist_of_mem_groups {context : SearchContext} {goal : Goal} {group : Group}
    (listed : group ∈ context.groups goal) :
    group.members.Sublist (PlacedMember.ofProviders
      (if group.lowPriority then context.lowPriority else context.providers)) := by
  have within {providers : List Provider} {low : Bool}
      (inTier : group ∈ tierGroups goal providers low) :
      group.members.Sublist (PlacedMember.ofProviders providers) ∧ group.lowPriority = low := by
    rcases List.mem_cons.mp inTier with rfl | isComposed
    · exact ⟨List.filter_sublist, rfl⟩
    · split at isComposed
      next =>
        rw [List.mem_singleton.mp isComposed]
        exact ⟨List.filter_sublist, rfl⟩
      next => cases isComposed
  rcases List.mem_append.mp listed with normal | low
  · rcases within normal with ⟨sublist, same⟩
    rw [same]
    exact sublist
  · rcases within low with ⟨sublist, same⟩
    rw [same]
    exact sublist

section Answer

variable {context : SearchContext} {levels : Nat} {goal : Goal} {supply : FreshNames}

/-- A goal that is neither at the data type itself nor at a type parameter is searched for. -/
theorem solve_of_searched
    (notOwn : ∀ arguments, goal ≠ ⟨context.className, .con context.data.name arguments⟩)
    (notParameter : ∀ name ∈ context.data.typeParams, goal.target ≠ .var name) :
    context.solve (levels + 1) goal =
      context.searchGroups (context.solve levels) goal (context.groups goal) := by
  have other : context.isOwn goal ≠ true := fun own =>
    let ⟨arguments, same⟩ := isOwn_iff.mp own
    notOwn arguments same
  have none : context.ownParameter? goal.target = none := by
    refine Option.eq_none_iff_forall_ne_some.mpr fun name isParameter => ?_
    obtain ⟨same, declared⟩ := ownParameter?_eq_some.mp isParameter
    exact notParameter name declared same
  rw [solve, if_neg other, none, ← searchTiers_eq_searchGroups]

/-- A dependency of a goal that ends in a message other than that there is no instance
ends the goal in that message. -/
theorem solve_of_groupsAsk
    (notOwn : ∀ arguments, goal ≠ ⟨context.className, .con context.data.name arguments⟩)
    (notParameter : ∀ name ∈ context.data.typeParams, goal.target ≠ .var name)
    {asked : Goal} {start : FreshNames} {message : Message}
    (asks : GroupsAsk (context.solve levels) goal (context.groups goal) supply asked start)
    (fails : (outcome (context.solve levels asked) start).1 = .error message)
    (present : message.code ≠ .noInstance) :
    (outcome (context.solve (levels + 1) goal) supply).1 = .error message := by
  rw [solve_of_searched notOwn notParameter]
  exact asks.outcome_eq fails present

/--
The first group with candidates decides a goal that is searched for, whatever
the level and the supply of fresh variables, as long as every dependency that is
searched has an instance or has none.  The candidates are in the order of the
providers and of their members, and each stands where its provider does.
-/
theorem solve_decided
    (context : SearchContext)
    (levels : Nat)
    (goal : Goal)
    (supply : FreshNames)
    (notOwn : ∀ arguments, goal ≠ ⟨context.className, .con context.data.name arguments⟩)
    (notParameter : ∀ name ∈ context.data.typeParams, goal.target ≠ .var name)
    (quiet : ∀ asked start message,
      GroupsAsk (context.solve levels) goal (context.groups goal) supply asked start →
      (outcome (context.solve levels asked) start).1 = .error message →
      message.code = .noInstance) :
    (∃ low candidates,
      Decisive (context.solve levels) goal (context.groups goal) supply low candidates) ∧
    ∀ low candidates,
      Decisive (context.solve levels) goal (context.groups goal) supply low candidates →
      (candidates.map Candidate.placed).Sublist (PlacedMember.ofProviders
        (if low then context.lowPriority else context.providers)) ∧
      (∀ candidate ∈ candidates, candidate.placed.Stands
        (if low then context.lowPriority else context.providers)) ∧
      context.Decided low candidates (outcome (context.solve (levels + 1) goal) supply).1 := by
  refine ⟨exists_decisive quiet, fun low candidates decisive => ?_⟩
  have ordered : (candidates.map Candidate.placed).Sublist (PlacedMember.ofProviders
      (if low then context.lowPriority else context.providers)) := by
    rcases decisive.exists_sublist with empty | ⟨group, listed, same, sublist⟩
    · rw [empty]
      exact List.nil_sublist _
    · rw [← same]
      exact sublist.trans (sublist_of_mem_groups listed)
  refine ⟨ordered, fun candidate listed => ?stands, ?decided⟩
  case stands =>
    exact PlacedMember.stands_of_mem (ordered.mem (List.mem_map_of_mem listed))
  case decided =>
    rw [solve_of_searched notOwn notParameter, decisive.outcome_eq]
    exact decided_verdict

end Answer

/-- A text of numbers, which two fields give. -/
def showGoal : Goal :=
  ⟨"Show", .atom "i32"⟩

/-- A text of numbers. -/
def oneShow : List StaticMember :=
  [numberShow "int_show" ⟨41, 46⟩]

/-- A text of numbers as a candidate. -/
def numberShowCandidate (name : String) (span : Span) : Candidate :=
  ⟨inInstances (numberShow name span), .field "Instances" name span, false⟩

/-- Equality of lists of numbers by a text of numbers. -/
def shownListEqCandidate : Candidate :=
  ⟨inInstances shownListEq,
    .method "Instances" "shown_list_eq" ⟨21, 26⟩ [("A", .atom "i32")]
      [.field "Instances" "int_show" ⟨41, 46⟩], false⟩

/-- No field gives equality of lists of numbers, and with one text both methods do. -/
theorem decisive_oneShow :
    Decisive ((withShows oneShow).solve deepestGoal) listGoal ((withShows oneShow).groups listGoal)
      .start false [listIntEqCandidate, shownListEqCandidate] := by
  have direct : outcome (collect (tryMember ((withShows oneShow).solve deepestGoal) listGoal)
      (inInstances intEq :: oneShow.map inInstances)) .start = (.ok [], .start) :=
    rfl
  have composed : outcome (collect (tryMember ((withShows oneShow).solve deepestGoal) listGoal)
      [inInstances listIntEq, inInstances shownListEq]) .start =
        (.ok [listIntEqCandidate, shownListEqCandidate], ⟨1⟩) :=
    rfl
  exact .later (((accounts_collect _ _ _).value_iff _ _ _).mp direct)
    (.here (((accounts_collect _ _ _).value_iff _ _ _).mp composed) (List.cons_ne_nil _ _))

theorem decisive_twoShows :
    Decisive ((withShows twoShows).solve deepestGoal) showGoal
      ((withShows twoShows).groups showGoal) .start false
      [numberShowCandidate "int_show" ⟨41, 46⟩, numberShowCandidate "int_text" ⟨51, 56⟩] := by
  have direct : outcome (collect (tryMember ((withShows twoShows).solve deepestGoal) showGoal)
      (inInstances intEq :: twoShows.map inInstances)) .start =
        (.ok [numberShowCandidate "int_show" ⟨41, 46⟩, numberShowCandidate "int_text" ⟨51, 56⟩],
          .start) :=
    rfl
  exact .here (((accounts_collect _ _ _).value_iff _ _ _).mp direct) (List.cons_ne_nil _ _)

/--
Of two methods that match and have their parts, the one whose type has three nodes
that are no variables gives the answer, and not the one whose type has two.  Two
fields of one provider that match are an ambiguity, which lists both.
-/
theorem solve_decided_withShows :
    (Decisive ((withShows oneShow).solve deepestGoal) listGoal
        ((withShows oneShow).groups listGoal) .start false
        [listIntEqCandidate, shownListEqCandidate] ∧
      listIntEqCandidate.Leads [listIntEqCandidate, shownListEqCandidate] ∧
      (outcome ((withShows oneShow).solve (deepestGoal + 1) listGoal) .start).1 =
        .ok listIntEqCandidate.found) ∧
    Decisive ((withShows twoShows).solve deepestGoal) showGoal
      ((withShows twoShows).groups showGoal) .start false
      [numberShowCandidate "int_show" ⟨41, 46⟩, numberShowCandidate "int_text" ⟨51, 56⟩] ∧
    ∃ message, (outcome ((withShows twoShows).solve (deepestGoal + 1) showGoal) .start).1 =
        .error message ∧ message.code = .ambiguousInstance ∧
      message.places = .declaration (withShows twoShows).data.name (withShows twoShows).span ::
        [⟨41, 46⟩, ⟨51, 56⟩].map (Localization.declaration (withShows twoShows).data.name) := by
  constructor
  · have answer : (outcome ((withShows oneShow).solve (deepestGoal + 1) listGoal) .start).1 =
        .ok listIntEqCandidate.found :=
      rfl
    have leads : listIntEqCandidate.Leads [listIntEqCandidate, shownListEqCandidate] := by
      refine ⟨[], [shownListEqCandidate], rfl, List.forall_mem_singleton.mpr ?_⟩
      decide
    have notOwn : ∀ arguments, listGoal ≠
        ⟨(withShows oneShow).className, .con (withShows oneShow).data.name arguments⟩ := by
      intro arguments same
      have names := (TypeExpr.con.inj (congrArg Goal.target same)).1
      exact absurd names (by decide)
    have notParameter : ∀ name ∈ (withShows oneShow).data.typeParams, listGoal.target ≠ .var name :=
      List.forall_mem_nil _
    have decided := solve_decided (withShows oneShow) deepestGoal listGoal .start notOwn notParameter
      (by
        intro asked start message asks fails
        by_contra present
        cases answer.symm.trans (solve_of_groupsAsk notOwn notParameter asks fails present))
    exact ⟨decisive_oneShow, leads, (decided.2 _ _ decisive_oneShow).2.2.leads _ leads⟩
  · have notOwn : ∀ arguments, showGoal ≠
        ⟨(withShows twoShows).className, .con (withShows twoShows).data.name arguments⟩ := by
      intro arguments same
      have classes : showGoal.className = (withShows twoShows).className :=
        congrArg Goal.className same
      exact absurd classes (by decide)
    have decided := solve_decided (withShows twoShows) deepestGoal showGoal .start notOwn
      (List.forall_mem_nil _) fun asked start message asks =>
        absurd asks (not_groupsAsk_of_not_structured fun arguments => arguments rfl)
    have noLead : ∀ best : Candidate, ¬ best.Leads
        [numberShowCandidate "int_show" ⟨41, 46⟩, numberShowCandidate "int_text" ⟨51, 56⟩] := by
      intro best leads
      cases Candidate.best_of_leads leads
    rcases (decided.2 _ _ decisive_twoShows).2.2.tied (List.cons_ne_nil _ _) noLead with
      ⟨top, listed, -, message, fails, ambiguity, places⟩
    refine ⟨decisive_twoShows, message, fails, ambiguity, ?_⟩
    rw [places]
    -- Whichever of the two is taken for the first, both share its rank.
    rcases List.mem_pair.mp listed with rfl | rfl
    · rfl
    · rfl

end SearchContext

end DataDerive
