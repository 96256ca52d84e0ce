import DataDerive.Proofs.Instance.Matches
import DataDerive.Proofs.Instance.Rearrangement

/-!
# The best of the members with parameters

If no member without parameters matches a goal, all members with parameters that
match it are tried before any is chosen.  One that lacks an instance for its
parameters is no candidate.  Any other message ends the search, also if the
member could not have been chosen.

So a member that is strictly best is chosen if no other member ends in such a
message, and otherwise the first of these messages is the answer.  When a member
is tried only shows in the names of variables.
-/

namespace DataDerive

open TypeExpr FreshNames Search

/-- An instance that is another one but for the variables that a supply had not given yet. -/
def FoundInstance.Variant (supply : FreshNames) (found answer : FoundInstance) : Prop :=
  answer.lowPriority = found.lowPriority ∧
    ∃ relabel : Equiv.Perm String, (∀ name, Below supply.taken name → relabel name = name) ∧
      answer.location = found.location.rename relabel

/-- A search beside itself at a later state of its supply. -/
def Alignment.later
    (supply start : FreshNames)
    (grows : supply.taken ≤ start.taken) : Alignment where
  known := {name | Below supply.taken name}
  rename := Equiv.refl String
  left := supply
  right := start
  written _ written := ⟨below_of_not_isFresh written _, rfl⟩
  below_left _ below := below
  below_right _ below := below.mono grows

namespace SearchContext

open DataDerive.Alignment

/-! ## Trials of members -/

/-- Tried for a goal by its parts, a member ends the whole search. -/
def Breaks
    (context : SearchContext)
    (levels : Nat)
    (goal : Goal)
    (supply : FreshNames)
    (placed : PlacedMember) : Prop :=
  ∃ message, (outcome (combined? (context.solve levels) goal placed) supply).1 = .error message

/-- Tried for a goal by its parts, a member is a candidate. -/
def Succeeds
    (context : SearchContext)
    (levels : Nat)
    (goal : Goal)
    (supply : FreshNames)
    (placed : PlacedMember) : Prop :=
  ∃ candidate,
    (outcome (combined? (context.solve levels) goal placed) supply).1 = .ok (some candidate)

section Trials

variable {context : SearchContext} {levels : Nat} {goal : Goal} {placed : PlacedMember}
variable {supply start : FreshNames}

theorem Succeeds.matches
    (succeeds : context.Succeeds levels goal supply placed) :
    placed.member.parameters ≠ [] ∧ placed.Matches goal := by
  rcases succeeds with ⟨candidate, gives⟩
  exact matches_of_combined (Prod.ext gives rfl)

theorem Counterparts.itself
    (declared : ∀ name ∈ context.data.typeParams, isFresh name = false) :
    Counterparts False context context where
  data := rfl
  className := rfl
  providers := List.forall₂_same.mpr fun _ _ => ⟨rfl, .rfl⟩
  lowPriority := Or.inl (List.forall₂_same.mpr fun _ _ => ⟨rfl, .rfl⟩)
  written := declared

/-- A member tried at two states of the supply. -/
theorem aligned_combined_later
    (declared : ∀ name ∈ context.data.typeParams, isFresh name = false)
    (before : goal.Before supply)
    (grows : supply.taken ≤ start.taken)
    (levels : Nat)
    (placed : PlacedMember) :
    Aligned False (Alignment.later supply start grows)
      (fun last => Tried (fun candidate => Excused False candidate.found) last.Candidates)
      (combined? (context.solve levels) goal placed)
      (combined? (context.solve levels) goal placed) := by
  have goals : (Alignment.later supply start grows).Goals goal goal :=
    ⟨rfl, before, (rename_of_fixes fun _ _ => rfl).symm⟩
  exact aligned_combined (aligned_solve (.itself declared) levels) goals placed

/-- Whether a member breaks the search does not depend on when it is tried. -/
theorem breaks_later_iff
    (declared : ∀ name ∈ context.data.typeParams, isFresh name = false)
    (before : goal.Before supply)
    (grows : supply.taken ≤ start.taken) :
    context.Breaks levels goal start placed ↔ context.Breaks levels goal supply placed := by
  have aligned := aligned_combined_later declared before grows levels placed
  constructor
  · rintro ⟨message, fails⟩
    rcases ends : (outcome (combined? (context.solve levels) goal placed) supply).1 with
      fault | result
    · exact ⟨fault, ends⟩
    · exact (aligned.excuse_of_rightMessage ends fails).elim
  · rintro ⟨message, fails⟩
    rcases ends : (outcome (combined? (context.solve levels) goal placed) start).1 with
      fault | answer
    · exact ⟨fault, ends⟩
    · exact (aligned.excuse_of_leftMessage fails ends).elim

/-- A member that was tried with a result does not break the search. -/
theorem not_breaks_of_tried
    (declared : ∀ name ∈ context.data.typeParams, isFresh name = false)
    (before : goal.Before supply)
    (grows : supply.taken ≤ start.taken)
    {last : FreshNames}
    {result : Option Candidate}
    (tried : TriedBetween (combined? (context.solve levels) goal) start last placed result) :
    ¬ context.Breaks levels goal supply placed := by
  rcases tried with ⟨begins, left, later, -, gives⟩
  intro breaks
  rcases (breaks_later_iff declared before (Nat.le_trans grows later)).mpr breaks with
    ⟨message, fails⟩
  cases (congrArg Prod.fst gives).symm.trans fails

/-- A member that is tried later gives what it would have given, in other variables. -/
theorem exists_earlier_trial
    (declared : ∀ name ∈ context.data.typeParams, isFresh name = false)
    (before : goal.Before supply)
    (grows : supply.taken ≤ start.taken)
    {answer : Option Candidate}
    (gives : (outcome (combined? (context.solve levels) goal placed) start).1 = .ok answer) :
    ∃ result, (outcome (combined? (context.solve levels) goal placed) supply).1 = .ok result ∧
      Tried (fun _ => False) (fun first second => first.found.Variant supply second.found)
        result answer := by
  have aligned := aligned_combined_later declared before grows levels placed
  rcases ends : outcome (combined? (context.solve levels) goal placed) supply with
    ⟨message | result, left⟩
  · exact (aligned.excuse_of_leftMessage (congrArg Prod.fst ends) gives).elim
  · refine ⟨result, rfl, ?_⟩
    rcases again : outcome (combined? (context.solve levels) goal placed) start with ⟨_, right⟩
    rw [again] at gives
    cases gives
    change Agree _ _ _ (outcome _ supply) (outcome _ start) at aligned
    rw [ends, again] at aligned
    cases aligned with
    | values last grown tried =>
        cases tried with
        | missing => exact .missing
        | found candidates =>
            exact .found ⟨candidates.2.2, last.rename, grown.rename, candidates.2.1.2⟩
        | excused excuse => exact excuse.1.elim

theorem succeeds_iff_of_later
    (declared : ∀ name ∈ context.data.typeParams, isFresh name = false)
    (before : goal.Before supply)
    (grows : supply.taken ≤ start.taken)
    {answer : Option Candidate}
    (gives : (outcome (combined? (context.solve levels) goal placed) start).1 = .ok answer) :
    answer.isSome = true ↔ context.Succeeds levels goal supply placed := by
  rcases exists_earlier_trial declared before grows gives with ⟨result, ends, tried⟩
  rw [Succeeds, ends]
  cases tried with
  | missing => simp
  | found => simp
  | excused excuse => exact excuse.elim

end Trials

/-! ## A strictly best member -/

/-- A place that beats all others is the only one that no place beats. -/
theorem filter_unbeaten_eq_singleton
    {best : PlacedMember}
    {front back : List PlacedMember}
    (wins : ∀ other ∈ front ++ back, best.beats other = true) :
    ((front ++ best :: back).filter fun placed =>
      (front ++ best :: back).all fun other => !other.beats placed) = [best] := by
  have unbeaten : ((front ++ best :: back).all fun other => !other.beats best) = true := by
    rw [List.all_eq_true]
    intro other listed
    rw [Bool.not_eq_true', ← Bool.not_eq_true]
    intro beaten
    have itself : best.beats best = true := by
      rw [List.mem_append, List.mem_cons] at listed
      rcases listed with inFront | rfl | inBack
      · exact beats_trans (wins other (List.mem_append_left _ inFront)) beaten
      · exact beaten
      · exact beats_trans (wins other (List.mem_append_right _ inBack)) beaten
    rw [not_beats_self] at itself
    cases itself
  have loses (other : PlacedMember) (listed : other ∈ front ++ back) :
      ¬ ((front ++ best :: back).all fun rival => !rival.beats other) = true := by
    intro unbeaten
    have stands := List.all_eq_true.mp unbeaten best
      (List.mem_append_right _ List.mem_cons_self)
    rw [wins other listed] at stands
    cases stands
  rw [List.filter_append, List.filter_cons, if_pos unbeaten,
    List.filter_eq_nil_iff.mpr fun other inFront => loses other (List.mem_append_left _ inFront),
    List.filter_eq_nil_iff.mpr fun other inBack => loses other (List.mem_append_right _ inBack)]
  rfl

/-- A member beats all others with parameters that match a goal. -/
def StrictlyBest (goal : Goal) (best : PlacedMember) (others : List PlacedMember) : Prop :=
  ∀ other ∈ others, other.member.parameters ≠ [] → other.Matches goal → best.beats other = true

section StrictlyBest

variable {context : SearchContext} {levels : Nat} {goal : Goal} {supply start last : FreshNames}
variable {best : PlacedMember} {front back : List PlacedMember} {results : List (Option Candidate)}

/-- If a strictly best member is a candidate, no other place is best. -/
theorem map_placed_best_eq_singleton
    (declared : ∀ name ∈ context.data.typeParams, isFresh name = false)
    (before : goal.Before supply)
    (strictly : StrictlyBest goal best (front ++ back))
    (succeeds : context.Succeeds levels goal supply best)
    (grows : supply.taken ≤ start.taken)
    (tried : List.Forall₂ (TriedBetween (combined? (context.solve levels) goal) start last)
      (front ++ best :: back) results) :
    (Candidate.best (results.flatMap Option.toList)).map Candidate.placed = [best] := by
  classical
  let isCandidate (placed : PlacedMember) : Bool :=
    decide (context.Succeeds levels goal supply placed)
  have places : (results.flatMap Option.toList).map Candidate.placed =
      (front ++ best :: back).filter isCandidate := by
    apply map_placed_eq_filter tried
    · intro placed candidate given
      exact (staysInPlace_combined _ goal).placed_eq given
    · rintro placed _ result ⟨begins, left, later, -, gives⟩
      rw [Bool.eq_iff_iff, decide_eq_true_iff]
      exact succeeds_iff_of_later declared before (Nat.le_trans grows later)
        (congrArg Prod.fst gives)
  have isChosen : isCandidate best = true := decide_eq_true succeeds
  rw [Candidate.map_placed_best, places, List.filter_append, List.filter_cons_of_pos isChosen]
  apply filter_unbeaten_eq_singleton
  rw [← List.filter_append]
  intro other listed
  rcases List.mem_filter.mp listed with ⟨isOther, otherSucceeds⟩
  rcases (of_decide_eq_true otherSucceeds).matches with ⟨composed, matches_⟩
  exact strictly other isOther composed matches_

/-- If no member breaks the search, a strictly best one that is a candidate is picked. -/
theorem exists_pick_of_strictlyBest
    (declared : ∀ name ∈ context.data.typeParams, isFresh name = false)
    (before : goal.Before supply)
    (strictly : StrictlyBest goal best (front ++ back))
    {candidate : Candidate}
    (succeeds : (outcome (combined? (context.solve levels) goal best) supply).1 =
      .ok (some candidate))
    (grows : supply.taken ≤ start.taken)
    (tried : List.Forall₂ (TriedBetween (combined? (context.solve levels) goal) start last)
      (front ++ best :: back) results) :
    ∃ found, context.pick goal (results.flatMap Option.toList) = .ok (some found) ∧
      candidate.found.Variant supply found := by
  have one := map_placed_best_eq_singleton declared before strictly ⟨candidate, succeeds⟩ grows
    tried
  rcases List.map_eq_singleton_iff.mp one with ⟨chosen, only, place⟩
  refine ⟨chosen.found, pick_eq_some_iff.mpr ⟨chosen, only, rfl⟩, ?_⟩
  have isBest : chosen ∈ Candidate.best (results.flatMap Option.toList) := by
    rw [only]
    exact List.mem_cons_self
  rcases exists_member_of_mem tried (Candidate.mem_best_iff.mp isBest).1 with
    ⟨placed, -, given⟩
  rw [← (staysInPlace_combined _ goal).placed_eq given, place] at given
  rcases given with ⟨begins, left, later, -, gives⟩
  rcases exists_earlier_trial declared before (Nat.le_trans grows later)
    (congrArg Prod.fst gives) with ⟨result, ends, trial⟩
  cases succeeds.symm.trans ends
  cases trial with
  | found variant => exact variant
  | excused excuse => exact excuse.elim

end StrictlyBest

/-! ## The answer to a goal -/

/-- A goal with parts for which no member without parameters of a normal provider matches. -/
structure AsksForParts (context : SearchContext) (goal : Goal) (supply : FreshNames) : Prop where
  declared : ∀ name ∈ context.data.typeParams, isFresh name = false
  notOwn : context.isOwn goal = false
  structural : hasParts goal.target = true
  before : goal.Before supply
  noDirect : ∀ placed ∈ PlacedMember.ofProviders context.providers,
    placed.member.parameters = [] → ¬ placed.Matches goal

section Answer

variable {context : SearchContext} {levels : Nat} {goal : Goal} {supply : FreshNames}

/-- A goal with parts that does not ask for the instance under construction is searched for. -/
theorem solve_of_structural
    (notOwn : context.isOwn goal = false)
    (structural : hasParts goal.target = true) :
    context.solve (levels + 1) goal = context.searchTiers (context.solve levels) goal := by
  have noParameter : context.ownParameter? goal.target = none := by
    rw [Option.eq_none_iff_forall_ne_some]
    intro name isParameter
    rw [(ownParameter?_eq_some.mp isParameter).1] at structural
    cases structural
  rw [solve, notOwn, noParameter]
  rfl

/-- The first value with a property is one. -/
theorem eq_of_first
    {α : Type}
    {holds : α → Prop}
    {front back others rest : List α}
    {left right : α}
    (same : front ++ left :: back = others ++ right :: rest)
    (noneBefore : ∀ value ∈ front, ¬ holds value)
    (noneBeforeToo : ∀ value ∈ others, ¬ holds value)
    (leftHolds : holds left)
    (rightHolds : holds right) :
    left = right := by
  classical
  have isLeft : (front ++ left :: back).find? (fun value => decide (holds value)) = some left :=
    List.find?_eq_some_iff_append.mpr
      ⟨decide_eq_true leftHolds, front, back, rfl, by simpa using noneBefore⟩
  have isRight : (front ++ left :: back).find? (fun value => decide (holds value)) = some right :=
    List.find?_eq_some_iff_append.mpr
      ⟨decide_eq_true rightHolds, others, rest, same, by simpa using noneBeforeToo⟩
  exact Option.some.inj (isLeft.symm.trans isRight)

/-- If no member breaks the search, a strictly best one that is a candidate is the answer. -/
theorem exists_found_of_strictlyBest
    {best : PlacedMember}
    {front back : List PlacedMember}
    {candidate : Candidate}
    (asks : context.AsksForParts goal supply)
    (listed : PlacedMember.ofProviders context.providers = front ++ best :: back)
    (strictly : StrictlyBest goal best (front ++ back))
    (succeeds : (outcome (combined? (context.solve levels) goal best) supply).1 =
      .ok (some candidate))
    (unbroken : ∀ other ∈ front ++ back, ¬ context.Breaks levels goal supply other) :
    ∃ found, (outcome (context.solve (levels + 1) goal) supply).1 = .ok found ∧
      candidate.found.Variant supply found := by
  have bestUnbroken : ¬ context.Breaks levels goal supply best := by
    rintro ⟨message, fails⟩
    cases succeeds.symm.trans fails
  rcases exists_searchTier_eq_combined context (context.solve levels) asks.structural
    asks.noDirect supply with ⟨start, grows, tier⟩
  rw [listed] at tier
  rcases ends : outcome (collect (combined? (context.solve levels) goal) (front ++ best :: back))
    start with ⟨message | candidates, last⟩
  · rcases exists_of_collect_error (context.takesOnly_combined levels goal)
      (congrArg Prod.fst ends) with ⟨ahead, loser, behind, begins, same, later, stops, -⟩
    have breaks : context.Breaks levels goal supply loser :=
      (breaks_later_iff asks.declared asks.before (Nat.le_trans grows later)).mp ⟨message, stops⟩
    have isMember : loser ∈ front ++ best :: back := by
      rw [same]
      exact List.mem_append_right _ List.mem_cons_self
    rw [List.mem_append, List.mem_cons] at isMember
    rcases isMember with inFront | rfl | inBack
    · exact absurd breaks (unbroken loser (List.mem_append_left _ inFront))
    · exact absurd breaks bestUnbroken
    · exact absurd breaks (unbroken loser (List.mem_append_right _ inBack))
  · rcases exists_results_of_collect (context.takesOnly_combined levels goal) ends with
      ⟨-, results, rfl, tried⟩
    rcases exists_pick_of_strictlyBest asks.declared asks.before strictly succeeds grows tried
      with ⟨found, picked, variant⟩
    refine ⟨found, ?_, variant⟩
    rw [outcome_bind_of_ok ends, picked] at tier
    rw [solve_of_structural asks.notOwn asks.structural, searchTiers, outcome_bind_of_ok tier]
    rfl

/-- The first member that breaks the search decides the answer. -/
theorem exists_message_of_breaks
    {loser : PlacedMember}
    {ahead behind : List PlacedMember}
    (asks : context.AsksForParts goal supply)
    (listed : PlacedMember.ofProviders context.providers = ahead ++ loser :: behind)
    (unbroken : ∀ other ∈ ahead, ¬ context.Breaks levels goal supply other)
    (breaks : context.Breaks levels goal supply loser) :
    ∃ (start : FreshNames) (message : Message), supply.taken ≤ start.taken ∧
      (outcome (combined? (context.solve levels) goal loser) start).1 = .error message ∧
      (outcome (context.solve (levels + 1) goal) supply).1 = .error message ∧
      IsRefusal message := by
  rcases exists_searchTier_eq_combined context (context.solve levels) asks.structural
    asks.noDirect supply with ⟨start, grows, tier⟩
  rw [listed] at tier
  rcases ends : outcome (collect (combined? (context.solve levels) goal)
    (ahead ++ loser :: behind)) start with ⟨message | candidates, last⟩
  · rcases exists_of_collect_error (context.takesOnly_combined levels goal)
      (congrArg Prod.fst ends) with
      ⟨front, first, back, begins, same, later, stops, results, tried⟩
    have firstBreaks : context.Breaks levels goal supply first :=
      (breaks_later_iff asks.declared asks.before (Nat.le_trans grows later)).mp ⟨message, stops⟩
    have noneBefore : ∀ other ∈ front, ¬ context.Breaks levels goal supply other := by
      intro other isBefore
      rcases exists_result_of_mem tried isBefore with ⟨result, given, -⟩
      exact not_breaks_of_tried asks.declared asks.before grows given
    have isFirst : loser = first := eq_of_first same unbroken noneBefore breaks firstBreaks
    rw [outcome_bind_of_error ends] at tier
    have fails : (outcome (context.solve (levels + 1) goal) supply).1 = .error message := by
      rw [solve_of_structural asks.notOwn asks.structural, searchTiers, outcome_bind_of_error tier]
    refine ⟨begins, message, Nat.le_trans grows later, ?_, fails, ?_⟩
    · rw [isFirst]
      exact stops
    · have refuses := searchTier_ensures context.admits_unrestricted
        (solve_ensures context.admits_unrestricted levels) asks.notOwn .normal supply
      exact refuses.message_of_error (congrArg Prod.fst tier)
  · rcases exists_results_of_collect (context.takesOnly_combined levels goal) ends with
      ⟨-, results, -, tried⟩
    rcases exists_result_of_mem tried (List.mem_append_right _ List.mem_cons_self) with
      ⟨result, given, -⟩
    exact absurd breaks (not_breaks_of_tried asks.declared asks.before grows given)

/--
A strictly best member whose parameters have instances is the answer to a goal
with parts that no member without parameters matches, unless another member ends
in a message other than that there is no instance.  Then the first such message
is the answer.
-/
theorem solve_strictlyBest
    (context : SearchContext)
    (levels : Nat)
    (goal : Goal)
    (supply : FreshNames)
    (best : PlacedMember)
    (front back : List PlacedMember)
    (candidate : Candidate)
    (asks : context.AsksForParts goal supply)
    (listed : PlacedMember.ofProviders context.providers = front ++ best :: back)
    (strictly : StrictlyBest goal best (front ++ back))
    (succeeds : (outcome (combined? (context.solve levels) goal best) supply).1 =
      .ok (some candidate)) :
    ((∀ other ∈ front ++ back, ¬ context.Breaks levels goal supply other) →
      ∃ found, (outcome (context.solve (levels + 1) goal) supply).1 = .ok found ∧
        candidate.found.Variant supply found) ∧
    ∀ ahead loser behind, PlacedMember.ofProviders context.providers = ahead ++ loser :: behind →
      (∀ other ∈ ahead, ¬ context.Breaks levels goal supply other) →
      context.Breaks levels goal supply loser →
      ∃ (start : FreshNames) (message : Message), supply.taken ≤ start.taken ∧
        (outcome (combined? (context.solve levels) goal loser) start).1 = .error message ∧
        (outcome (context.solve (levels + 1) goal) supply).1 = .error message ∧
        IsRefusal message :=
  ⟨exists_found_of_strictlyBest asks listed strictly succeeds,
    fun _ _ _ split unbroken breaks => exists_message_of_breaks asks split unbroken breaks⟩

end Answer

/-- Equality of numbers. -/
def intEq : StaticMember :=
  .field "int_eq" ⟨1, 6⟩ (.con "Eq" [.atom "i32"])

/-- Equality of lists of numbers by that of numbers. -/
def listIntEq : StaticMember :=
  .method "list_int_eq" ⟨11, 16⟩ [] [.con "Eq" [.atom "i32"]]
    (.con "Eq" [.con "List" [.atom "i32"]])

/-- Equality of lists by a text of the elements. -/
def shownListEq : StaticMember :=
  .method "shown_list_eq" ⟨21, 26⟩ [⟨"A", ⟨27, 28⟩⟩] [.con "Show" [.var "A"]]
    (.con "Eq" [.con "List" [.var "A"]])

/-- A text of numbers. -/
def numberShow (name : String) (span : Span) : StaticMember :=
  .field name span (.con "Show" [.atom "i32"])

/-- A search for equality of lists with some texts. -/
def withShows (shows : List StaticMember) : SearchContext :=
  amongMembers (intEq :: listIntEq :: shownListEq :: shows)

/-- Equality of lists of numbers, to which two methods lead. -/
def listGoal : Goal :=
  ⟨"Eq", .con "List" [.atom "i32"]⟩

/-- A member at its place in the only provider. -/
def inInstances (member : StaticMember) : PlacedMember :=
  ⟨"Instances", 0, member⟩

/-- Two texts of numbers, neither of which is better. -/
def twoShows : List StaticMember :=
  [numberShow "int_show" ⟨41, 46⟩, numberShow "int_text" ⟨51, 56⟩]

section Shows

variable {shows : List StaticMember}

theorem ofProviders_withShows (shows : List StaticMember) :
    PlacedMember.ofProviders (withShows shows).providers =
      [inInstances intEq] ++ inInstances listIntEq :: (shownListEq :: shows).map inInstances := by
  rw [withShows, amongMembers, PlacedMember.ofProviders]
  exact List.append_nil _

theorem withShows_noDirect (texts : ∀ text ∈ shows, ∃ name span, text = numberShow name span) :
    ∀ placed ∈ PlacedMember.ofProviders (withShows shows).providers,
      placed.member.parameters = [] → ¬ placed.Matches listGoal := by
  rw [ofProviders_withShows]
  rintro placed listed simple ⟨choice, matched⟩
  rcases List.mem_append.mp listed with isInt | isRest
  · rw [List.mem_singleton.mp isInt] at matched
    simp [inInstances, intEq, StaticMember.provides, Goal.type, listGoal, atom] at matched
  · rcases List.mem_cons.mp isRest with rfl | isOther
    · cases simple
    · rcases List.mem_map.mp isOther with ⟨member, isMember, rfl⟩
      rcases List.mem_cons.mp isMember with rfl | isShow
      · cases simple
      · rcases texts member isShow with ⟨name, span, rfl⟩
        simp [inInstances, numberShow, StaticMember.provides, Goal.type, listGoal] at matched

theorem withShows_asksForParts
    (texts : ∀ text ∈ shows, ∃ name span, text = numberShow name span) :
    (withShows shows).AsksForParts listGoal .start where
  declared := List.forall_mem_nil _
  notOwn := rfl
  structural := rfl
  before := by simp [Goal.Before, listGoal, atom]
  noDirect := withShows_noDirect texts

theorem withShows_strictlyBest
    (texts : ∀ text ∈ shows, ∃ name span, text = numberShow name span) :
    StrictlyBest listGoal (inInstances listIntEq)
      ([inInstances intEq] ++ (shownListEq :: shows).map inInstances) := by
  intro other listed composed _
  rcases List.mem_append.mp listed with isInt | isOther
  · rw [List.mem_singleton.mp isInt] at composed
    exact absurd rfl composed
  · rcases List.mem_map.mp isOther with ⟨member, isMember, rfl⟩
    rcases List.mem_cons.mp isMember with rfl | isShow
    · decide
    · rcases texts member isShow with ⟨name, span, rfl⟩
      exact absurd rfl composed

end Shows

/-- Equality of lists of numbers by that of numbers. -/
def listIntEqCandidate : Candidate :=
  ⟨inInstances listIntEq,
    .method "Instances" "list_int_eq" ⟨11, 16⟩ [] [.field "Instances" "int_eq" ⟨1, 6⟩], false⟩

theorem exists_of_mem_twoShows : ∀ text ∈ twoShows, ∃ name span, text = numberShow name span := by
  simp [twoShows, numberShow]

/-- Without a text the other method is no candidate; two texts are an ambiguity. -/
theorem solve_strictlyBest_withShows :
    (∃ found, (outcome ((withShows []).solve (deepestGoal + 1) listGoal) .start).1 = .ok found ∧
      listIntEqCandidate.found.Variant .start found) ∧
    ∃ message, (outcome ((withShows twoShows).solve (deepestGoal + 1) listGoal) .start).1 =
      .error message ∧ IsRefusal message := by
  constructor
  · have texts : ∀ text ∈ ([] : List StaticMember), ∃ name span, text = numberShow name span :=
      List.forall_mem_nil _
    have answered := solve_strictlyBest (withShows []) deepestGoal listGoal .start
      (inInstances listIntEq) [inInstances intEq] [inInstances shownListEq] listIntEqCandidate
      (withShows_asksForParts texts) (ofProviders_withShows []) (withShows_strictlyBest texts) rfl
    apply answered.1
    rintro other listed ⟨message, fails⟩
    have gives : (outcome (combined? ((withShows []).solve deepestGoal) listGoal other) .start).1 =
        .ok none := by
      rcases List.mem_cons.mp listed with rfl | isShown
      · rfl
      · rw [List.mem_singleton.mp isShown]
        rfl
    cases gives.symm.trans fails
  · have answered := solve_strictlyBest (withShows twoShows) deepestGoal listGoal .start
      (inInstances listIntEq) [inInstances intEq] ((shownListEq :: twoShows).map inInstances)
      listIntEqCandidate (withShows_asksForParts exists_of_mem_twoShows)
      (ofProviders_withShows twoShows) (withShows_strictlyBest exists_of_mem_twoShows) rfl
    have unbroken : ∀ other ∈ [inInstances intEq, inInstances listIntEq],
        ¬ (withShows twoShows).Breaks deepestGoal listGoal .start other := by
      rintro other listed ⟨message, fails⟩
      rcases List.mem_cons.mp listed with rfl | isBest
      · have gives : (outcome (combined? ((withShows twoShows).solve deepestGoal) listGoal
            (inInstances intEq)) .start).1 = .ok none :=
          rfl
        cases gives.symm.trans fails
      · rw [List.mem_singleton.mp isBest] at fails
        have gives : (outcome (combined? ((withShows twoShows).solve deepestGoal) listGoal
            (inInstances listIntEq)) .start).1 = .ok (some listIntEqCandidate) :=
          rfl
        cases gives.symm.trans fails
    have decided := answered.2 [inInstances intEq, inInstances listIntEq]
      (inInstances shownListEq) (twoShows.map inInstances) (ofProviders_withShows twoShows)
      unbroken ⟨_, rfl⟩
    rcases decided with ⟨-, message, -, -, fails, refusal⟩
    exact ⟨message, fails, refusal⟩

/-- An ambiguity of a member that is beaten is the answer although the best one has its parts. -/
theorem withShows_loser_decides :
    (withShows twoShows).AsksForParts listGoal .start ∧
    PlacedMember.ofProviders (withShows twoShows).providers =
      [inInstances intEq] ++ inInstances listIntEq ::
        (shownListEq :: twoShows).map inInstances ∧
    StrictlyBest listGoal (inInstances listIntEq)
      ([inInstances intEq] ++ (shownListEq :: twoShows).map inInstances) ∧
    (outcome (combined? ((withShows twoShows).solve deepestGoal) listGoal
      (inInstances listIntEq)) .start).1 = .ok (some listIntEqCandidate) ∧
    ∃ message, (withShows twoShows).find listGoal.target = .error message ∧
      message.code = .ambiguousInstance :=
  ⟨withShows_asksForParts exists_of_mem_twoShows, ofProviders_withShows twoShows,
    withShows_strictlyBest exists_of_mem_twoShows, rfl, _, rfl, rfl⟩

end SearchContext

end DataDerive
