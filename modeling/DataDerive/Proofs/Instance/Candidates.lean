import DataDerive.Proofs.Instance.Completeness
import DataDerive.Proofs.Instance.Correspondence

/-!
# Candidates in another order

Whether a member is a candidate does not depend on when it is tried.  So the
candidates that two searches collect from the same members in two orders are at
the same places, and what is picked is the same: among the best candidates there
is either one or an ambiguity.

A second candidate may be excused.  Then the first search need not have it, but
every candidate of the first search has one at its place.
-/

namespace DataDerive

open TypeExpr FreshNames Search

/-! ## Best candidates -/

namespace Candidate

theorem mem_best_iff {candidates : List Candidate} {candidate : Candidate} :
    candidate ∈ best candidates ↔
      candidate ∈ candidates ∧
        ∀ other ∈ candidates, other.placed.beats candidate.placed = false := by
  rw [best, List.mem_filter, List.all_eq_true]
  simp only [Bool.not_eq_true']

/-- The places of the best candidates are found among the places of all. -/
theorem map_placed_best (candidates : List Candidate) :
    (best candidates).map Candidate.placed =
      (candidates.map Candidate.placed).filter fun placed =>
        (candidates.map Candidate.placed).all fun other => !other.beats placed := by
  rw [best, List.filter_map]
  congr 1
  apply List.filter_congr
  intro candidate _
  rw [Function.comp_apply, List.all_map]
  rfl

theorem perm_map_placed_best
    {first second : List Candidate}
    (perm : (first.map Candidate.placed).Perm (second.map Candidate.placed)) :
    ((best first).map Candidate.placed).Perm ((best second).map Candidate.placed) := by
  rw [map_placed_best, map_placed_best]
  have same : (fun placed : PlacedMember =>
      (first.map Candidate.placed).all fun other => !other.beats placed) =
        fun placed => (second.map Candidate.placed).all fun other => !other.beats placed :=
    funext fun placed => perm.all_eq
  rw [same]
  exact perm.filter _

end Candidate

namespace SearchContext

open DataDerive.Alignment

section Picks

variable {fallback : Prop} {w : Alignment} {context other : SearchContext}
variable {goal counterpart : Goal} {first second : List Candidate}

/--
Two lists of candidates at the same places, up to second ones that are excused.
Each pair at one place is found at its own time, so it has an alignment of its
own.
-/
structure SamePlaces
    (fallback : Prop)
    (w : Alignment)
    (first second : List Candidate) : Prop where
  kept : ∀ candidate ∈ first, ∃ other ∈ second, other.placed = candidate.placed
  given : ∀ other ∈ second,
    Excused fallback other.found ∨ ∃ candidate ∈ first, candidate.placed = other.placed
  found : ∀ candidate ∈ first, ∀ other ∈ second, other.placed = candidate.placed →
    Excused fallback other.found ∨
      ∃ own : Alignment, w.Grows own ∧ own.left = w.left ∧ own.right = w.right ∧
        own.Instances candidate.found other.found
  counted : ¬ fallback → (first.map Candidate.placed).Perm (second.map Candidate.placed)

/-- There is nothing to pick exactly if there is no candidate. -/
theorem pick_eq_none_iff : context.pick goal first = .ok none ↔ first = [] := by
  constructor
  · intro picked
    by_contra nonempty
    have some := best_ne_nil nonempty
    rw [pick] at picked
    split at picked
    next none => exact some none
    next => cases picked
    next => cases picked
  · rintro rfl
    rfl

theorem pick_eq_some_iff {found : FoundInstance} :
    context.pick goal first = .ok (some found) ↔
      ∃ candidate, Candidate.best first = [candidate] ∧ candidate.found = found := by
  rw [pick]
  rcases Candidate.best first with _ | ⟨candidate, _ | ⟨other, rest⟩⟩
  · simp
  · simp
  · simp

/-- There is an ambiguity exactly if several candidates are best. -/
theorem pick_eq_error_iff :
    (∃ message, context.pick goal first = .error message) ↔
      1 < (Candidate.best first).length := by
  rw [pick]
  rcases Candidate.best first with _ | ⟨candidate, _ | ⟨other, rest⟩⟩
  · simp
  · simp
  · simp

/-- If nothing is excused there are as many best candidates on both sides. -/
theorem SamePlaces.exists_error_iff
    (same : SamePlaces fallback w first second)
    (strict : ¬ fallback) :
    (∃ message, context.pick goal first = .error message) ↔
      ∃ message, other.pick counterpart second = .error message := by
  have perm := Candidate.perm_map_placed_best (same.counted strict)
  have length := perm.length_eq
  rw [List.length_map, List.length_map] at length
  rw [pick_eq_error_iff, pick_eq_error_iff, length]

/-- A best candidate on the second side is best on the first one, unless it is excused. -/
theorem SamePlaces.exists_best
    (same : SamePlaces fallback w first second)
    {chosen : Candidate}
    (best : chosen ∈ Candidate.best second) :
    Excused fallback chosen.found ∨
      ∃ candidate ∈ Candidate.best first, chosen.placed = candidate.placed := by
  rcases Candidate.mem_best_iff.mp best with ⟨listed, unbeaten⟩
  rcases same.given chosen listed with excuse | ⟨candidate, isCandidate, place⟩
  · exact Or.inl excuse
  · refine Or.inr ⟨candidate, Candidate.mem_best_iff.mpr ⟨isCandidate, ?_⟩, place.symm⟩
    intro rival isRival
    rcases same.kept rival isRival with ⟨again, isAgain, samePlace⟩
    rw [place, ← samePlace]
    exact unbeaten again isAgain

theorem aligned_pick (same : SamePlaces fallback w first second) :
    Aligned fallback w (fun later => Tried (Excused fallback) later.Instances)
      (liftM (context.pick goal first)) (liftM (other.pick counterpart second)) := by
  have errors (strict : ¬ fallback) :
      (∃ message, context.pick goal first = .error message) ↔
        ∃ message, other.pick counterpart second = .error message :=
    same.exists_error_iff strict
  change Agree fallback w _ (context.pick goal first, w.left)
    (other.pick counterpart second, w.right)
  rcases left : context.pick goal first with message | result
  · rcases right : other.pick counterpart second with fault | answer
    · exact .messages
    · refine .rightValue (by_contra fun strict => ?_)
      rcases (errors strict).mp ⟨message, left⟩ with ⟨fault, fails⟩
      cases right.symm.trans fails
  · rcases right : other.pick counterpart second with fault | answer
    · refine .leftValue (by_contra fun strict => ?_)
      rcases (errors strict).mpr ⟨fault, right⟩ with ⟨message, fails⟩
      cases left.symm.trans fails
    · cases answer with
      | none =>
          rw [pick_eq_none_iff] at right
          have none : first = [] := by
            apply List.eq_nil_iff_forall_not_mem.mpr
            intro candidate isCandidate
            rcases same.kept candidate isCandidate with ⟨other, isOther, -⟩
            rw [right] at isOther
            cases isOther
          cases left.symm.trans (pick_eq_none_iff.mpr none)
          exact .values w (.refl w) .missing
      | some answer =>
          rcases pick_eq_some_iff.mp right with ⟨chosen, one, rfl⟩
          have isBest : chosen ∈ Candidate.best second := by
            rw [one]
            exact List.mem_cons_self
          have isChosen := (Candidate.mem_best_iff.mp isBest).1
          rcases same.exists_best isBest with excuse | ⟨candidate, best, place⟩
          · exact .values w (.refl w) (.excused excuse)
          · have isCandidate := (Candidate.mem_best_iff.mp best).1
            have picked : result = some candidate.found := by
              cases result with
              | none =>
                  rw [pick_eq_none_iff.mp left] at isCandidate
                  cases isCandidate
              | some found =>
                  rcases pick_eq_some_iff.mp left with ⟨only, alone, rfl⟩
                  rw [alone, List.mem_singleton] at best
                  rw [best]
            rw [picked]
            rcases same.found candidate isCandidate chosen isChosen place with
              excuse | ⟨own, grows, leftSame, rightSame, instances⟩
            · exact .values w (.refl w) (.excused excuse)
            · rw [← leftSame, ← rightSame]
              exact .values own grows (.found instances)

end Picks

/-! ## Candidates in another order -/

section Collecting

variable {fallback : Prop} {w : Alignment} {left right : FreshNames}
variable {first second : PlacedMember → Search (Option Candidate)}
variable {members others : List PlacedMember}

/-- A step only gives candidates at the place of the member that is tried. -/
def StaysInPlace (step : PlacedMember → Search (Option Candidate)) : Prop :=
  ∀ placed supply left candidate,
    outcome (step placed) supply = (.ok (some candidate), left) → candidate.placed = placed

theorem staysInPlace_direct (goal : Goal) : StaysInPlace (direct? goal) := by
  intro placed supply left candidate gives
  rw [direct?] at gives
  split at gives
  next =>
    rcases outcome_bind_eq_ok_iff.mp gives with ⟨renamed, middle, -, same⟩
    rcases Option.map_eq_some_iff.mp (Except.ok.inj (Prod.mk.inj same).1) with ⟨_, -, rfl⟩
    rfl
  next =>
    rcases outcome_bind_eq_ok_iff.mp gives with ⟨matched, middle, -, same⟩
    rcases Option.map_eq_some_iff.mp (Except.ok.inj (Prod.mk.inj same).1) with ⟨_, -, rfl⟩
    rfl
  next => cases gives

theorem staysInPlace_combined (solve : Goal → Search FoundInstance) (goal : Goal) :
    StaysInPlace (combined? solve goal) := by
  intro placed supply left candidate gives
  rw [combined?] at gives
  split at gives
  next =>
    rcases outcome_bind_eq_ok_iff.mp gives with ⟨matched, middle, -, onward⟩
    cases matched with
    | none => cases onward
    | some matched =>
        rcases outcome_bind_eq_ok_iff.mp onward with ⟨parts, last, -, same⟩
        rcases Option.map_eq_some_iff.mp (Except.ok.inj (Prod.mk.inj same).1) with ⟨_, -, rfl⟩
        rfl
  next => cases gives

theorem StaysInPlace.placed_eq
    {step : PlacedMember → Search (Option Candidate)}
    (inPlace : StaysInPlace step)
    {supply last : FreshNames}
    {placed : PlacedMember}
    {candidate : Candidate}
    (tried : TriedBetween step supply last placed (some candidate)) :
    candidate.placed = placed := by
  rcases tried with ⟨start, stop, -, -, ends⟩
  exact inPlace placed start stop candidate ends

/-- Every candidate is the result of a member. -/
theorem exists_member_of_mem
    {gives : PlacedMember → Option Candidate → Prop}
    {results : List (Option Candidate)}
    (all : List.Forall₂ gives members results)
    {candidate : Candidate}
    (listed : candidate ∈ results.flatMap Option.toList) :
    ∃ placed ∈ members, gives placed (some candidate) := by
  induction all with
  | nil => cases listed
  | cons one rest ih =>
      rw [List.flatMap_cons, List.mem_append, Option.mem_toList] at listed
      rcases listed with here | later
      · cases Option.mem_def.mp here
        exact ⟨_, List.mem_cons_self, one⟩
      · rcases ih later with ⟨placed, isMember, given⟩
        exact ⟨placed, List.mem_cons_of_mem _ isMember, given⟩

/-- Every member has a result, which is among the candidates if it is one. -/
theorem exists_result_of_mem
    {gives : PlacedMember → Option Candidate → Prop}
    {results : List (Option Candidate)}
    (all : List.Forall₂ gives members results)
    {placed : PlacedMember}
    (isMember : placed ∈ members) :
    ∃ result, gives placed result ∧
      ∀ candidate, result = some candidate → candidate ∈ results.flatMap Option.toList := by
  induction all with
  | nil => cases isMember
  | @cons member result members results one rest ih =>
      rcases List.mem_cons.mp isMember with rfl | later
      · refine ⟨result, one, fun candidate same => ?_⟩
        rw [List.flatMap_cons, same]
        exact List.mem_append_left _ (Option.mem_toList.mpr rfl)
      · rcases ih later with ⟨other, given, kept⟩
        refine ⟨other, given, fun candidate same => ?_⟩
        rw [List.flatMap_cons]
        exact List.mem_append_right _ (kept candidate same)

/-- The places of the candidates are those of the members that give one. -/
theorem map_placed_eq_filter
    {gives : PlacedMember → Option Candidate → Prop}
    {succeeds : PlacedMember → Bool}
    {results : List (Option Candidate)}
    (all : List.Forall₂ gives members results)
    (inPlace : ∀ placed candidate, gives placed (some candidate) → candidate.placed = placed)
    (decides : ∀ placed ∈ members, ∀ result, gives placed result →
      result.isSome = succeeds placed) :
    (results.flatMap Option.toList).map Candidate.placed = members.filter succeeds := by
  induction all with
  | nil => rfl
  | @cons placed result members results one rest ih =>
      rw [List.forall_mem_cons] at decides
      rw [List.flatMap_cons, List.map_append, ih decides.2, List.filter_cons,
        ← decides.1 result one]
      cases result with
      | none => rfl
      | some candidate =>
          rw [Option.toList_some, List.map_singleton, inPlace placed candidate one]
          rfl

/-- The same member, tried on both sides at any time, gives corresponding results. -/
theorem exists_alignment_of_tried
    {placed : PlacedMember}
    (aligned : ∀ later : Alignment, w.Grows later → Aligned fallback later
      (fun last => Tried (fun candidate => Excused fallback candidate.found) last.Candidates)
      (first placed) (second placed))
    (leftLater : w.left.taken ≤ left.taken)
    (rightLater : w.right.taken ≤ right.taken)
    {result answer : Option Candidate}
    (tried : TriedBetween first w.left left placed result)
    (triedToo : TriedBetween second w.right right placed answer) :
    ∃ own : Alignment, (w.advance left right leftLater rightLater).Grows own ∧
      own.left = left ∧ own.right = right ∧
      Tried (fun candidate => Excused fallback candidate.found) own.Candidates result answer := by
  rcases tried with ⟨start, stop, begins, ends, gives⟩
  rcases triedToo with ⟨otherStart, otherStop, otherBegins, otherEnds, givesToo⟩
  have agree := aligned (w.advance start otherStart begins otherBegins)
    (w.grows_advance begins otherBegins)
  change Agree _ _ _ (outcome (first placed) start) (outcome (second placed) otherStart) at agree
  rw [gives, givesToo] at agree
  cases agree with
  | values later grows related =>
      refine ⟨later.advance left right ends otherEnds, ⟨?_, ?_, Nat.le_refl _, Nat.le_refl _⟩,
        rfl, rfl, ?_⟩
      · exact fun name isKnown => grows.known name isKnown
      · exact fun name isKnown => grows.rename name isKnown
      · have further := later.grows_advance ends otherEnds
        exact related.imp fun _ _ candidates => ⟨candidates.1, candidates.2.mono further⟩

/-- If the same members succeed in two orders, the candidates are at the same places. -/
theorem perm_map_placed
    {supply last begins ends : FreshNames}
    {results replies : List (Option Candidate)}
    (perm : members.Perm others)
    (inPlace : StaysInPlace first)
    (inPlaceToo : StaysInPlace second)
    (tried : List.Forall₂ (TriedBetween first supply last) members results)
    (triedToo : List.Forall₂ (TriedBetween second begins ends) others replies)
    (both : ∀ placed ∈ members, ∀ result answer, TriedBetween first supply last placed result →
      TriedBetween second begins ends placed answer → result.isSome = answer.isSome) :
    ((results.flatMap Option.toList).map Candidate.placed).Perm
      ((replies.flatMap Option.toList).map Candidate.placed) := by
  classical
  let succeeds (placed : PlacedMember) : Bool :=
    decide (∃ candidate, TriedBetween first supply last placed (some candidate))
  have firstDecides : ∀ placed ∈ members, ∀ result,
      TriedBetween first supply last placed result → result.isSome = succeeds placed := by
    intro placed isMember result gives
    rcases exists_result_of_mem triedToo (perm.mem_iff.mp isMember) with ⟨reply, answers, -⟩
    rw [Bool.eq_iff_iff, decide_eq_true_iff, Option.isSome_iff_exists]
    constructor
    · rintro ⟨candidate, rfl⟩
      exact ⟨candidate, gives⟩
    · rintro ⟨candidate, succeeded⟩
      have answered := both placed isMember _ reply succeeded answers
      rw [← both placed isMember result reply gives answers] at answered
      exact Option.isSome_iff_exists.mp answered.symm
  have secondDecides : ∀ placed ∈ others, ∀ answer,
      TriedBetween second begins ends placed answer → answer.isSome = succeeds placed := by
    intro placed isOther answer answers
    have isMember := perm.mem_iff.mpr isOther
    rcases exists_result_of_mem tried isMember with ⟨result, gives, -⟩
    rw [← both placed isMember result answer gives answers]
    exact firstDecides placed isMember result gives
  rw [map_placed_eq_filter tried (fun _ _ => inPlace.placed_eq) firstDecides,
    map_placed_eq_filter triedToo (fun _ _ => inPlaceToo.placed_eq) secondDecides]
  exact perm.filter succeeds

/-- Candidates of the same members in two orders are at the same places. -/
theorem samePlaces_of_collect
    (perm : members.Perm others)
    (aligned : ∀ placed ∈ members, ∀ later : Alignment, w.Grows later → Aligned fallback later
      (fun last => Tried (fun candidate => Excused fallback candidate.found) last.Candidates)
      (first placed) (second placed))
    (inPlace : StaysInPlace first)
    (inPlaceToo : StaysInPlace second)
    {results replies : List (Option Candidate)}
    (leftLater : w.left.taken ≤ left.taken)
    (rightLater : w.right.taken ≤ right.taken)
    (tried : List.Forall₂ (TriedBetween first w.left left) members results)
    (triedToo : List.Forall₂ (TriedBetween second w.right right) others replies) :
    SamePlaces fallback (w.advance left right leftLater rightLater)
      (results.flatMap Option.toList) (replies.flatMap Option.toList) := by
  have pair (placed : PlacedMember) (isMember : placed ∈ members)
      (result answer : Option Candidate)
      (gives : TriedBetween first w.left left placed result)
      (answers : TriedBetween second w.right right placed answer) :=
    exists_alignment_of_tried (aligned placed isMember) leftLater rightLater gives answers
  refine ⟨?kept, ?given, ?found, ?counted⟩
  case kept =>
    intro candidate listed
    rcases exists_member_of_mem tried listed with ⟨placed, isMember, gives⟩
    rcases exists_result_of_mem triedToo (perm.mem_iff.mp isMember) with ⟨reply, replies, kept⟩
    rcases pair placed isMember _ reply gives replies with ⟨own, -, -, -, related⟩
    have answered : ∃ answer, reply = some answer := by
      cases related with
      | found => exact ⟨_, rfl⟩
      | excused => exact ⟨_, rfl⟩
    rcases answered with ⟨answer, rfl⟩
    exact ⟨answer, kept answer rfl,
      (inPlaceToo.placed_eq replies).trans (inPlace.placed_eq gives).symm⟩
  case given =>
    intro answer listed
    rcases exists_member_of_mem triedToo listed with ⟨placed, isMember, replies⟩
    rcases exists_result_of_mem tried (perm.mem_iff.mpr isMember) with ⟨result, gives, kept⟩
    rcases pair placed (perm.mem_iff.mpr isMember) result _ gives replies with
      ⟨own, -, -, -, related⟩
    cases related with
    | found =>
        exact Or.inr ⟨_, kept _ rfl,
          (inPlace.placed_eq gives).trans (inPlaceToo.placed_eq replies).symm⟩
    | excused excuse => exact Or.inl excuse
  case found =>
    intro candidate listed answer listedToo samePlace
    rcases exists_member_of_mem tried listed with ⟨placed, isMember, gives⟩
    rcases exists_member_of_mem triedToo listedToo with ⟨otherPlaced, -, replies⟩
    rw [inPlace.placed_eq gives, inPlaceToo.placed_eq replies] at samePlace
    rw [samePlace] at replies
    rcases pair placed isMember _ _ gives replies with ⟨own, grows, leftSame, rightSame, related⟩
    cases related with
    | found candidates => exact Or.inr ⟨own, grows, leftSame, rightSame, candidates.2⟩
    | excused excuse => exact Or.inl excuse
  case counted =>
    intro strict
    apply perm_map_placed perm inPlace inPlaceToo tried triedToo
    intro placed isMember result answer gives answers
    rcases pair placed isMember result answer gives answers with ⟨own, -, -, -, related⟩
    cases related with
    | missing => rfl
    | found => rfl
    | excused excuse => exact absurd excuse.1 strict

theorem aligned_collect
    (perm : members.Perm others)
    (aligned : ∀ placed ∈ members, ∀ later : Alignment, w.Grows later → Aligned fallback later
      (fun last => Tried (fun candidate => Excused fallback candidate.found) last.Candidates)
      (first placed) (second placed))
    (takes : ∀ placed, TakesOnly (first placed))
    (takesToo : ∀ placed, TakesOnly (second placed))
    (inPlace : StaysInPlace first)
    (inPlaceToo : StaysInPlace second) :
    Aligned fallback w (SamePlaces fallback) (collect first members) (collect second others) := by
  rw [Aligned]
  rcases ends : outcome (collect first members) w.left with ⟨message | candidates, left⟩
  · rcases endsToo : outcome (collect second others) w.right with ⟨fault | answers, right⟩
    · exact .messages
    · -- The member with the message has an answer in the other order.
      refine .rightValue ?_
      rcases exists_of_collect_error takes (congrArg Prod.fst ends) with
        ⟨before, placed, after, start, rfl, begins, stops, -⟩
      have isMember : placed ∈ before ++ placed :: after :=
        List.mem_append_right _ List.mem_cons_self
      rcases exists_results_of_collect takesToo endsToo with ⟨-, replies, -, triedToo⟩
      rcases exists_result_of_mem triedToo (perm.mem_iff.mp isMember) with
        ⟨reply, ⟨otherStart, otherStop, otherBegins, -, answers⟩, -⟩
      have agree := aligned placed isMember (w.advance start otherStart begins otherBegins)
        (w.grows_advance begins otherBegins)
      exact agree.excuse_of_leftMessage stops (congrArg Prod.fst answers)
  · rcases endsToo : outcome (collect second others) w.right with ⟨fault | answers, right⟩
    · refine .leftValue ?_
      rcases exists_of_collect_error takesToo (congrArg Prod.fst endsToo) with
        ⟨before, placed, after, otherStart, rfl, otherBegins, stops, -⟩
      have isMember : placed ∈ members :=
        perm.mem_iff.mpr (List.mem_append_right _ List.mem_cons_self)
      rcases exists_results_of_collect takes ends with ⟨-, results, -, tried⟩
      rcases exists_result_of_mem tried isMember with
        ⟨result, ⟨start, stop, begins, -, gives⟩, -⟩
      have agree := aligned placed isMember (w.advance start otherStart begins otherBegins)
        (w.grows_advance begins otherBegins)
      exact agree.excuse_of_rightMessage (congrArg Prod.fst gives) stops
    · rcases exists_results_of_collect takes ends with ⟨leftLater, results, rfl, tried⟩
      rcases exists_results_of_collect takesToo endsToo with ⟨rightLater, replies, rfl, triedToo⟩
      exact .values (w.advance left right leftLater rightLater)
        (w.grows_advance leftLater rightLater)
        (samePlaces_of_collect perm aligned inPlace inPlaceToo leftLater rightLater tried triedToo)

end Collecting

end SearchContext

end DataDerive
