import DataDerive.Proofs.Instance.Attempts
import DataDerive.Proofs.Instance.Completeness

/-!
# Members that match a goal

A member matches a goal if what it provides has the type of the goal as an
instance.  Only members that match give candidates, and one without parameters
always gives one if the variables of the goal were taken before.

So the first phase of a tier ends the search as soon as a member without
parameters matches, and has no effect but on the supply if there is none.
-/

namespace DataDerive

open TypeExpr FreshNames Search

/-- The types of the parameters of a member; a field has none. -/
def StaticMember.parameters : StaticMember → List TypeExpr
  | .field _ _ _ => []
  | .method _ _ _ parameters _ => parameters

/-- What a member provides has the type of a goal as an instance. -/
def PlacedMember.Matches (placed : PlacedMember) (goal : Goal) : Prop :=
  ∃ choice : String → TypeExpr, placed.member.provides.replace choice = goal.type

namespace SearchContext

variable {context : SearchContext} {solve : Goal → Search FoundInstance} {goal : Goal}
variable {placed : PlacedMember} {supply : FreshNames}

/-! ## Members without parameters -/

/-- A member that is a candidate by itself has no parameters and matches. -/
theorem direct_ensures_matches (goal : Goal) (placed : PlacedMember) (supply : FreshNames) :
    Ensures (direct? goal placed) supply
      (IfSome fun _ => placed.member.parameters = [] ∧ placed.Matches goal) fun _ => False := by
  rw [direct?]
  split
  next name span type isField =>
    apply (ensures_renameApart supply _).bind
    intro renamed left _ renames
    rcases renames with ⟨variant, renames⟩
    apply ensures_pure
    intro candidate isCandidate
    rcases Option.map_eq_some_iff.mp isCandidate with ⟨found, success, -⟩
    rw [renames.substitute fun name occurs => mem_freeVars.mpr occurs] at success
    have matched := Unification.replace_of_matchType? success
    rw [PlacedMember.Matches, isField]
    exact ⟨rfl, _, matched⟩
  next name span typeParams result isMethod =>
    apply (instantiate_sound supply goal typeParams [] result).bind
    intro matched left _ sound
    apply ensures_pure
    intro candidate isCandidate
    rcases Option.map_eq_some_iff.mp isCandidate with ⟨instantiation, isMatched, -⟩
    rcases sound instantiation isMatched with ⟨choice, matched, -⟩
    rw [PlacedMember.Matches, isMethod]
    exact ⟨rfl, choice, matched⟩
  next => exact ensures_none

theorem direct_yields
    (simple : placed.member.parameters = [])
    (matches_ : placed.Matches goal)
    (before : goal.Before supply) :
    Yields (direct? goal placed) supply := by
  rcases matches_ with ⟨choice, matched⟩
  cases isMember : placed.member with
  | field name span type =>
      rw [isMember] at matched
      exact direct_field_yields isMember matched before
  | method name span typeParams parameters result =>
      rw [isMember] at matched simple
      rw [show parameters = [] from simple] at isMember
      exact direct_method_yields isMember matched before

/-! ## Members with parameters -/

/-- A member that is a candidate by its parts has parameters and matches. -/
theorem matches_of_combined
    {candidate : Candidate}
    {left : FreshNames}
    (gives : outcome (combined? solve goal placed) supply = (.ok (some candidate), left)) :
    placed.member.parameters ≠ [] ∧ placed.Matches goal := by
  rw [combined?] at gives
  split at gives
  next name span typeParams first rest result isMethod =>
    rcases outcome_bind_eq_ok_iff.mp gives with ⟨matched, middle, ends, onward⟩
    cases matched with
    | none => cases onward
    | some matched =>
        have sound : Ensures _ supply _ AnyMessage :=
          instantiate_sound supply goal typeParams (first :: rest) result
        rcases sound.value_of_ok (congrArg Prod.fst ends) matched rfl with ⟨choice, same, -⟩
        rw [PlacedMember.Matches, isMethod]
        exact ⟨List.cons_ne_nil first rest, choice, same⟩
  next => cases gives

/-! ## The two phases of a tier -/

/-- If no member without parameters matches, the first phase leaves no candidate. -/
theorem exists_collect_direct_eq_nil
    {members : List PlacedMember}
    (noDirect : ∀ placed ∈ members, placed.member.parameters = [] → ¬ placed.Matches goal)
    (supply : FreshNames) :
    ∃ left : FreshNames, supply.taken ≤ left.taken ∧
      outcome (collect (direct? goal) members) supply = (.ok [], left) := by
  have nothing (placed : PlacedMember) (isMember : placed ∈ members) (start : FreshNames) :
      Ensures (direct? goal placed) start (IfSome fun _ => False) fun _ => False := by
    refine (direct_ensures_matches goal placed start).mono ?_ fun _ => id
    intro result left _ matches_ candidate isCandidate
    rcases matches_ candidate isCandidate with ⟨simple, matched⟩
    exact noDirect placed isMember simple matched
  have collected := collect_ensures nothing supply
  rcases ends : outcome (collect (direct? goal) members) supply with ⟨message | candidates, left⟩
  · exact (collected.message_of_error (congrArg Prod.fst ends)).elim
  · have empty := collected.value_of_ok (congrArg Prod.fst ends)
    have grows := collected.grows
    rw [ends] at grows
    rw [List.eq_nil_iff_forall_not_mem.mpr empty]
    exact ⟨left, grows, rfl⟩

/-- If no member without parameters matches, a tier is a matter of those with parameters. -/
theorem exists_searchTier_eq_combined
    (context : SearchContext)
    (solve : Goal → Search FoundInstance)
    {providers : List Provider}
    (structural : hasParts goal.target = true)
    (noDirect : ∀ placed ∈ PlacedMember.ofProviders providers,
      placed.member.parameters = [] → ¬ placed.Matches goal)
    (supply : FreshNames) :
    ∃ left : FreshNames, supply.taken ≤ left.taken ∧
      outcome (context.searchTier solve goal providers) supply =
        outcome (collect (combined? solve goal) (PlacedMember.ofProviders providers) >>=
          fun candidates => liftM (context.pick goal candidates)) left := by
  rcases exists_collect_direct_eq_nil noDirect supply with ⟨left, grows, ends⟩
  refine ⟨left, grows, ?_⟩
  have picks : outcome (liftM (context.pick goal []) : Search (Option FoundInstance)) left =
      (.ok none, left) :=
    rfl
  rw [searchTier, outcome_bind_of_ok ends, outcome_bind_of_ok picks]
  dsimp only
  rw [if_pos structural]

/-- If a member without parameters matches, the first phase picks one or refuses to. -/
theorem pickDirect_yields
    {members : List PlacedMember}
    (isMember : placed ∈ members)
    (simple : placed.member.parameters = [])
    (matches_ : placed.Matches goal)
    (before : goal.Before supply) :
    Yields (collect (direct? goal) members >>= fun candidates =>
      liftM (context.pick goal candidates)) supply := by
  have ends (other : PlacedMember) (_ : other ∈ members) (start : FreshNames) :
      Ends (direct? goal other) start :=
    (direct_ensures_matches goal other start).mono (fun _ _ _ _ => trivial) fun _ => False.elim
  apply (collect_yields ends isMember fun start grows =>
    direct_yields simple matches_ (before.mono grows)).bind
  intro candidates left _ nonempty
  exact pick_yields nonempty left

/-- If a member without parameters matches, a tier is a matter of the first phase. -/
theorem searchTier_eq_pickDirect
    {providers : List Provider}
    (listed : placed ∈ PlacedMember.ofProviders providers)
    (simple : placed.member.parameters = [])
    (matches_ : placed.Matches goal)
    (before : goal.Before supply) :
    outcome (context.searchTier solve goal providers) supply =
      outcome (collect (direct? goal) (PlacedMember.ofProviders providers) >>= fun candidates =>
        liftM (context.pick goal candidates)) supply := by
  have yields : Yields (collect (direct? goal) (PlacedMember.ofProviders providers) >>=
      fun candidates => liftM (context.pick goal candidates)) supply :=
    pickDirect_yields listed simple matches_ before
  rw [searchTier, ← bind_assoc]
  rcases ends : outcome (collect (direct? goal) (PlacedMember.ofProviders providers) >>=
    fun candidates => liftM (context.pick goal candidates)) supply with ⟨message | picked, left⟩
  · exact outcome_bind_of_error ends
  · rcases Option.ne_none_iff_exists'.mp (yields.value_of_ok (congrArg Prod.fst ends)) with
      ⟨found, rfl⟩
    exact outcome_bind_of_ok ends

end SearchContext

end DataDerive
