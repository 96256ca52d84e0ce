import DataDerive.Proofs.Instance.Matches
import DataDerive.Proofs.Instance.Rearrangement

/-!
# Providers of low priority

The providers of low priority are searched for every goal that the normal ones
leave without instance, at whatever depth it is met.  So they can give the
dependency that a method of a normal provider lacked, and then that method is a
candidate beside those that needed no provider of low priority.

What is found without providers of low priority therefore need not be what is
found with them.  It is what is found unless the new instance is marked, and that
there is no instance is never the answer.
-/

namespace DataDerive

open TypeExpr FreshNames Search

namespace SearchContext

/-- The same search without providers of low priority. -/
def withoutLow (context : SearchContext) : SearchContext :=
  { context with lowPriority := [] }

theorem counterparts_withoutLow
    {context : SearchContext}
    (declared : ∀ name ∈ context.data.typeParams, isFresh name = false) :
    Counterparts True context.withoutLow context where
  data := rfl
  className := rfl
  providers := List.forall₂_same.mpr fun _ _ => ⟨rfl, .rfl⟩
  lowPriority := Or.inr ⟨trivial, rfl⟩
  written := declared

/-- Where a member without parameters matches, the providers of low priority are not asked. -/
theorem solve_withoutLow_of_direct
    {context : SearchContext}
    {goal : Goal}
    {placed : PlacedMember}
    {supply : FreshNames}
    (notOwn : context.isOwn goal = false)
    (listed : placed ∈ PlacedMember.ofProviders context.providers)
    (simple : placed.member.parameters = [])
    (matches_ : placed.Matches goal)
    (before : goal.Before supply)
    (levels : Nat) :
    outcome (context.solve (levels + 1) goal) supply =
      outcome (context.withoutLow.solve (levels + 1) goal) supply := by
  have sameOwn : context.withoutLow.isOwn goal = false := notOwn
  have sameParameter : context.withoutLow.ownParameter? goal.target =
      context.ownParameter? goal.target :=
    rfl
  rw [solve, solve, notOwn, sameOwn, sameParameter, if_neg Bool.false_ne_true,
    if_neg Bool.false_ne_true]
  cases context.ownParameter? goal.target with
  | some name => rfl
  | none =>
      have yields : Yields (collect (direct? goal) (PlacedMember.ofProviders context.providers) >>=
          fun candidates => liftM (context.pick goal candidates)) supply :=
        pickDirect_yields listed simple matches_ before
      have first : outcome (context.searchTier (context.solve levels) goal context.providers)
          supply = _ :=
        searchTier_eq_pickDirect listed simple matches_ before
      have second : outcome (context.withoutLow.searchTier (context.withoutLow.solve levels) goal
          context.withoutLow.providers) supply = _ :=
        searchTier_eq_pickDirect listed simple matches_ before
      dsimp only
      rw [searchTiers, searchTiers]
      rcases ends : outcome (collect (direct? goal) (PlacedMember.ofProviders context.providers)
        >>= fun candidates => liftM (context.pick goal candidates)) supply with
        ⟨message | picked, left⟩
      · rw [outcome_bind_of_error (first.trans ends), outcome_bind_of_error (second.trans ends)]
      · rcases Option.ne_none_iff_exists'.mp (yields.value_of_ok (congrArg Prod.fst ends)) with
          ⟨found, rfl⟩
        rw [outcome_bind_of_ok (first.trans ends), outcome_bind_of_ok (second.trans ends)]

/--
Providers of low priority do not make an instance that is found without them
disappear.  Unless the new instance is marked, it is the old one but for a
renaming of fresh variables, and a marked one does use a provider of low
priority.  The search may also end with another message than that there is no
instance.  Where a member of a normal provider matches that has no parameters,
nothing changes at all.
-/
theorem find_withLow
    (context : SearchContext)
    (target : TypeExpr)
    (found : FoundInstance)
    (declared : ∀ name ∈ context.data.typeParams, isFresh name = false)
    (written : ∀ name ∈ target.variableOccurrences, isFresh name = false)
    (success : context.withoutLow.find target = .ok found) :
    ((∃ answer, context.find target = .ok answer ∧
        ((answer.lowPriority = false ∧
            ∃ relabel : Equiv.Perm String, (∀ name, isFresh name = false → relabel name = name) ∧
              answer.location = found.location.rename relabel) ∨
          (answer.lowPriority = true ∧
            ∃ tiers, Tier.low ∈ tiers ∧ Derives context Signature.Unrestricted
              ⟨context.className, target⟩ answer.location tiers))) ∨
      ∃ message, context.find target = .error message ∧ IsRefusal message) ∧
    (context.isOwn ⟨context.className, target⟩ = false →
      (∃ placed ∈ PlacedMember.ofProviders context.providers, placed.member.parameters = [] ∧
        placed.Matches ⟨context.className, target⟩) →
      context.find target = .ok found) := by
  constructor
  · have sound := solve_ensures context.admits_unrestricted (deepestGoal + 1)
      ⟨context.className, target⟩ .start
    rcases find_alike (counterparts_withoutLow declared) written with ⟨left, right, agree⟩
    rw [success] at agree
    rcases attempted_cases (context.find target) with
      ⟨answer, finds, same⟩ | ⟨message, fails, missing, same⟩ | ⟨message, fails, present, -⟩
    · refine Or.inl ⟨answer, finds, ?_⟩
      cases marked : answer.lowPriority with
      | false =>
          refine Or.inl ⟨rfl, ?_⟩
          rw [same] at agree
          cases agree with
          | values last _ tried =>
              cases tried with
              | found instances =>
                  exact ⟨last.rename, fun name isWritten => (last.written name isWritten).2,
                    instances.1.2⟩
              | excused excuse => cases marked.symm.trans excuse.2
      | true =>
          rcases sound.value_of_ok finds with ⟨tiers, derives, usesLow⟩
          exact Or.inr ⟨rfl, tiers, usesLow.mp marked, derives⟩
    · -- Nothing is the answer to nothing only.
      rw [same] at agree
      cases agree with
      | values last _ tried => cases tried
    · rcases sound.message_of_error fails with missing | refusal
      · exact absurd missing present
      · exact Or.inr ⟨message, fails, refusal⟩
  · rintro notOwn ⟨placed, listed, simple, matches_⟩
    have before : Goal.Before ⟨context.className, target⟩ .start :=
      fun name occurs => below_of_not_isFresh (written name occurs) _
    have same := solve_withoutLow_of_direct notOwn listed simple matches_ before deepestGoal
    exact (congrArg Prod.fst same).trans success

/-- Equality of lists by that of the elements, and of lists of numbers by a hash of numbers. -/
def hashedNumbers : List StaticMember :=
  [.field "int_eq" ⟨1, 6⟩ (.con "Eq" [.atom "i32"]),
    .method "list_eq" ⟨11, 16⟩ [⟨"A", ⟨17, 18⟩⟩] [.con "Eq" [.var "A"]]
      (.con "Eq" [.con "List" [.var "A"]]),
    .method "int_list_eq" ⟨21, 26⟩ [] [.con "Hash" [.atom "i32"]]
      (.con "Eq" [.con "List" [.atom "i32"]])]

/-- Equality of lists by that of the elements, and by a hash of them. -/
def hashedElements : List StaticMember :=
  [.field "int_eq" ⟨1, 6⟩ (.con "Eq" [.atom "i32"]),
    .method "list_eq" ⟨11, 16⟩ [⟨"A", ⟨17, 18⟩⟩] [.con "Eq" [.var "A"]]
      (.con "Eq" [.con "List" [.var "A"]]),
    .method "hashed_list_eq" ⟨21, 26⟩ [⟨"A", ⟨27, 28⟩⟩] [.con "Hash" [.var "A"]]
      (.con "Eq" [.con "List" [.var "A"]])]

/-- A search among members whose hashes come from a provider of low priority. -/
def withSlowHash (members : List StaticMember) : SearchContext :=
  { amongMembers members with
    lowPriority :=
      [⟨"Slow", ⟨51, 56⟩, [.field "int_hash" ⟨41, 46⟩ (.con "Hash" [.atom "i32"])]⟩] }

/-- The more specific method is found as soon as there is a hash, and that is marked. -/
theorem find_withLow_hashedNumbers :
    (withSlowHash hashedNumbers).withoutLow.find (.con "List" [.atom "i32"]) =
      .ok ⟨.method "Instances" "list_eq" ⟨11, 16⟩ [("A", .atom "i32")]
        [.field "Instances" "int_eq" ⟨1, 6⟩], false⟩ ∧
    (withSlowHash hashedNumbers).find (.con "List" [.atom "i32"]) =
      .ok ⟨.method "Instances" "int_list_eq" ⟨21, 26⟩ [] [.field "Slow" "int_hash" ⟨41, 46⟩],
        true⟩ ∧
    ∃ tiers, Tier.low ∈ tiers ∧ Derives (withSlowHash hashedNumbers) Signature.Unrestricted
      ⟨"Eq", .con "List" [.atom "i32"]⟩
      (.method "Instances" "int_list_eq" ⟨21, 26⟩ [] [.field "Slow" "int_hash" ⟨41, 46⟩])
      tiers := by
  have finds : (withSlowHash hashedNumbers).find (.con "List" [.atom "i32"]) =
      .ok ⟨.method "Instances" "int_list_eq" ⟨21, 26⟩ [] [.field "Slow" "int_hash" ⟨41, 46⟩],
        true⟩ :=
    rfl
  have compared := find_withLow (withSlowHash hashedNumbers) (.con "List" [.atom "i32"])
    ⟨.method "Instances" "list_eq" ⟨11, 16⟩ [("A", .atom "i32")]
      [.field "Instances" "int_eq" ⟨1, 6⟩], false⟩ (List.forall_mem_nil _) (by simp [atom]) rfl
  refine ⟨rfl, finds, ?_⟩
  rcases compared.1 with ⟨answer, same, ⟨unmarked, -⟩ | ⟨-, uses⟩⟩ | ⟨message, fails, -⟩
  · cases finds.symm.trans same
    cases unmarked
  · cases finds.symm.trans same
    exact uses
  · cases finds.symm.trans fails

/-- A provider of low priority changes and marks an instance, and makes another one ambiguous. -/
theorem withSlowHash_changes :
    ((withSlowHash hashedNumbers).withoutLow.find (.con "List" [.atom "i32"]) =
        .ok ⟨.method "Instances" "list_eq" ⟨11, 16⟩ [("A", .atom "i32")]
          [.field "Instances" "int_eq" ⟨1, 6⟩], false⟩ ∧
      (withSlowHash hashedNumbers).find (.con "List" [.atom "i32"]) =
        .ok ⟨.method "Instances" "int_list_eq" ⟨21, 26⟩ [] [.field "Slow" "int_hash" ⟨41, 46⟩],
          true⟩) ∧
    (withSlowHash hashedElements).withoutLow.find (.con "List" [.atom "i32"]) =
        .ok ⟨.method "Instances" "list_eq" ⟨11, 16⟩ [("A", .atom "i32")]
          [.field "Instances" "int_eq" ⟨1, 6⟩], false⟩ ∧
      ∃ message, (withSlowHash hashedElements).find (.con "List" [.atom "i32"]) =
        .error message ∧ message.code = .ambiguousInstance :=
  ⟨⟨rfl, rfl⟩, rfl, _, rfl, rfl⟩

end SearchContext

end DataDerive
