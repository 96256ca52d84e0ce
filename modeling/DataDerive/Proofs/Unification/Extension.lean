import DataDerive.Proofs.Unification.Termination
import Mathlib.Logic.Relation

/-!
# Unification extends a substitution

Unification can start from what was bound before, as long as no variable leads
back to itself.  It ends, keeps every binding, and binds in addition only
variables that take part, that are neither bound nor rigid.  What it ends with
is again fit to start from, and resolving by it is done after one pass.
-/

namespace DataDerive

namespace Substitution

open TypeExpr Relation

variable {substitution : Substitution}

/-- A variable is bound to a type in which another one occurs. -/
def LeadsTo (substitution : Substitution) (name other : String) : Prop :=
  ∃ target, substitution.get? name = some target ∧ other ∈ target.variableOccurrences

/-- The variables that occur in targets. -/
def targetVars (substitution : Substitution) : Finset String :=
  (substitution.bindings.flatMap fun binding => binding.2.variableOccurrences).toFinset

theorem LeadsTo.mem_targetVars {name other : String} (leads : substitution.LeadsTo name other) :
    other ∈ substitution.targetVars := by
  rcases leads with ⟨target, found, occurs⟩
  exact List.mem_toFinset.mpr (List.mem_flatMap.mpr ⟨_, mem_bindings_of_get? found, occurs⟩)

theorem RankedBy.lt_of_transGen
    {rank : String → Nat}
    (ranked : substitution.RankedBy rank)
    {name other : String}
    (leads : TransGen substitution.LeadsTo name other) :
    rank other < rank name := by
  induction leads with
  | single step =>
      rcases step with ⟨target, found, occurs⟩
      exact ranked _ target found _ occurs
  | tail _ step ih =>
      rcases step with ⟨target, found, occurs⟩
      exact (ranked _ target found _ occurs).trans ih

/-- A substitution is acyclic exactly if no variable leads back to itself. -/
theorem acyclic_iff :
    substitution.Acyclic ↔ ∀ name, ¬ TransGen substitution.LeadsTo name name := by
  classical
  constructor
  · rintro ⟨rank, ranked⟩ name leads
    exact Nat.lt_irrefl _ (ranked.lt_of_transGen leads)
  · intro noCycle
    -- The rank counts the variables that a variable leads to.
    let reached (name : String) : Finset String :=
      substitution.targetVars.filter (TransGen substitution.LeadsTo name)
    refine ⟨fun name => (reached name).card, fun name target found other occurs => ?_⟩
    have leads : substitution.LeadsTo name other := ⟨target, found, occurs⟩
    refine Finset.card_lt_card (Finset.ssubset_iff_of_subset ?_ |>.mpr ⟨other, ?_, ?_⟩)
    · intro further member
      rw [Finset.mem_filter] at member ⊢
      exact ⟨member.1, .head leads member.2⟩
    · exact Finset.mem_filter.mpr ⟨leads.mem_targetVars, .single leads⟩
    · exact fun member => noCycle other (Finset.mem_filter.mp member).2

end Substitution

namespace Unification

open Substitution TypeExpr Relation

/-- What unification makes of a substitution. -/
structure Threads
    (rigid : List String)
    (left right : TypeExpr)
    (start final : Substitution) : Prop where
  /-- Every binding is kept as it is. -/
  keeps : ∀ name target, start.get? name = some target → final.get? name = some target
  /-- A variable that is bound in addition is not rigid, and it takes part. -/
  binds : ∀ name target, final.get? name = some target → start.get? name = none →
    name ∉ rigid ∧
      (name ∈ left.variableOccurrences ∨ name ∈ right.variableOccurrences ∨
        ∃ source, start.LeadsTo source name)
  /-- No variable leads back to itself. -/
  acyclic : ∀ name, ¬ TransGen final.LeadsTo name name
  /-- The types have become equal. -/
  equal : final.resolve left = final.resolve right
  /-- Resolving again changes nothing. -/
  idempotent : ∀ type, final.resolve (final.resolve type) = final.resolve type
  /-- Resolving leaves no bound variable. -/
  settled : ∀ type, ∀ name ∈ (final.resolve type).variableOccurrences, final.get? name = none

variable {rigid : List String} {left right : TypeExpr} {start final : Substitution}

/-- A variable in use occurs in a type, is bound, or occurs in the target of one that is. -/
theorem mem_namesInUse {name : String} (used : name ∈ namesInUse left right start) :
    name ∈ left.variableOccurrences ∨ name ∈ right.variableOccurrences ∨
      (∃ source, start.LeadsTo source name) ∨ start.get? name ≠ none := by
  rcases Finset.mem_union.mp used with occurs | bound
  · rw [List.mem_toFinset, variableOccurrencesAll_eq_flatMap] at occurs
    rcases List.mem_flatMap.mp occurs with ⟨type, takesPart, inside⟩
    rcases List.mem_cons.mp takesPart with rfl | takesPart
    · exact Or.inl inside
    rcases List.mem_cons.mp takesPart with rfl | takesPart
    · exact Or.inr (Or.inl inside)
    · rcases List.mem_map.mp takesPart with ⟨⟨source, target⟩, stored, rfl⟩
      exact Or.inr (Or.inr (Or.inl ⟨source, target, get?_of_mem_bindings stored, inside⟩))
  · rcases List.mem_map.mp (List.mem_toFinset.mp bound) with ⟨⟨source, target⟩, stored, rfl⟩
    exact Or.inr (Or.inr (Or.inr (by simp [get?_of_mem_bindings stored])))

theorem threads_of_unifyFrom
    (acyclic : start.Acyclic)
    (loose : ∀ name ∈ rigid, start.get? name = none)
    (success : unifyFrom rigid left right start = .ok final) :
    Threads rigid left right start final := by
  obtain ⟨stage, extended⟩ := unifyFrom_stage acyclic loose success
  have settled (type : TypeExpr) :
      ∀ name ∈ (final.resolve type).variableOccurrences, final.get? name = none :=
    fun name occurs => stage.acyclic.unbound_of_mem_resolve occurs
  refine
    { keeps := extended
      binds := fun name target found unbound => ⟨fun isRigid => ?_, ?_⟩
      acyclic := acyclic_iff.mp stage.acyclic
      equal := resolve_eq_of_unifyFrom acyclic loose success
      idempotent := fun type => resolve_of_unbound (settled type)
      settled := settled }
  · rw [stage.loose name isRigid] at found
    cases found
  · rcases mem_namesInUse (stage.named name target found).1 with inLeft | inRight | leads | bound
    · exact Or.inl inLeft
    · exact Or.inr (Or.inl inRight)
    · exact Or.inr (Or.inr leads)
    · exact absurd unbound bound

/--
Threading a substitution through unification only ever extends it.  From a
substitution in which no variable leads back to itself and nothing rigid is
bound, unification ends, with the outcome of `unifyFrom`; and what it succeeds
with has the properties that `Threads` lists.
-/
theorem unifyFrom_threads
    (rigid : List String)
    (left right : TypeExpr)
    (start : Substitution)
    (acyclic : ∀ name, ¬ TransGen start.LeadsTo name name)
    (loose : ∀ name ∈ rigid, start.get? name = none) :
    (∀ outcome, Ends rigid [⟨.root, left, right⟩] start outcome ↔
      unifyFrom rigid left right start = outcome) ∧
    ∀ final, unifyFrom rigid left right start = .ok final →
      Threads rigid left right start final :=
  ⟨ends_iff (acyclic_iff.mpr acyclic) loose,
    fun _ success => threads_of_unifyFrom (acyclic_iff.mpr acyclic) loose success⟩

/-- A substitution that binds `A` to a type with another variable. -/
def listedElement : Substitution :=
  .ofPairs [("A", .con "List" [.var "B"])]

theorem listedElement_acyclic (name : String) : ¬ TransGen listedElement.LeadsTo name name := by
  refine acyclic_iff.mp ⟨fun name => if name = "A" then 1 else 0, ?_⟩ name
  intro name target found other occurs
  have stored : name = "A" ∧ target = .con "List" [.var "B"] := by
    simpa using mem_of_get?_ofPairs found
  rcases stored with ⟨rfl, rfl⟩
  have same : other = "B" := by simpa using occurs
  rw [same]
  decide

/-- With `A` bound before, unification binds `B`, and then `C` to what `A` resolves to. -/
theorem unifyFrom_threads_listedElement :
    (∀ name, ¬ TransGen listedElement.LeadsTo name name) ∧
    (∀ name ∈ ["T"], listedElement.get? name = none) ∧
    ∃ final,
      unifyFrom ["T"]
        (.con "Pair" [.var "A", .arrow [.var "T"] (.var "C")])
        (.con "Pair" [.con "List" [.con "i32" []], .arrow [.var "T"] (.var "A")])
        listedElement = .ok final ∧
      final.get? "C" = some (.con "List" [.con "i32" []]) ∧
      Threads ["T"]
        (.con "Pair" [.var "A", .arrow [.var "T"] (.var "C")])
        (.con "Pair" [.con "List" [.con "i32" []], .arrow [.var "T"] (.var "A")])
        listedElement final := by
  have loose : ∀ name ∈ ["T"], listedElement.get? name = none := by decide
  have success :
      unifyFrom ["T"]
        (.con "Pair" [.var "A", .arrow [.var "T"] (.var "C")])
        (.con "Pair" [.con "List" [.con "i32" []], .arrow [.var "T"] (.var "A")])
        listedElement =
      .ok ((listedElement.bind "B" (.con "i32" [])).bind "C" (.con "List" [.con "i32" []])) := by
    decide +kernel
  refine ⟨listedElement_acyclic, loose, _, success, by decide, ?_⟩
  exact (unifyFrom_threads _ _ _ _ listedElement_acyclic loose).2 _ success

end Unification

end DataDerive
