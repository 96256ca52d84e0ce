import DataDerive.Proofs.Unification.MostGeneral

/-!
# Unification ends

A call of unification goes one level down in its two types and makes calls for
their parts, with the substitution that the calls before have left.  `Ends` says
that calls made in turn come to an end and with which outcome; there is no bound
on levels in it.

Calls end because each of them makes the next state smaller: there are fewer
unbound variables in use, or as many and fewer nodes in what the types still to
be compared resolve to.  Where calls end, unification with enough levels has the
same outcome, so a bound that is never reached changes nothing.
-/

namespace DataDerive.Unification

open Substitution TypeExpr

/-! ## Calls -/

/-- A call: two types that are to be made equal at a place. -/
structure Call where
  place : Place
  left : TypeExpr
  right : TypeExpr

/-- The types of a call. -/
def Call.types (call : Call) : TypeExpr × TypeExpr :=
  (call.left, call.right)

/-- The calls for two lists of parts, from a position on. -/
def callsFrom (place : Nat → Place) : (index : Nat) → (left right : List TypeExpr) → List Call
  | index, x :: left, y :: right => ⟨place index, x, y⟩ :: callsFrom place (index + 1) left right
  | _, _, _ => []

/-- The calls for the parts of two types of the same shape. -/
def partCalls : (left right : TypeExpr) → List Call
  | .con _ xs, .con _ ys => callsFrom .argument 0 xs ys
  | .arrow xs p, .arrow ys q => callsFrom .parameter 0 xs ys ++ [⟨.result, p, q⟩]
  | _, _ => []

theorem types_callsFrom (place : Nat → Place) (index : Nat) (xs ys : List TypeExpr) :
    (callsFrom place index xs ys).map Call.types = xs.zip ys := by
  induction xs generalizing index ys with
  | nil => simp [callsFrom]
  | cons x xs ih =>
      cases ys with
      | nil => simp [callsFrom]
      | cons y ys => rw [callsFrom, List.map_cons, ih, List.zip_cons_cons, Call.types]

theorem types_partCalls {left right : TypeExpr} (shape : SameShape left right) :
    (partCalls left right).map Call.types = left.parts.zip right.parts := by
  cases shape with
  | con arity => exact types_callsFrom _ _ _ _
  | arrow arity =>
      rw [partCalls, List.map_append, types_callsFrom, parts, parts, List.zip_append arity]
      rfl

/--
Calls made in turn come to an end with an outcome.  A call whose roots have not
the same shape is decided on its level; any other makes calls for the parts.
-/
inductive Ends (rigid : List String) : List Call → Substitution → Outcome → Prop
  /-- No call is left. -/
  | done {start : Substitution} : Ends rigid [] start (.ok start)
  /-- A call fails, and with it all. -/
  | stop
      {call : Call}
      {rest : List Call}
      {start : Substitution}
      {failure : Failure}
      (decided : ¬ SameShape (start.shallow call.left) (start.shallow call.right))
      (fails : unifyAt rigid 1 call.place call.left call.right start = .error failure) :
      Ends rigid (call :: rest) start (.error failure)
  /-- A call succeeds on its own level. -/
  | next
      {call : Call}
      {rest : List Call}
      {start middle : Substitution}
      {outcome : Outcome}
      (decided : ¬ SameShape (start.shallow call.left) (start.shallow call.right))
      (succeeds : unifyAt rigid 1 call.place call.left call.right start = .ok middle)
      (onward : Ends rigid rest middle outcome) :
      Ends rigid (call :: rest) start outcome
  /-- A call makes calls for the parts of its types. -/
  | enter
      {call : Call}
      {rest : List Call}
      {start : Substitution}
      {outcome : Outcome}
      (shape : SameShape (start.shallow call.left) (start.shallow call.right))
      (onward : Ends rigid
        (partCalls (start.shallow call.left) (start.shallow call.right) ++ rest) start outcome) :
      Ends rigid (call :: rest) start outcome

/-! ## Calls become smaller -/

/-- The nodes of what the left types of calls resolve to. -/
def work (start : Substitution) (calls : List Call) : Nat :=
  nodesAll (calls.map fun call => start.resolve call.left)

theorem work_cons (start : Substitution) (call : Call) (rest : List Call) :
    work start (call :: rest) = (start.resolve call.left).nodes + work start rest := by
  rw [work, List.map_cons, nodesAll, work]

/-- The calls for the parts of a type are together smaller than the type. -/
theorem work_partCalls_lt
    {start : Substitution}
    {call : Call}
    (acyclic : start.Acyclic)
    (shape : SameShape (start.shallow call.left) (start.shallow call.right))
    (rest : List Call) :
    work start (partCalls (start.shallow call.left) (start.shallow call.right) ++ rest) <
      work start (call :: rest) := by
  have lefts : (partCalls (start.shallow call.left) (start.shallow call.right)).map Call.left =
      (start.shallow call.left).parts := by
    calc (partCalls (start.shallow call.left) (start.shallow call.right)).map Call.left
        = ((start.shallow call.left).parts.zip (start.shallow call.right).parts).map Prod.fst := by
          rw [← types_partCalls shape, List.map_map]
          rfl
      _ = (start.shallow call.left).parts := List.map_fst_zip shape.length_parts.le
  have whole : (start.resolve (start.shallow call.left)).IsCompound := by
    rw [resolve_eq_replace]
    exact shape.left.replace _
  have resolved : (start.resolve (start.shallow call.left)).parts =
      (start.shallow call.left).parts.map start.resolve := by
    rw [resolve_eq_replace, shape.left.parts_replace]
    exact List.map_congr_left fun part _ => (start.resolve_eq_replace part).symm
  have below : nodesAll ((start.shallow call.left).parts.map start.resolve) <
      (start.resolve call.left).nodes := by
    rw [← acyclic.resolve_shallow, whole.nodes_eq, resolved]
    omega
  rw [← lefts, List.map_map] at below
  rw [work_cons, work, List.map_append, nodesAll_append]
  exact Nat.add_lt_add_right below _

/-- Calls come to an end from every stage of unification. -/
theorem exists_ends
    {rigid : List String}
    {names : Finset String}
    {start : Substitution}
    {calls : List Call}
    (stage : Stage rigid names start)
    (named : PairsOver names (calls.map Call.types)) :
    ∃ outcome, Ends rigid calls start outcome := by
  -- Every step leaves fewer unbound variables, or as many and less work.
  induction unbound : start.remaining names using Nat.strongRecOn generalizing start calls with
  | ind unbound fewer =>
    subst unbound
    induction size : work start calls using Nat.strongRecOn generalizing calls with
    | ind size smaller =>
      subst size
      cases calls with
      | nil => exact ⟨_, .done⟩
      | cons call rest =>
          rw [List.map_cons, Call.types, pairsOver_cons] at named
          rcases named with ⟨⟨leftOver, rightOver⟩, restOver⟩
          by_cases shape : SameShape (start.shallow call.left) (start.shallow call.right)
          · have partsOver := stage.pairsOver_parts leftOver rightOver
            rw [← types_partCalls shape] at partsOver
            rcases smaller _ (work_partCalls_lt stage.acyclic shape rest)
              (by rw [List.map_append]; exact pairsOver_append.mpr ⟨partsOver, restOver⟩) rfl
              with ⟨outcome, onward⟩
            exact ⟨outcome, .enter shape onward⟩
          · cases single : unifyAt rigid 1 call.place call.left call.right start with
            | error failure => exact ⟨_, .stop shape single⟩
            | ok middle =>
                have run := run_of_unifyAt single
                have named : PairsOver names [(call.left, call.right)] :=
                  pairsOver_cons.mpr ⟨⟨leftOver, rightOver⟩, List.forall_mem_nil _⟩
                suffices ∃ outcome, Ends rigid rest middle outcome by
                  rcases this with ⟨outcome, onward⟩
                  exact ⟨outcome, .next shape single onward⟩
                rcases run.progress stage named with same | less
                · subst same
                  refine smaller _ ?_ restOver rfl
                  rw [work_cons]
                  exact Nat.lt_add_of_pos_left (nodes_pos _)
                · exact fewer _ less (run.stage stage named).1 restOver rfl

/-! ## Enough levels -/

/-- Make calls in turn, each with a bound of its own on the levels. -/
def unifyCalls (rigid : List String) : List (Nat × Call) → Substitution → Outcome
  | [], start => .ok start
  | (budget, call) :: rest, start => do
      let middle ← unifyAt rigid budget call.place call.left call.right start
      unifyCalls rigid rest middle

theorem unifyCalls_append
    (rigid : List String)
    (first second : List (Nat × Call))
    (start : Substitution) :
    unifyCalls rigid (first ++ second) start =
      unifyCalls rigid first start >>= unifyCalls rigid second := by
  induction first generalizing start with
  | nil => rfl
  | cons call rest ih =>
      rcases call with ⟨budget, call⟩
      rw [List.cons_append, unifyCalls, unifyCalls, bind_assoc]
      exact congrArg _ (funext ih)

theorem unifyParts_eq_unifyCalls
    (rigid : List String)
    (budget : Nat)
    (place : Nat → Place)
    (index : Nat)
    (xs ys : List TypeExpr)
    (start : Substitution) :
    unifyParts (unifyAt rigid budget) place index xs ys start =
      unifyCalls rigid ((callsFrom place index xs ys).map (Prod.mk budget)) start := by
  induction xs generalizing index ys start with
  | nil => simp [unifyParts, callsFrom, unifyCalls]
  | cons x xs ih =>
      cases ys with
      | nil => simp [unifyParts, callsFrom, unifyCalls]
      | cons y ys =>
          rw [unifyParts, callsFrom, List.map_cons, unifyCalls]
          exact congrArg _ (funext fun middle => ih (index + 1) ys middle)

/-- A call whose roots have the same shape makes the calls for their parts. -/
theorem unifyAt_of_sameShape
    {rigid : List String}
    {left right : TypeExpr}
    {start : Substitution}
    (shape : SameShape (start.shallow left) (start.shallow right))
    (budget : Nat)
    (place : Place) :
    unifyAt rigid (budget + 1) place left right start =
      unifyCalls rigid
        ((partCalls (start.shallow left) (start.shallow right)).map (Prod.mk budget)) start := by
  rw [unifyAt]
  generalize start.shallow left = leftRoot at shape
  generalize start.shallow right = rightRoot at shape
  cases shape with
  | con arity =>
      rw [partCalls, ← unifyParts_eq_unifyCalls]
      simp [arity]
  | arrow arity =>
      rw [partCalls, List.map_append, unifyCalls_append, ← unifyParts_eq_unifyCalls]
      simp only [arity, ne_eq, not_true_eq_false, if_false]
      refine congrArg _ (funext fun middle => ?_)
      exact (bind_pure (unifyAt rigid budget .result _ _ middle)).symm

/-- A call whose roots have not the same shape is decided on its level. -/
theorem unifyAt_of_not_sameShape
    {rigid : List String}
    {left right : TypeExpr}
    {start : Substitution}
    (decided : ¬ SameShape (start.shallow left) (start.shallow right))
    (budget : Nat)
    (place : Place) :
    unifyAt rigid (budget + 1) place left right start = unifyAt rigid 1 place left right start := by
  rw [unifyAt, unifyAt]
  generalize start.shallow left = leftRoot at decided
  generalize start.shallow right = rightRoot at decided
  cases leftRoot with
  | var x => cases rightRoot <;> rfl
  | con f xs =>
      cases rightRoot with
      | var y => rfl
      | con g ys =>
          by_cases names : f = g
          · subst names
            have arity : xs.length ≠ ys.length := fun arity => decided (.con arity)
            simp only [arity, ne_eq, not_false_eq_true, if_true]
          · simp only [names, ne_eq, not_false_eq_true, if_true]
      | arrow ys q => rfl
  | arrow xs p =>
      cases rightRoot with
      | var y => rfl
      | con g ys => rfl
      | arrow ys q =>
          have arity : xs.length ≠ ys.length := fun arity => decided (.arrow arity)
          simp only [arity, ne_eq, not_false_eq_true, if_true]

/-- Where calls end, making them with enough levels has the same outcome. -/
theorem Ends.exists_enough
    {rigid : List String}
    {calls : List Call}
    {start : Substitution}
    {outcome : Outcome}
    (ends : Ends rigid calls start outcome) :
    ∃ enough, ∀ budgeted : List (Nat × Call), budgeted.map Prod.snd = calls →
      (∀ call ∈ budgeted, enough ≤ call.1) → unifyCalls rigid budgeted start = outcome := by
  induction ends with
  | done =>
      refine ⟨0, fun budgeted same _ => ?_⟩
      rw [List.map_eq_nil_iff.mp same, unifyCalls]
  | @stop call rest start failure decided fails =>
      refine ⟨1, fun budgeted same levels => ?_⟩
      rcases List.map_eq_cons_iff.mp same with ⟨⟨budget, _⟩, later, rfl, rfl, rfl⟩
      rcases Nat.exists_eq_add_of_le' (List.forall_mem_cons.mp levels).1 with ⟨more, rfl⟩
      rw [unifyCalls, unifyAt_of_not_sameShape decided, fails]
      rfl
  | @next call rest start middle outcome decided succeeds _ ih =>
      rcases ih with ⟨enough, makes⟩
      refine ⟨enough + 1, fun budgeted same levels => ?_⟩
      rcases List.map_eq_cons_iff.mp same with ⟨⟨budget, _⟩, later, rfl, rfl, rfl⟩
      rw [List.forall_mem_cons] at levels
      rcases Nat.exists_eq_add_of_le' levels.1 with ⟨more, rfl⟩
      rw [unifyCalls, ← Nat.add_assoc, unifyAt_of_not_sameShape decided, succeeds]
      exact makes later rfl fun call listed => (Nat.le_succ _).trans (levels.2 call listed)
  | @enter call rest start outcome shape _ ih =>
      rcases ih with ⟨enough, makes⟩
      refine ⟨enough + 1, fun budgeted same levels => ?_⟩
      rcases List.map_eq_cons_iff.mp same with ⟨⟨budget, _⟩, later, rfl, rfl, rfl⟩
      rw [List.forall_mem_cons] at levels
      rcases Nat.exists_eq_add_of_le' levels.1 with ⟨more, rfl⟩
      rw [unifyCalls, ← Nat.add_assoc, unifyAt_of_sameShape shape]
      dsimp only
      rw [← unifyCalls_append]
      refine makes _ ?_ (List.forall_mem_append.mpr ⟨?_, fun call listed => ?_⟩)
      · rw [List.map_append, List.map_map]
        exact congrArg (· ++ _) (List.map_id _)
      · exact List.forall_mem_map.mpr fun _ _ => Nat.le_add_left enough more
      · exact (Nat.le_succ _).trans (levels.2 call listed)

/--
From an acyclic substitution that binds nothing rigid, unification ends, and its
outcome is the one that `unifyFrom` gives with its bound on the levels.
-/
theorem ends_iff
    {rigid : List String}
    {left right : TypeExpr}
    {start : Substitution}
    (acyclic : start.Acyclic)
    (loose : ∀ name ∈ rigid, start.get? name = none)
    (outcome : Outcome) :
    Ends rigid [⟨.root, left, right⟩] start outcome ↔
      unifyFrom rigid left right start = outcome := by
  have agrees (outcome : Outcome) (ends : Ends rigid [⟨.root, left, right⟩] start outcome) :
      unifyFrom rigid left right start = outcome := by
    rcases ends.exists_enough with ⟨enough, makes⟩
    have within : levels left right start ≤ max (levels left right start) enough :=
      Nat.le_max_left _ _
    rw [← unifyAt_eq_unifyFrom acyclic loose within, ← makes [(_, ⟨.root, left, right⟩)] rfl
      (List.forall_mem_singleton.mpr (Nat.le_max_right (levels left right start) enough))]
    exact (bind_pure _).symm
  refine ⟨agrees outcome, ?_⟩
  rintro rfl
  have named : PairsOver (namesInUse left right start)
      ([⟨.root, left, right⟩].map Call.types) := pairsOver_namesInUse
  rcases exists_ends (stage_namesInUse acyclic loose) named with ⟨outcome, ends⟩
  exact agrees outcome ends ▸ ends

end DataDerive.Unification
