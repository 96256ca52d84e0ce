import DataDerive.Proofs.Substitution
import DataDerive.Proofs.Unification.Levels

/-!
# Most general unifiers

A unifier keeps every rigid variable and makes the two types equal.  If there is
one, unification succeeds: a step could only fail where the two sides differ
under every replacement, and the bound on the levels is never reached.  What it
succeeds with makes the types equal and is as general as any unifier, which is
the content of `unifyFrom_mostGeneral`.
-/

namespace DataDerive

open TypeExpr Substitution

namespace Unification

/-- A replacement that keeps every rigid variable and makes two types equal. -/
structure Unifies
    (rigid : List String)
    (left right : TypeExpr)
    (solution : String → TypeExpr) : Prop where
  keeps : ∀ name ∈ rigid, solution name = .var name
  equal : left.replace solution = right.replace solution

/-! ## Unification succeeds where there is a unifier -/

theorem bindVar_succeeds
    {solution : String → TypeExpr}
    {start : Substitution}
    {name : String}
    {target : TypeExpr}
    (solved : start.SolvedBy solution)
    (equal : solution name = target.replace solution) :
    ∃ final, bindVar name target start = .ok final := by
  rw [bindVar]
  split
  case isTrue => exact ⟨start, rfl⟩
  case isFalse other =>
      rw [if_neg]
      · exact ⟨_, rfl⟩
      · intro inside
        rw [mentions_iff, mem_freeVars] at inside
        rw [← solved.replace_resolve target] at equal
        rw [eq_var_of_replace_eq inside equal] at other
        exact other rfl

/-- Where each pair of parts succeeds, all of them do. -/
theorem unifyParts_succeeds
    {step : Place → TypeExpr → TypeExpr → Substitution → Outcome}
    {place : Nat → Place}
    {index : Nat}
    {xs ys : List TypeExpr}
    {start : Substitution}
    (holds : Substitution → Prop)
    (succeeds : ∀ place, ∀ pair ∈ xs.zip ys, ∀ current, holds current →
      ∃ next, step place pair.1 pair.2 current = .ok next ∧ holds next)
    (starts : holds start) :
    ∃ final, unifyParts step place index xs ys start = .ok final ∧ holds final := by
  induction xs generalizing index ys start with
  | nil =>
      refine ⟨start, ?_, starts⟩
      rw [unifyParts]
      simp
  | cons x xs ih =>
      cases ys with
      | nil =>
          refine ⟨start, ?_, starts⟩
          rw [unifyParts]
          simp
      | cons y ys =>
          rw [unifyParts]
          rcases succeeds (place index) (x, y) (by simp) start starts with ⟨middle, first, keeps⟩
          simp only [first, Bind.bind, Except.bind]
          refine ih (fun place pair member => succeeds place pair ?_) keeps
          rw [List.zip_cons_cons]
          exact List.mem_cons_of_mem _ member

/-- With as many levels as the common instance is high, unification succeeds. -/
def Succeeds
    (rigid : List String)
    (names : Finset String)
    (solution : String → TypeExpr)
    (budget : Nat) : Prop :=
  ∀ (place : Place) (left right : TypeExpr) (start : Substitution),
    Stage rigid names start → left.Over names → right.Over names → start.SolvedBy solution →
    Unifies rigid left right solution → (left.replace solution).height < budget →
    ∃ final, unifyAt rigid budget place left right start = .ok final

section Succeeds

variable
  {rigid : List String}
  {names : Finset String}
  {solution : String → TypeExpr}
  {budget : Nat}
  {start : Substitution}

/-- Parts that a replacement makes equal are unified one after the other. -/
theorem Succeeds.parts
    (succeeds : Succeeds rigid names solution budget)
    (place : Nat → Place)
    {xs ys : List TypeExpr}
    (keeps : ∀ name ∈ rigid, solution name = .var name)
    (stage : Stage rigid names start)
    (solved : start.SolvedBy solution)
    (named : PairsOver names (xs.zip ys))
    (same : Equalizes solution (xs.zip ys))
    (lower : ∀ x ∈ xs, (x.replace solution).height < budget) :
    ∃ final, unifyParts (unifyAt rigid budget) place 0 xs ys start = .ok final ∧
      Stage rigid names final ∧ final.SolvedBy solution := by
  refine unifyParts_succeeds
    (fun current => Stage rigid names current ∧ current.SolvedBy solution) ?_ ⟨stage, solved⟩
  rintro place pair member current ⟨currentStage, currentSolved⟩
  have found : ∃ next, unifyAt rigid budget place pair.1 pair.2 current = .ok next :=
    succeeds place pair.1 pair.2 current currentStage (named pair member).1 (named pair member).2
      currentSolved ⟨keeps, same pair member⟩ (lower _ (List.of_mem_zip member).1)
  rcases found with ⟨next, success⟩
  have run := run_of_unifyAt success
  have pairOver : PairsOver names [pair] := by simpa [PairsOver] using named pair member
  have pairSame : Equalizes solution [pair] := by simpa [Equalizes] using same pair member
  exact ⟨next, success, (run.stage currentStage pairOver).1, run.solvedBy currentSolved pairSame⟩

theorem succeeds
    (rigid : List String)
    (names : Finset String)
    (solution : String → TypeExpr)
    (budget : Nat) :
    Succeeds rigid names solution budget := by
  induction budget with
  | zero => intro place left right start _ _ _ _ _ enough; omega
  | succ budget ih =>
      intro place left right start stage leftOver rightOver solved unifies enough
      have keeps := unifies.keeps
      have equal := unifies.equal
      have named := stage.pairsOver_parts leftOver rightOver
      rw [← solved.replace_shallow left] at equal enough
      rw [← solved.replace_shallow right] at equal
      have lower (part : TypeExpr) (member : part ∈ (start.shallow left).parts) :
          (part.replace solution).height < budget :=
        Nat.lt_of_lt_of_le (height_part_lt (mem_parts_replace member solution))
          (Nat.lt_succ_iff.mp enough)
      have level := level_unifyAt rigid budget place left right start
      generalize unifyAt rigid (budget + 1) place left right start = outcome at level
      cases level with
      | same => exact ⟨start, rfl⟩
      | bindLeft root _ =>
          rw [root, replace_var] at equal
          exact bindVar_succeeds solved equal
      | bindRight root _ =>
          rw [root, replace_var] at equal
          exact bindVar_succeeds solved equal.symm
      | con leftRoot rightRoot arity =>
          rw [leftRoot, rightRoot] at named
          rw [leftRoot] at lower
          rw [leftRoot, rightRoot, replace_con, replace_con, TypeExpr.con.injEq] at equal
          rcases ih.parts .argument keeps stage solved named
            ((equalizes_zip arity).mpr equal.2) lower with ⟨final, success, -⟩
          exact ⟨final, success⟩
      | @arrow xs ys p q leftRoot rightRoot arity =>
          rw [leftRoot, rightRoot, TypeExpr.parts, TypeExpr.parts, List.zip_append arity,
            pairsOver_append] at named
          rw [leftRoot, TypeExpr.parts] at lower
          rw [leftRoot, rightRoot, replace_arrow, replace_arrow, TypeExpr.arrow.injEq] at equal
          rcases named with ⟨named, results⟩
          rcases (pairsOver_cons.mp results).1 with ⟨pOver, qOver⟩
          rcases ih.parts .parameter keeps stage solved named ((equalizes_zip arity).mpr equal.1)
            (fun x member => lower x (List.mem_append_left [p] member)) with
            ⟨middle, success, middleStage, middleSolved⟩
          rcases ih .result p q middle middleStage pOver qOver middleSolved ⟨keeps, equal.2⟩
            (lower p (List.mem_append_right xs List.mem_cons_self)) with ⟨final, last⟩
          refine ⟨final, ?_⟩
          rw [success]
          exact last
      | clash differ => exact absurd equal (differ solution keeps)

end Succeeds

section From

variable
  {rigid : List String}
  {left right : TypeExpr}
  {start final : Substitution}
  {solution : String → TypeExpr}

theorem pairsOver_namesInUse :
    PairsOver (namesInUse left right start) [(left, right)] := by
  refine pairsOver_cons.mpr ⟨⟨?_, ?_⟩, by simp [PairsOver]⟩
  · exact over_namesInUse (by simp [participants])
  · exact over_namesInUse (by simp [participants])

/-- If the bindings so far and the two types have a common solution, unification succeeds. -/
theorem unifyFrom_succeeds
    (acyclic : start.Acyclic)
    (loose : ∀ name ∈ rigid, start.get? name = none)
    (solved : start.SolvedBy solution)
    (unifies : Unifies rigid left right solution) :
    ∃ final, unifyFrom rigid left right start = .ok final := by
  have named : PairsOver (namesInUse left right start) [(left, right)] := pairsOver_namesInUse
  rw [pairsOver_cons] at named
  let budget := levels left right start + (left.replace solution).height + 1
  rw [← unifyAt_eq_unifyFrom acyclic loose (show levels left right start ≤ budget by omega)]
  exact succeeds rigid _ solution budget .root left right start (stage_namesInUse acyclic loose)
    named.1.1 named.1.2 solved unifies (by omega)

/-- What unification succeeds with keeps the bindings, closes no cycle and binds nothing rigid. -/
theorem unifyFrom_stage
    (acyclic : start.Acyclic)
    (loose : ∀ name ∈ rigid, start.get? name = none)
    (success : unifyFrom rigid left right start = .ok final) :
    Stage rigid (namesInUse left right start) final ∧ final.Extends start :=
  (run_of_unifyAt success).stage (stage_namesInUse acyclic loose) pairsOver_namesInUse

/-- Every solution of what unification succeeds with makes the two types equal. -/
theorem replace_eq_of_unifyFrom
    (acyclic : start.Acyclic)
    (loose : ∀ name ∈ rigid, start.get? name = none)
    (success : unifyFrom rigid left right start = .ok final)
    (solved : final.SolvedBy solution) :
    left.replace solution = right.replace solution :=
  (equalizes_cons.mp ((run_of_unifyAt success).equalizes (stage_namesInUse acyclic loose)
    pairsOver_namesInUse solved)).1

/-- Resolving by what unification succeeds with makes the two types equal. -/
theorem resolve_eq_of_unifyFrom
    (acyclic : start.Acyclic)
    (loose : ∀ name ∈ rigid, start.get? name = none)
    (success : unifyFrom rigid left right start = .ok final) :
    final.resolve left = final.resolve right := by
  have stage := (unifyFrom_stage acyclic loose success).1
  rw [resolve_eq_replace, resolve_eq_replace _ right]
  exact replace_eq_of_unifyFrom acyclic loose success stage.acyclic.solvedBy_resolve

/-- A unifier that solves the bindings so far solves what unification succeeds with. -/
theorem solvedBy_of_unifyFrom
    (success : unifyFrom rigid left right start = .ok final)
    (solved : start.SolvedBy solution)
    (equal : left.replace solution = right.replace solution) :
    final.SolvedBy solution :=
  (run_of_unifyAt success).solvedBy solved (equalizes_cons.mpr ⟨equal, equalizes_nil⟩)

end From

end Unification

/-! ## Finite unifiers -/

namespace Substitution

/-- A substitution that keeps every rigid variable and makes two types equal. -/
def IsUnifier
    (substitution : Substitution)
    (rigid : List String)
    (left right : TypeExpr) : Prop :=
  (∀ name ∈ rigid, substitution.substitute (.var name) = .var name) ∧
    substitution.substitute left = substitution.substitute right

theorem IsUnifier.unifies
    {substitution : Substitution}
    {rigid : List String}
    {left right : TypeExpr}
    (unifier : substitution.IsUnifier rigid left right) :
    Unification.Unifies rigid left right fun name => substitution.substitute (.var name) :=
  ⟨unifier.1, unifier.2⟩

end Substitution

namespace Unification

/-- What unification succeeds with can be put for the variables all at once. -/
theorem exists_isUnifier_of_unifyFrom
    {rigid : List String}
    {left right : TypeExpr}
    {final : Substitution}
    (success : unifyFrom rigid left right .empty = .ok final) :
    ∃ unifier : Substitution, unifier.IsUnifier rigid left right := by
  let names := left.variableOccurrences ++ right.variableOccurrences
  let target (name : String) : TypeExpr := final.resolve (.var name)
  have stage := (unifyFrom_stage acyclic_empty (fun _ _ => rfl) success).1
  refine ⟨.ofPairs (names.map fun name => (name, target name)), ?_, ?_⟩
  · intro name member
    have kept : target name = .var name := resolve_var_of_unbound (stage.loose name member)
    change (get? _ name).getD (.var name) = .var name
    cases found : get? (.ofPairs (names.map fun name => (name, target name))) name with
    | none => rfl
    | some type =>
        rcases List.mem_map.mp (mem_of_get?_ofPairs found) with ⟨other, -, same⟩
        cases same
        exact kept
  · rw [substitute_ofPairs_map fun name occurs => List.mem_append_left _ occurs,
      substitute_ofPairs_map fun name occurs => List.mem_append_right _ occurs]
    exact replace_eq_of_unifyFrom acyclic_empty (fun _ _ => rfl) success
      stage.acyclic.solvedBy_resolve

/--
Unification finds a most general unifier.  It succeeds exactly if some
substitution that keeps the rigid variables makes the types equal.  Then what it
finds makes them equal as well, and every such substitution only puts something
more for the variables that are left.  Without rigid variables this is `unify?`.
-/
theorem unifyFrom_mostGeneral (rigid : List String) (left right : TypeExpr) :
    ((∃ found, unifyFrom rigid left right .empty = .ok found) ↔
      ∃ unifier : Substitution, unifier.IsUnifier rigid left right) ∧
    (∀ found, unifyFrom rigid left right .empty = .ok found →
      found.resolve left = found.resolve right ∧
      ∀ unifier : Substitution, unifier.IsUnifier rigid left right →
        ∀ name, unifier.substitute (.var name) =
          unifier.substitute (found.resolve (.var name))) ∧
    ∀ found, unify? left right = some found ↔ unifyFrom [] left right .empty = .ok found := by
  refine ⟨⟨?_, ?_⟩, ?_, ?_⟩
  · rintro ⟨found, success⟩
    exact exists_isUnifier_of_unifyFrom success
  · rintro ⟨unifier, isUnifier⟩
    exact unifyFrom_succeeds acyclic_empty (fun _ _ => rfl) (solvedBy_empty _) isUnifier.unifies
  · intro found success
    refine ⟨resolve_eq_of_unifyFrom acyclic_empty (fun _ _ => rfl) success, ?_⟩
    intro unifier isUnifier name
    have solved := solvedBy_of_unifyFrom success (solvedBy_empty _) isUnifier.unifies.equal
    exact (solved.replace_resolve (.var name)).symm
  · intro found
    rw [unify?]
    cases unifyFrom [] left right .empty with
    | error failure => simp [Except.toOption]
    | ok other => simp [Except.toOption]

end Unification

end DataDerive
