import DataDerive.Proofs.Resolution
import DataDerive.Unification

/-!
# Successful runs of unification

One level of unification looks at the roots of two types.  `Level` lists what it
can do there, and every fact about a level follows from that list.

A successful unification is a sequence of steps on a list of pairs of types: a
pair that is equal already is dropped, a variable at the root of one side is
bound to the other side, and two types of the same shape are replaced by their
parts.  `Run` lists these steps, and `run_of_unifyAt` says that unification does
nothing else.

What a run does to a substitution follows by induction on its steps.  It only
adds bindings of variables that are neither bound nor rigid, and closes no
cycle.  The solutions of the substitution that it ends with are exactly the
solutions of the first one that make all pairs equal.
-/

namespace DataDerive.Unification

open Substitution TypeExpr

/-! ## One level -/

/-- What one level of unification does, by the roots of the two types. -/
inductive Level
    (rigid : List String)
    (budget : Nat)
    (left right : TypeExpr)
    (start : Substitution) : Outcome → Prop
  /-- The same variable on both sides. -/
  | same
      {name : String}
      (leftRoot : start.shallow left = .var name)
      (rightRoot : start.shallow right = .var name) :
      Level rigid budget left right start (.ok start)
  /-- A variable that may be bound on the left. -/
  | bindLeft
      {name : String}
      (root : start.shallow left = .var name)
      (free : name ∉ rigid) :
      Level rigid budget left right start (bindVar name (start.shallow right) start)
  /-- A variable that may be bound on the right. -/
  | bindRight
      {name : String}
      (root : start.shallow right = .var name)
      (free : name ∉ rigid) :
      Level rigid budget left right start (bindVar name (start.shallow left) start)
  /-- The same constructor with as many arguments. -/
  | con
      {name : String}
      {xs ys : List TypeExpr}
      (leftRoot : start.shallow left = .con name xs)
      (rightRoot : start.shallow right = .con name ys)
      (arity : xs.length = ys.length) :
      Level rigid budget left right start
        (unifyParts (unifyAt rigid budget) .argument 0 xs ys start)
  /-- Two function types with as many parameters. -/
  | arrow
      {xs ys : List TypeExpr}
      {p q : TypeExpr}
      (leftRoot : start.shallow left = .arrow xs p)
      (rightRoot : start.shallow right = .arrow ys q)
      (arity : xs.length = ys.length) :
      Level rigid budget left right start
        (unifyParts (unifyAt rigid budget) .parameter 0 xs ys start >>=
          unifyAt rigid budget .result p q)
  /-- Roots that differ under every replacement that keeps the rigid variables. -/
  | clash
      {failure : Failure}
      (differ : ∀ solution : String → TypeExpr, (∀ name ∈ rigid, solution name = .var name) →
        (start.shallow left).replace solution ≠ (start.shallow right).replace solution) :
      Level rigid budget left right start (.error failure)

/-- A rigid variable is made equal to variables only. -/
theorem rigid_ne_compound
    {rigid : List String}
    {name : String}
    {type : TypeExpr}
    {solution : String → TypeExpr}
    (isRigid : name ∈ rigid)
    (compound : type.IsCompound)
    (keeps : ∀ name ∈ rigid, solution name = .var name) :
    (TypeExpr.var name).replace solution ≠ type.replace solution := by
  rw [replace_var, keeps name isRigid]
  exact ((compound.replace solution).ne_var name).symm

theorem level_unifyAt
    (rigid : List String)
    (budget : Nat)
    (place : Place)
    (left right : TypeExpr)
    (start : Substitution) :
    Level rigid budget left right start (unifyAt rigid (budget + 1) place left right start) := by
  rw [unifyAt]
  cases leftRoot : start.shallow left with
  | var x =>
      cases rightRoot : start.shallow right with
      | var y =>
          simp only
          split
          case isTrue same => exact .same leftRoot (same ▸ rightRoot)
          case isFalse other =>
              split
              case isTrue free => exact rightRoot ▸ .bindLeft leftRoot free
              case isFalse xRigid =>
                  split
                  case isTrue free => exact leftRoot ▸ .bindRight rightRoot free
                  case isFalse yRigid =>
                      rw [not_not] at xRigid yRigid
                      apply Level.clash
                      intro solution keeps
                      rw [leftRoot, rightRoot, replace_var, replace_var, keeps x xRigid,
                        keeps y yRigid]
                      exact fun same => other (TypeExpr.var.inj same)
      | con g ys =>
          simp only
          split
          case isTrue free => exact rightRoot ▸ .bindLeft leftRoot free
          case isFalse xRigid =>
              apply Level.clash
              intro solution keeps
              rw [leftRoot, rightRoot]
              exact rigid_ne_compound (not_not.mp xRigid) (isCompound_con g ys) keeps
      | arrow ys q =>
          simp only
          split
          case isTrue free => exact rightRoot ▸ .bindLeft leftRoot free
          case isFalse xRigid =>
              apply Level.clash
              intro solution keeps
              rw [leftRoot, rightRoot]
              exact rigid_ne_compound (not_not.mp xRigid) (isCompound_arrow ys q) keeps
  | con f xs =>
      cases rightRoot : start.shallow right with
      | var y =>
          simp only
          split
          case isTrue free => exact leftRoot ▸ .bindRight rightRoot free
          case isFalse yRigid =>
              apply Level.clash
              intro solution keeps
              rw [leftRoot, rightRoot]
              exact (rigid_ne_compound (not_not.mp yRigid) (isCompound_con f xs) keeps).symm
      | con g ys =>
          have differ (unlike : ¬ SameShape (.con f xs) (.con g ys))
              (solution : String → TypeExpr) (_ : ∀ name ∈ rigid, solution name = .var name) :
              (start.shallow left).replace solution ≠ (start.shallow right).replace solution := by
            rw [leftRoot, rightRoot]
            exact fun same => unlike
              (sameShape_of_replace_eq (isCompound_con f xs) (isCompound_con g ys) same)
          simp only
          split
          case isTrue names => exact .clash (differ fun shape => by cases shape; exact names rfl)
          case isFalse names =>
              split
              case isTrue arity =>
                  exact .clash (differ fun shape => by cases shape; contradiction)
              case isFalse arity =>
                  rw [not_not] at names arity
                  subst names
                  exact .con leftRoot rightRoot arity
      | arrow ys q =>
          apply Level.clash
          intro solution _ same
          rw [leftRoot, rightRoot] at same
          cases sameShape_of_replace_eq (isCompound_con f xs) (isCompound_arrow ys q) same
  | arrow xs p =>
      cases rightRoot : start.shallow right with
      | var y =>
          simp only
          split
          case isTrue free => exact leftRoot ▸ .bindRight rightRoot free
          case isFalse yRigid =>
              apply Level.clash
              intro solution keeps
              rw [leftRoot, rightRoot]
              exact (rigid_ne_compound (not_not.mp yRigid) (isCompound_arrow xs p) keeps).symm
      | con g ys =>
          apply Level.clash
          intro solution _ same
          rw [leftRoot, rightRoot] at same
          cases sameShape_of_replace_eq (isCompound_arrow xs p) (isCompound_con g ys) same
      | arrow ys q =>
          simp only
          split
          case isTrue arity =>
              apply Level.clash
              intro solution _ same
              rw [leftRoot, rightRoot] at same
              cases sameShape_of_replace_eq (isCompound_arrow xs p) (isCompound_arrow ys q) same
              contradiction
          case isFalse arity => exact .arrow leftRoot rightRoot (not_not.mp arity)

/-! ## Runs -/

/-- Make the types of each pair equal, one pair after the other. -/
inductive Run (rigid : List String) :
    List (TypeExpr × TypeExpr) → Substitution → Substitution → Prop where
  /-- No pair is left. -/
  | done {start : Substitution} : Run rigid [] start start
  /-- The two types are equal already. -/
  | agree
      {left right : TypeExpr}
      {rest : List (TypeExpr × TypeExpr)}
      {start final : Substitution}
      (same : ∀ solution, start.SolvedBy solution →
        left.replace solution = right.replace solution)
      (run : Run rigid rest start final) :
      Run rigid ((left, right) :: rest) start final
  /-- The sides of a pair do not matter. -/
  | swap
      {left right : TypeExpr}
      {rest : List (TypeExpr × TypeExpr)}
      {start final : Substitution}
      (run : Run rigid ((right, left) :: rest) start final) :
      Run rigid ((left, right) :: rest) start final
  /-- A variable that is not rigid is bound to a type that does not contain it. -/
  | bind
      {left right : TypeExpr}
      {name : String}
      {rest : List (TypeExpr × TypeExpr)}
      {start final : Substitution}
      (root : start.shallow left = .var name)
      (free : name ∉ rigid)
      (absent : name ∉ (start.resolve (start.shallow right)).variableOccurrences)
      (run : Run rigid rest (start.bind name (start.resolve (start.shallow right))) final) :
      Run rigid ((left, right) :: rest) start final
  /-- Two types of the same shape are equal if their parts are. -/
  | enter
      {left right : TypeExpr}
      {rest : List (TypeExpr × TypeExpr)}
      {start final : Substitution}
      (shape : SameShape (start.shallow left) (start.shallow right))
      (run : Run rigid
        ((start.shallow left).parts.zip (start.shallow right).parts ++ rest) start final) :
      Run rigid ((left, right) :: rest) start final

/-- Runs on two lists of pairs make a run on both. -/
theorem Run.append
    {rigid : List String}
    {first second : List (TypeExpr × TypeExpr)}
    {start middle final : Substitution}
    (earlier : Run rigid first start middle)
    (later : Run rigid second middle final) :
    Run rigid (first ++ second) start final := by
  induction earlier with
  | done => exact later
  | agree same _ ih => exact .agree same (ih later)
  | swap _ ih => exact .swap (ih later)
  | bind root free absent _ ih => exact .bind root free absent (ih later)
  | enter shape _ ih =>
      have whole := ih later
      rw [List.append_assoc] at whole
      exact .enter shape whole

/-! ## Unification is a run -/

theorem run_of_bindVar
    {rigid : List String}
    {left right : TypeExpr}
    {name : String}
    {start final : Substitution}
    (root : start.shallow left = .var name)
    (free : name ∉ rigid)
    (success : bindVar name (start.shallow right) start = .ok final) :
    Run rigid [(left, right)] start final := by
  simp only [bindVar] at success
  split at success
  case isTrue itself =>
      cases success
      refine .agree (fun solution solved => ?_) .done
      have resolved := asVar?_eq_some.mp itself
      rw [← solved.replace_shallow left, ← solved.replace_shallow right, root,
        ← solved.replace_resolve (start.shallow right), resolved]
  case isFalse =>
      split at success
      case isTrue => cases success
      case isFalse absent =>
          cases success
          refine .bind root free ?_ .done
          rwa [mentions_iff, mem_freeVars] at absent

theorem run_of_unifyParts
    {rigid : List String}
    {step : Place → TypeExpr → TypeExpr → Substitution → Outcome}
    {place : Nat → Place}
    {index : Nat}
    {xs ys : List TypeExpr}
    {start final : Substitution}
    (ofStep : ∀ {place left right start final}, step place left right start = .ok final →
      Run rigid [(left, right)] start final)
    (success : unifyParts step place index xs ys start = .ok final) :
    Run rigid (xs.zip ys) start final := by
  induction xs generalizing index ys start with
  | nil =>
      rw [unifyParts] at success
      · cases success
        exact .done
      · simp
  | cons x xs ih =>
      cases ys with
      | nil =>
          rw [unifyParts] at success
          · cases success
            exact .done
          · simp
      | cons y ys =>
          rw [unifyParts] at success
          cases first : step (place index) x y start with
          | error failure => simp [first, Bind.bind, Except.bind] at success
          | ok middle =>
              simp only [first, Bind.bind, Except.bind] at success
              exact (ofStep first).append (ih success)

/-- A successful unification is a run on the pair of its types. -/
theorem run_of_unifyAt
    {rigid : List String}
    {budget : Nat}
    {place : Place}
    {left right : TypeExpr}
    {start final : Substitution}
    (success : unifyAt rigid budget place left right start = .ok final) :
    Run rigid [(left, right)] start final := by
  induction budget generalizing place left right start final with
  | zero => cases success
  | succ budget ih =>
      have level := level_unifyAt rigid budget place left right start
      generalize unifyAt rigid (budget + 1) place left right start = outcome at level success
      cases level with
      | same leftRoot rightRoot =>
          cases success
          refine .agree (fun solution solved => ?_) .done
          rw [← solved.replace_shallow left, ← solved.replace_shallow right, leftRoot, rightRoot]
      | bindLeft root free => exact run_of_bindVar root free success
      | bindRight root free => exact .swap (run_of_bindVar root free success)
      | con leftRoot rightRoot arity =>
          refine .enter (leftRoot ▸ rightRoot ▸ .con arity) ?_
          rw [leftRoot, rightRoot, List.append_nil]
          exact run_of_unifyParts ih success
      | @arrow xs ys p q leftRoot rightRoot arity =>
          refine .enter (leftRoot ▸ rightRoot ▸ .arrow arity) ?_
          rw [leftRoot, rightRoot, List.append_nil, parts, parts, List.zip_append arity]
          cases parameters : unifyParts (unifyAt rigid budget) .parameter 0 xs ys start with
          | error failure => simp [parameters, Bind.bind, Except.bind] at success
          | ok middle =>
              simp only [parameters, Bind.bind, Except.bind] at success
              exact (run_of_unifyParts ih parameters).append (ih success)
      | clash => cases success

/-! ## What a run does to a substitution -/

/--
A substitution that unification may extend: it closes no cycle, binds no rigid
variable, and is over the variables in use.
-/
structure Stage (rigid : List String) (names : Finset String) (substitution : Substitution) :
    Prop where
  acyclic : substitution.Acyclic
  loose : ∀ name ∈ rigid, substitution.get? name = none
  named : substitution.Over names

/-- The types of some pairs are over the variables in use. -/
def PairsOver (names : Finset String) (pairs : List (TypeExpr × TypeExpr)) : Prop :=
  ∀ pair ∈ pairs, pair.1.Over names ∧ pair.2.Over names

section PairsOver

variable
  {names : Finset String}
  {left right : TypeExpr}
  {rest : List (TypeExpr × TypeExpr)}

@[simp]
theorem pairsOver_cons :
    PairsOver names ((left, right) :: rest) ↔
      (left.Over names ∧ right.Over names) ∧ PairsOver names rest := by
  simp [PairsOver]

theorem pairsOver_append {first second : List (TypeExpr × TypeExpr)} :
    PairsOver names (first ++ second) ↔ PairsOver names first ∧ PairsOver names second :=
  List.forall_mem_append

theorem pairsOver_zip
    {xs ys : List TypeExpr}
    (leftOver : ∀ x ∈ xs, x.Over names)
    (rightOver : ∀ y ∈ ys, y.Over names) :
    PairsOver names (xs.zip ys) := by
  rintro ⟨x, y⟩ member
  exact ⟨leftOver x (List.of_mem_zip member).1, rightOver y (List.of_mem_zip member).2⟩

end PairsOver

section Stage

variable
  {rigid : List String}
  {names : Finset String}
  {start : Substitution}

/-- The target that a run binds has no bound variable. -/
theorem Stage.settled
    (stage : Stage rigid names start)
    (right : TypeExpr) :
    ∀ other ∈ (start.resolve (start.shallow right)).variableOccurrences,
      start.get? other = none :=
  fun _ occurs => stage.acyclic.unbound_of_mem_resolve occurs

theorem Stage.bind
    (stage : Stage rigid names start)
    {left right : TypeExpr}
    {name : String}
    (root : start.shallow left = .var name)
    (free : name ∉ rigid)
    (absent : name ∉ (start.resolve (start.shallow right)).variableOccurrences)
    (leftOver : left.Over names)
    (rightOver : right.Over names) :
    Stage rigid names (start.bind name (start.resolve (start.shallow right))) where
  acyclic := stage.acyclic.bind (stage.settled right) absent
  loose := by
    intro other member
    have differ : other ≠ name := fun equal => free (equal ▸ member)
    rw [get?_bind, if_neg differ, stage.loose other member]
  named := by
    have member : name ∈ names := over_var.mp (root ▸ stage.named.shallow leftOver)
    exact stage.named.bind member (stage.named.resolve (stage.named.shallow rightOver))

/-- The parts of two types are over the variables in use. -/
theorem Stage.pairsOver_parts
    (stage : Stage rigid names start)
    {left right : TypeExpr}
    (leftOver : left.Over names)
    (rightOver : right.Over names) :
    PairsOver names ((start.shallow left).parts.zip (start.shallow right).parts) :=
  pairsOver_zip (fun _ member => (stage.named.shallow leftOver).part member)
    (fun _ member => (stage.named.shallow rightOver).part member)

end Stage

/-- A run extends a substitution and keeps what makes it a stage of unification. -/
theorem Run.stage
    {rigid : List String}
    {names : Finset String}
    {pairs : List (TypeExpr × TypeExpr)}
    {start final : Substitution}
    (run : Run rigid pairs start final)
    (stage : Stage rigid names start)
    (named : PairsOver names pairs) :
    Stage rigid names final ∧ final.Extends start := by
  induction run with
  | done => exact ⟨stage, .refl _⟩
  | agree _ _ ih => exact ih stage (pairsOver_cons.mp named).2
  | swap _ ih =>
      rw [pairsOver_cons] at named
      exact ih stage (pairsOver_cons.mpr ⟨named.1.symm, named.2⟩)
  | bind root free absent _ ih =>
      rw [pairsOver_cons] at named
      rcases named with ⟨⟨leftOver, rightOver⟩, restOver⟩
      obtain ⟨last, extended⟩ :=
        ih (stage.bind root free absent leftOver rightOver) restOver
      have unbound := stage.acyclic.unbound_of_shallow root
      exact ⟨last, extended.trans (bind_extends unbound _)⟩
  | enter _ _ ih =>
      rw [pairsOver_cons] at named
      rcases named with ⟨⟨leftOver, rightOver⟩, restOver⟩
      have parts := stage.pairsOver_parts leftOver rightOver
      exact ih stage (pairsOver_append.mpr ⟨parts, restOver⟩)

/-! ## Solutions of a run -/

/-- A replacement makes the types of every pair equal. -/
def Equalizes (solution : String → TypeExpr) (pairs : List (TypeExpr × TypeExpr)) : Prop :=
  ∀ pair ∈ pairs, pair.1.replace solution = pair.2.replace solution

section Equalizes

variable {solution : String → TypeExpr}

@[simp]
theorem equalizes_nil : Equalizes solution [] := by
  simp [Equalizes]

@[simp]
theorem equalizes_cons {left right : TypeExpr} {rest : List (TypeExpr × TypeExpr)} :
    Equalizes solution ((left, right) :: rest) ↔
      left.replace solution = right.replace solution ∧ Equalizes solution rest := by
  simp [Equalizes]

theorem equalizes_append {first second : List (TypeExpr × TypeExpr)} :
    Equalizes solution (first ++ second) ↔
      Equalizes solution first ∧ Equalizes solution second :=
  List.forall_mem_append

theorem equalizes_zip {xs ys : List TypeExpr} (arity : xs.length = ys.length) :
    Equalizes solution (xs.zip ys) ↔ xs.map (replace solution) = ys.map (replace solution) := by
  induction xs generalizing ys with
  | nil =>
      cases ys with
      | nil => simp
      | cons y ys => cases arity
  | cons x xs ih =>
      cases ys with
      | nil => cases arity
      | cons y ys =>
          rw [List.zip_cons_cons, equalizes_cons, ih (Nat.succ.inj arity), List.map_cons,
            List.map_cons, List.cons.injEq]

/-- A replacement makes types of the same shape equal exactly if it does so with their parts. -/
theorem equalizes_parts {left right : TypeExpr} (shape : SameShape left right) :
    Equalizes solution (left.parts.zip right.parts) ↔
      left.replace solution = right.replace solution := by
  rw [equalizes_zip shape.length_parts,
    ((shape.replace_left solution).replace_right solution).eq_iff, shape.left.parts_replace,
    shape.right.parts_replace]

end Equalizes

/-- Every solution of what a run ends with makes its pairs equal. -/
theorem Run.equalizes
    {rigid : List String}
    {names : Finset String}
    {pairs : List (TypeExpr × TypeExpr)}
    {start final : Substitution}
    {solution : String → TypeExpr}
    (run : Run rigid pairs start final)
    (stage : Stage rigid names start)
    (named : PairsOver names pairs)
    (solved : final.SolvedBy solution) :
    Equalizes solution pairs := by
  have earlier := solved.of_extends (run.stage stage named).2
  induction run with
  | done => exact equalizes_nil
  | agree same _ ih =>
      exact equalizes_cons.mpr
        ⟨same solution earlier, ih stage (pairsOver_cons.mp named).2 solved earlier⟩
  | swap _ ih =>
      rw [pairsOver_cons] at named
      have swapped := ih stage (pairsOver_cons.mpr ⟨named.1.symm, named.2⟩) solved earlier
      rw [equalizes_cons] at swapped ⊢
      exact ⟨swapped.1.symm, swapped.2⟩
  | @bind left right name _ start _ root free absent run ih =>
      rw [pairsOver_cons] at named
      rcases named with ⟨⟨leftOver, rightOver⟩, restOver⟩
      have next := stage.bind root free absent leftOver rightOver
      have middle := solved.of_extends (run.stage next restOver).2
      refine equalizes_cons.mpr ⟨?_, ih next restOver solved middle⟩
      calc left.replace solution
          = solution name := by rw [← earlier.replace_shallow, root, replace_var]
        _ = (start.resolve (start.shallow right)).replace solution := middle name _ (by simp)
        _ = right.replace solution := by
            rw [earlier.replace_resolve, earlier.replace_shallow]
  | @enter left right _ _ _ shape _ ih =>
      rw [pairsOver_cons] at named
      rcases named with ⟨⟨leftOver, rightOver⟩, restOver⟩
      have parts := stage.pairsOver_parts leftOver rightOver
      have whole := ih stage (pairsOver_append.mpr ⟨parts, restOver⟩) solved earlier
      rw [equalizes_append, equalizes_parts shape] at whole
      refine equalizes_cons.mpr ⟨?_, whole.2⟩
      rw [← earlier.replace_shallow left, ← earlier.replace_shallow right, whole.1]

/-- A solution that makes the pairs of a run equal solves what the run ends with. -/
theorem Run.solvedBy
    {rigid : List String}
    {pairs : List (TypeExpr × TypeExpr)}
    {start final : Substitution}
    {solution : String → TypeExpr}
    (run : Run rigid pairs start final)
    (solved : start.SolvedBy solution)
    (equalizes : Equalizes solution pairs) :
    final.SolvedBy solution := by
  induction run with
  | done => exact solved
  | agree _ _ ih => exact ih solved (equalizes_cons.mp equalizes).2
  | swap _ ih =>
      rw [equalizes_cons] at equalizes
      exact ih solved (equalizes_cons.mpr ⟨equalizes.1.symm, equalizes.2⟩)
  | @bind left right name _ start _ root _ _ _ ih =>
      rw [equalizes_cons] at equalizes
      refine ih (solved.bind ?_) equalizes.2
      calc solution name
          = left.replace solution := by rw [← solved.replace_shallow left, root, replace_var]
        _ = right.replace solution := equalizes.1
        _ = (start.resolve (start.shallow right)).replace solution := by
            rw [solved.replace_resolve, solved.replace_shallow]
  | @enter left right _ _ _ shape _ ih =>
      rw [equalizes_cons, ← solved.replace_shallow left, ← solved.replace_shallow right] at equalizes
      exact ih solved
        (equalizes_append.mpr ⟨(equalizes_parts shape).mpr equalizes.1, equalizes.2⟩)

end DataDerive.Unification
