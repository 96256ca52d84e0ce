import DataDerive.Proofs.Unification.Run
import Mathlib.Tactic.Ring
import Mathlib.Tactic.Linarith

/-!
# Unification enters no more levels than it is given

Unification stops at a bound on the levels that it enters.  This module shows
that the bound is never the reason for its answer: with any greater one the
answer is the same.

A binding can at most double the height of what a type resolves to, and there
are only as many bindings to come as there are unbound variables in use.  So the
height times two to the power of that number never passes a limit, in any type
that takes part.  The levels below a pair are then bounded by its height and,
for each variable that may still be bound, the limit once more.
-/

namespace DataDerive

open TypeExpr

namespace Substitution

/-! ## Variables that may still be bound -/

/-- How many of some variables are not bound. -/
def remaining (substitution : Substitution) (names : Finset String) : Nat :=
  (names.filter fun name => substitution.get? name = none).card

theorem remaining_bind_lt
    {substitution : Substitution}
    {names : Finset String}
    {name : String}
    (member : name ∈ names)
    (unbound : substitution.get? name = none)
    (target : TypeExpr) :
    (substitution.bind name target).remaining names < substitution.remaining names := by
  refine Finset.card_lt_card (Finset.ssubset_iff_of_subset ?_ |>.mpr ⟨name, ?_, ?_⟩)
  · intro other kept
    simp only [Finset.mem_filter, get?_bind] at kept ⊢
    split at kept
    · exact absurd kept.2 (by simp)
    · exact kept
  · exact Finset.mem_filter.mpr ⟨member, unbound⟩
  · simp

theorem remaining_le_card
    {substitution : Substitution}
    {names used : Finset String}
    (covered : ∀ name ∈ names, substitution.get? name = none → name ∈ used) :
    substitution.remaining names ≤ used.card := by
  apply Finset.card_le_card
  intro name kept
  rw [Finset.mem_filter] at kept
  exact covered name kept.1 kept.2

/-! ## The height of what a type resolves to -/

/-- The nodes of the targets of the variables that were not entered yet. -/
def targetNodes (entered : List String) : List (String × TypeExpr) → Nat
  | [] => 0
  | (name, target) :: rest =>
      (if name ∈ entered then 0 else target.nodes) + targetNodes entered rest

theorem targetNodes_nil (bindings : List (String × TypeExpr)) :
    targetNodes [] bindings = nodesAll (bindings.map Prod.snd) := by
  induction bindings with
  | nil => rfl
  | cons binding rest ih => simp [targetNodes, nodesAll, ih]

theorem targetNodes_cons_le
    (name : String)
    (entered : List String)
    (bindings : List (String × TypeExpr)) :
    targetNodes (name :: entered) bindings ≤ targetNodes entered bindings := by
  induction bindings with
  | nil => exact Nat.le_refl _
  | cons binding rest ih =>
      rw [targetNodes, targetNodes]
      by_cases inside : binding.1 ∈ entered
      · rw [if_pos (List.mem_cons_of_mem _ inside), if_pos inside]
        omega
      · rw [if_neg inside]
        split <;> omega

/-- Entering a variable takes the nodes of its target away. -/
theorem targetNodes_enter
    {bindings : List (String × TypeExpr)}
    {entered : List String}
    {name : String}
    {target : TypeExpr}
    (member : (name, target) ∈ bindings)
    (outside : name ∉ entered) :
    target.nodes + targetNodes (name :: entered) bindings ≤ targetNodes entered bindings := by
  induction bindings with
  | nil => cases member
  | cons binding rest ih =>
      rcases binding with ⟨key, stored⟩
      rw [targetNodes, targetNodes]
      rcases List.mem_cons.mp member with here | later
      · cases here
        have others := targetNodes_cons_le name entered rest
        rw [if_pos List.mem_cons_self, if_neg outside]
        omega
      · have others := ih later
        by_cases inside : key ∈ entered
        · rw [if_pos (List.mem_cons_of_mem _ inside), if_pos inside]
          omega
        · rw [if_neg inside]
          split <;> omega

theorem height_resolveAvoiding_le
    (substitution : Substitution)
    (budget : Nat)
    (entered : List String)
    (type : TypeExpr) :
    (substitution.resolveAvoiding budget entered type).height ≤
      type.height + targetNodes entered substitution.bindings := by
  induction budget generalizing entered type with
  | zero => exact Nat.le_add_right _ _
  | succ budget ih =>
      rw [resolveAvoiding]
      apply height_replace_le
      intro name _
      split
      next => simp
      next target found =>
          split
          case isTrue => simp
          case isFalse outside =>
              have step := ih (name :: entered) target
              have smaller := targetNodes_enter (mem_bindings_of_get? found)
                (by simpa using outside)
              have below := height_le_nodes target
              omega

/-- Resolving adds at most the nodes of all targets to the height. -/
theorem height_resolve_le (substitution : Substitution) (type : TypeExpr) :
    (substitution.resolve type).height ≤
      type.height + nodesAll (substitution.bindings.map Prod.snd) := by
  have bounded := substitution.height_resolveAvoiding_le substitution.size [] type
  rwa [targetNodes_nil] at bounded

end Substitution

namespace Unification

open Substitution

/-! ## The limit on heights -/

/-- The height of a type stays in a limit through all bindings to come. -/
def Fits
    (names : Finset String)
    (limit : Nat)
    (substitution : Substitution)
    (type : TypeExpr) : Prop :=
  (substitution.resolve type).height * 2 ^ substitution.remaining names ≤ limit

section Fits

variable
  {names : Finset String}
  {limit : Nat}
  {substitution : Substitution}
  {type part : TypeExpr}

theorem Fits.height_le (fits : Fits names limit substitution type) :
    (substitution.resolve type).height ≤ limit :=
  (Nat.le_mul_of_pos_right _ (Nat.two_pow_pos _)).trans fits

theorem Fits.of_height_le
    (fits : Fits names limit substitution type)
    (below : (substitution.resolve part).height ≤ (substitution.resolve type).height) :
    Fits names limit substitution part :=
  (Nat.mul_le_mul_right _ below).trans fits

/-- A binding to a type that fits keeps every type in the limit. -/
theorem Fits.bind
    (fits : Fits names limit substitution type)
    {name : String}
    {target : TypeExpr}
    (acyclic : substitution.Acyclic)
    (member : name ∈ names)
    (unbound : substitution.get? name = none)
    (settled : ∀ other ∈ target.variableOccurrences, substitution.get? other = none)
    (absent : name ∉ target.variableOccurrences)
    (targetFits : target.height * 2 ^ substitution.remaining names ≤ limit) :
    Fits names limit (substitution.bind name target) type := by
  have grown : ((substitution.bind name target).resolve type).height ≤
      (substitution.resolve type).height + target.height := by
    rw [acyclic.resolve_bind unbound settled absent]
    apply height_replace_le
    intro other _
    split
    · exact Nat.le_refl _
    · simp
  have fewer := remaining_bind_lt member unbound target
  have halved : 2 * 2 ^ (substitution.bind name target).remaining names ≤
      2 ^ substitution.remaining names := by
    rw [← Nat.pow_succ']
    exact Nat.pow_le_pow_right (by omega) fewer
  have doubled :
      ((substitution.resolve type).height + target.height) *
          2 ^ substitution.remaining names ≤ 2 * limit := by
    rw [Nat.add_mul]
    unfold Fits at fits
    omega
  unfold Fits
  have scaled := Nat.mul_le_mul grown halved
  have expand (height power : Nat) : height * (2 * power) = 2 * (height * power) := by ring
  rw [expand] at scaled
  omega

end Fits

/-- The types of some pairs fit. -/
def PairsFit
    (names : Finset String)
    (limit : Nat)
    (substitution : Substitution)
    (pairs : List (TypeExpr × TypeExpr)) : Prop :=
  ∀ pair ∈ pairs, Fits names limit substitution pair.1 ∧ Fits names limit substitution pair.2

section PairsFit

variable
  {names : Finset String}
  {limit : Nat}
  {substitution : Substitution}

@[simp]
theorem pairsFit_cons {left right : TypeExpr} {rest : List (TypeExpr × TypeExpr)} :
    PairsFit names limit substitution ((left, right) :: rest) ↔
      (Fits names limit substitution left ∧ Fits names limit substitution right) ∧
        PairsFit names limit substitution rest := by
  simp [PairsFit]

theorem pairsFit_append {first second : List (TypeExpr × TypeExpr)} :
    PairsFit names limit substitution (first ++ second) ↔
      PairsFit names limit substitution first ∧ PairsFit names limit substitution second :=
  List.forall_mem_append

theorem pairsFit_zip
    {xs ys : List TypeExpr}
    (leftFits : ∀ x ∈ xs, Fits names limit substitution x)
    (rightFits : ∀ y ∈ ys, Fits names limit substitution y) :
    PairsFit names limit substitution (xs.zip ys) := by
  rintro ⟨x, y⟩ member
  exact ⟨leftFits x (List.of_mem_zip member).1, rightFits y (List.of_mem_zip member).2⟩

end PairsFit

section Parts

variable {substitution : Substitution} {left right type part : TypeExpr}

/-- What a part resolves to is lower than the whole. -/
theorem height_resolve_part_lt
    (acyclic : substitution.Acyclic)
    (member : part ∈ (substitution.shallow type).parts) :
    (substitution.resolve part).height < (substitution.resolve type).height := by
  rw [← acyclic.resolve_shallow type]
  exact height_part_lt (substitution.mem_parts_resolve member)

theorem pairsFit_parts
    {names : Finset String}
    {limit : Nat}
    (acyclic : substitution.Acyclic)
    (leftFits : Fits names limit substitution left)
    (rightFits : Fits names limit substitution right) :
    PairsFit names limit substitution
      ((substitution.shallow left).parts.zip (substitution.shallow right).parts) :=
  pairsFit_zip (fun _ member => leftFits.of_height_le (height_resolve_part_lt acyclic member).le)
    (fun _ member => rightFits.of_height_le (height_resolve_part_lt acyclic member).le)

end Parts

/-- A run on pairs that fit keeps every type in the limit. -/
theorem Run.fits
    {rigid : List String}
    {names : Finset String}
    {limit : Nat}
    {pairs : List (TypeExpr × TypeExpr)}
    {start final : Substitution}
    (run : Run rigid pairs start final)
    (stage : Stage rigid names start)
    (named : PairsOver names pairs)
    (pairsFit : PairsFit names limit start pairs)
    {type : TypeExpr}
    (fits : Fits names limit start type) :
    Fits names limit final type := by
  induction run generalizing type with
  | done => exact fits
  | agree _ _ ih =>
      exact ih stage (pairsOver_cons.mp named).2 (pairsFit_cons.mp pairsFit).2 fits
  | swap _ ih =>
      rw [pairsOver_cons] at named
      rw [pairsFit_cons] at pairsFit
      exact ih stage (pairsOver_cons.mpr ⟨named.1.symm, named.2⟩)
        (pairsFit_cons.mpr ⟨pairsFit.1.symm, pairsFit.2⟩) fits
  | @bind left right name _ start _ root free absent _ ih =>
      rw [pairsOver_cons] at named
      rw [pairsFit_cons] at pairsFit
      rcases named with ⟨⟨leftOver, rightOver⟩, restOver⟩
      have member : name ∈ names := over_var.mp (root ▸ stage.named.shallow leftOver)
      have targetFits : (start.resolve (start.shallow right)).height *
          2 ^ start.remaining names ≤ limit := by
        rw [stage.acyclic.resolve_shallow]
        exact pairsFit.1.2
      have step {type : TypeExpr} (fits : Fits names limit start type) :
          Fits names limit (start.bind name (start.resolve (start.shallow right))) type :=
        fits.bind stage.acyclic member (stage.acyclic.unbound_of_shallow root)
          (stage.settled right) absent targetFits
      refine ih (stage.bind root free absent leftOver rightOver) restOver ?_ (step fits)
      exact fun pair inside =>
        ⟨step (pairsFit.2 pair inside).1, step (pairsFit.2 pair inside).2⟩
  | enter _ _ ih =>
      rw [pairsOver_cons] at named
      rw [pairsFit_cons] at pairsFit
      rcases named with ⟨⟨leftOver, rightOver⟩, restOver⟩
      have parts := stage.pairsOver_parts leftOver rightOver
      have partsFit := pairsFit_parts stage.acyclic pairsFit.1.1 pairsFit.1.2
      exact ih stage (pairsOver_append.mpr ⟨parts, restOver⟩)
        (pairsFit_append.mpr ⟨partsFit, pairsFit.2⟩) fits

/-- A run that changes a substitution leaves fewer variables to bind. -/
theorem Run.progress
    {rigid : List String}
    {names : Finset String}
    {pairs : List (TypeExpr × TypeExpr)}
    {start final : Substitution}
    (run : Run rigid pairs start final)
    (stage : Stage rigid names start)
    (named : PairsOver names pairs) :
    final = start ∨ final.remaining names < start.remaining names := by
  induction run with
  | done => exact Or.inl rfl
  | agree _ _ ih => exact ih stage (pairsOver_cons.mp named).2
  | swap _ ih =>
      rw [pairsOver_cons] at named
      exact ih stage (pairsOver_cons.mpr ⟨named.1.symm, named.2⟩)
  | @bind left right name _ start _ root free absent _ ih =>
      rw [pairsOver_cons] at named
      rcases named with ⟨⟨leftOver, rightOver⟩, restOver⟩
      have member : name ∈ names := over_var.mp (root ▸ stage.named.shallow leftOver)
      have fewer := remaining_bind_lt member (stage.acyclic.unbound_of_shallow root)
        (start.resolve (start.shallow right))
      refine Or.inr ?_
      rcases ih (stage.bind root free absent leftOver rightOver) restOver with same | less
      · exact same ▸ fewer
      · exact less.trans fewer
  | enter _ _ ih =>
      rw [pairsOver_cons] at named
      rcases named with ⟨⟨leftOver, rightOver⟩, restOver⟩
      have parts := stage.pairsOver_parts leftOver rightOver
      exact ih stage (pairsOver_append.mpr ⟨parts, restOver⟩)

/-! ## The levels below a pair -/

/-- What holds of every substitution between two parts of a pair. -/
structure Reached
    (rigid : List String)
    (names : Finset String)
    (limit : Nat)
    (start current : Substitution) : Prop where
  stage : Stage rigid names current
  fits : ∀ type, Fits names limit start type → Fits names limit current type
  progress : current = start ∨ current.remaining names < start.remaining names

namespace Reached

variable
  {rigid : List String}
  {names : Finset String}
  {limit : Nat}
  {start current next : Substitution}

theorem refl (stage : Stage rigid names start) : Reached rigid names limit start start where
  stage := stage
  fits _ fits := fits
  progress := Or.inl rfl

theorem run
    (reached : Reached rigid names limit start current)
    {pairs : List (TypeExpr × TypeExpr)}
    (run : Run rigid pairs current next)
    (named : PairsOver names pairs)
    (pairsFit : PairsFit names limit start pairs) :
    Reached rigid names limit start next where
  stage := (run.stage reached.stage named).1
  fits type fits := by
    refine run.fits reached.stage named (fun pair member => ?_) (reached.fits type fits)
    exact ⟨reached.fits _ (pairsFit pair member).1, reached.fits _ (pairsFit pair member).2⟩
  progress := by
    rcases run.progress reached.stage named with same | less
    · exact same ▸ reached.progress
    · refine Or.inr ?_
      rcases reached.progress with atStart | earlier
      · exact atStart ▸ less
      · exact less.trans earlier

/-- A lower part of a pair needs fewer levels than the pair, wherever it is reached. -/
theorem levels_lt
    (reached : Reached rigid names limit start current)
    {type part : TypeExpr}
    {budget : Nat}
    (lower : (start.resolve part).height < (start.resolve type).height)
    (partFits : Fits names limit start part)
    (enough : (start.resolve type).height + start.remaining names * limit < budget + 1) :
    (current.resolve part).height + current.remaining names * limit < budget := by
  rcases reached.progress with same | fewer
  · subst same
    omega
  · have height := (reached.fits part partFits).height_le
    have steps : (current.remaining names + 1) * limit ≤ start.remaining names * limit :=
      Nat.mul_le_mul_right limit fewer
    rw [Nat.add_mul, Nat.one_mul] at steps
    omega

end Reached

/-- Steps that agree wherever they are taken give the same outcome for all parts. -/
theorem unifyParts_congr
    {step step' : Place → TypeExpr → TypeExpr → Substitution → Outcome}
    {place : Nat → Place}
    {index : Nat}
    {xs ys : List TypeExpr}
    {start : Substitution}
    (holds : Substitution → Prop)
    (same : ∀ place, ∀ pair ∈ xs.zip ys, ∀ current, holds current →
      step place pair.1 pair.2 current = step' place pair.1 pair.2 current)
    (keeps : ∀ place, ∀ pair ∈ xs.zip ys, ∀ current next, holds current →
      step place pair.1 pair.2 current = .ok next → holds next)
    (starts : holds start) :
    unifyParts step place index xs ys start = unifyParts step' place index xs ys start := by
  induction xs generalizing index ys start with
  | nil => rw [unifyParts, unifyParts] <;> simp
  | cons x xs ih =>
      cases ys with
      | nil => rw [unifyParts, unifyParts] <;> simp
      | cons y ys =>
          have here : (x, y) ∈ (x :: xs).zip (y :: ys) := by simp
          have later {pair : TypeExpr × TypeExpr} (member : pair ∈ xs.zip ys) :
              pair ∈ (x :: xs).zip (y :: ys) := by
            rw [List.zip_cons_cons]
            exact List.mem_cons_of_mem _ member
          rw [unifyParts, unifyParts, ← same (place index) (x, y) here start starts]
          cases first : step (place index) x y start with
          | error failure => rfl
          | ok middle =>
              exact ih (fun place pair member => same place pair (later member))
                (fun place pair member => keeps place pair (later member))
                (keeps (place index) (x, y) here start middle starts first)

/-- With enough levels for a pair, one more changes nothing. -/
def Saturated
    (rigid : List String)
    (names : Finset String)
    (limit budget : Nat) : Prop :=
  ∀ (place : Place) (left right : TypeExpr) (start : Substitution),
    Stage rigid names start → left.Over names → right.Over names →
    Fits names limit start left → Fits names limit start right →
    (start.resolve left).height + start.remaining names * limit < budget →
    unifyAt rigid budget place left right start =
      unifyAt rigid (budget + 1) place left right start

section Saturated

variable
  {rigid : List String}
  {names : Finset String}
  {limit budget : Nat}
  {start : Substitution}

/-- The parts of a pair with enough levels have enough levels. -/
theorem Saturated.unifyParts_eq
    (saturated : Saturated rigid names limit budget)
    {place : Nat → Place}
    {type : TypeExpr}
    {xs ys : List TypeExpr}
    (stage : Stage rigid names start)
    (named : PairsOver names (xs.zip ys))
    (fit : PairsFit names limit start (xs.zip ys))
    (lower : ∀ x ∈ xs, (start.resolve x).height < (start.resolve type).height)
    (enough : (start.resolve type).height + start.remaining names * limit < budget + 1) :
    unifyParts (unifyAt rigid budget) place 0 xs ys start =
      unifyParts (unifyAt rigid (budget + 1)) place 0 xs ys start := by
  refine unifyParts_congr (Reached rigid names limit start) ?_ ?_ (.refl stage)
  · intro place pair member current reached
    exact saturated place pair.1 pair.2 current reached.stage
      (named pair member).1 (named pair member).2
      (reached.fits _ (fit pair member).1) (reached.fits _ (fit pair member).2)
      (reached.levels_lt (lower _ (List.of_mem_zip member).1) (fit pair member).1 enough)
  · intro place pair member current next reached success
    refine reached.run (run_of_unifyAt success) ?_ ?_
    · simpa [PairsOver] using named pair member
    · simpa [PairsFit] using fit pair member

theorem saturated (rigid : List String) (names : Finset String) (limit budget : Nat) :
    Saturated rigid names limit budget := by
  induction budget with
  | zero => intro place left right start _ _ _ _ _ enough; omega
  | succ budget ih =>
      intro place left right start stage leftOver rightOver leftFits rightFits enough
      have named := stage.pairsOver_parts leftOver rightOver
      have fit := pairsFit_parts stage.acyclic leftFits rightFits
      have lower (x : TypeExpr) (member : x ∈ (start.shallow left).parts) :=
        height_resolve_part_lt stage.acyclic member
      rw [unifyAt, unifyAt]
      cases leftRoot : start.shallow left with
      | var x => cases start.shallow right <;> rfl
      | con f xs =>
          cases rightRoot : start.shallow right with
          | var y => rfl
          | arrow ys q => rfl
          | con g ys =>
              rw [leftRoot, rightRoot, parts, parts] at named fit
              rw [leftRoot, parts] at lower
              simp only [ih.unifyParts_eq stage named fit lower enough]
      | arrow xs p =>
          cases rightRoot : start.shallow right with
          | var y => rfl
          | con g ys => rfl
          | arrow ys q =>
              simp only
              split
              · rfl
              case isFalse arity =>
                  rw [leftRoot, rightRoot, parts, parts, List.zip_append (not_not.mp arity)]
                    at named fit
                  rw [leftRoot, parts] at lower
                  rcases pairsOver_append.mp named with ⟨named, results⟩
                  rcases pairsFit_append.mp fit with ⟨fit, resultsFit⟩
                  rcases (pairsOver_cons.mp results).1 with ⟨leftResult, rightResult⟩
                  rcases (pairsFit_cons.mp resultsFit).1 with ⟨leftResultFits, rightResultFits⟩
                  have lowerResult := lower p (List.mem_append_right xs List.mem_cons_self)
                  rw [← ih.unifyParts_eq stage named fit
                    (fun x member => lower x (List.mem_append_left [p] member)) enough]
                  cases parameters :
                      unifyParts (unifyAt rigid budget) .parameter 0 xs ys start with
                  | error failure => rfl
                  | ok middle =>
                      have reached := (Reached.refl stage).run
                        (run_of_unifyParts (fun success => run_of_unifyAt success) parameters)
                        named fit
                      exact ih .result p q middle reached.stage leftResult rightResult
                        (reached.fits p leftResultFits) (reached.fits q rightResultFits)
                        (reached.levels_lt lowerResult leftResultFits enough)

end Saturated

/-! ## The bound is enough -/

/-- The variables of the types that take part, and the bound ones. -/
def namesInUse (left right : TypeExpr) (substitution : Substitution) : Finset String :=
  (variableOccurrencesAll (participants left right substitution)).toFinset ∪
    (substitution.bindings.map Prod.fst).toFinset

section Enough

variable
  {rigid : List String}
  {left right : TypeExpr}
  {substitution : Substitution}

theorem over_namesInUse
    {type : TypeExpr}
    (member : type ∈ participants left right substitution) :
    type.Over (namesInUse left right substitution) := by
  intro name occurs
  refine Finset.mem_union_left _ (List.mem_toFinset.mpr ?_)
  rw [variableOccurrencesAll_eq_flatMap]
  exact List.mem_flatMap.mpr ⟨type, member, occurs⟩

theorem stage_namesInUse
    (acyclic : substitution.Acyclic)
    (loose : ∀ name ∈ rigid, substitution.get? name = none) :
    Stage rigid (namesInUse left right substitution) substitution where
  acyclic := acyclic
  loose := loose
  named := by
    intro name target found
    have member := mem_bindings_of_get? found
    constructor
    · exact Finset.mem_union_right _ (List.mem_toFinset.mpr (List.mem_map_of_mem member))
    · have takesPart : target ∈ participants left right substitution :=
        List.mem_cons_of_mem _ (List.mem_cons_of_mem _ (List.mem_map_of_mem member))
      exact over_namesInUse takesPart

theorem remaining_namesInUse_le :
    substitution.remaining (namesInUse left right substitution) ≤
      (distinct (variableOccurrencesAll (participants left right substitution))).length := by
  rw [← List.toFinset_card_of_nodup (nodup_distinct _)]
  apply remaining_le_card
  intro name member unbound
  rw [List.mem_toFinset, mem_distinct]
  rcases Finset.mem_union.mp member with used | bound
  · exact List.mem_toFinset.mp used
  · have present := List.mem_toFinset.mp bound
    rcases List.mem_map.mp present with ⟨⟨key, target⟩, stored, same⟩
    have absent := List.lookup_eq_none_iff.mp unbound ⟨key, target⟩ stored
    simp [← same] at absent

theorem levels_arithmetic {nodes count used : Nat} (few : count ≤ used) :
    nodes + count * (nodes * 2 ^ count) < (nodes + 1) ^ 2 * 4 ^ used := by
  have small : count * 2 ^ count ≤ 4 ^ used := by
    calc count * 2 ^ count
        ≤ 2 ^ count * 2 ^ count := Nat.mul_le_mul_right _ (Nat.lt_two_pow_self).le
      _ = 4 ^ count := by rw [← Nat.mul_pow]
      _ ≤ 4 ^ used := Nat.pow_le_pow_right (by omega) few
  have positive : 1 ≤ 4 ^ used := Nat.one_le_pow _ _ (by omega)
  have scaled : nodes * 1 ≤ nodes * 4 ^ used := Nat.mul_le_mul_left nodes positive
  have square : 0 ≤ nodes * nodes * 4 ^ used := Nat.zero_le _
  calc nodes + count * (nodes * 2 ^ count)
      = nodes + nodes * (count * 2 ^ count) := by ring
    _ ≤ nodes + nodes * 4 ^ used := by gcongr
    _ < (nodes + 1) ^ 2 * 4 ^ used := by nlinarith

/-- What a side resolves to is no higher than all that takes part has nodes. -/
theorem height_resolve_le_nodes
    {type : TypeExpr}
    (side : type = left ∨ type = right) :
    (substitution.resolve type).height ≤ nodesAll (participants left right substitution) := by
  have bounded := substitution.height_resolve_le type
  have below := height_le_nodes type
  simp only [participants, nodesAll]
  rcases side with rfl | rfl <;> omega

/-- With the bound of `levels` or more, unification always gives the same answer. -/
theorem unifyAt_eq_unifyFrom
    {budget : Nat}
    (acyclic : substitution.Acyclic)
    (loose : ∀ name ∈ rigid, substitution.get? name = none)
    (enough : levels left right substitution ≤ budget) :
    unifyAt rigid budget .root left right substitution =
      unifyFrom rigid left right substitution := by
  let names := namesInUse left right substitution
  let nodes := nodesAll (participants left right substitution)
  let limit := nodes * 2 ^ substitution.remaining names
  have leftHeight : (substitution.resolve left).height ≤ nodes :=
    height_resolve_le_nodes (Or.inl rfl)
  have rightHeight : (substitution.resolve right).height ≤ nodes :=
    height_resolve_le_nodes (Or.inr rfl)
  have stage : Stage rigid names substitution := stage_namesInUse acyclic loose
  have leftOver : left.Over names := over_namesInUse (by simp [participants])
  have rightOver : right.Over names := over_namesInUse (by simp [participants])
  have bound : (substitution.resolve left).height + substitution.remaining names * limit <
      levels left right substitution := by
    refine Nat.lt_of_le_of_lt ?_ (levels_arithmetic remaining_namesInUse_le)
    exact Nat.add_le_add_right leftHeight _
  rw [unifyFrom]
  induction budget, enough using Nat.le_induction with
  | base => rfl
  | succ budget enough ih =>
      rw [← ih]
      refine (saturated rigid names limit budget .root left right substitution stage leftOver
        rightOver ?_ ?_ (Nat.lt_of_lt_of_le bound enough)).symm
      · exact Nat.mul_le_mul_right _ leftHeight
      · exact Nat.mul_le_mul_right _ rightHeight

end Enough

end Unification

end DataDerive
