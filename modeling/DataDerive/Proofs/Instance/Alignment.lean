import DataDerive.Proofs.Instance.Attempts
import DataDerive.Proofs.Instance.Occurrences
import DataDerive.Proofs.Unification.Renaming

/-!
# Two searches side by side

Two searches that take fresh variables in different numbers name them in
different ways.  An alignment records the names that both know, how those of the
first search are renamed in the second one, and how far both supplies are.  Names
that can be written are never renamed.  Later alignments know more names and keep
what is said of earlier ones.

`Aligned` compares two steps under an alignment.  Two values have to be related
under a later alignment, two messages are not compared, and a value beside a
message needs an excuse.
-/

namespace DataDerive

open TypeExpr FreshNames Search

/-! ## Renamed locations -/

namespace Location

mutual

/-- A location with the variables of its types renamed. -/
def rename (variant : String → String) : Location → Location
  | .field source member span => .field source member span
  | .method source member span typeArguments dependencies =>
      .method source member span
        (typeArguments.map fun argument => (argument.1, argument.2.rename variant))
        (renameAll variant dependencies)
  | .generated className type dependencies =>
      .generated className (type.rename variant) (renameAll variant dependencies)
  | .parameter className name => .parameter className name

/-- Several locations with the variables of their types renamed. -/
def renameAll (variant : String → String) : List Location → List Location
  | [] => []
  | location :: rest => rename variant location :: renameAll variant rest

end

mutual

/-- The variables that occur in the types of a location. -/
def typeVariables : Location → List String
  | .field _ _ _ => []
  | .method _ _ _ typeArguments dependencies =>
      typeArguments.flatMap (fun argument => argument.2.variableOccurrences) ++
        typeVariablesAll dependencies
  | .generated _ type dependencies => type.variableOccurrences ++ typeVariablesAll dependencies
  | .parameter _ _ => []

/-- The variables that occur in the types of several locations. -/
def typeVariablesAll : List Location → List String
  | [] => []
  | location :: rest => typeVariables location ++ typeVariablesAll rest

end

theorem renameAll_eq_map (variant : String → String) (locations : List Location) :
    renameAll variant locations = locations.map (rename variant) := by
  induction locations with
  | nil => rw [renameAll, List.map_nil]
  | cons location rest ih => rw [renameAll, ih, List.map_cons]

theorem typeVariablesAll_eq_flatMap (locations : List Location) :
    typeVariablesAll locations = locations.flatMap typeVariables := by
  induction locations with
  | nil => rw [typeVariablesAll, List.flatMap_nil]
  | cons location rest ih => rw [typeVariablesAll, ih, List.flatMap_cons]

/-- A renamed location depends on what becomes of its variables alone. -/
theorem rename_congr
    {location : Location}
    {variant other : String → String}
    (agree : ∀ x ∈ location.typeVariables, variant x = other x) :
    location.rename variant = location.rename other := by
  induction location using inductionOn with
  | field source member span => rw [rename, rename]
  | method source member span typeArguments dependencies ih =>
      rw [typeVariables, typeVariablesAll_eq_flatMap] at agree
      rw [rename, rename, renameAll_eq_map, renameAll_eq_map]
      congr 1
      · apply List.map_congr_left
        intro argument listed
        congr 1
        apply TypeExpr.rename_congr
        intro x occurs
        exact agree x (List.mem_append_left _ (List.mem_flatMap.mpr ⟨argument, listed, occurs⟩))
      · apply List.map_congr_left
        intro dependency listed
        apply ih dependency listed
        intro x occurs
        exact agree x (List.mem_append_right _ (List.mem_flatMap.mpr ⟨dependency, listed, occurs⟩))
  | generated className type dependencies ih =>
      rw [typeVariables, typeVariablesAll_eq_flatMap] at agree
      rw [rename, rename, renameAll_eq_map, renameAll_eq_map]
      congr 1
      · exact TypeExpr.rename_congr fun x occurs => agree x (List.mem_append_left _ occurs)
      · apply List.map_congr_left
        intro dependency listed
        apply ih dependency listed
        intro x occurs
        exact agree x (List.mem_append_right _ (List.mem_flatMap.mpr ⟨dependency, listed, occurs⟩))
  | parameter className name => rw [rename, rename]

end Location

/-! ## Alignments -/

/-- What two searches agree on: the names that both know, and how these correspond. -/
structure Alignment where
  /-- The names of the first search that have a counterpart. -/
  known : Set String
  /-- The counterpart of a name. -/
  rename : Equiv.Perm String
  /-- How far the supply of the first search is. -/
  left : FreshNames
  /-- How far the supply of the second search is. -/
  right : FreshNames
  written : ∀ name, isFresh name = false → name ∈ known ∧ rename name = name
  below_left : ∀ name ∈ known, Below left.taken name
  below_right : ∀ name ∈ known, Below right.taken (rename name)

namespace Alignment

/-- A later alignment keeps the correspondence, and its supplies are further. -/
structure Grows (earlier later : Alignment) : Prop where
  known : ∀ name ∈ earlier.known, name ∈ later.known
  rename : ∀ name ∈ earlier.known, later.rename name = earlier.rename name
  left : earlier.left.taken ≤ later.left.taken
  right : earlier.right.taken ≤ later.right.taken

theorem Grows.refl (w : Alignment) : w.Grows w :=
  ⟨fun _ => id, fun _ _ => rfl, Nat.le_refl _, Nat.le_refl _⟩

theorem Grows.trans
    {w middle later : Alignment}
    (first : w.Grows middle)
    (second : middle.Grows later) :
    w.Grows later where
  known name isKnown := second.known name (first.known name isKnown)
  rename name isKnown :=
    (second.rename name (first.known name isKnown)).trans (first.rename name isKnown)
  left := Nat.le_trans first.left second.left
  right := Nat.le_trans first.right second.right

/-- The same correspondence when supplies are further. -/
def advance
    (w : Alignment)
    (left right : FreshNames)
    (leftLater : w.left.taken ≤ left.taken)
    (rightLater : w.right.taken ≤ right.taken) : Alignment where
  known := w.known
  rename := w.rename
  left := left
  right := right
  written := w.written
  below_left name isKnown := (w.below_left name isKnown).mono leftLater
  below_right name isKnown := (w.below_right name isKnown).mono rightLater

theorem grows_advance
    (w : Alignment)
    {left right : FreshNames}
    (leftLater : w.left.taken ≤ left.taken)
    (rightLater : w.right.taken ≤ right.taken) :
    w.Grows (w.advance left right leftLater rightLater) :=
  ⟨fun _ => id, fun _ _ => rfl, leftLater, rightLater⟩

/-- Variables that both searches take for the same names correspond from then on. -/
theorem exists_extension
    (w : Alignment)
    {names : List String}
    {left right : FreshNames}
    {leftRenamed rightRenamed : Substitution}
    {front back : String → String}
    (leftLater : w.left.taken ≤ left.taken)
    (rightLater : w.right.taken ≤ right.taken)
    (leftRenames : RenamesApart names w.left left leftRenamed front)
    (rightRenames : RenamesApart names w.right right rightRenamed back) :
    ∃ later : Alignment, w.Grows later ∧ later.left = left ∧ later.right = right ∧
      ∀ x ∈ names, front x ∈ later.known ∧ later.rename (front x) = back x := by
  have frontNew (x : String) (listed : x ∈ names) : front x ∉ w.known := fun isKnown =>
    (leftRenames.taken x listed).ne (w.below_left _ isKnown) rfl
  have backNew (x : String) (listed : x ∈ names) (y : String) (isKnown : y ∈ w.known) :
      w.rename y ≠ back x := fun same =>
    (rightRenames.taken x listed).ne (w.below_right y isKnown) same.symm
  rcases exists_renaming_extending w.rename leftRenames.injective rightRenames.injective frontNew
    backNew with ⟨extended, keeps, takes⟩
  let later : Alignment :=
    { known := {name | name ∈ w.known ∨ ∃ x ∈ names, front x = name}
      rename := extended
      left := left
      right := right
      written := fun name isWritten =>
        ⟨Or.inl (w.written name isWritten).1,
          (keeps name (w.written name isWritten).1).trans (w.written name isWritten).2⟩
      below_left := by
        rintro name (isKnown | ⟨x, listed, rfl⟩)
        · exact (w.below_left name isKnown).mono leftLater
        · exact (leftRenames.taken x listed).below
      below_right := by
        rintro name (isKnown | ⟨x, listed, rfl⟩)
        · rw [keeps name isKnown]
          exact (w.below_right name isKnown).mono rightLater
        · rw [takes x listed]
          exact (rightRenames.taken x listed).below }
  refine ⟨later, ⟨fun _ => Or.inl, keeps, leftLater, rightLater⟩, rfl, rfl, ?_⟩
  exact fun x listed => ⟨Or.inr ⟨x, listed, rfl⟩, takes x listed⟩

/-! ### What corresponds -/

/-- The second type is the first one in the names of the second search. -/
def Types (w : Alignment) (first second : TypeExpr) : Prop :=
  (∀ x ∈ first.variableOccurrences, x ∈ w.known) ∧ second = first.rename w.rename

/-- Goals of the same class at corresponding types. -/
def Goals (w : Alignment) (first second : Goal) : Prop :=
  second.className = first.className ∧ w.Types first.target second.target

/-- The second location is the first one in the names of the second search. -/
def Locations (w : Alignment) (first second : Location) : Prop :=
  (∀ x ∈ first.typeVariables, x ∈ w.known) ∧ second = first.rename w.rename

/-- Instances at corresponding locations with the same mark. -/
def Instances (w : Alignment) (first second : FoundInstance) : Prop :=
  w.Locations first.location second.location ∧ second.lowPriority = first.lowPriority

section Corresponding

variable {w later : Alignment}

theorem Types.mono
    {first second : TypeExpr}
    (types : w.Types first second)
    (grows : w.Grows later) :
    later.Types first second := by
  rcases types with ⟨covered, rfl⟩
  refine ⟨fun x occurs => grows.known x (covered x occurs), ?_⟩
  exact TypeExpr.rename_congr fun x occurs => (grows.rename x (covered x occurs)).symm

theorem Goals.mono
    {first second : Goal}
    (goals : w.Goals first second)
    (grows : w.Grows later) :
    later.Goals first second :=
  ⟨goals.1, goals.2.mono grows⟩

theorem Locations.mono
    {first second : Location}
    (locations : w.Locations first second)
    (grows : w.Grows later) :
    later.Locations first second := by
  rcases locations with ⟨covered, same⟩
  refine ⟨fun x occurs => grows.known x (covered x occurs), ?_⟩
  rw [same]
  exact Location.rename_congr fun x occurs => (grows.rename x (covered x occurs)).symm

theorem Instances.mono
    {first second : FoundInstance}
    (instances : w.Instances first second)
    (grows : w.Grows later) :
    later.Instances first second :=
  ⟨instances.1.mono grows, instances.2⟩

theorem types_written {type : TypeExpr}
    (written : ∀ x ∈ type.variableOccurrences, isFresh x = false) : w.Types type type := by
  refine ⟨fun x occurs => (w.written x (written x occurs)).1, ?_⟩
  exact (rename_of_fixes fun x occurs => (w.written x (written x occurs)).2).symm

theorem Goals.type {first second : Goal} (goals : w.Goals first second) :
    w.Types first.type second.type := by
  rcases first with ⟨className, target⟩
  rcases second with ⟨otherName, other⟩
  rcases goals with ⟨sameClass, covered, sameTarget⟩
  dsimp only at sameClass covered sameTarget
  refine ⟨by simpa [Goal.type] using covered, ?_⟩
  rw [Goal.type, Goal.type, sameClass, sameTarget, rename_con, List.map_singleton]

theorem locations_field (source member : String) (span : Span) :
    w.Locations (.field source member span) (.field source member span) := by
  refine ⟨?_, ?_⟩
  · rw [Location.typeVariables]
    exact List.forall_mem_nil _
  · rw [Location.rename]

theorem locations_parameter (className name : String) :
    w.Locations (.parameter className name) (.parameter className name) := by
  refine ⟨?_, ?_⟩
  · rw [Location.typeVariables]
    exact List.forall_mem_nil _
  · rw [Location.rename]

/-- Corresponding type arguments, one for each type parameter. -/
def Arguments (w : Alignment) (first second : List (String × TypeExpr)) : Prop :=
  List.Forall₂ (fun left right => right.1 = left.1 ∧ w.Types left.2 right.2) first second

theorem locations_all
    {first second : List FoundInstance}
    (instances : List.Forall₂ w.Instances first second) :
    (∀ x ∈ Location.typeVariablesAll (first.map FoundInstance.location), x ∈ w.known) ∧
      second.map FoundInstance.location =
        Location.renameAll w.rename (first.map FoundInstance.location) := by
  induction instances with
  | nil =>
      refine ⟨?_, ?_⟩
      · rw [List.map_nil, Location.typeVariablesAll]
        exact List.forall_mem_nil _
      · rw [List.map_nil, Location.renameAll]
  | cons one rest ih =>
      refine ⟨?_, ?_⟩
      · rw [List.map_cons, Location.typeVariablesAll, List.forall_mem_append]
        exact ⟨one.1.1, ih.1⟩
      · rw [List.map_cons, List.map_cons, Location.renameAll, ← ih.2, ← one.1.2]

theorem any_lowPriority_eq
    {first second : List FoundInstance}
    (instances : List.Forall₂ w.Instances first second) :
    second.any FoundInstance.lowPriority = first.any FoundInstance.lowPriority := by
  induction instances with
  | nil => rfl
  | cons one rest ih => rw [List.any_cons, List.any_cons, one.2, ih]

theorem locations_method
    {source member : String}
    {span : Span}
    {first second : List (String × TypeExpr)}
    {parts others : List FoundInstance}
    (arguments : w.Arguments first second)
    (instances : List.Forall₂ w.Instances parts others) :
    w.Locations
      (.method source member span first (parts.map FoundInstance.location))
      (.method source member span second (others.map FoundInstance.location)) := by
  rcases locations_all instances with ⟨covered, same⟩
  have listed : (∀ x ∈ first.flatMap (fun argument => argument.2.variableOccurrences),
      x ∈ w.known) ∧
        second = first.map fun argument => (argument.1, argument.2.rename w.rename) := by
    induction arguments with
    | nil => exact ⟨List.forall_mem_nil _, rfl⟩
    | @cons left right lefts rights one rest ih =>
        rcases one with ⟨sameName, oneCovered, sameType⟩
        refine ⟨?_, ?_⟩
        · rw [List.flatMap_cons, List.forall_mem_append]
          exact ⟨oneCovered, ih.1⟩
        · rw [List.map_cons, ← ih.2, ← sameName, ← sameType]
  refine ⟨?_, ?_⟩
  · rw [Location.typeVariables, List.forall_mem_append]
    exact ⟨listed.1, covered⟩
  · rw [Location.rename, ← listed.2, ← same]

theorem locations_generated
    {className : String}
    {first second : TypeExpr}
    {parts others : List FoundInstance}
    (types : w.Types first second)
    (instances : List.Forall₂ w.Instances parts others) :
    w.Locations
      (.generated className first (parts.map FoundInstance.location))
      (.generated className second (others.map FoundInstance.location)) := by
  rcases locations_all instances with ⟨covered, same⟩
  refine ⟨?_, ?_⟩
  · rw [Location.typeVariables, List.forall_mem_append]
    exact ⟨types.1, covered⟩
  · rw [Location.rename, ← types.2, ← same]

end Corresponding

end Alignment

/-! ## Steps side by side -/

section Steps

variable {α β γ δ : Type} {fallback : Prop} {w : Alignment}

/--
Two results under an alignment: values that are related, messages on both sides,
or a value and a message if there is an excuse for it.
-/
inductive Agree
    (fallback : Prop)
    (w : Alignment)
    (holds : Alignment → α → β → Prop) :
    Except Message α × FreshNames → Except Message β × FreshNames → Prop
  | values
      {first : α}
      {second : β}
      (later : Alignment)
      (grows : w.Grows later)
      (related : holds later first second) :
      Agree fallback w holds (.ok first, later.left) (.ok second, later.right)
  | messages
      {first second : Message}
      {left right : FreshNames} :
      Agree fallback w holds (.error first, left) (.error second, right)
  | leftValue
      {first : α}
      {second : Message}
      {left right : FreshNames}
      (excuse : fallback) :
      Agree fallback w holds (.ok first, left) (.error second, right)
  | rightValue
      {first : Message}
      {second : β}
      {left right : FreshNames}
      (excuse : fallback) :
      Agree fallback w holds (.error first, left) (.ok second, right)

/-- Two steps agree when each starts at its supply of an alignment. -/
def Aligned
    (fallback : Prop)
    (w : Alignment)
    (holds : Alignment → α → β → Prop)
    (first : Search α)
    (second : Search β) : Prop :=
  Agree fallback w holds (outcome first w.left) (outcome second w.right)

variable {first : Search α} {second : Search β} {next : α → Search γ} {other : β → Search δ}
variable {holds : Alignment → α → β → Prop} {final : Alignment → γ → δ → Prop}

theorem aligned_pure {value : α} {counterpart : β} (related : holds w value counterpart) :
    Aligned fallback w holds (pure value) (pure counterpart) :=
  .values w (.refl w) related

theorem aligned_throw {left right : Message} :
    Aligned fallback w holds (throw left : Search α) (throw right : Search β) :=
  .messages

theorem Agree.of_leftMessage
    (excuse : fallback)
    {message : Message}
    {left : FreshNames}
    {result : Except Message β × FreshNames} :
    Agree fallback w holds (.error message, left) result := by
  rcases result with ⟨fault | value, right⟩
  · exact .messages
  · exact .rightValue excuse

theorem Agree.of_rightMessage
    (excuse : fallback)
    {message : Message}
    {right : FreshNames}
    {result : Except Message α × FreshNames} :
    Agree fallback w holds result (.error message, right) := by
  rcases result with ⟨fault | value, left⟩
  · exact .messages
  · exact .leftValue excuse

theorem Agree.mono
    {earlier : Alignment}
    {wider : Alignment → α → β → Prop}
    {result : Except Message α × FreshNames}
    {counterpart : Except Message β × FreshNames}
    (agree : Agree fallback w holds result counterpart)
    (grows : earlier.Grows w)
    (widens : ∀ later value counterpart, w.Grows later → holds later value counterpart →
      wider later value counterpart) :
    Agree fallback earlier wider result counterpart := by
  cases agree with
  | values later onward related =>
      exact .values later (grows.trans onward) (widens later _ _ onward related)
  | messages => exact .messages
  | leftValue excuse => exact .leftValue excuse
  | rightValue excuse => exact .rightValue excuse

theorem Aligned.bind
    (start : Aligned fallback w holds first second)
    (onward : ∀ later value counterpart, w.Grows later → holds later value counterpart →
      Aligned fallback later final (next value) (other counterpart)) :
    Aligned fallback w final (first >>= next) (second >>= other) := by
  rw [Aligned] at start ⊢
  rcases firstEnds : outcome first w.left with ⟨fault | value, left⟩
  · rw [firstEnds] at start
    rw [outcome_bind_of_error firstEnds]
    rcases secondEnds : outcome second w.right with ⟨message | counterpart, right⟩
    · rw [outcome_bind_of_error secondEnds]
      exact .messages
    · rw [secondEnds] at start
      cases start with
      | rightValue excuse => exact .of_leftMessage excuse
  · rw [firstEnds] at start
    rcases secondEnds : outcome second w.right with ⟨message | counterpart, right⟩
    · rw [secondEnds] at start
      rw [outcome_bind_of_error secondEnds]
      cases start with
      | leftValue excuse => exact .of_rightMessage excuse
    · rw [secondEnds] at start
      rw [outcome_bind_of_ok firstEnds, outcome_bind_of_ok secondEnds]
      cases start with
      | values later grows related =>
          exact (onward later value counterpart grows related).mono grows fun _ _ _ _ => id

theorem Aligned.mono
    {wider : Alignment → α → β → Prop}
    (aligned : Aligned fallback w holds first second)
    (widens : ∀ later value counterpart, w.Grows later → holds later value counterpart →
      wider later value counterpart) :
    Aligned fallback w wider first second :=
  Agree.mono aligned (.refl w) widens

theorem Aligned.excuse_of_leftMessage
    (aligned : Aligned fallback w holds first second)
    {message : Message}
    {counterpart : β}
    (fails : (outcome first w.left).1 = .error message)
    (succeeds : (outcome second w.right).1 = .ok counterpart) :
    fallback := by
  rw [Aligned] at aligned
  generalize outcome first w.left = result, outcome second w.right = answer
    at aligned fails succeeds
  cases aligned with
  | values => cases fails
  | messages => cases succeeds
  | leftValue excuse => exact excuse
  | rightValue excuse => exact excuse

theorem Aligned.excuse_of_rightMessage
    (aligned : Aligned fallback w holds first second)
    {message : Message}
    {value : α}
    (succeeds : (outcome first w.left).1 = .ok value)
    (fails : (outcome second w.right).1 = .error message) :
    fallback := by
  rw [Aligned] at aligned
  generalize outcome first w.left = result, outcome second w.right = answer
    at aligned fails succeeds
  cases aligned with
  | values => cases fails
  | messages => cases succeeds
  | leftValue excuse => exact excuse
  | rightValue excuse => exact excuse

/-- Without need for an excuse there may be one. -/
theorem Aligned.weaken (aligned : Aligned False w holds first second) :
    Aligned fallback w holds first second := by
  rw [Aligned] at aligned ⊢
  generalize outcome first w.left = result, outcome second w.right = counterpart at aligned ⊢
  cases aligned with
  | values later grows related => exact .values later grows related
  | messages => exact .messages
  | leftValue excuse => exact excuse.elim
  | rightValue excuse => exact excuse.elim

/-- With an excuse a second step alone may end as it does. -/
theorem aligned_right
    (excuse : fallback)
    (takes : TakesOnly second)
    (value : α)
    (related : ∀ later counterpart, w.Grows later → holds later value counterpart) :
    Aligned fallback w holds (pure value) second := by
  have further := takes w.right
  rw [Aligned, outcome_pure]
  rcases ends : outcome second w.right with ⟨message | counterpart, right⟩
  · exact .leftValue excuse
  · rw [ends] at further
    have grows := w.grows_advance (Nat.le_refl _) further
    exact .values (w.advance w.left right (Nat.le_refl _) further) grows
      (related _ counterpart grows)

/-- With an excuse a first step alone may end as it does. -/
theorem aligned_left
    (excuse : fallback)
    (takes : TakesOnly first)
    (counterpart : β)
    (related : ∀ later value, w.Grows later → holds later value counterpart) :
    Aligned fallback w holds first (pure counterpart) := by
  have further := takes w.left
  rw [Aligned, outcome_pure]
  rcases ends : outcome first w.left with ⟨message | value, left⟩
  · exact .rightValue excuse
  · rw [ends] at further
    have grows := w.grows_advance further (Nat.le_refl _)
    exact .values (w.advance left w.right further (Nat.le_refl _)) grows (related _ value grows)

end Steps

/-! ## Steps that may leave out their value -/

section Options

variable {α β γ δ : Type}

/--
Two results that may be missing: related ones, none on both sides, or a second
one that has an excuse, whatever the first one is.
-/
inductive Tried
    (excused : β → Prop)
    (agree : α → β → Prop) : Option α → Option β → Prop
  | missing : Tried excused agree none none
  | found
      {value : α}
      {counterpart : β}
      (related : agree value counterpart) :
      Tried excused agree (some value) (some counterpart)
  | excused
      {result : Option α}
      {counterpart : β}
      (excuse : excused counterpart) :
      Tried excused agree result (some counterpart)

theorem Tried.map
    {excused : β → Prop}
    {agree : α → β → Prop}
    {madeExcused : δ → Prop}
    {madeAgree : γ → δ → Prop}
    {first : Option α}
    {second : Option β}
    {make : α → γ}
    {other : β → δ}
    (tried : Tried excused agree first second)
    (related : ∀ value counterpart, agree value counterpart →
      madeAgree (make value) (other counterpart))
    (excuse : ∀ counterpart, excused counterpart → madeExcused (other counterpart)) :
    Tried madeExcused madeAgree (first.map make) (second.map other) := by
  cases tried with
  | missing => exact .missing
  | found holds => exact .found (related _ _ holds)
  | excused holds => exact .excused (excuse _ holds)

theorem Tried.imp
    {excused : β → Prop}
    {agree wider : α → β → Prop}
    {first : Option α}
    {second : Option β}
    (tried : Tried excused agree first second)
    (widens : ∀ value counterpart, agree value counterpart → wider value counterpart) :
    Tried excused wider first second := by
  cases tried with
  | missing => exact .missing
  | found related => exact .found (widens _ _ related)
  | excused excuse => exact .excused excuse

/-- Where nothing is excused, nothing hinders more excuses. -/
theorem Tried.weaken
    {excused : β → Prop}
    {agree : α → β → Prop}
    {first : Option α}
    {second : Option β}
    (tried : Tried (fun _ => False) agree first second) :
    Tried excused agree first second := by
  cases tried with
  | missing => exact .missing
  | found related => exact .found related
  | excused excuse => exact excuse.elim

end Options

end DataDerive
