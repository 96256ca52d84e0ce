import DataDerive.Proofs.Instance.Soundness

/-!
# The data type at types of its own

At a type with the data type's name the search uses the instance under
construction.  It matches the data type applied to its own parameters against
that type, without renaming the parameters apart.  A parameter that occurs
anywhere in the type is rigid then, so the match fails unless the parameter
stands for itself: the parameters are captured.  If none is captured the search
goes on with the arguments, one after the other.
-/

namespace DataDerive.SearchContext

open TypeExpr FreshNames Search

/-! ## Type arguments in order -/

/--
The types that parameters stand for have instances, found one after the other,
each from the supply that the search before it leaves.
-/
inductive ResolvedInOrder
    (solve : Goal → Search FoundInstance)
    (className : String) :
    List (String × TypeExpr) → FreshNames → List FoundInstance → FreshNames → Prop
  | nil (supply : FreshNames) : ResolvedInOrder solve className [] supply [] supply
  | cons
      {name : String}
      {argument : TypeExpr}
      {rest : List (String × TypeExpr)}
      {supply left last : FreshNames}
      {found : FoundInstance}
      {others : List FoundInstance}
      (first : outcome (typeArgument solve className name argument) supply = (.ok found, left))
      (resolved : ResolvedInOrder solve className rest left others last) :
      ResolvedInOrder solve className ((name, argument) :: rest) supply (found :: others) last

section InOrder

variable {solve : Goal → Search FoundInstance} {className : String} {arguments : Substitution}

/-- All instances for the type parameters are found exactly if they are found in order. -/
theorem outcome_typeParameters_eq_ok_iff
    {names : List String}
    {supply last : FreshNames}
    {parts : List FoundInstance} :
    outcome (typeParameters solve className arguments names) supply = (.ok parts, last) ↔
      ResolvedInOrder solve className
        (names.map fun name => (name, arguments.resolve (.var name))) supply parts last := by
  induction names generalizing supply parts with
  | nil =>
      rw [typeParameters, outcome_pure, List.map_nil]
      constructor
      · intro same
        cases same
        exact .nil _
      · intro resolved
        cases resolved
        rfl
  | cons name rest ih =>
      rw [typeParameters_cons, outcome_bind_eq_ok_iff, List.map_cons]
      constructor
      · rintro ⟨found, left, first, onward⟩
        rcases outcome_map_eq_ok_iff.mp onward with ⟨others, ends, rfl⟩
        exact .cons first (ih.mp ends)
      · intro resolved
        cases resolved with
        | cons first resolved =>
            exact ⟨_, _, first, outcome_map_eq_ok_iff.mpr ⟨_, ih.mpr resolved, rfl⟩⟩

/-- A search of instances for the type parameters ends with the first message that one ends with. -/
theorem outcome_typeParameters_eq_error_iff
    {names : List String}
    {supply : FreshNames}
    {message : Message} :
    (outcome (typeParameters solve className arguments names) supply).1 = .error message ↔
      ∃ before name argument after parts left,
        (names.map fun name => (name, arguments.resolve (.var name))) =
          before ++ (name, argument) :: after ∧
        ResolvedInOrder solve className before supply parts left ∧
        (outcome (typeArgument solve className name argument) left).1 = .error message := by
  induction names generalizing supply with
  | nil => simp [typeParameters]
  | cons name rest ih =>
      rw [typeParameters_cons, outcome_bind_eq_error_iff, List.map_cons]
      constructor
      · rintro (fails | ⟨found, left, first, onward⟩)
        · exact ⟨[], name, _, _, [], supply, rfl, .nil supply, fails⟩
        · rcases ih.mp (outcome_map_eq_error_iff.mp onward) with
            ⟨before, other, argument, after, parts, last, split, resolved, stops⟩
          exact ⟨_ :: before, other, argument, after, found :: parts, last,
            congrArg _ split, .cons first resolved, stops⟩
      · rintro ⟨before, other, argument, after, parts, last, split, resolved, stops⟩
        cases resolved with
        | nil =>
            cases split
            exact Or.inl stops
        | cons first resolved =>
            rcases List.cons.inj split with ⟨same, rest⟩
            cases same
            refine Or.inr ⟨_, _, first, outcome_map_eq_error_iff.mpr (ih.mpr ?_)⟩
            exact ⟨_, other, argument, after, _, last, rest, resolved, stops⟩

end InOrder

/-! ## Captured parameters -/

/-- A function that agrees with the entries of a zipped list turns the names into the types. -/
theorem map_eq_of_forall_zip
    {names : List String}
    {arguments : List TypeExpr}
    {solution : String → TypeExpr}
    (arity : arguments.length = names.length)
    (agrees : ∀ entry ∈ names.zip arguments, solution entry.1 = entry.2) :
    names.map solution = arguments := by
  have names_eq : (names.zip arguments).map Prod.fst = names :=
    List.map_fst_zip (Nat.le_of_eq arity.symm)
  have arguments_eq : (names.zip arguments).map Prod.snd = arguments :=
    List.map_snd_zip (Nat.le_of_eq arity)
  calc
    names.map solution = ((names.zip arguments).map Prod.fst).map solution := by rw [names_eq]
    _ = (names.zip arguments).map (solution ∘ Prod.fst) := List.map_map
    _ = (names.zip arguments).map Prod.snd := List.map_congr_left agrees
    _ = arguments := arguments_eq

theorem zip_map_self (names : List String) (solution : String → TypeExpr) :
    names.zip (names.map solution) = names.map fun name => (name, solution name) := by
  induction names with
  | nil => rfl
  | cons name rest ih => rw [List.map_cons, List.zip_cons_cons, ih, List.map_cons]

/-- A parameter of the data type occurs in its type arguments and does not stand for itself. -/
def Captured (context : SearchContext) (arguments : List TypeExpr) : Prop :=
  ∃ entry ∈ context.data.typeParams.zip arguments,
    entry.1 ∈ arguments.flatMap variableOccurrences ∧ entry.2 ≠ .var entry.1

instance (context : SearchContext) (arguments : List TypeExpr) :
    Decidable (context.Captured arguments) :=
  inferInstanceAs (Decidable (∃ entry ∈ context.data.typeParams.zip arguments,
    entry.1 ∈ arguments.flatMap variableOccurrences ∧ entry.2 ≠ .var entry.1))

section

variable {context : SearchContext} {arguments : List TypeExpr}

/-- The data type matches a type with its name exactly if no parameter is captured. -/
theorem exists_matchType?_selfType_iff
    (distinct : context.data.typeParams.Nodup)
    (arity : arguments.length = context.data.typeParams.length) :
    (∃ found, Unification.matchType? context.data.selfType (.con context.data.name arguments) =
      some found) ↔ ¬ context.Captured arguments := by
  rw [Unification.exists_matchType?_iff, DataType.selfType]
  simp only [replace_con, variableOccurrences_con, List.map_map, con.injEq, true_and]
  constructor
  · rintro ⟨solution, keeps, rfl⟩ ⟨⟨name, argument⟩, member, occurs, differs⟩
    have entry : (name, argument) ∈ context.data.typeParams.map fun name =>
        (name, solution name) := by
      rw [← zip_map_self]
      exact member
    rcases List.mem_map.mp entry with ⟨other, -, same⟩
    cases same
    exact differs (keeps name occurs)
  · intro free
    let entries := Substitution.ofPairs (context.data.typeParams.zip arguments)
    let solution (name : String) : TypeExpr :=
      if name ∈ arguments.flatMap variableOccurrences then .var name
      else entries.substitute (.var name)
    refine ⟨solution, fun name occurs => if_pos occurs, map_eq_of_forall_zip arity ?_⟩
    rintro ⟨name, argument⟩ member
    by_cases occurs : name ∈ arguments.flatMap variableOccurrences
    · by_contra differs
      refine free ⟨(name, argument), member, occurs, fun itself => differs ?_⟩
      exact (if_pos occurs).trans itself.symm
    · have names : ((context.data.typeParams.zip arguments).map Prod.fst).Nodup := by
        rwa [List.map_fst_zip (Nat.le_of_eq arity.symm)]
      change solution name = argument
      rw [show solution name = entries.substitute (.var name) from if_neg occurs,
        Substitution.substitute, replace_var,
        Substitution.get?_ofPairs_of_mem names member, Option.getD_some]

/-- The message of a type that the data type does not match. -/
def mismatched (context : SearchContext) (target : TypeExpr) : Message where
  code := .internal
  text := s!"`{target.text}` does not instantiate `{context.data.name}`"
  places := []

/-- The instance under construction at a type, applied to the instances for its arguments. -/
def generatedFrom
    (context : SearchContext)
    (target : TypeExpr)
    (parts : List FoundInstance) : FoundInstance where
  location := .generated context.className target (parts.map FoundInstance.location)
  lowPriority := parts.any FoundInstance.lowPriority

theorem generated_of_captured
    (distinct : context.data.typeParams.Nodup)
    (arity : arguments.length = context.data.typeParams.length)
    (captured : context.Captured arguments)
    (solve : Goal → Search FoundInstance) :
    context.generated solve ⟨context.className, .con context.data.name arguments⟩ =
      throw (context.mismatched (.con context.data.name arguments)) := by
  rw [generated]
  split
  next => rfl
  next found success =>
    exact absurd captured ((exists_matchType?_selfType_iff distinct arity).mp ⟨found, success⟩)

theorem generated_of_free
    (distinct : context.data.typeParams.Nodup)
    (arity : arguments.length = context.data.typeParams.length)
    (free : ¬ context.Captured arguments)
    (solve : Goal → Search FoundInstance) :
    ∃ found : Substitution,
      (context.data.typeParams.map fun name => (name, found.resolve (.var name))) =
        context.data.typeParams.zip arguments ∧
      context.generated solve ⟨context.className, .con context.data.name arguments⟩ =
        context.generatedFrom (.con context.data.name arguments) <$>
          typeParameters solve context.className found context.data.typeParams := by
  rcases (exists_matchType?_selfType_iff distinct arity).mpr free with ⟨found, success⟩
  refine ⟨found, ?_, ?_⟩
  · rw [← zip_map_self, ← arguments_of_matchType? success]
  · rw [generated, success]
    exact bind_pure_comp _ _

end

/--
At a type with its own name the data type is used, unless one of its parameters
is captured, which is an internal fault.  The instances for the arguments are
then found in the order of the parameters, where a parameter that stands for
itself needs no search, and the first message that such a search ends with ends
the whole one.
-/
theorem find_selfInstance
    (context : SearchContext)
    (arguments : List TypeExpr)
    (distinct : context.data.typeParams.Nodup)
    (arity : arguments.length = context.data.typeParams.length) :
    (context.Captured arguments →
      context.find (.con context.data.name arguments) =
        .error (context.mismatched (.con context.data.name arguments))) ∧
    (¬ context.Captured arguments →
      (∀ found, context.find (.con context.data.name arguments) = .ok found ↔
        ∃ parts left,
          ResolvedInOrder (context.solve deepestGoal) context.className
            (context.data.typeParams.zip arguments) .start parts left ∧
          found = context.generatedFrom (.con context.data.name arguments) parts) ∧
      ∀ message, context.find (.con context.data.name arguments) = .error message ↔
        ∃ before name argument after parts left,
          context.data.typeParams.zip arguments = before ++ (name, argument) :: after ∧
          ResolvedInOrder (context.solve deepestGoal) context.className before .start parts left ∧
          (outcome (typeArgument (context.solve deepestGoal) context.className name argument)
            left).1 = .error message) := by
  have own : context.isOwn ⟨context.className, .con context.data.name arguments⟩ = true :=
    isOwn_iff.mpr ⟨arguments, rfl⟩
  have generates : context.find (.con context.data.name arguments) =
      (outcome (context.generated (context.solve deepestGoal)
        ⟨context.className, .con context.data.name arguments⟩) .start).1 := by
    rw [find, solve, if_pos own]
    rfl
  refine ⟨fun captured => ?_, fun free => ?_⟩
  · rw [generates, generated_of_captured distinct arity captured, outcome_throw]
  · rcases generated_of_free distinct arity free (context.solve deepestGoal) with
      ⟨bindings, entries, equal⟩
    rw [generates, equal, ← entries]
    refine ⟨fun found => ?_, fun message => ?_⟩
    · constructor
      · intro ends
        rcases outcome_map_eq_ok_iff.mp (Prod.ext ends rfl) with ⟨parts, resolved, same⟩
        exact ⟨parts, _, outcome_typeParameters_eq_ok_iff.mp resolved, same.symm⟩
      · rintro ⟨parts, left, resolved, rfl⟩
        rw [← outcome_typeParameters_eq_ok_iff] at resolved
        have ends := outcome_map_eq_ok_iff.mpr ⟨parts, resolved, Eq.refl
          (context.generatedFrom (.con context.data.name arguments) parts)⟩
        rw [ends]
    · rw [outcome_map_eq_error_iff, outcome_typeParameters_eq_error_iff]

/-- Equality of terms over a type, with a provider for that of optional values. -/
def termContext : SearchContext where
  data := { (default : DataType) with name := "Term", typeParams := ["T"] }
  className := "Eq"
  span := ⟨100, 101⟩
  providers :=
    [⟨"Instances", ⟨31, 36⟩,
      [.method "option_eq" ⟨11, 16⟩ [⟨"A", ⟨17, 18⟩⟩] [.con "Eq" [.var "A"]]
        (.con "Eq" [.con "Option" [.var "A"]])]⟩]
  lowPriority := []

/-- Terms over optional values capture the parameter, and terms over the parameter do not. -/
theorem find_selfInstance_termContext :
    (termContext.data.typeParams.Nodup ∧
      termContext.Captured [.con "Option" [.var "T"]] ∧
      termContext.find (.con "Term" [.con "Option" [.var "T"]]) =
        .error (termContext.mismatched (.con "Term" [.con "Option" [.var "T"]]))) ∧
    ¬ termContext.Captured [.var "T"] ∧
      termContext.find (.con "Term" [.var "T"]) =
        .ok ⟨.generated "Eq" (.con "Term" [.var "T"]) [.parameter "Eq" "T"], false⟩ := by
  have distinct : termContext.data.typeParams.Nodup := by decide
  have captured : termContext.Captured [.con "Option" [.var "T"]] := by decide
  have free : ¬ termContext.Captured [.var "T"] := by decide
  refine ⟨⟨distinct, captured, ?_⟩, free, ?_⟩
  · exact (find_selfInstance termContext [.con "Option" [.var "T"]] distinct rfl).1 captured
  · refine (((find_selfInstance termContext [.var "T"] distinct rfl).2 free).1 _).mpr ?_
    exact ⟨[⟨.parameter "Eq" "T", false⟩], .start, .cons rfl (.nil .start), rfl⟩

end DataDerive.SearchContext
