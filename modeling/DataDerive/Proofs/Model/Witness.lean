import DataDerive.Proofs.Model.WellFormed
import DataDerive.Proofs.Substitution
import DataDerive.Proofs.Unification.MostGeneral

/-!
# Witnesses

A field of a case is a witness if it is a function from one type to a type
parameter that occurs in no other field.  Witnesses are recognized one after the
other, and a type parameter that an earlier witness narrows is not narrowed
again.  That makes no difference: the earlier witness mentions it, so it occurs
elsewhere.  The restrictions of a constructor are therefore exactly the
witnesses of its case, `mem_restrictions_iff`, and what they narrow a type
parameter to mentions no narrowed one.
-/

namespace DataDerive

open TypeExpr

/-! ## Making a variable equal to a type -/

namespace Unification

open Substitution

theorem shallow_empty (type : TypeExpr) : Substitution.empty.shallow type = type := by
  cases type <;> rfl

/-- A variable is bound to a type as it is, unless the type is or contains the variable. -/
theorem unify?_var (name : String) (type : TypeExpr) :
    unify? (.var name) type =
      if type = .var name then some .empty
      else if name ∈ type.variableOccurrences then none
      else some (Substitution.empty.bind name type) := by
  have positive : 0 < levels (.var name) type .empty :=
    Nat.mul_pos (Nat.pow_pos (Nat.succ_pos _)) (Nat.pow_pos (by decide))
  have resolved : Substitution.empty.resolve type = type :=
    resolve_of_unbound fun _ _ => rfl
  have bound : (bindVar name type .empty).toOption =
      if type = .var name then some .empty
      else if name ∈ type.variableOccurrences then none
      else some (Substitution.empty.bind name type) := by
    simp only [bindVar, resolved, asVar?_eq_some, mentions_iff, mem_freeVars]
    split_ifs <;> rfl
  rcases Nat.exists_eq_add_of_lt positive with ⟨budget, enough⟩
  rw [Nat.zero_add] at enough
  rw [unify?, unifyFrom, enough, unifyAt, shallow_empty, shallow_empty]
  cases type with
  | var other =>
      by_cases same : name = other
      · simp [same, Except.toOption]
      · rw [← bound]
        simp [same]
  | con => simpa using bound
  | arrow => simpa using bound

theorem resolve_bind_empty
    {name : String}
    {type : TypeExpr}
    (absent : name ∉ type.variableOccurrences) :
    (Substitution.empty.bind name type).resolve (.var name) = type := by
  rw [acyclic_empty.resolve_bind rfl (fun _ _ => rfl) absent, resolve_var_of_unbound rfl,
    replace_var, if_pos rfl]

end Unification

/-! ## Recognizing a witness -/

/--
A restriction records a witness of a case: the field at its position is a
function from the type that the parameter is narrowed to, a type parameter of the
declaration occurs in no other field, and that type is no variable and mentions
neither the parameter nor a type parameter of the case itself.  Variables are
told apart by their names only, so a type parameter of the case with the name of
a declared one counts as both.
-/
structure Declaration.Witnessed
    (declaration : Declaration)
    (case : Case)
    (restriction : Restriction) : Prop where
  placed : case.fields[restriction.position]? = some restriction.witness
  type_eq : restriction.witness.type = .arrow [restriction.type] (.var restriction.parameter)
  declared : restriction.parameter ∈ declaration.parameterNames
  alone : ∀ (position : Nat) (field : Field), case.fields[position]? = some field →
    position ≠ restriction.position → restriction.parameter ∉ field.type.freeVars
  ne_var : ∀ name, restriction.type ≠ .var name
  not_self : restriction.parameter ∉ restriction.type.freeVars
  not_own : ∀ name ∈ case.existentials, name ∉ restriction.type.freeVars

namespace Declaration

variable {declaration : Declaration} {case : Case} {restriction : Restriction}

theorem occursElsewhere_iff {position : Nat} {name : String} :
    occursElsewhere case position name = true ↔
      ∃ (index : Nat) (field : Field), case.fields[index]? = some field ∧ index ≠ position ∧
        name ∈ field.type.freeVars := by
  rw [occursElsewhere, List.any_eq_true]
  simp only [List.mem_zipIdx_iff_getElem?, Prod.exists, Bool.and_eq_true, bne_iff_ne,
    mentions_iff]
  exact exists_comm

theorem exists_type_of_witness?
    {position : Nat}
    {narrowed : List String}
    {field : Field}
    (found : declaration.witness? case position narrowed field = some restriction) :
    ∃ input name, field.type = .arrow [input] (.var name) := by
  rw [witness?] at found
  split at found
  next input name shape => exact ⟨input, name, shape⟩
  next => cases found

/-- A function from one type to a type parameter is a witness under these conditions. -/
theorem witness?_of_type
    {position : Nat}
    {narrowed : List String}
    {field : Field}
    {input : TypeExpr}
    {name : String}
    (shape : field.type = .arrow [input] (.var name)) :
    declaration.witness? case position narrowed field = some restriction ↔
      ⟨name, input, field, position⟩ = restriction ∧
        (declaration.declares name = true ∧ name ∉ narrowed ∧
          ¬ occursElsewhere case position name = true) ∧
        (∀ other, input ≠ .var other) ∧ name ∉ input.freeVars ∧
          ∀ own ∈ case.existentials, own ∉ input.freeVars := by
  rw [witness?.eq_def, shape]
  simp only
  split
  next refused =>
    rw [Bool.or_eq_true, Bool.or_eq_true, Bool.not_eq_true', List.contains_iff_mem] at refused
    refine iff_of_false (Option.some_ne_none restriction).symm ?_
    rintro ⟨-, ⟨declared, fresh, alone⟩, -⟩
    rcases refused with (undeclared | before) | elsewhere
    · rw [declared] at undeclared
      cases undeclared
    · exact fresh before
    · exact alone elsewhere
  next accepted =>
    rw [Bool.or_eq_true, Bool.or_eq_true, Bool.not_eq_true', List.contains_iff_mem, not_or,
      not_or, Bool.not_eq_false] at accepted
    rcases accepted with ⟨⟨declared, fresh⟩, alone⟩
    simp only [declared, fresh, alone, Bool.false_eq_true, not_false_eq_true, true_and,
      mem_freeVars]
    rw [Unification.unify?_var]
    split_ifs with itself occurs
    · subst itself
      refine iff_of_false ?_ fun both => both.2.1 name rfl
      rw [Option.bind_eq_bind, Option.bind_some, Substitution.resolve_var_of_unbound rfl]
      simp [asVar?]
    · exact iff_of_false (Option.some_ne_none restriction).symm fun both => both.2.2.1 occurs
    · rw [Option.bind_eq_bind, Option.bind_some, Unification.resolve_bind_empty occurs]
      by_cases isVariable : input.asVar?.isSome
      · rcases Option.isSome_iff_exists.mp isVariable with ⟨other, same⟩
        exact iff_of_false (by simp [isVariable]) fun both =>
          both.2.1 other (asVar?_eq_some.mp same)
      · have compound : ∀ other, input ≠ .var other := by
          rintro other rfl
          exact isVariable rfl
        simp [isVariable, compound, occurs, mentions_iff, and_comm]

/--
A field is recorded as a witness exactly if it is one, if the type parameters
that are taken for narrowed occur in other fields.
-/
theorem witness?_eq_some_iff
    {position : Nat}
    {narrowed : List String}
    {field : Field}
    (here : case.fields[position]? = some field)
    (earlier : ∀ name ∈ narrowed, occursElsewhere case position name = true) :
    declaration.witness? case position narrowed field = some restriction ↔
      restriction.position = position ∧ declaration.Witnessed case restriction := by
  constructor
  · intro found
    rcases exists_type_of_witness? found with ⟨input, name, shape⟩
    rcases (witness?_of_type shape).mp found with
      ⟨rfl, ⟨declared, -, alone⟩, compound, notSelf, notOwn⟩
    refine ⟨rfl, here, shape, declares_iff.mp declared, ?_, compound, notSelf, notOwn⟩
    intro index other listed differs occurs
    exact alone (occursElsewhere_iff.mpr ⟨index, other, listed, differs, occurs⟩)
  · rintro ⟨rfl, witnessed⟩
    have same : restriction.witness = field :=
      Option.some.inj (witnessed.placed.symm.trans here)
    have alone : ¬ occursElsewhere case restriction.position restriction.parameter = true := by
      intro elsewhere
      rcases occursElsewhere_iff.mp elsewhere with ⟨index, other, listed, differs, occurs⟩
      exact witnessed.alone index other listed differs occurs
    refine (witness?_of_type (same ▸ witnessed.type_eq)).mpr ⟨?_, ?_, ?_⟩
    · rw [← same]
    · exact ⟨declares_iff.mpr witnessed.declared, fun before => alone (earlier _ before), alone⟩
    · exact ⟨witnessed.ne_var, witnessed.not_self, witnessed.not_own⟩

/-! ## The restrictions of a constructor -/

/-- From a position on, the witnesses among the fields are told from the arguments. -/
theorem mem_splitFields_iff
    {before fields : List Field}
    {narrowed : List String}
    (split : case.fields = before ++ fields)
    (earlier : ∀ name ∈ narrowed, ∃ field ∈ before, name ∈ field.type.freeVars) :
    restriction ∈ (declaration.splitFields case before.length narrowed fields).1 ↔
      before.length ≤ restriction.position ∧ declaration.Witnessed case restriction := by
  -- The fields passed so far are kept in `before`: what they narrow occurs there as well.
  induction fields generalizing before narrowed with
  | nil =>
      refine iff_of_false List.not_mem_nil ?_
      rintro ⟨late, witnessed⟩
      have beyond : case.fields.length ≤ restriction.position := by
        simpa [split] using late
      have placed := witnessed.placed
      rw [List.getElem?_eq_none beyond] at placed
      cases placed
  | cons field rest ih =>
      have here : case.fields[before.length]? = some field := by
        rw [split, List.getElem?_append_right (Nat.le_refl _), Nat.sub_self]
        rfl
      have elsewhere : ∀ name ∈ narrowed,
          occursElsewhere case before.length name = true := by
        intro name listed
        rcases earlier name listed with ⟨other, member, occurs⟩
        rcases List.mem_iff_getElem?.mp member with ⟨index, found⟩
        have inside : index < before.length := (List.getElem?_eq_some_iff.mp found).1
        refine occursElsewhere_iff.mpr ⟨index, other, ?_, Nat.ne_of_lt inside, occurs⟩
        rw [split, List.getElem?_append_left inside, found]
      have next : case.fields = (before ++ [field]) ++ rest := by
        rw [split, List.append_assoc, List.singleton_append]
      have later : before.length + 1 = (before ++ [field]).length := by simp
      have onward : before.length ≤ restriction.position ↔
          restriction.position = before.length ∨
            (before ++ [field]).length ≤ restriction.position := by
        rw [← later]
        omega
      have kept (name : String) (listed : name ∈ narrowed) :
          ∃ other ∈ before ++ [field], name ∈ other.type.freeVars := by
        rcases earlier name listed with ⟨other, member, occurs⟩
        exact ⟨other, List.mem_append_left _ member, occurs⟩
      rw [splitFields, onward, or_and_right, ← witness?_eq_some_iff here elsewhere]
      split
      next first found =>
        have witnessed := ((witness?_eq_some_iff here elsewhere).mp found).2
        have narrows : ∀ name ∈ first.parameter :: narrowed,
            ∃ other ∈ before ++ [field], name ∈ other.type.freeVars := by
          rw [List.forall_mem_cons]
          refine ⟨⟨field, by simp, ?_⟩, kept⟩
          rw [← (witness?_place found).1, witnessed.type_eq]
          simp
        rw [List.mem_cons, later, ih next narrows, found, Option.some.injEq, eq_comm]
      next none =>
        rw [later, ih next kept, none]
        simp

theorem restrictions_toConstructor (declaration : Declaration) (index : Nat) (case : Case) :
    (declaration.toConstructor index case).restrictions =
      (declaration.splitFields case 0 [] case.fields).1 :=
  rfl

/-- The restrictions of a constructor are the witnesses of its case. -/
theorem mem_restrictions_iff {index : Nat} :
    restriction ∈ (declaration.toConstructor index case).restrictions ↔
      declaration.Witnessed case restriction := by
  have whole : case.fields = [] ++ case.fields := rfl
  rw [restrictions_toConstructor]
  refine (mem_splitFields_iff whole fun name listed => ?_).trans ?_
  · cases listed
  · exact and_iff_right (Nat.zero_le _)

end Declaration

/-! ## Narrowing -/

namespace Constructor

variable {constructor : Constructor} {restriction : Restriction}

theorem get?_narrowing_of_mem
    (distinct : (constructor.restrictions.map Restriction.parameter).Nodup)
    (member : restriction ∈ constructor.restrictions) :
    constructor.narrowing.get? restriction.parameter = some restriction.type := by
  refine Substitution.get?_ofPairs_of_mem ?_ (List.mem_map.mpr ⟨restriction, member, rfl⟩)
  rwa [List.map_map]

theorem exists_of_get?_narrowing
    {name : String}
    {target : TypeExpr}
    (found : constructor.narrowing.get? name = some target) :
    ∃ restriction ∈ constructor.restrictions,
      restriction.parameter = name ∧ restriction.type = target := by
  rcases List.mem_map.mp (Substitution.mem_of_get?_ofPairs found) with
    ⟨restriction, member, same⟩
  cases same
  exact ⟨restriction, member, rfl, rfl⟩

/-- Narrowing keeps a type that mentions no narrowed parameter. -/
theorem narrow_of_apart
    {type : TypeExpr}
    (apart : ∀ restriction ∈ constructor.restrictions, restriction.parameter ∉ type.freeVars) :
    constructor.narrow type = type := by
  refine replace_of_fixes fun name occurs => ?_
  cases found : constructor.narrowing.get? name with
  | none => rfl
  | some target =>
      rcases exists_of_get?_narrowing found with ⟨restriction, member, rfl, -⟩
      exact absurd (mem_freeVars.mpr occurs) (apart restriction member)

theorem narrow_parameter
    (distinct : (constructor.restrictions.map Restriction.parameter).Nodup)
    (member : restriction ∈ constructor.restrictions) :
    constructor.narrow (.var restriction.parameter) = restriction.type := by
  rw [narrow, Substitution.substitute, replace_var, get?_narrowing_of_mem distinct member,
    Option.getD_some]

/-- A variable of a narrowed type is one of the type or of a type that is put into it. -/
theorem mem_freeVars_narrow
    {type : TypeExpr}
    {name : String}
    (occurs : name ∈ (constructor.narrow type).freeVars) :
    name ∈ type.freeVars ∨
      ∃ restriction ∈ constructor.restrictions, name ∈ restriction.type.freeVars := by
  rw [mem_freeVars] at occurs
  rcases mem_variableOccurrences_replace.mp occurs with ⟨source, inside, target⟩
  cases found : constructor.narrowing.get? source with
  | none =>
      rw [found, Option.getD_none, variableOccurrences_var, List.mem_singleton] at target
      exact Or.inl (mem_freeVars.mpr (target ▸ inside))
  | some type =>
      rcases exists_of_get?_narrowing found with ⟨restriction, member, -, rfl⟩
      rw [found, Option.getD_some] at target
      exact Or.inr ⟨restriction, member, mem_freeVars.mpr target⟩

/-- No narrowed parameter is left in a narrowed type. -/
theorem not_mem_freeVars_narrow
    (separate : ∀ restriction ∈ constructor.restrictions, ∀ other ∈ constructor.restrictions,
      restriction.parameter ∉ other.type.freeVars)
    (member : restriction ∈ constructor.restrictions)
    (type : TypeExpr) :
    restriction.parameter ∉ (constructor.narrow type).freeVars := by
  intro occurs
  rw [mem_freeVars] at occurs
  rcases mem_variableOccurrences_replace.mp occurs with ⟨source, -, target⟩
  cases found : constructor.narrowing.get? source with
  | none =>
      rw [found, Option.getD_none, variableOccurrences_var, List.mem_singleton] at target
      have listed : source ∈ (constructor.restrictions.map fun restriction =>
          (restriction.parameter, restriction.type)).map Prod.fst := by
        rw [← target, List.map_map]
        exact List.mem_map_of_mem member
      rcases Substitution.exists_get?_ofPairs listed with ⟨type, bound⟩
      rw [narrowing, bound] at found
      cases found
  | some type =>
      rcases exists_of_get?_narrowing found with ⟨other, among, -, rfl⟩
      rw [found, Option.getD_some] at target
      exact separate restriction member other among (mem_freeVars.mpr target)

end Constructor

/-! ## Consistent narrowing -/

/-- What the restrictions of a constructor promise to those who narrow types by them. -/
structure DataType.NarrowsConsistently (data : DataType) (constructor : Constructor) : Prop where
  /-- No type parameter is narrowed twice. -/
  nodup_parameters : (constructor.restrictions.map Restriction.parameter).Nodup
  /-- No argument mentions a narrowed parameter. -/
  not_mem_arguments : ∀ restriction ∈ constructor.restrictions,
    ∀ argument ∈ constructor.arguments, restriction.parameter ∉ argument.type.freeVars
  /-- Nothing is narrowed to a type that mentions a narrowed parameter. -/
  not_mem_types : ∀ restriction ∈ constructor.restrictions,
    ∀ other ∈ constructor.restrictions, restriction.parameter ∉ other.type.freeVars
  /-- Narrowing a second time changes nothing. -/
  narrow_narrow : ∀ type, constructor.narrow (constructor.narrow type) = constructor.narrow type
  /-- Seen through a value, a witness is a function from a type to itself. -/
  narrow_witness : ∀ restriction ∈ constructor.restrictions,
    constructor.narrow restriction.witness.type = .arrow [restriction.type] restriction.type
  /-- The result is a type over those declared type parameters that the constructor has. -/
  resultType : ∀ name ∈ (data.resultType constructor).freeVars,
    name ∈ data.typeParams ∧
      (∀ restriction ∈ constructor.restrictions, restriction.parameter ≠ name) ∧
        name ∈ constructor.typeParams

namespace Declaration

variable {declaration : Declaration} {snapshot : Snapshot} {data : DataType}
variable {case : Case} {restriction other : Restriction}

theorem Witnessed.mem_freeVars_witness (witnessed : declaration.Witnessed case restriction) :
    restriction.parameter ∈ restriction.witness.type.freeVars := by
  rw [witnessed.type_eq]
  simp

theorem Witnessed.mem_freeVars_of_type
    (witnessed : declaration.Witnessed case restriction)
    {name : String}
    (occurs : name ∈ restriction.type.freeVars) :
    name ∈ restriction.witness.type.freeVars := by
  rw [witnessed.type_eq, mem_freeVars]
  exact mem_variableOccurrences_parameter List.mem_cons_self (mem_freeVars.mp occurs)

/-- A witness that mentions the parameter of another is that one. -/
theorem Witnessed.eq_of_mem_freeVars
    (first : declaration.Witnessed case restriction)
    (second : declaration.Witnessed case other)
    (occurs : restriction.parameter ∈ other.witness.type.freeVars) :
    restriction = other := by
  have position : other.position = restriction.position := by
    by_contra differs
    exact first.alone _ _ second.placed differs occurs
  have witness : restriction.witness = other.witness := by
    have placed := second.placed
    rw [position] at placed
    exact Option.some.inj (first.placed.symm.trans placed)
  have shape := first.type_eq
  rw [witness, second.type_eq, arrow.injEq, List.singleton_inj, var.injEq] at shape
  rcases restriction with ⟨parameter, type, field, place⟩
  rcases other with ⟨parameter', type', field', place'⟩
  simp only at shape witness position
  simp [shape.1, shape.2, witness, position]

theorem Witnessed.not_mem_type
    (first : declaration.Witnessed case restriction)
    (second : declaration.Witnessed case other) :
    restriction.parameter ∉ other.type.freeVars := by
  intro occurs
  have same := first.eq_of_mem_freeVars second (second.mem_freeVars_of_type occurs)
  exact first.not_self (same ▸ occurs)

theorem nodup_parameters (declaration : Declaration) (index : Nat) (case : Case) :
    ((declaration.toConstructor index case).restrictions.map Restriction.parameter).Nodup := by
  have positions := (declaration.interleaved_toConstructor index case).nodup_positions
  refine List.Nodup.map_on ?_ positions.of_map
  intro restriction member other among same
  refine (mem_restrictions_iff.mp member).eq_of_mem_freeVars (mem_restrictions_iff.mp among) ?_
  rw [same]
  exact (mem_restrictions_iff.mp among).mem_freeVars_witness

/-- An argument stands where no witness stands, so it mentions no narrowed parameter. -/
theorem not_mem_arguments
    {index : Nat}
    (member : restriction ∈ (declaration.toConstructor index case).restrictions)
    {argument : Field}
    (among : argument ∈ (declaration.toConstructor index case).arguments) :
    restriction.parameter ∉ argument.type.freeVars := by
  rcases (declaration.interleaved_toConstructor index case).exists_of_mem_arguments among with
    ⟨position, found, free⟩
  rw [Nat.zero_add] at free
  exact (mem_restrictions_iff.mp member).alone position argument found
    (free restriction member).symm

theorem not_mem_types
    {index : Nat}
    (member : restriction ∈ (declaration.toConstructor index case).restrictions)
    (among : other ∈ (declaration.toConstructor index case).restrictions) :
    restriction.parameter ∉ other.type.freeVars :=
  (mem_restrictions_iff.mp member).not_mem_type (mem_restrictions_iff.mp among)

theorem witness_mem_caseFields
    {index : Nat}
    (member : restriction ∈ (declaration.toConstructor index case).restrictions) :
    restriction.witness ∈ (declaration.toConstructor index case).caseFields := by
  rw [caseFields_toConstructor]
  exact List.mem_of_getElem? (mem_restrictions_iff.mp member).placed

/-- A parameter is narrowed to a type over the type parameters of the data type. -/
theorem mem_typeParams_of_restriction
    (wellFormed : data.WellFormed)
    {index : Nat}
    (listed : declaration.toConstructor index case ∈ data.constructors)
    (member : restriction ∈ (declaration.toConstructor index case).restrictions)
    {name : String}
    (inside : name ∈ restriction.type.freeVars) :
    name ∈ data.typeParams := by
  have witnessed := mem_restrictions_iff.mp member
  have outer : name ∉ (declaration.toConstructor index case).existentials :=
    fun own => witnessed.not_own name own inside
  exact (wellFormed.inScope _ listed _ (witness_mem_caseFields member) name
    (witnessed.mem_freeVars_of_type inside)).resolve_right outer

/-- A constructor of a well-formed model that is made of a case narrows types consistently. -/
theorem narrowsConsistently
    (wellFormed : data.WellFormed)
    {index : Nat}
    (listed : declaration.toConstructor index case ∈ data.constructors) :
    data.NarrowsConsistently (declaration.toConstructor index case) := by
  have distinct := declaration.nodup_parameters index case
  have separate : ∀ restriction ∈ (declaration.toConstructor index case).restrictions,
      ∀ other ∈ (declaration.toConstructor index case).restrictions,
        restriction.parameter ∉ other.type.freeVars :=
    fun _ member _ among => not_mem_types member among
  constructor
  case nodup_parameters => exact distinct
  case not_mem_arguments => exact fun _ member _ among => not_mem_arguments member among
  case not_mem_types => exact separate
  case narrow_narrow =>
    intro type
    exact Constructor.narrow_of_apart fun restriction member =>
      Constructor.not_mem_freeVars_narrow separate member type
  case narrow_witness =>
    intro restriction member
    have input : (declaration.toConstructor index case).narrow restriction.type =
        restriction.type :=
      Constructor.narrow_of_apart fun other among => separate other among restriction member
    have result := Constructor.narrow_parameter distinct member
    rw [(mem_restrictions_iff.mp member).type_eq]
    rw [Constructor.narrow, Substitution.substitute] at input result ⊢
    rw [replace_arrow, List.map_singleton, input, result]
  case resultType =>
    intro name occurs
    have kept : ∀ restriction ∈ (declaration.toConstructor index case).restrictions,
        restriction.parameter ≠ name := by
      rintro restriction member rfl
      exact Constructor.not_mem_freeVars_narrow separate member data.selfType occurs
    have declared : name ∈ data.typeParams := by
      rcases Constructor.mem_freeVars_narrow occurs with itself | ⟨restriction, member, inside⟩
      · simpa [DataType.selfType] using itself
      · exact mem_typeParams_of_restriction wellFormed listed member inside
    exact ⟨declared, kept, (wellFormed.mem_typeParams_iff listed).mpr (Or.inl ⟨declared, kept⟩)⟩

/--
The restrictions of a constructor are exactly the witnesses among the fields of
its declared case, each with its parameter, type, field and position, and they
narrow types consistently.
-/
theorem restrictions_eq_witnesses
    (built : declaration.toDataType snapshot = .ok data)
    {index : Nat}
    {constructor : Constructor}
    (listed : data.constructors[index]? = some constructor) :
    ∃ cases case, declaration.declaredCases snapshot = .ok cases ∧ cases[index]? = some case ∧
      (∀ restriction, restriction ∈ constructor.restrictions ↔
        declaration.Witnessed case restriction) ∧
      data.typeParams = declaration.parameterNames ∧ data.NarrowsConsistently constructor := by
  rcases exists_declaredCases built with ⟨cases, declared, same⟩
  have member := List.mem_of_getElem? listed
  rw [same, getElem?_constructorsOf, Option.map_eq_some_iff] at listed
  rcases listed with ⟨case, found, rfl⟩
  refine ⟨cases, case, declared, found, fun _ => mem_restrictions_iff, ?_, ?_⟩
  · exact typeParams_of_toDataType built
  · exact narrowsConsistently (wellFormed_of_toDataType built) member

/-- Read conversions narrow their source and their target, and keep the type of the value. -/
theorem restrictions_eq_witnesses_conversion :
    conversion.toDataType default = .ok conversionModel ∧
      ∃ read, conversionModel.constructors[0]? = some read ∧
        read.restrictions.map Restriction.parameter = ["S", "T"] ∧
        conversionModel.resultType read =
          .con "Conversion" [.con "List" [.var "V"], .atom "String", .var "V"] ∧
        ∃ cases case, conversion.declaredCases default = .ok cases ∧ cases[0]? = some case ∧
          (∀ restriction, restriction ∈ read.restrictions ↔
            conversion.Witnessed case restriction) ∧
          conversionModel.typeParams = conversion.parameterNames ∧
            conversionModel.NarrowsConsistently read := by
  have built : conversion.toDataType default = .ok conversionModel := rfl
  exact ⟨built, _, rfl, rfl, by decide, restrictions_eq_witnesses built rfl⟩

end Declaration

end DataDerive
