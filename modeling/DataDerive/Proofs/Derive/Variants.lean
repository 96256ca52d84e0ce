import DataDerive.Derive.Access
import DataDerive.Proofs.Model.WellFormed

/-!
# Values of variants

A variant is built from a list with a value for each argument.  The fields of its
case are gone through in their order; a field with the name of a witness gets a
value of its own, and every other field the next value of the list.  The list may
run out, and then the rest of the fields would be left out.  In a model that is
built this cannot happen: witnesses and arguments make up the fields, and names
identify them.  So if the values are those of a function of fields, every field is
listed once, in its place and with the value of that function.
-/

namespace DataDerive

/-! ## Fields that are known by their names -/

namespace Interleaved

variable {position : Nat} {restrictions : List Restriction} {arguments fields : List Field}

theorem sublist_witnesses (interleaved : Interleaved position restrictions arguments fields) :
    (restrictions.map Restriction.witness).Sublist fields := by
  induction interleaved with
  | nil => exact .slnil
  | witness _ ih => exact ih.cons_cons _
  | argument _ ih => exact ih.cons _

theorem isEmpty_fields (interleaved : Interleaved position restrictions arguments fields) :
    fields.isEmpty = (arguments.isEmpty && restrictions.isEmpty) := by
  cases interleaved with
  | nil => rfl
  | witness _ => exact (Bool.and_false _).symm
  | argument _ => rfl

theorem arguments_eq_filter
    (interleaved : Interleaved position restrictions arguments fields)
    {keeps : Field → Bool}
    (drops : ∀ restriction ∈ restrictions, keeps restriction.witness = false)
    (kept : ∀ argument ∈ arguments, keeps argument = true) :
    arguments = fields.filter keeps := by
  induction interleaved with
  | nil => rfl
  | witness _ ih =>
      rw [List.forall_mem_cons] at drops
      rw [List.filter_cons_of_neg (Bool.eq_false_iff.mp drops.1), ← ih drops.2 kept]
  | argument _ ih =>
      rw [List.forall_mem_cons] at kept
      rw [List.filter_cons_of_pos kept.1, ← ih drops kept.2]

end Interleaved

/-- A constructor is laid out if its fields are known by their places and by their names. -/
structure Constructor.LaidOut (constructor : Constructor) : Prop where
  /-- Witnesses and arguments make up the fields of the case. -/
  interleaved :
    Interleaved 0 constructor.restrictions constructor.arguments constructor.caseFields
  /-- The name of a field identifies it. -/
  distinct : (constructor.caseFields.map Field.name).Nodup

namespace Constructor

variable {constructor : Constructor}

theorem arguments_of_isUnit (unit : constructor.isUnit = true) : constructor.arguments = [] :=
  List.isEmpty_iff.mp (Bool.and_eq_true_iff.mp unit).1

theorem caseFields_of_isUnit (unit : constructor.isUnit = true) : constructor.caseFields = [] := by
  have restrictions := List.isEmpty_iff.mp (Bool.and_eq_true_iff.mp unit).2
  rw [caseFields, arguments_of_isUnit unit, restrictions]
  rfl

namespace LaidOut

theorem isUnit_eq (laidOut : constructor.LaidOut) :
    constructor.isUnit = constructor.caseFields.isEmpty :=
  laidOut.interleaved.isEmpty_fields.symm

theorem nodup_argumentNames (laidOut : constructor.LaidOut) :
    (constructor.arguments.map Field.name).Nodup :=
  laidOut.distinct.sublist (laidOut.interleaved.sublist.map Field.name)

/-- A restriction is found by the name of its witness. -/
theorem find?_witness
    (laidOut : constructor.LaidOut)
    {restriction : Restriction}
    (restricts : restriction ∈ constructor.restrictions) :
    (constructor.restrictions.find? fun other =>
      other.witness.name == restriction.witness.name) = some restriction := by
  have witnesses : (constructor.restrictions.map fun other => other.witness.name).Nodup := by
    have names := laidOut.distinct.sublist (laidOut.interleaved.sublist_witnesses.map Field.name)
    rwa [List.map_map] at names
  have found : (constructor.restrictions.find? fun other =>
      other.witness.name == restriction.witness.name).isSome :=
    List.find?_isSome.mpr ⟨restriction, restricts, beq_self_eq_true _⟩
  rcases Option.isSome_iff_exists.mp found with ⟨other, found⟩
  have same := List.find?_some found
  rw [beq_iff_eq] at same
  rw [found, List.inj_on_of_nodup_map witnesses (List.mem_of_find?_eq_some found) restricts same]

/-- No restriction is found by the name of an argument. -/
theorem find?_argument
    (laidOut : constructor.LaidOut)
    {argument : Field}
    (among : argument ∈ constructor.arguments) :
    (constructor.restrictions.find? fun restriction =>
      restriction.witness.name == argument.name) = none := by
  refine List.find?_eq_none.mpr fun restriction restricts same => ?_
  exact laidOut.interleaved.name_ne_of_mem_arguments laidOut.distinct restricts among
    (beq_iff_eq.mp same)

theorem isWitness_eq_false
    (laidOut : constructor.LaidOut)
    {argument : Field}
    (among : argument ∈ constructor.arguments) :
    constructor.isWitness argument = false :=
  List.any_eq_false.mpr (List.find?_eq_none.mp (laidOut.find?_argument among))

/-- The arguments are the fields of the case without the witnesses, in their order. -/
theorem arguments_eq_filter (laidOut : constructor.LaidOut) :
    constructor.arguments =
      constructor.caseFields.filter fun field => !constructor.isWitness field := by
  refine laidOut.interleaved.arguments_eq_filter (fun restriction restricts => ?_) fun _ among => ?_
  · rw [Bool.not_eq_false', Constructor.isWitness, List.any_eq_true]
    exact ⟨restriction, restricts, beq_self_eq_true _⟩
  · rw [Bool.not_eq_true', laidOut.isWitness_eq_false among]

end LaidOut

end Constructor

/-- The constructors of a model are laid out, and their fields have names of their own. -/
theorem Declaration.laidOut_of_toDataType
    {declaration : Declaration}
    {snapshot : Snapshot}
    {data : DataType}
    (built : declaration.toDataType snapshot = .ok data) :
    ∀ constructor ∈ data.constructors, constructor.LaidOut := by
  intro constructor listed
  refine ⟨?_, (wellFormed_of_toDataType built).nodup_fieldNames constructor listed⟩
  rcases exists_declaredCases built with ⟨cases, -, same⟩
  rw [same] at listed
  rcases exists_of_mem_constructorsOf listed with ⟨index, case, -, rfl⟩
  rw [caseFields_toConstructor]
  exact declaration.interleaved_toConstructor index case

namespace DataType

variable {data : DataType} {constructor : Constructor}

/-- A pattern for a constructor binds what it is to bind, which is nothing for a unit. -/
theorem boundNames_patternWith
    {bindings : List (String × String)}
    (ofUnit : constructor.isUnit = true → bindings = []) :
    (data.patternWith constructor bindings).boundNames = bindings.map Prod.snd := by
  rw [patternWith]
  split
  next unit =>
    rw [ofUnit unit]
    rfl
  next => rfl

/-! ## Values of fields -/

section FieldValues

variable {witness : Restriction → Expr} {field : Field} {rest : List Field} {values : List Expr}

theorem fieldValues_of_restriction
    {restriction : Restriction}
    (found : constructor.restrictions.find? (fun restriction =>
      restriction.witness.name == field.name) = some restriction) :
    fieldValues constructor witness (field :: rest) values =
      (field.spelling, witness restriction) ::
        fieldValues constructor witness rest values := by
  rw [fieldValues.eq_def]
  simp only [found]

theorem fieldValues_of_argument
    (none : constructor.restrictions.find? (fun restriction =>
      restriction.witness.name == field.name) = none)
    (value : Expr) :
    fieldValues constructor witness (field :: rest) (value :: values) =
      (field.spelling, value) :: fieldValues constructor witness rest values := by
  rw [fieldValues.eq_def]
  simp only [none]

/--
If witnesses are told from arguments by their names, and every field has a value
that is also the one for the witness if it is one, every field gets its value.
-/
theorem fieldValues_eq_map
    {position : Nat}
    {restrictions : List Restriction}
    {arguments fields : List Field}
    (interleaved : Interleaved position restrictions arguments fields)
    (known : ∀ restriction ∈ restrictions, (constructor.restrictions.find? fun other =>
      other.witness.name == restriction.witness.name) = some restriction)
    (plain : ∀ argument ∈ arguments, (constructor.restrictions.find? fun restriction =>
      restriction.witness.name == argument.name) = none)
    {valueOf : Field → Expr}
    (ofWitness : ∀ restriction ∈ restrictions,
      valueOf restriction.witness = witness restriction) :
    fieldValues constructor witness fields (arguments.map valueOf) =
      fields.map fun field => (field.spelling, valueOf field) := by
  -- The values that are left are always those of the arguments that are left.
  induction interleaved with
  | nil => rfl
  | witness _ ih =>
      rw [List.forall_mem_cons] at known ofWitness
      rw [fieldValues_of_restriction known.1, ih known.2 plain ofWitness.2, List.map_cons,
        ofWitness.1]
  | argument _ ih =>
      rw [List.forall_mem_cons] at plain
      rw [List.map_cons, fieldValues_of_argument plain.1, ih known plain.2 ofWitness, List.map_cons]

end FieldValues

/-- A variant with a value for each field of its case, in their order. -/
def variantOf (data : DataType) (constructor : Constructor) (valueOf : Field → Expr) : Expr :=
  if constructor.caseFields.isEmpty then
    .unit (data.variantPath constructor)
  else
    .construct (data.variantPath constructor)
      (constructor.caseFields.map fun field => (field.spelling, valueOf field))

theorem variantOf_of_ne_nil
    (some : constructor.caseFields ≠ [])
    (valueOf : Field → Expr) :
    data.variantOf constructor valueOf =
      .construct (data.variantPath constructor)
        (constructor.caseFields.map fun field => (field.spelling, valueOf field)) :=
  if_neg fun none => some (List.isEmpty_iff.mp none)

/-- A variant that is built from the values of its arguments has the values of all fields. -/
theorem constructWith_eq_variantOf
    (laidOut : constructor.LaidOut)
    {witness : Restriction → Expr}
    {valueOf : Field → Expr}
    (ofWitness : ∀ restriction ∈ constructor.restrictions,
      valueOf restriction.witness = witness restriction) :
    data.constructWith constructor (constructor.arguments.map valueOf) witness =
      data.variantOf constructor valueOf := by
  rw [constructWith, variantOf, laidOut.isUnit_eq,
    fieldValues_eq_map laidOut.interleaved (fun _ => laidOut.find?_witness)
      (fun _ => laidOut.find?_argument) ofWitness]

/-! ## A field that is changed -/

/-- What is stored in a field that is changed: `update` of what has been bound to it. -/
def updated (data : DataType) (field : Field) : Expr :=
  let binding := Expr.bound field.spelling
  if data.isRecursiveField field then
    (Expr.call (.ident "update") [.call (.member "Rc" "unwrap_or_clone") [binding]]).share
  else
    .call (.ident "update") [binding]

/-- The arm for a holder binds all fields, changes the one that is held and keeps the others. -/
theorem changingArm_eq
    {holder : Holder}
    (laidOut : holder.constructor.LaidOut)
    (placed : holder.constructor.arguments[holder.position]? = some holder.field) :
    data.changingArm holder =
      ⟨data.fieldPattern holder.constructor, data.variantOf holder.constructor fun field =>
        if field = holder.field then data.updated field else .bound field.spelling⟩ := by
  have kept : ∀ restriction ∈ holder.constructor.restrictions,
      (if restriction.witness = holder.field then data.updated restriction.witness
        else .bound restriction.witness.spelling) = Expr.bound restriction.witness.spelling := by
    intro restriction restricts
    refine if_neg fun same => ?_
    exact laidOut.interleaved.name_ne_of_mem_arguments laidOut.distinct restricts
      (List.mem_of_getElem? placed) (congrArg Field.name same)
  rw [changingArm, ← constructWith_eq_variantOf laidOut kept, rebuilt]
  congr 2
  -- Both lists have a value for each argument, and only one argument stands at the position.
  refine List.ext_getElem? fun index => ?_
  rw [List.getElem?_map, List.getElem?_map, List.getElem?_zipIdx, Option.map_map]
  cases found : holder.constructor.arguments[index]? with
  | none => rfl
  | some field =>
      have here : field = holder.field ↔ index = holder.position := by
        rw [← Option.some_inj, ← found, ← placed]
        exact List.getElem?_inj (List.getElem?_eq_some_iff.mp found).1
          laidOut.nodup_argumentNames.of_map
      simp only [Option.map_some, Function.comp_apply, Nat.zero_add, changedValue, updated, here,
        ne_eq, ite_not]

end DataType

end DataDerive
