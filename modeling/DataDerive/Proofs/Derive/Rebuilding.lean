import DataDerive.Derive.Construction
import DataDerive.Proofs.ClassInstance.Scoping
import DataDerive.Proofs.Derive.Accessors

/-!
# Variants that are built and built again

Derived functions write a variant out in two places.  The arm of a modifier takes
a variant apart and builds it again with one field changed, and a constructing
function builds a variant from its parameters.  Both are given values for the
arguments only and put the witnesses in between.  In a model that is built every
field of the declared case is listed in its place.  A modifier hands every other
field on as it was bound.  A constructing function takes the parameter of each
argument, behind a shared pointer if the field is erased or of the data type itself,
and begins with an identity for each witness.
-/

namespace DataDerive

namespace DataType

variable {data : DataType} {constructor : Constructor} {field : Field}

/-- An arm builds the variant that it matches again, with one field changed. -/
structure Rebuilds
    (data : DataType)
    (constructor : Constructor)
    (changed : Field)
    (arm : Arm) : Prop where
  /-- Every field of the case is bound to its own name. -/
  pattern : arm.pattern = .fields (data.variantPath constructor)
    (constructor.caseFields.map fun field => (field.spelling, field.spelling))
  /-- Every field is listed.  All but the changed one, arguments and witnesses, are taken over. -/
  result : ∃ valueOf : Field → Expr,
    arm.result = .construct (data.variantPath constructor)
      (constructor.caseFields.map fun field => (field.spelling, valueOf field)) ∧
    (∀ field, field ≠ changed → valueOf field = .bound field.spelling) ∧
    (¬ data.Recurs changed →
      valueOf changed = .call (.ident "update") [.bound changed.spelling]) ∧
    -- A value of the data type itself is taken out of its pointer and put into another one.
    (data.Recurs changed →
      valueOf changed = .call (.member "Rc" "new") [.call (.ident "update")
        [.call (.member "Rc" "unwrap_or_clone") [.bound changed.spelling]]])

/-- A function builds a variant from a parameter for each argument. -/
structure Builds
    (data : DataType)
    (constructor : Constructor)
    (function : FunctionItem) : Prop where
  name : function.name = constructor.functionName
  parameters : function.parameters =
    constructor.arguments.map fun argument => ⟨argument.spelling, argument.type.toCode⟩
  /-- Every field of the case is listed, with a value that depends on what it is. -/
  body : ∃ valueOf : Field → Expr,
    function.body = some (.expression (data.variantOf constructor valueOf)) ∧
    -- An erased argument and one of the data type itself go behind a shared pointer.
    (∀ argument ∈ constructor.arguments, constructor.Erases argument ∨ data.Recurs argument →
      valueOf argument = .call (.member "Rc" "new") [.ident argument.spelling]) ∧
    (∀ argument ∈ constructor.arguments, ¬ constructor.Erases argument → ¬ data.Recurs argument →
      valueOf argument = .ident argument.spelling) ∧
    ∀ restriction ∈ constructor.restrictions,
      valueOf restriction.witness =
        .call (.member "Rc" "new") [.identity restriction.type.toCode]

/-! ## Modifiers -/

theorem updated_of_other {changed : Field} (other : ¬ data.Recurs changed) :
    data.updated changed = .call (.ident "update") [.bound changed.spelling] :=
  if_neg (mt isRecursiveField_iff.mp other)

theorem updated_of_recurs {changed : Field} (recurs : data.Recurs changed) :
    data.updated changed = .call (.member "Rc" "new") [.call (.ident "update")
      [.call (.member "Rc" "unwrap_or_clone") [.bound changed.spelling]]] :=
  if_pos (isRecursiveField_iff.mpr recurs)

/-- The arm for a holder builds its variant again and changes the argument that is held. -/
theorem rebuilds_changingArm
    {holder : Holder}
    (laidOut : holder.constructor.LaidOut)
    (placed : holder.constructor.arguments[holder.position]? = some holder.field) :
    data.Rebuilds holder.constructor holder.field (data.changingArm holder) := by
  have among : holder.field ∈ holder.constructor.caseFields :=
    laidOut.interleaved.sublist.mem (List.mem_of_getElem? placed)
  have some : holder.constructor.caseFields ≠ [] := List.ne_nil_of_mem among
  rw [changingArm_eq laidOut placed]
  refine ⟨?pattern, _, variantOf_of_ne_nil some _, fun _ apart => if_neg apart, ?other, ?recurs⟩
  case pattern =>
    have fields : ¬ holder.constructor.isUnit = true := by
      rwa [laidOut.isUnit_eq, List.isEmpty_iff]
    exact if_neg fields
  case other => exact fun other => (if_pos rfl).trans (updated_of_other other)
  case recurs => exact fun recurs => (if_pos rfl).trans (updated_of_recurs recurs)

section Modifiers

variable (wellFormed : data.WellFormed)
variable (laidOut : ∀ constructor ∈ data.constructors, constructor.LaidOut)

include wellFormed laidOut

/-- Every arm of a modifier builds some variant again or hands its value on. -/
theorem forall_arms_modifiers (request : Span) :
    ∀ function ∈ (data.modifiers request).allFunctions, ∀ arm ∈ function.arms,
      arm = ⟨.ident "other", .bound "other"⟩ ∨
        ∃ constructor ∈ data.constructors, ∃ changed ∈ constructor.arguments,
          function.name = "modify_" ++ Identifier.snakeCase changed.name ∧
            data.Rebuilds constructor changed arm := by
  rw [modifiers_eq_concat, CodeUnit.forall_mem_allFunctions_concat, List.forall_mem_map]
  intro name _
  rw [modifiersFor]
  rcases data.forField_cases request "modifier" data.modifier (data.entryOf name) with
    ⟨-, outcome⟩ | ⟨-, outcome⟩ | ⟨-, first, -, outcome⟩
  · rw [outcome]
    exact List.forall_mem_nil _
  · rw [outcome]
    exact List.forall_mem_nil _
  · rw [outcome, CodeUnit.allFunctions_ofFunctions,
      holders_entryOf wellFormed fun _ listed => (laidOut _ listed).nodup_argumentNames]
    -- The function that replaces a field has no arms.
    refine List.forall_mem_cons.mpr ⟨List.forall_mem_nil _, List.forall_mem_singleton.mpr ?_⟩
    refine List.forall_mem_append.mpr ⟨List.forall_mem_map.mpr fun holder held => .inr ?_, ?_⟩
    · rcases mem_holdersOf held with ⟨listed, placed, named⟩
      refine ⟨_, listed, _, List.mem_of_getElem? placed, ?_,
        rebuilds_changingArm (laidOut _ listed) placed⟩
      rw [named]
      rfl
    · split
      next => exact List.forall_mem_nil _
      next => exact List.forall_mem_singleton.mpr (.inl rfl)

/-- An argument that is stored as it is and has one type has an arm that changes it. -/
theorem exists_rebuilding_arm
    (request : Span)
    {changed : Field}
    (listed : constructor ∈ data.constructors)
    (among : changed ∈ constructor.arguments)
    (stored : ¬ data.ErasesNamed changed.name)
    (agrees : ¬ data.DisagreesOn changed.name) :
    ∃ function ∈ (data.modifiers request).allFunctions,
      function.name = "modify_" ++ Identifier.snakeCase changed.name ∧
        ∃ arm ∈ function.arms, data.Rebuilds constructor changed arm := by
  have distinct : ∀ constructor ∈ data.constructors,
      (constructor.arguments.map Field.name).Nodup :=
    fun _ listed => (laidOut _ listed).nodup_argumentNames
  have known : changed.name ∈ data.argumentNames :=
    mem_distinct.mpr (List.mem_flatMap.mpr ⟨constructor, listed, List.mem_map_of_mem among⟩)
  have accessors := accessorsFor_of_argument distinct wellFormed request listed among
  rcases exists_holder distinct listed among rfl with ⟨holder, held, rfl, rfl⟩
  generalize data.gettersFor request holder.field.name = reading at accessors
  generalize changing : data.modifiersFor request holder.field.name = modifying at accessors
  cases accessors with
  | nothing erased => exact absurd erased stored
  | warned _ disagrees _ _ => exact absurd disagrees agrees
  | @accessed get set modify _ _ accesses =>
      have derived : ∀ function ∈ (CodeUnit.ofFunctions [set, modify]).allFunctions,
          function ∈ (data.modifiers request).allFunctions := by
        rw [modifiers_eq_concat, ← changing]
        exact CodeUnit.forall_mem_allFunctions_concat.mp (fun _ => id) _ (List.mem_map_of_mem known)
      rw [CodeUnit.allFunctions_ofFunctions] at derived
      rcases accesses.changes with ⟨others, body, -⟩
      have arms : modify.arms =
          (data.holdersOf holder.field.name).map data.changingArm ++ others := by
        rw [FunctionItem.arms, body]
        rfl
      refine ⟨modify, derived _ (List.mem_cons_of_mem _ (List.mem_singleton_self _)),
        accesses.modifyName, data.changingArm holder, ?_,
        rebuilds_changingArm (laidOut _ listed) (mem_holdersOf held).2.1⟩
      rw [arms]
      exact List.mem_append_left _ (List.mem_map_of_mem held)

end Modifiers

/-! ## Constructing functions -/

theorem stored_of_shared
    (shared : constructor.Erases field ∨ data.Recurs field)
    (value : Expr) :
    data.stored constructor field value = .call (.member "Rc" "new") [value] := by
  refine if_pos ?_
  rwa [Bool.or_eq_true, Constructor.isErased_eq_true_iff, isRecursiveField_iff]

theorem stored_of_plain
    (kept : ¬ constructor.Erases field)
    (other : ¬ data.Recurs field)
    (value : Expr) :
    data.stored constructor field value = value := by
  refine if_neg ?_
  rw [Bool.or_eq_true, Constructor.isErased_eq_true_iff, isRecursiveField_iff]
  exact not_or.mpr ⟨kept, other⟩

/-- What a field begins with: its parameter as it is stored, or an identity for a witness. -/
def initial (data : DataType) (constructor : Constructor) (field : Field) : Expr :=
  match constructor.restrictions.find? fun restriction =>
      restriction.witness.name == field.name with
  | some restriction => Expr.share (.identity restriction.type.toCode)
  | none => data.stored constructor field (.ident field.spelling)

theorem initial_argument
    (laidOut : constructor.LaidOut)
    {argument : Field}
    (among : argument ∈ constructor.arguments) :
    data.initial constructor argument =
      data.stored constructor argument (.ident argument.spelling) := by
  simp only [initial, laidOut.find?_argument among]

theorem initial_witness
    (laidOut : constructor.LaidOut)
    {restriction : Restriction}
    (restricts : restriction ∈ constructor.restrictions) :
    data.initial constructor restriction.witness =
      Expr.share (.identity restriction.type.toCode) := by
  simp only [initial, laidOut.find?_witness restricts]

theorem builds_buildingFunction (laidOut : constructor.LaidOut) (receiver : Bool) :
    data.Builds constructor (data.buildingFunction receiver constructor) := by
  have ofArgument : ∀ argument ∈ constructor.arguments,
      data.initial constructor argument =
        data.stored constructor argument (.ident argument.spelling) :=
    fun _ => initial_argument laidOut
  have ofWitness : ∀ restriction ∈ constructor.restrictions,
      data.initial constructor restriction.witness =
        Expr.share (.identity restriction.type.toCode) :=
    fun _ => initial_witness laidOut
  refine ⟨rfl, rfl, data.initial constructor, ?body, ?shared, ?plain, ofWitness⟩
  case body =>
    rw [buildingFunction, constructed, ← List.map_congr_left ofArgument,
      constructWith_eq_variantOf laidOut ofWitness]
  case shared =>
    exact fun argument among shared =>
      (ofArgument argument among).trans (stored_of_shared shared _)
  case plain =>
    exact fun argument among kept other =>
      (ofArgument argument among).trans (stored_of_plain kept other _)

theorem forall₂_builds
    (data : DataType)
    (laidOut : ∀ constructor ∈ data.constructors, constructor.LaidOut)
    (receiver : Bool) :
    List.Forall₂ data.Builds data.constructors
      (data.constructors.map (data.buildingFunction receiver)) := by
  rw [List.forall₂_map_right_iff, List.forall₂_same]
  exact fun constructor listed => builds_buildingFunction (laidOut constructor listed) receiver

end DataType

namespace Declaration

variable {declaration : Declaration} {snapshot : Snapshot} {data : DataType}

/--
In a model that is built the witnesses and the arguments of each constructor make
up the fields of its declared case.  Every arm of a modifier builds the variant
that it matches again, with every field in its place, one argument changed and all
others as they were bound; what is left is an arm that hands its value on.  Every
function that builds a variant lists every field in its place: the parameter of an
argument, behind a shared pointer if its field is erased or of the data type itself,
and an identity behind a pointer for a witness.
-/
theorem variants_kept_whole (built : declaration.toDataType snapshot = .ok data) :
    declaration.declaredCases snapshot = .ok (data.constructors.map Constructor.toCase) ∧
    (∀ constructor ∈ data.constructors, constructor.LaidOut) ∧
    (∀ request, ∀ function ∈ (data.modifiers request).allFunctions, ∀ arm ∈ function.arms,
      arm = ⟨.ident "other", .bound "other"⟩ ∨
        ∃ constructor ∈ data.constructors, ∃ changed ∈ constructor.arguments,
          function.name = "modify_" ++ Identifier.snakeCase changed.name ∧
            data.Rebuilds constructor changed arm) ∧
    (∀ request, ∀ constructor ∈ data.constructors, ∀ changed ∈ constructor.arguments,
      ¬ data.ErasesNamed changed.name → ¬ data.DisagreesOn changed.name →
        ∃ function ∈ (data.modifiers request).allFunctions,
          function.name = "modify_" ++ Identifier.snakeCase changed.name ∧
            ∃ arm ∈ function.arms, data.Rebuilds constructor changed arm) ∧
    List.Forall₂ data.Builds data.constructors data.constructorFunctions.allFunctions ∧
    List.Forall₂ data.Builds data.constructors data.factory.allFunctions := by
  have laidOut := laidOut_of_toDataType built
  have wellFormed := wellFormed_of_toDataType built
  rcases exists_declaredCases built with ⟨cases, declared, same⟩
  refine ⟨?cases, laidOut, DataType.forall_arms_modifiers wellFormed laidOut,
    fun request _ listed _ among => DataType.exists_rebuilding_arm wellFormed laidOut request
      listed among, ?constructors, ?factory⟩
  case cases => rw [same, map_toCase_constructorsOf, declared]
  case constructors =>
    rw [DataType.constructorFunctions, CodeUnit.allFunctions_ofFunctions]
    exact data.forall₂_builds laidOut false
  case factory =>
    rw [DataType.allFunctions_factory]
    exact data.forall₂_builds laidOut true

/--
A reading conversion keeps its two witnesses while the value between them is changed,
and it is built from that value with an identity for each of them.  A query is built
from shared fields: the rows of a count are queries, and a step erases what it applies.
-/
theorem variants_kept_whole_conversion_query :
    conversion.toDataType default = .ok conversionModel ∧
    (∃ function ∈ (conversionModel.modifiers ⟨0, 9⟩).allFunctions,
      function.name = "modify_value" ∧
      ∃ arm ∈ function.arms, arm.result = .construct ⟨"Conversion", "Read"⟩
        [("source", .bound "source"), ("value", .call (.ident "update") [.bound "value"]),
          ("target", .bound "target")]) ∧
    (∃ function ∈ conversionModel.constructorFunctions.allFunctions, function.name = "read" ∧
      function.body = some (.expression (.construct ⟨"Conversion", "Read"⟩
        [("source", .call (.member "Rc" "new") [.identity (.named "List" [.param "V"])]),
          ("value", .ident "value"),
          ("target", .call (.member "Rc" "new") [.identity (.atom "String")])]))) ∧
    query.toDataType (querySnapshot "A") = .ok queryModel ∧
    ∃ count ∈ queryModel.factory.allFunctions, ∃ step ∈ queryModel.factory.allFunctions,
      count.body = some (.expression (.construct ⟨"Query", "Count"⟩
        [("rows", .call (.member "Rc" "new") [.ident "rows"]),
          ("is", .call (.member "Rc" "new") [.identity (.atom "i32")])])) ∧
      step.body = some (.expression (.construct ⟨"Query", "Step"⟩
        [("before", .call (.member "Rc" "new") [.ident "before"]),
          ("apply", .call (.member "Rc" "new") [.ident "apply"])])) := by
  have converts : conversion.toDataType default = .ok conversionModel := rfl
  have queries : query.toDataType (querySnapshot "A") = .ok queryModel := rfl
  obtain ⟨-, -, -, changed, functions, -⟩ := variants_kept_whole converts
  obtain ⟨-, -, -, -, -, methods⟩ := variants_kept_whole queries
  refine ⟨converts, ?changes, ?reads, queries, ?builds⟩
  case changes =>
    have stored : ¬ conversionModel.ErasesNamed "value" := by
      rw [DataType.ErasesNamed]
      decide
    have agrees : ¬ conversionModel.DisagreesOn "value" := by
      rw [DataType.DisagreesOn]
      decide
    rcases changed ⟨0, 9⟩ _ List.mem_cons_self _ List.mem_cons_self stored agrees with
      ⟨function, derived, name, arm, listed, -, valueOf, result, kept, plain, -⟩
    refine ⟨function, derived, name, arm, listed, result.trans ?_⟩
    change Expr.construct _ [(_, valueOf ⟨"source", _, _⟩), (_, valueOf ⟨"value", _, _⟩),
      (_, valueOf ⟨"target", _, _⟩)] = _
    rw [kept ⟨"source", _, _⟩ (by decide), kept ⟨"target", _, _⟩ (by decide),
      plain fun recurs => nomatch recurs]
    rfl
  case reads =>
    rcases List.forall₂_cons_left_iff.mp functions with ⟨function, _, builds, -, same⟩
    refine ⟨function, same ▸ List.mem_cons_self, builds.name, ?_⟩
    rcases builds.body with ⟨valueOf, body, -, plain, witness⟩
    rw [body]
    change some (Body.expression (.construct _ [(_, valueOf ⟨"source", _, _⟩),
      (_, valueOf ⟨"value", _, _⟩), (_, valueOf ⟨"target", _, _⟩)])) = _
    rw [witness ⟨"S", _, ⟨"source", _, _⟩, _⟩ List.mem_cons_self,
      witness ⟨"T", _, ⟨"target", _, _⟩, _⟩ (List.mem_cons_of_mem _ List.mem_cons_self),
      plain ⟨"value", _, _⟩ List.mem_cons_self (fun erases => nomatch erases)
        fun recurs => nomatch recurs]
    rfl
  case builds =>
    rcases List.forall₂_cons_left_iff.mp methods with ⟨count, _, counts, others, all⟩
    rcases List.forall₂_cons_left_iff.mp others with ⟨step, _, steps, -, rest⟩
    refine ⟨count, all ▸ List.mem_cons_self, step,
      all ▸ rest ▸ List.mem_cons_of_mem _ List.mem_cons_self, ?_, ?_⟩
    · rcases counts.body with ⟨valueOf, body, shared, -, witness⟩
      rw [body]
      change some (Body.expression (.construct _ [(_, valueOf ⟨"rows", _, _⟩),
        (_, valueOf ⟨"is", _, _⟩)])) = _
      rw [shared ⟨"rows", _, _⟩ List.mem_cons_self (.inr ⟨_, rfl⟩),
        witness ⟨"T", _, ⟨"is", _, _⟩, _⟩ List.mem_cons_self]
      rfl
    · rcases steps.body with ⟨valueOf, body, shared, -, -⟩
      rw [body]
      change some (Body.expression (.construct _ [(_, valueOf ⟨"before", _, _⟩),
        (_, valueOf ⟨"apply", _, _⟩)])) = _
      rw [shared ⟨"before", _, _⟩ List.mem_cons_self (.inr ⟨_, rfl⟩),
        shared ⟨"apply", _, _⟩ (List.mem_cons_of_mem _ List.mem_cons_self)
          (.inl ⟨"A", List.mem_cons_self, by decide⟩)]
      rfl

end Declaration

end DataDerive
