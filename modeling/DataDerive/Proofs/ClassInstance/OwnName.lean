import DataDerive.Proofs.ClassInstance.Hygiene
import DataDerive.Proofs.Derive.OwnName

/-!
# The name of the data type in its instances

An instance mentions the data type in its own type and in the type of its operands,
and the variants in its patterns.  What it consults mentions neither.  Together with
the code of the derivations this says what the data type is called in all code that is
generated for it.
-/

namespace DataDerive

open TypeExpr

variable {holds : Mention → Prop}

/-! ## Instances as they are consulted -/

/-- What an instance is made of mentions no type and no variant. -/
theorem InstanceNaming.inherited_mentionsOnly (holds : Mention → Prop) :
    Inherited fun value => value.MentionsOnly holds where
  member _ _ := Expr.mentionsOnly_member
  underscored _ _ := Expr.mentionsOnly_ident
  clone _ := Expr.mentionsOnly_clone.mpr
  call _ _ function arguments := Expr.mentionsOnly_call.mpr ⟨function, arguments⟩

theorem InstanceNaming.mentionsOnly_locals (naming : InstanceNaming) :
    ∀ bound ∈ naming.locals, bound.2.MentionsOnly holds :=
  List.forall_mem_map.mpr fun _ _ => (inherited_mentionsOnly holds).owned naming _

theorem InstanceNaming.mentionsOnly_receivers (naming : InstanceNaming) :
    ∀ row ∈ naming.receivers, ∀ receiver ∈ row, receiver.MentionsOnly holds :=
  List.forall_mem_map.mpr fun _ _ => List.forall_mem_map.mpr fun location _ =>
    (inherited_mentionsOnly holds).receiver naming (fun _ => Expr.mentionsOnly_ident) location

/-! ## Instances of the standard classes -/

namespace StandardClass

variable {standard : StandardClass} {data : DataType} {constructor : Constructor}

theorem mentionsOnly_thenCompare {outcomes : List Expr}
    (each : ∀ outcome ∈ outcomes, outcome.MentionsOnly holds) :
    (thenCompare outcomes).MentionsOnly holds := by
  cases outcomes with
  | nil => exact Expr.mentionsOnly_member
  | cons first rest =>
      rw [List.forall_mem_cons] at each
      rw [thenCompare]
      obtain ⟨ofFirst, ofRest⟩ := each
      induction rest generalizing first with
      | nil => exact ofFirst
      | cons second rest ih =>
          rw [List.forall_mem_cons] at ofRest
          refine ih _ ?_ ofRest.2
          exact Expr.mentionsOnly_method.mpr ⟨ofFirst, List.forall_mem_singleton.mpr
            (Expr.mentionsOnly_delayed.mpr ofRest.1)⟩

theorem mentionsOnly_combine
    {outcomes : List Expr}
    (each : ∀ outcome ∈ outcomes, outcome.MentionsOnly holds) :
    (standard.combine constructor outcomes).MentionsOnly holds := by
  cases standard with
  | equality =>
      rw [combine]
      split_ifs
      · exact Expr.mentionsOnly_ident
      · exact Expr.mentionsOnly_all.mpr each
  | display =>
      rw [combine]
      split_ifs
      · simp
      · exact Expr.mentionsOnly_formatted.mpr each
  | ordering => exact mentionsOnly_thenCompare each
  | hashing =>
      exact Expr.mentionsOnly_hashOf.mpr (List.forall_mem_cons.mpr ⟨Expr.mentionsOnly_number, each⟩)

theorem mentionsOnly_consultations
    {receivers : List Expr}
    (each : ∀ receiver ∈ receivers, receiver.MentionsOnly holds) :
    ∀ outcome ∈ standard.consultations data constructor receivers, outcome.MentionsOnly holds := by
  refine List.forall_mem_map.mpr ?_
  rintro ⟨⟨field, receiver⟩, index⟩ listed
  have found : (constructor.arguments.zip receivers)[index]? = some (field, receiver) :=
    List.mem_zipIdx_iff_getElem?.mp listed
  have consulted := (List.getElem?_zip_eq_some.mp found).2
  refine Expr.mentionsOnly_method.mpr ⟨each receiver (List.mem_of_getElem? consulted), ?_⟩
  exact List.forall_mem_map.mpr fun _ _ => DataType.mentionsOnly_borrowed

theorem mentionsOnly_pattern {code : TypeExpr → CodeType} :
    (standard.pattern data constructor).MentionsOnly (data.Spells code) := by
  have one (letter : String) :
      (data.numberedPattern letter constructor).MentionsOnly (data.Spells code) :=
    DataType.mentionsOnly_patternWith
  rw [pattern]
  split
  · exact one "v"
  · exact Pattern.mentionsOnly_pair.mpr ⟨one "l", one "r"⟩

theorem mentionsOnly_fallback {code : TypeExpr → CodeType} :
    ∀ arm ∈ (standard.fallback data).arms, arm.MentionsOnly (data.Spells code) := by
  rw [fallback.eq_def]
  split
  next => exact List.forall_mem_nil _
  next =>
    cases standard with
    | equality => exact List.forall_mem_singleton.mpr (by simp)
    | ordering =>
        refine List.forall_mem_map.mpr (List.forall_mem_map.mpr fun constructor _ => ?_)
        exact Arm.mentionsOnly_iff.mpr
          ⟨DataType.mentionsOnly_patternWith, Expr.mentionsOnly_number⟩
    | display | hashing => exact List.forall_mem_nil _

/-- An instance is about the data type and its variants. -/
theorem spells_of_mem_value
    {receivers : List (List Expr)}
    (each : ∀ row ∈ receivers, ∀ receiver ∈ row, receiver.MentionsOnly (data.Spells toCode)) :
    ∀ mention ∈ (standard.generator.value data receivers).mentions,
      data.Spells toCode mention := by
  refine ClassValue.forall_mem_mentions_function.mpr
    ⟨.type DataType.writes_selfCode, ?_, mentionsOnly_fallback⟩
  refine List.forall_mem_map.mpr fun constructor _ =>
    Arm.mentionsOnly_iff.mpr ⟨mentionsOnly_pattern, ?_⟩
  refine mentionsOnly_combine (mentionsOnly_consultations ?_)
  cases found : receivers[constructor.index]? with
  | none => exact List.forall_mem_nil _
  | some row => exact each row (List.mem_of_getElem? found)

end StandardClass

/-! ## Generated instances -/

namespace InstanceRequest

variable {request : InstanceRequest} {unit : CodeUnit}

theorem spells_of_mem_item
    {naming : InstanceNaming}
    {body : Body}
    (inBody : body.MentionsOnly (request.data.Spells toCode)) :
    ∀ mention ∈ (request.item naming body).mentions, request.data.Spells toCode mention := by
  have own : request.data.Spells toCode (.type request.instanceType) :=
    .ofClass _ DataType.writes_selfCode
  rw [item]
  split_ifs
  · rw [CodeUnit.forall_mem_mentions_of_functions rfl rfl, CodeUnit.allFunctions_ofFunctions]
    refine List.forall_mem_singleton.mpr (FunctionItem.mentionsOnly_of_unbound
      (DataType.mentions_of_mem_boundGenerics _) ?_ own ?_)
    · exact List.forall_mem_map.mpr fun _ _ => .ofClass _ (.param _)
    · rintro _ ⟨⟩
      exact inBody
  · refine List.forall_mem_append.mpr ⟨List.forall_mem_nil _, List.forall_mem_append.mpr
      ⟨List.forall_mem_flatMap.mpr ?_, List.forall_mem_nil _⟩⟩
    exact List.forall_mem_singleton.mpr (List.forall_mem_cons.mpr ⟨own, inBody⟩)

theorem spells_of_generate
    {standard : StandardClass}
    (success : request.generate standard.generator = .ok unit) :
    ∀ mention ∈ unit.mentions, request.data.Spells toCode mention := by
  rcases generate_eq_ok_iff.mp success with ⟨found, -, -, rfl⟩
  refine spells_of_mem_item (Body.mentionsOnly_classValue.mpr ⟨?_, ?_⟩)
  · exact (request.naming found).mentionsOnly_locals
  · exact StandardClass.spells_of_mem_value (request.naming found).mentionsOnly_receivers

end InstanceRequest

theorem DataType.spells_of_deriveInstances
    {data : DataType}
    {asking : Declaration}
    {searched : Snapshot}
    {registry : GeneratorRegistry}
    {unit : CodeUnit}
    (standard : ∀ generator ∈ registry.generators, generator ∈ InstanceGenerator.all)
    (derived : data.deriveInstances asking searched registry = .ok unit) :
    ∀ mention ∈ unit.mentions, data.Spells toCode mention := by
  rcases Derived.bind_eq_ok_iff.mp derived with ⟨units, each, same⟩
  cases same
  intro mention mentioned
  rcases CodeUnit.mem_mentions_concat.mp mentioned with ⟨unit, listed, mentioned⟩
  rcases Derived.exists_of_mem_mapM each listed with ⟨item, -, one⟩
  dsimp only at one
  split at one
  next generator found =>
    rcases InstanceGenerator.exists_standard (standard _ (List.mem_of_find?_eq_some found)) with
      ⟨which, rfl⟩
    exact InstanceRequest.spells_of_generate one mention mentioned
  next => cases one

/-! ## Models -/

theorem DataType.selfCode_eq
    {data : DataType}
    (ordinary : ∀ arity, isTupleName data.name arity = false) :
    data.selfCode = .named data.name (data.typeParams.map .param) := by
  rw [selfCode, selfType, toCode, ordinary, if_neg Bool.false_ne_true, toCodeAll_eq_map,
    List.map_map]
  rfl

/-- The data type applied to its parameters names the enum if neither case nor tuples change it. -/
theorem DataType.selfCode_eq_codeAs_iff {data : DataType} {own : String} :
    data.selfCode = data.selfType.codeAs data.name own ↔
      data.name = own ∧ isTupleName data.name data.typeParams.length = false := by
  have inner : toCodeAll (data.typeParams.map .var) =
      codeAllAs data.name own (data.typeParams.map .var) := by
    rw [toCodeAll_eq_map, codeAllAs_eq_map, List.map_map, List.map_map]
    rfl
  rw [selfCode, selfType, toCode, codeAs, if_pos rfl, List.length_map, inner]
  cases isTupleName data.name data.typeParams.length <;> simp

theorem isTupleName_eq_false
    {name : String}
    (unlike : Unlike name "Tuple")
    (arity : Nat) :
    isTupleName name arity = false := by
  have apart : name ++ "" ≠ "Tuple" ++ toString arity := unlike.append_ne "" (toString arity)
  rw [String.append_empty] at apart
  rw [isTupleName, beq_false_of_ne apart, Bool.and_false]

/-- What is asked for is in the module, and the functions of a matcher borrow a value. -/
theorem DataType.borrows_of_matcher
    {data : DataType}
    {request : Span}
    {derivations : List Derivation}
    {code : CodeUnit}
    (generated : data.generate request derivations = .ok code)
    (asked : .matcher ∈ derivations) :
    .type (.reference data.selfCode) ∈ code.mentions := by
  have inFunction : .type (.reference data.selfCode) ∈ data.acceptFunction.mentions :=
    List.mem_append_right _ (List.mem_append_left _ List.mem_cons_self)
  have inUnit : .type (.reference data.selfCode) ∈ (data.derive request .matcher).mentions := by
    refine List.mem_append_right _ (List.mem_append_right _ ?_)
    refine List.mem_flatMap.mpr ⟨_, ?_, inFunction⟩
    rw [derive, allFunctions_matcherCode]
    exact List.mem_cons_self
  rw [eq_concat_of_generate generated]
  refine CodeUnit.mem_mentions_concat.mpr ⟨_, List.mem_cons_of_mem _ ?_, inUnit⟩
  exact List.mem_map_of_mem (mem_distinct.mpr asked)

/-- A function that borrows a value names the enum exactly if that is the declared name. -/
theorem DataType.eq_of_spells_selfCode
    {data : DataType}
    (ordinary : ∀ arity, isTupleName data.name arity = false)
    (spelled : data.Spells (codeAs data.name data.typeName)
      (.type (.reference data.selfCode))) :
    data.name = data.typeName := by
  have same : ∀ name ∈ ["Option", "LazyCell"], Identifier.pascalCase name = name := by decide
  cases spelled with
  | type written =>
      rw [selfCode_eq ordinary] at written
      rcases eq_of_writes_named (writes_of_reference written) with own | option | lazyCell
      · exact own
      · rw [typeName, option, same _ (by simp)]
      · rw [typeName, lazyCell, same _ (by simp)]

namespace Declaration

variable {declaration asking : Declaration} {snapshot searched : Snapshot}
variable {registry : GeneratorRegistry} {data : DataType} {request : Span}
variable {derivations : List Derivation} {code instances : CodeUnit}

/--
A module has one enum, which is named after the data type by a change of case, and all
variants are variants of it.  All types are put together from the code for known types,
in which the data type goes by its declared name.  So applied to its own parameters it
names the enum exactly if the change of case leaves the name and the name is not that of
a tuple.  If it is no tuple's at all, the code for a type is what it would be under the
name of the enum exactly if the name is left or the type does not mention the data type.
If the name is left, the data type goes by the name of its enum everywhere, and if not,
then not where a value is borrowed.
-/
theorem own_name
    (built : declaration.toDataType snapshot = .ok data)
    (generated : data.generate request derivations = .ok code)
    (standard : ∀ generator ∈ registry.generators, generator ∈ InstanceGenerator.all)
    (derived : data.deriveInstances asking searched registry = .ok instances) :
    let unit := code.append instances
    ∃ enum, unit.enums = [enum] ∧ enum.name = Identifier.pascalCase data.name ∧
      (∀ path, .variant path ∈ unit.mentions → path.enumName = enum.name) ∧
      (∀ mention ∈ unit.mentions, data.Spells toCode mention) ∧
      (data.selfCode = data.selfType.codeAs data.name enum.name ↔
        data.name = enum.name ∧ isTupleName data.name data.typeParams.length = false) ∧
      ((∀ arity, isTupleName data.name arity = false) →
        (∀ type : TypeExpr, type.toCode = type.codeAs data.name enum.name ↔
          data.name = enum.name ∨ data.name ∉ type.constructors) ∧
        (data.name = enum.name →
          ∀ mention ∈ unit.mentions, data.Spells (codeAs data.name enum.name) mention) ∧
        (.type (.reference data.selfCode) ∈ unit.mentions →
          (∀ mention ∈ unit.mentions, data.Spells (codeAs data.name enum.name) mention) →
            data.name = enum.name)) := by
  intro unit
  have spelled : ∀ mention ∈ unit.mentions, data.Spells toCode mention := by
    intro mention mentioned
    rcases CodeUnit.mem_mentions_append.mp mentioned with ofCode | ofInstances
    · exact DataType.spells_of_generate (declares_of_toDataType built) generated mention ofCode
    · exact DataType.spells_of_deriveInstances standard derived mention ofInstances
  have enums : unit.enums = [data.enumItem] := by
    have noTypes := (DataType.names_of_deriveInstances derived).1
    change (code.types ++ instances.types).filter TypeItem.isEnum = _
    rw [noTypes, List.append_nil]
    exact DataType.enums_of_generate generated
  refine ⟨data.enumItem, enums, rfl, fun path mentioned => ?_, spelled,
    DataType.selfCode_eq_codeAs_iff, fun ordinary => ?_⟩
  · cases spelled _ mentioned with
    | variant own => exact own
  · refine ⟨toCode_eq_codeAs_iff ordinary, fun same mention mentioned => ?_,
      fun borrows each => DataType.eq_of_spells_selfCode ordinary (each _ borrows)⟩
    exact (spelled mention mentioned).congr fun type _ =>
      (toCode_eq_codeAs_iff ordinary type).mpr (.inl same)

/-- Lists of tasks, named in lower case. -/
def taskList : Declaration where
  name := "task_list"
  span := ⟨1, 10⟩
  typeParams := []
  request := ⟨⟨11, 12⟩, none, [⟨"Eq", ⟨13, 15⟩⟩]⟩
  methods := [{
    name := "match"
    span := ⟨16, 21⟩
    typeParams := [⟨"R", ⟨22, 23⟩⟩]
    parameters :=
      [⟨"Done", ⟨24, 28⟩, .arrow [] (.var "R"), []⟩,
        ⟨"Next", ⟨29, 33⟩, .arrow [.atom "task_list"] (.var "R"), ["rest"]⟩]
    result := .var "R"
    isAbstract := true }]
  statics := []

/-- The model of lists of tasks. -/
def taskListModel : DataType where
  name := "task_list"
  span := ⟨1, 10⟩
  typeParams := []
  constructors :=
    [{ name := "Done"
       span := ⟨24, 28⟩
       index := 0
       arguments := []
       restrictions := []
       existentials := []
       typeParams := [] },
     { name := "Next"
       span := ⟨29, 33⟩
       index := 1
       arguments := [⟨"rest", ⟨29, 33⟩, .atom "task_list"⟩]
       restrictions := []
       existentials := []
       typeParams := [] }]
  matcher := "match"
  resultVar := "R"
  encoding := .lambdas

/-- The code for lists of tasks has an enum that no type in it names. -/
theorem own_name_taskList :
    ∃ code instances enum,
      taskList.toDataType default = .ok taskListModel ∧
      taskListModel.generate ⟨11, 12⟩ [.matcher] = .ok code ∧
      taskListModel.deriveInstances taskList default .full = .ok instances ∧
      (code.append instances).enums = [enum] ∧ enum.name = "TaskList" ∧
      (∀ mention ∈ (code.append instances).mentions, taskListModel.Spells toCode mention) ∧
      taskListModel.selfCode = .named "task_list" [] ∧
      ¬ ∀ mention ∈ (code.append instances).mentions,
        taskListModel.Spells (codeAs "task_list" "TaskList") mention := by
  have built : taskList.toDataType default = .ok taskListModel := rfl
  obtain ⟨code, generated⟩ :
      ∃ code, taskListModel.generate ⟨11, 12⟩ [.matcher] = .ok code := ⟨_, rfl⟩
  obtain ⟨instances, derived⟩ :
      ∃ instances, taskListModel.deriveInstances taskList default .full = .ok instances := ⟨_, rfl⟩
  have standard : ∀ generator ∈ GeneratorRegistry.full.generators,
      generator ∈ InstanceGenerator.all := fun _ listed => listed
  obtain ⟨enum, only, spelling, -, spelled, -, ofOrdinary⟩ :=
    own_name built generated standard derived
  have capital : enum.name = "TaskList" := spelling
  obtain ⟨-, -, borrowed⟩ := ofOrdinary (isTupleName_eq_false (by decide))
  have borrows : .type (.reference taskListModel.selfCode) ∈ (code.append instances).mentions :=
    CodeUnit.mem_mentions_append.mpr
      (.inl (DataType.borrows_of_matcher generated (List.mem_singleton_self _)))
  rw [capital] at borrowed
  refine ⟨code, instances, enum, built, generated, derived, only, capital, spelled, rfl,
    fun each => ?_⟩
  exact absurd (borrowed borrows each) (by decide)

end Declaration

end DataDerive
