import DataDerive.Proofs.Code.Mentions
import DataDerive.Proofs.Derive.Hygiene
import DataDerive.Proofs.Derive.Imports
import DataDerive.Proofs.Derive.Storage

/-!
# The name of the data type in its own code

The enum and its variants are named after the declaration by a change of case.  Types
are written as they are declared, the data type itself included.  So variants always
belong to the enum, while a type that mentions the data type names the enum only if
the change of case leaves the declared name as it is.

All types in the code of a data type are put together from the code for types that are
known from its declaration, and of these it is known exactly which ones would be
written differently if the data type went by the name of its enum.
-/

namespace DataDerive

open TypeExpr

/-! ## Types under another name -/

namespace TypeExpr

mutual

/-- The code for a type in which one declared type goes by a name of its own. -/
def codeAs (declared own : String) : TypeExpr → CodeType
  | .var name => .param name
  | .con name arguments =>
      let inner := codeAllAs declared own arguments
      if name = declared then
        .named own inner
      else if isTupleName name arguments.length then
        .tuple inner
      else
        .named name inner
  | .arrow parameters result =>
      .sharedFn (codeAllAs declared own parameters) (codeAs declared own result)

/-- The code for several types in which one declared type goes by a name of its own. -/
def codeAllAs (declared own : String) : List TypeExpr → List CodeType
  | [] => []
  | type :: rest => codeAs declared own type :: codeAllAs declared own rest

end

variable {declared own : String}

theorem codeAllAs_eq_map (declared own : String) (types : List TypeExpr) :
    codeAllAs declared own types = types.map (codeAs declared own) := by
  induction types with
  | nil => rw [codeAllAs, List.map_nil]
  | cons type rest ih => rw [codeAllAs, ih, List.map_cons]

theorem constructorOccurrencesAll_eq_flatMap (types : List TypeExpr) :
    constructorOccurrencesAll types = types.flatMap constructorOccurrences := by
  induction types with
  | nil => rw [constructorOccurrencesAll, List.flatMap_nil]
  | cons type rest ih => rw [constructorOccurrencesAll, ih, List.flatMap_cons]

theorem toCodeAll_eq_codeAllAs_iff
    {types : List TypeExpr}
    (each : ∀ type ∈ types, type.toCode = type.codeAs declared own ↔
      declared = own ∨ declared ∉ type.constructorOccurrences) :
    toCodeAll types = codeAllAs declared own types ↔
      declared = own ∨ declared ∉ constructorOccurrencesAll types := by
  rw [toCodeAll_eq_map, codeAllAs_eq_map, List.map_inj_left,
    constructorOccurrencesAll_eq_flatMap, List.mem_flatMap, forall₂_congr each]
  simp only [not_exists, not_and, ← forall_or_left]

/-- A type goes by its declared names unless it mentions the one that has another name. -/
theorem toCode_eq_codeAs_iff
    (ordinary : ∀ arity, isTupleName declared arity = false)
    (type : TypeExpr) :
    type.toCode = type.codeAs declared own ↔
      declared = own ∨ declared ∉ type.constructors := by
  rw [constructors, mem_distinct]
  induction type with
  | var name => simp [toCode, codeAs, constructorOccurrences]
  | compound type compound ih =>
      cases type with
      | var name => cases compound
      | con head arguments =>
          have inner := toCodeAll_eq_codeAllAs_iff (show ∀ type ∈ arguments, _ from ih)
          rw [toCode, codeAs, constructorOccurrences, List.mem_cons, not_or]
          by_cases same : head = declared
          · subst same
            rw [ordinary, if_neg Bool.false_ne_true, if_pos rfl, CodeType.named.injEq, inner]
            tauto
          · rw [if_neg same, and_iff_right (Ne.symm same), ← inner]
            split <;> simp
      | arrow parameters result =>
          have inner := toCodeAll_eq_codeAllAs_iff fun type listed =>
            ih type (List.mem_append_left _ listed)
          have last := ih result (List.mem_append_right _ (List.mem_singleton_self result))
          rw [toCode, codeAs, constructorOccurrences, CodeType.sharedFn.injEq, inner, last,
            List.mem_append, not_or, or_and_left]

/-- Under another name no type is written with the declared one. -/
theorem eq_of_codeAs_eq_named
    {type : TypeExpr}
    {arguments : List CodeType}
    (written : type.codeAs declared own = .named declared arguments) :
    declared = own := by
  cases type with
  | var name | arrow parameters result =>
      rw [codeAs] at written
      cases written
  | con head inner =>
      rw [codeAs] at written
      split_ifs at written with same
      · exact (CodeType.named.inj written).1.symm
      · exact absurd (CodeType.named.inj written).1 same

theorem codeAs_ne_reference {target : CodeType} (type : TypeExpr) :
    type.codeAs declared own ≠ .reference target := by
  cases type with
  | var name | arrow parameters result =>
      rw [codeAs]
      rintro ⟨⟩
  | con head inner =>
      rw [codeAs]
      split_ifs <;> rintro ⟨⟩

end TypeExpr

/-! ## Types that are put together from known ones -/

namespace DataType

/-- A type that is known from the declaration of a data type. -/
inductive Knows (data : DataType) : TypeExpr → Prop where
  /-- The data type applied to its own parameters. -/
  | self : data.Knows data.selfType
  /-- What a constructor builds. -/
  | result
      {constructor : Constructor}
      (listed : constructor ∈ data.constructors) :
      data.Knows (data.resultType constructor)
  /-- The type of a field. -/
  | field
      {constructor : Constructor}
      {field : Field}
      (listed : constructor ∈ data.constructors)
      (among : field ∈ constructor.caseFields) :
      data.Knows field.type
  /-- The type of a witness as it is seen through its constructor. -/
  | narrowed
      {constructor : Constructor}
      {field : Field}
      (listed : constructor ∈ data.constructors)
      (among : field ∈ constructor.caseFields) :
      data.Knows (constructor.narrow field.type)
  /-- What a parameter is narrowed to. -/
  | restriction
      {constructor : Constructor}
      {restriction : Restriction}
      (listed : constructor ∈ data.constructors)
      (restricts : restriction ∈ constructor.restrictions) :
      data.Knows restriction.type

/-- A type of generated code is put together from the code for known types. -/
inductive Writes (data : DataType) (code : TypeExpr → CodeType) : CodeType → Prop where
  | known {type : TypeExpr} (knows : data.Knows type) : data.Writes code (code type)
  | param (name : String) : data.Writes code (.param name)
  | sharedAny : data.Writes code .sharedAny
  | reference {type : CodeType} (target : data.Writes code type) :
      data.Writes code (.reference type)
  | shared {type : CodeType} (target : data.Writes code type) : data.Writes code (.shared type)
  | option {type : CodeType} (value : data.Writes code type) : data.Writes code (.option type)
  | tuple {types : List CodeType} (each : ∀ type ∈ types, data.Writes code type) :
      data.Writes code (.tuple types)
  | implOnce
      {types : List CodeType}
      {result : CodeType}
      (each : ∀ type ∈ types, data.Writes code type)
      (last : data.Writes code result) :
      data.Writes code (.implOnce types result)
  | dynRef
      {types : List CodeType}
      {result : CodeType}
      (each : ∀ type ∈ types, data.Writes code type)
      (last : data.Writes code result) :
      data.Writes code (.dynRef types result)
  | implTrait {types : List CodeType} (each : ∀ type ∈ types, data.Writes code type) :
      data.Writes code (.implTrait data.traitName types)
  /-- The cell of a value that is built on first access. -/
  | lazyCell {type : CodeType} (value : data.Writes code type) :
      data.Writes code (.named "LazyCell" [type, .boxedOnce [] type])

/--
A mention in generated code: a variant of the enum, a type that is put together from
known ones, the type of truth values, or an instance of a class at such a type.
-/
inductive Spells (data : DataType) (code : TypeExpr → CodeType) : Mention → Prop where
  | variant {path : VariantPath} (own : path.enumName = data.typeName) :
      data.Spells code (.variant path)
  | type {type : CodeType} (written : data.Writes code type) : data.Spells code (.type type)
  | bool : data.Spells code (.type .bool)
  | ofClass {type : CodeType} (className : String) (written : data.Writes code type) :
      data.Spells code (.type (.named className [type]))

variable {data : DataType} {constructor : Constructor} {field : Field}

/-- Types are put together alike from known types that are written alike. -/
theorem Writes.congr
    {code other : TypeExpr → CodeType}
    (alike : ∀ type, data.Knows type → code type = other type)
    {type : CodeType}
    (written : data.Writes code type) :
    data.Writes other type := by
  induction written with
  | known knows => exact alike _ knows ▸ .known knows
  | param name => exact .param name
  | sharedAny => exact .sharedAny
  | reference _ ih => exact .reference ih
  | shared _ ih => exact .shared ih
  | option _ ih => exact .option ih
  | tuple _ ih => exact .tuple ih
  | implOnce _ _ each last => exact .implOnce each last
  | dynRef _ _ each last => exact .dynRef each last
  | implTrait _ ih => exact .implTrait ih
  | lazyCell _ ih => exact .lazyCell ih

theorem Spells.congr
    {code other : TypeExpr → CodeType}
    (alike : ∀ type, data.Knows type → code type = other type)
    {mention : Mention}
    (spelled : data.Spells code mention) :
    data.Spells other mention := by
  cases spelled with
  | variant own => exact .variant own
  | type written => exact .type (written.congr alike)
  | bool => exact .bool
  | ofClass className written => exact .ofClass className (written.congr alike)

/-- A type that goes by the name of the enum does not go by another one. -/
theorem eq_of_writes_named
    {own : String}
    {arguments : List CodeType}
    (written : data.Writes (codeAs data.name own) (.named data.name arguments)) :
    data.name = own ∨ data.name = "Option" ∨ data.name = "LazyCell" := by
  generalize same : CodeType.named data.name arguments = type at written
  cases written with
  | known => exact .inl (eq_of_codeAs_eq_named same.symm)
  | option => exact .inr (.inl (CodeType.named.inj same).1)
  | lazyCell => exact .inr (.inr (CodeType.named.inj same).1)
  | param | sharedAny | reference | shared | tuple | implOnce | dynRef | implTrait => cases same

theorem writes_of_reference
    {own : String}
    {target : CodeType}
    (written : data.Writes (codeAs data.name own) (.reference target)) :
    data.Writes (codeAs data.name own) target := by
  generalize same : CodeType.reference target = type at written
  cases written with
  | known => exact absurd same.symm (codeAs_ne_reference _)
  | reference written =>
      cases same
      exact written
  | param | sharedAny | option | lazyCell | shared | tuple | implOnce | dynRef | implTrait =>
      cases same

/-! ## Fields -/

theorem writes_selfCode : data.Writes toCode data.selfCode :=
  .known .self

theorem writes_resultParam : data.Writes toCode data.resultParam :=
  .param _

section Fields

variable (listed : constructor ∈ data.constructors) (among : field ∈ constructor.caseFields)

include listed

theorem writes_resultCode : data.Writes toCode (data.resultCode constructor) :=
  .known (.result listed)

include among

theorem writes_fieldType : data.Writes toCode field.type.toCode :=
  .known (.field listed among)

theorem writes_storedType : data.Writes toCode (data.storedType constructor field) := by
  rw [storedType]
  split_ifs
  · exact .sharedAny
  · exact .shared (writes_fieldType listed among)
  · exact writes_fieldType listed among

theorem writes_borrowedType : data.Writes toCode (data.borrowedType constructor field) := by
  rw [borrowedType]
  split_ifs
  · exact .reference (writes_fieldType listed among)
  · exact .reference (writes_storedType listed among)

theorem writes_narrowedType : data.Writes toCode (data.narrowedType constructor field) := by
  rw [narrowedType]
  split_ifs
  · exact .reference (.known (.narrowed listed among))
  · exact writes_borrowedType listed among

theorem writes_foldedType : data.Writes toCode (data.foldedType constructor field) := by
  rw [foldedType]
  split_ifs
  · exact writes_resultParam
  · exact writes_borrowedType listed among

end Fields

/-! ## Patterns and values -/

variable {code : TypeExpr → CodeType}

theorem spells_variantPath : data.Spells code (.variant (data.variantPath constructor)) :=
  .variant rfl

theorem mentionsOnly_patternWith {bindings : List (String × String)} :
    (data.patternWith constructor bindings).MentionsOnly (data.Spells code) := by
  rw [patternWith]
  split_ifs
  · exact Pattern.mentionsOnly_unit.mpr spells_variantPath
  · exact Pattern.mentionsOnly_fields.mpr spells_variantPath

theorem mentionsOnly_borrowed {holds : Mention → Prop} {binding : String} :
    (data.borrowed constructor field binding).MentionsOnly holds := by
  rw [borrowed]
  split_ifs <;> simp

theorem mentionsOnly_borrowedFields (data : DataType) (constructor : Constructor)
    (holds : Mention → Prop) :
    ∀ value ∈ data.borrowedFields constructor, value.MentionsOnly holds :=
  List.forall_mem_map.mpr fun _ _ => mentionsOnly_borrowed

/-- A field gets one of the values, or the value for one of the witnesses. -/
theorem mentionsOnly_fieldValues
    {holds : Mention → Prop}
    {witness : Restriction → Expr}
    (ofWitness : ∀ restriction ∈ constructor.restrictions, (witness restriction).MentionsOnly holds)
    (fields : List Field)
    {values : List Expr}
    (each : ∀ value ∈ values, value.MentionsOnly holds) :
    ∀ value ∈ fieldValues constructor witness fields values, value.2.MentionsOnly holds := by
  induction fields generalizing values with
  | nil => exact List.forall_mem_nil _
  | cons field rest ih =>
      rw [fieldValues.eq_def]
      dsimp only
      split
      next _ restriction found =>
        exact List.forall_mem_cons.mpr
          ⟨ofWitness restriction (List.mem_of_find?_eq_some found), ih each⟩
      next value values _ =>
        rw [List.forall_mem_cons] at each
        exact List.forall_mem_cons.mpr ⟨each.1, ih each.2⟩
      next => exact ih each

theorem mentionsOnly_constructWith
    {values : List Expr}
    {witness : Restriction → Expr}
    (each : ∀ value ∈ values, value.MentionsOnly (data.Spells code))
    (ofWitness : ∀ restriction ∈ constructor.restrictions,
      (witness restriction).MentionsOnly (data.Spells code)) :
    (data.constructWith constructor values witness).MentionsOnly (data.Spells code) := by
  rw [constructWith]
  split_ifs
  · exact Expr.mentionsOnly_unit.mpr spells_variantPath
  · exact Expr.mentionsOnly_construct.mpr
      ⟨spells_variantPath, mentionsOnly_fieldValues ofWitness _ each⟩

theorem mentionsOnly_constructed (listed : constructor ∈ data.constructors) :
    (data.constructed constructor).MentionsOnly (data.Spells toCode) := by
  refine mentionsOnly_constructWith (List.forall_mem_map.mpr fun field _ => ?_) ?_
  · rw [stored]
    split_ifs <;> simp
  · intro restriction restricts
    rw [Expr.mentionsOnly_share, Expr.mentionsOnly_identity]
    exact .type (.known (.restriction listed restricts))

theorem mentionsOnly_changingArm {holder : Holder} :
    (data.changingArm holder).MentionsOnly (data.Spells code) := by
  refine Arm.mentionsOnly_iff.mpr ⟨mentionsOnly_patternWith, mentionsOnly_constructWith ?_ ?_⟩
  · refine List.forall_mem_map.mpr fun numbered _ => ?_
    dsimp only
    rw [changedValue]
    split_ifs <;> simp
  · exact fun _ _ => Expr.mentionsOnly_bound

/-- A match over all constructors mentions their variants and what its arms mention. -/
theorem mentionsOnly_matchEach
    {result : Constructor → Expr}
    (each : ∀ constructor ∈ data.constructors,
      (result constructor).MentionsOnly (data.Spells code)) :
    (data.matchEach result).MentionsOnly (data.Spells code) := by
  refine Body.mentionsOnly_cases.mpr ⟨Expr.mentionsOnly_ident, ?_⟩
  exact List.forall_mem_map.mpr fun constructor listed =>
    Arm.mentionsOnly_iff.mpr ⟨mentionsOnly_patternWith, each constructor listed⟩

/-! ## Generic parameters -/

theorem mentions_of_mem_generics : ∀ generic ∈ data.generics, generic.mentions = [] :=
  List.forall_mem_map.mpr fun _ _ => rfl

theorem mentions_of_mem_matcherGenerics :
    ∀ generic ∈ data.matcherGenerics, generic.mentions = [] :=
  List.forall_mem_append.mpr ⟨mentions_of_mem_generics, List.forall_mem_singleton.mpr rfl⟩

theorem mentions_of_mem_boundGenerics (bound : String) :
    ∀ generic ∈ data.boundGenerics (.named bound), generic.mentions = [] := by
  rw [boundGenerics, generics, List.map_map, List.forall_mem_map]
  exact fun _ _ => Generic.mentions_plain_bound _ _

end DataType

theorem Constructor.mentions_of_mem_outerGenerics {constructor : Constructor} :
    ∀ generic ∈ constructor.outerGenerics, generic.mentions = [] :=
  List.forall_mem_map.mpr fun _ _ => rfl

theorem Constructor.mentions_of_mem_generics {constructor : Constructor} :
    ∀ generic ∈ constructor.generics, generic.mentions = [] := by
  rw [generics, List.forall_mem_map]
  intro name _
  split_ifs <;> simp [Bound.mentions, Bound.forEver]

namespace DataType

variable {data : DataType} {constructor : Constructor} {field : Field}

/-! ## Functions of one constructor -/

/-- The parameter of functions that take a value. -/
theorem spells_valueSlot {type : CodeType} (written : data.Writes toCode type) :
    data.Spells toCode (.type (valueSlot type).type) :=
  .type (.reference written)

section Constructors

variable (listed : constructor ∈ data.constructors)

include listed

theorem mentionsOnly_buildingFunction
    (declares : data.Declares)
    (receiver : Bool) :
    (data.buildingFunction receiver constructor).MentionsOnly (data.Spells toCode) := by
  refine FunctionItem.mentionsOnly_of_unbound Constructor.mentions_of_mem_generics ?_
    (.type (writes_resultCode listed)) ?_
  · refine List.forall_mem_map.mpr fun field among => .type ?_
    exact writes_fieldType listed (declares.isCaseField _ listed field among)
  · rintro body ⟨⟩
    exact Body.mentionsOnly_expression.mpr (mentionsOnly_constructed listed)

theorem mentionsOnly_caseMethod :
    (data.caseMethod constructor).MentionsOnly (data.Spells toCode) := by
  refine FunctionItem.mentionsOnly_of_unbound (List.forall_mem_nil _) ?_
    (.type writes_resultParam) ?_
  · exact List.forall_mem_map.mpr fun field among => .type (writes_borrowedType listed among)
  · rintro body ⟨⟩

theorem mentionsOnly_isFunction :
    (data.isFunction constructor).MentionsOnly (data.Spells toCode) := by
  refine FunctionItem.mentionsOnly_of_unbound Constructor.mentions_of_mem_outerGenerics
    (List.forall_mem_singleton.mpr (spells_valueSlot (writes_resultCode listed))) .bool ?_
  rintro body ⟨⟩
  exact Body.mentionsOnly_expression.mpr
    (Expr.mentionsOnly_matching.mpr ⟨Expr.mentionsOnly_ident, mentionsOnly_patternWith⟩)

theorem mentionsOnly_ifFunction :
    (data.ifFunction constructor).MentionsOnly (data.Spells toCode) := by
  refine FunctionItem.mentionsOnly_of_unbound ?_ (List.forall_mem_cons.mpr
    ⟨spells_valueSlot (writes_resultCode listed), ?_⟩) (.type (.option writes_resultParam)) ?_
  · exact List.forall_mem_append.mpr
      ⟨Constructor.mentions_of_mem_outerGenerics, List.forall_mem_singleton.mpr rfl⟩
  · refine List.forall_mem_singleton.mpr (.type (.implOnce ?_ writes_resultParam))
    exact List.forall_mem_map.mpr fun field among => writes_narrowedType listed among
  · rintro body ⟨⟩
    refine Body.mentionsOnly_cases.mpr
      ⟨Expr.mentionsOnly_ident, List.forall_mem_cons.mpr ⟨?_, ?_⟩⟩
    · refine Arm.mentionsOnly_iff.mpr ⟨mentionsOnly_patternWith, ?_⟩
      rw [Expr.mentionsOnly_present, Expr.mentionsOnly_call]
      exact ⟨Expr.mentionsOnly_ident, data.mentionsOnly_borrowedFields constructor _⟩
    · split_ifs <;> simp

theorem mentionsOnly_destructureFunction :
    (data.destructureFunction constructor).MentionsOnly (data.Spells toCode) := by
  refine FunctionItem.mentionsOnly_of_unbound Constructor.mentions_of_mem_outerGenerics
    (List.forall_mem_singleton.mpr (spells_valueSlot (writes_resultCode listed))) ?_ ?_
  · refine .type (.tuple (List.forall_mem_map.mpr fun field among => ?_))
    exact writes_narrowedType listed among
  · rintro body ⟨⟩
    exact Body.mentionsOnly_unpack.mpr ⟨mentionsOnly_patternWith, Expr.mentionsOnly_ident,
      data.mentionsOnly_borrowedFields constructor _⟩

end Constructors

/-! ## Functions of the data type -/

/-- A function with the generic parameters of a match spells what its handlers spell. -/
theorem mentionsOnly_of_matcherGenerics
    {item : FunctionItem}
    {others : List Slot}
    {result : Constructor → Expr}
    (generics : item.generics = data.matcherGenerics)
    (parameters : item.parameters = valueSlot data.selfCode :: others)
    (slots : ∀ slot ∈ others, data.Writes toCode slot.type)
    (returns : item.result = data.resultParam)
    (body : item.body = some (data.matchEach result))
    (each : ∀ constructor ∈ data.constructors,
      (result constructor).MentionsOnly (data.Spells toCode)) :
    item.MentionsOnly (data.Spells toCode) := by
  refine FunctionItem.mentionsOnly_of_unbound ?_ ?_ ?_ ?_
  · rw [generics]
    exact mentions_of_mem_matcherGenerics
  · rw [parameters]
    exact List.forall_mem_cons.mpr
      ⟨spells_valueSlot writes_selfCode, fun slot among => .type (slots slot among)⟩
  · rw [returns]
    exact .type writes_resultParam
  · rw [body]
    rintro _ ⟨⟩
    exact mentionsOnly_matchEach each

theorem mentionsOnly_acceptFunction :
    data.acceptFunction.MentionsOnly (data.Spells toCode) := by
  refine mentionsOnly_of_matcherGenerics rfl rfl (List.forall_mem_singleton.mpr ?_) rfl rfl
    fun constructor _ => ?_
  · exact .reference (.implTrait (List.forall_mem_map.mpr fun _ _ => .param _))
  · exact Expr.mentionsOnly_method.mpr
      ⟨Expr.mentionsOnly_ident, data.mentionsOnly_borrowedFields constructor _⟩

theorem mentionsOnly_matchFunction :
    data.matchFunction.MentionsOnly (data.Spells toCode) := by
  refine mentionsOnly_of_matcherGenerics rfl rfl (List.forall_mem_map.mpr ?_) rfl rfl
    fun constructor _ => ?_
  · refine fun constructor listed => .implOnce ?_ writes_resultParam
    exact List.forall_mem_map.mpr fun field among => writes_borrowedType listed among
  · exact Expr.mentionsOnly_call.mpr
      ⟨Expr.mentionsOnly_ident, data.mentionsOnly_borrowedFields constructor _⟩

theorem mentionsOnly_foldedField {holds : Mention → Prop} :
    (data.foldedField constructor field).MentionsOnly holds := by
  rw [foldedField]
  split_ifs
  · simp
  · exact mentionsOnly_borrowed

theorem mentionsOnly_foldFunction :
    data.foldFunction.MentionsOnly (data.Spells toCode) := by
  refine mentionsOnly_of_matcherGenerics rfl rfl (List.forall_mem_map.mpr ?_) rfl rfl
    fun constructor _ => ?_
  · refine fun constructor listed => .dynRef ?_ writes_resultParam
    exact List.forall_mem_map.mpr fun field among => writes_foldedType listed among
  · refine Expr.mentionsOnly_call.mpr ⟨Expr.mentionsOnly_ident, ?_⟩
    exact List.forall_mem_map.mpr fun _ _ => mentionsOnly_foldedField

section Accessed

variable {entry : FieldEntry} {first : Holder} (declares : data.Declares)
variable (held : first ∈ data.holders entry)

include declares held

theorem mentionsOnly_getter :
    ∀ item ∈ data.getter entry first (data.holders entry),
      item.MentionsOnly (data.Spells toCode) := by
  have ⟨listed, isArgument⟩ := mem_of_mem_holders held
  have type := writes_borrowedType listed (declares.isCaseField _ listed _ isArgument)
  refine List.forall_mem_singleton.mpr ?_
  refine FunctionItem.mentionsOnly_of_unbound mentions_of_mem_generics
    (List.forall_mem_singleton.mpr (spells_valueSlot writes_selfCode)) ?_ ?_
  · split_ifs
    · exact .type type
    · exact .type (.option type)
  · have pattern : (data.readPattern entry).MentionsOnly (data.Spells toCode) :=
      Pattern.mentionsOnly_oneOf.mpr (List.forall_mem_map.mpr fun _ _ =>
        Pattern.mentionsOnly_fields.mpr spells_variantPath)
    have value : (data.borrowed first.constructor first.field (entryName entry)).MentionsOnly
        (data.Spells toCode) := mentionsOnly_borrowed
    rintro body ⟨⟩
    refine Body.mentionsOnly_cases.mpr ⟨Expr.mentionsOnly_ident, ?_⟩
    split_ifs
    · exact List.forall_mem_singleton.mpr (Arm.mentionsOnly_iff.mpr ⟨pattern, value⟩)
    · refine List.forall_mem_cons.mpr ⟨Arm.mentionsOnly_iff.mpr ⟨pattern, ?_⟩, by simp⟩
      exact Expr.mentionsOnly_present.mpr value

theorem mentionsOnly_modifier :
    ∀ item ∈ data.modifier entry first (data.holders entry),
      item.MentionsOnly (data.Spells toCode) := by
  have ⟨listed, isArgument⟩ := mem_of_mem_holders held
  have type := writes_fieldType listed (declares.isCaseField _ listed _ isArgument)
  have unbound : ∀ generic ∈
      (if data.isRecursiveField first.field then data.boundGenerics (.named "Clone")
        else data.generics), generic.mentions = [] := by
    split_ifs
    · exact mentions_of_mem_boundGenerics _
    · exact mentions_of_mem_generics
  refine List.forall_mem_cons.mpr ⟨?_, List.forall_mem_singleton.mpr ?_⟩
  · refine FunctionItem.mentionsOnly_of_unbound unbound (List.forall_mem_cons.mpr
      ⟨.type writes_selfCode, List.forall_mem_singleton.mpr (.type type)⟩)
      (.type writes_selfCode) ?_
    rintro body ⟨⟩
    simp
  · refine FunctionItem.mentionsOnly_of_unbound unbound (List.forall_mem_cons.mpr
      ⟨.type writes_selfCode, List.forall_mem_singleton.mpr (.type ?_)⟩)
      (.type writes_selfCode) ?_
    · exact .implOnce (List.forall_mem_singleton.mpr type) type
    · rintro body ⟨⟩
      refine Body.mentionsOnly_cases.mpr ⟨Expr.mentionsOnly_ident, List.forall_mem_append.mpr
        ⟨List.forall_mem_map.mpr fun _ _ => mentionsOnly_changingArm, ?_⟩⟩
      split_ifs <;> simp

end Accessed

theorem mentionsOnly_lazyValue :
    ∀ item ∈ data.lazyValue.allFunctions, item.MentionsOnly (data.Spells toCode) := by
  refine List.forall_mem_singleton.mpr (FunctionItem.mentionsOnly_iff.mpr ⟨?_, ?_, ?_, ?_⟩)
  · refine List.forall_mem_append.mpr ⟨fun generic listed mention mentioned => ?_, ?_⟩
    · rw [mentions_of_mem_boundGenerics _ generic listed] at mentioned
      cases mentioned
    · refine List.forall_mem_singleton.mpr ?_
      rw [Generic.mentions_plain_bound]
      exact List.forall_mem_singleton.mpr (.type writes_selfCode)
  · exact List.forall_mem_singleton.mpr (.type (.param _))
  · exact .type (.lazyCell writes_selfCode)
  · rintro body ⟨⟩
    simp

/-! ## Derivations -/

theorem spells_of_mem_enumCode :
    ∀ mention ∈ data.enumCode.mentions, data.Spells toCode mention := by
  refine List.forall_mem_append.mpr ⟨List.forall_mem_flatMap.mpr ?_, List.forall_mem_nil _⟩
  refine List.forall_mem_singleton.mpr (List.forall_mem_flatMap.mpr ?_)
  refine List.forall_mem_map.mpr fun constructor listed => ?_
  refine List.forall_mem_map.mpr (List.forall_mem_map.mpr fun field among => ?_)
  exact .type (writes_storedType listed among)

/-- All types that a derivation mentions are put together from known ones. -/
theorem spells_of_mem_derive
    (declares : data.Declares)
    {request : Span}
    {derivation : Derivation} :
    ∀ mention ∈ (data.derive request derivation).mentions, data.Spells toCode mention := by
  have noFields :
      (data.derive request derivation).types.flatMap TypeItem.fieldMentions = [] := by
    rw [types_eq_addedTypes]
    cases derivation <;> rfl
  rw [CodeUnit.forall_mem_mentions_of_functions noFields (data.statics_derive request derivation)]
  cases derivation with
  | matcher =>
      rw [derive, allFunctions_matcherCode]
      exact List.forall_mem_cons.mpr ⟨mentionsOnly_acceptFunction, List.forall_mem_cons.mpr
        ⟨mentionsOnly_matchFunction, List.forall_mem_map.mpr fun _ => mentionsOnly_caseMethod⟩⟩
  | constructors =>
      rw [derive, constructorFunctions, CodeUnit.allFunctions_ofFunctions]
      exact List.forall_mem_map.mpr fun _ listed =>
        mentionsOnly_buildingFunction listed declares false
  | lazy => exact mentionsOnly_lazyValue
  | caseOf =>
      rw [derive, caseFunctions, CodeUnit.allFunctions_ofFunctions]
      exact List.forall_mem_flatMap.mpr fun constructor listed => List.forall_mem_cons.mpr
        ⟨mentionsOnly_isFunction listed, List.forall_mem_singleton.mpr
          (mentionsOnly_ifFunction listed)⟩
  | destructure =>
      rw [derive, forall_allFunctions_destructuring]
      exact fun _ _ => mentionsOnly_destructureFunction
  | getters =>
      exact forall_allFunctions_forFields_of_forall
        (fun _ _ => mentionsOnly_getter declares) request "getter"
  | modifiers =>
      exact forall_allFunctions_forFields_of_forall
        (fun _ _ => mentionsOnly_modifier declares) request "modifier"
  | catamorphism => exact List.forall_mem_singleton.mpr mentionsOnly_foldFunction
  | factory =>
      rw [derive, allFunctions_factory]
      exact List.forall_mem_map.mpr fun _ listed =>
        mentionsOnly_buildingFunction listed declares true

theorem spells_of_generate
    {request : Span}
    {derivations : List Derivation}
    {code : CodeUnit}
    (declares : data.Declares)
    (generated : data.generate request derivations = .ok code) :
    ∀ mention ∈ code.mentions, data.Spells toCode mention := by
  rw [eq_concat_of_generate generated]
  intro mention mentioned
  rcases CodeUnit.mem_mentions_concat.mp mentioned with ⟨unit, listed, mentioned⟩
  rcases List.mem_cons.mp listed with rfl | derived
  · exact spells_of_mem_enumCode mention mentioned
  · rcases List.mem_map.mp derived with ⟨derivation, -, rfl⟩
    exact spells_of_mem_derive declares mention mentioned

end DataType

end DataDerive
