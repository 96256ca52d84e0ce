import DataDerive.Proofs.ClassInstance.Scoping
import DataDerive.Proofs.Code.Paths
import DataDerive.Proofs.Derive.Outcomes

/-!
# Imports of generated modules

The imports of a module are read off the fields of its data type once, and the
types and bounds that need them are made by each derivation on its own.  Shared
pointers, lazy cells and statics are always imported where they are needed.  What
stands for values of unknown type is imported only for arguments: a constructor
with a type variable of its own is built by a function with that bound whether an
argument mentions the variable or not, and a witness may be stored as a value of
unknown type as well.
-/

namespace DataDerive

open CodeType

/-! ## Types -/

namespace TypeExpr

/-- No declared type is a function behind an owning pointer, so none is a lazy cell. -/
theorem isLazyCell_toCodeAll (name : String) (arguments : List TypeExpr) :
    isLazyCell name (toCodeAll arguments) = false := by
  rcases arguments with _ | ⟨first, _ | ⟨second, rest⟩⟩
  · rfl
  · rfl
  · cases second with
    | var name | arrow parameters result => cases rest <;> rfl
    | con head inner =>
        rw [toCodeAll, toCodeAll, toCode]
        split <;> cases rest <;> rfl

theorem anyContainsArrow_eq_any (types : List TypeExpr) :
    anyContainsArrow types = types.any containsArrow := by
  induction types with
  | nil => rfl
  | cons type rest ih => exact congrArg (type.containsArrow || ·) ih

/-- The code for a type needs shared pointers for the functions in it, and nothing else. -/
theorem needsOnly_toCode
    {allowed : String → Prop}
    {type : TypeExpr}
    (shared : type.containsArrow = true → allowed "std::rc::Rc") :
    type.toCode.NeedsOnly allowed := by
  induction type with
  | var name => exact needsOnly_param
  | compound type compound ih =>
      cases type with
      | var name => cases compound
      | con head arguments =>
          rw [containsArrow, anyContainsArrow_eq_any] at shared
          have each : ∀ item ∈ toCodeAll arguments, item.NeedsOnly allowed := by
            rw [toCodeAll_eq_map, List.forall_mem_map]
            exact fun type listed =>
              ih type listed fun arrow => shared (List.any_eq_true.mpr ⟨type, listed, arrow⟩)
          rw [toCode]
          split
          next => exact needsOnly_tuple.mpr each
          next => exact (needsOnly_named (isLazyCell_toCodeAll head arguments)).mpr each
      | arrow parameters result =>
          have pointer : allowed "std::rc::Rc" := shared rfl
          refine List.forall_mem_cons.mpr ⟨pointer, needsOnly_function.mpr ⟨?_, ?_⟩⟩
          · rw [toCodeAll_eq_map, List.forall_mem_map]
            exact fun type listed => ih type (List.mem_append_left _ listed) fun _ => pointer
          · exact ih result (List.mem_append_right _ (List.mem_singleton_self result))
              fun _ => pointer

end TypeExpr

open TypeExpr

/-! ## Fields -/

namespace DataType

/-- Some field of a case is shared: it is stored behind a pointer or has a function in it. -/
def Shares (data : DataType) : Prop :=
  ∃ constructor ∈ data.constructors, ∃ field ∈ constructor.caseFields,
    data.isRecursiveField field = true ∨ constructor.isErased field = true ∨
      field.type.containsArrow = true

/-- Some field of a case is stored as a value of unknown type. -/
def Erases (data : DataType) : Prop :=
  ∃ constructor ∈ data.constructors, ∃ field ∈ constructor.caseFields,
    constructor.isErased field = true

/-- Some argument of a constructor is stored as a value of unknown type. -/
def ErasesArgument (data : DataType) : Prop :=
  ∃ constructor ∈ data.constructors, ∃ field ∈ constructor.arguments,
    constructor.isErased field = true

/-- Some constructor has a type variable of its own. -/
def BindsVariables (data : DataType) : Prop :=
  ∃ constructor ∈ data.constructors, constructor.existentials ≠ []

/-- The paths that fields need, as they are stored or handed out. -/
inductive FieldPath (data : DataType) (path : String) : Prop where
  | shared (same : path = "std::rc::Rc") (shares : data.Shares)
  | unknown (same : path = "std::any::Any") (erases : data.Erases)

/-- The paths that the signatures of a derivation need. -/
inductive DerivedPath (data : DataType) (derivation : Derivation) (path : String) : Prop where
  | field (needed : data.FieldPath path)
  | lazyCell (same : path = "std::cell::LazyCell") (builds : derivation = .lazy)
  | unknown
      (same : path = "std::any::Any")
      (binds : data.BindsVariables)
      (builds : derivation = .constructors ∨ derivation = .factory)

variable {data : DataType} {constructor : Constructor} {field : Field}
variable {allowed : String → Prop}

theorem needsOnly_selfCode : data.selfCode.NeedsOnly allowed := by
  refine needsOnly_toCode fun arrow => ?_
  rw [selfType, containsArrow, anyContainsArrow_eq_any, List.any_map, List.any_eq_true] at arrow
  obtain ⟨name, -, impossible⟩ := arrow
  cases impossible

theorem needsOnly_resultParam : data.resultParam.NeedsOnly allowed :=
  needsOnly_param

section Fields

variable (listed : constructor ∈ data.constructors)

include listed

theorem shares_of_containsArrow
    (among : field ∈ constructor.caseFields)
    (arrow : field.type.containsArrow = true) :
    data.FieldPath "std::rc::Rc" :=
  .shared rfl ⟨constructor, listed, field, among, .inr (.inr arrow)⟩

theorem needsOnly_fieldType (among : field ∈ constructor.caseFields) :
    field.type.toCode.NeedsOnly data.FieldPath :=
  needsOnly_toCode (shares_of_containsArrow listed among)

theorem needsOnly_storedType (among : field ∈ constructor.caseFields) :
    (data.storedType constructor field).NeedsOnly data.FieldPath := by
  have type := needsOnly_fieldType listed among
  rw [storedType]
  split
  next erased =>
    have shares : data.Shares := ⟨constructor, listed, field, among, .inr (.inl erased)⟩
    have erases : data.Erases := ⟨constructor, listed, field, among, erased⟩
    exact List.forall_mem_cons.mpr
      ⟨.shared rfl shares, List.forall_mem_singleton.mpr (.unknown rfl erases)⟩
  next =>
    split
    next recursive =>
      have shares : data.Shares := ⟨constructor, listed, field, among, .inl recursive⟩
      exact List.forall_mem_cons.mpr ⟨.shared rfl shares, type⟩
    next => exact type

theorem needsOnly_borrowedType (among : field ∈ constructor.caseFields) :
    (data.borrowedType constructor field).NeedsOnly data.FieldPath := by
  rw [borrowedType]
  split
  next => exact needsOnly_fieldType listed among
  next => exact needsOnly_storedType listed among

end Fields

/-- What the constructors of a model promise to its imports. -/
structure Declares (data : DataType) : Prop where
  /-- Arguments are fields of the case. -/
  isCaseField : ∀ constructor ∈ data.constructors, ∀ field ∈ constructor.arguments,
    field ∈ constructor.caseFields
  /-- A witness is a function. -/
  witness : ∀ constructor ∈ data.constructors, ∀ restriction ∈ constructor.restrictions,
    restriction.witness ∈ constructor.caseFields ∧ restriction.witness.type.containsArrow = true
  /-- The functions that build a constructor know the type variables of its own. -/
  own : ∀ constructor ∈ data.constructors, ∀ name ∈ constructor.existentials,
    name ∈ constructor.typeParams

end DataType

/-- The constructors of a model that is built have what its imports rely on. -/
theorem Declaration.declares_of_toDataType
    {declaration : Declaration}
    {snapshot : Snapshot}
    {data : DataType}
    (built : declaration.toDataType snapshot = .ok data) :
    data.Declares := by
  have wellFormed := wellFormed_of_toDataType built
  constructor
  case isCaseField => exact fun constructor listed => (scopes_of_toDataType built listed).isCaseField
  case witness =>
    intro constructor listed restriction restricts
    rcases exists_declaredCases built with ⟨cases, -, same⟩
    rw [same] at listed
    rcases exists_of_mem_constructorsOf listed with ⟨index, case, -, rfl⟩
    refine ⟨witness_mem_caseFields restricts, ?_⟩
    rw [(mem_restrictions_iff.mp restricts).type_eq]
    rfl
  case own =>
    exact fun constructor listed name own => (wellFormed.mem_typeParams_iff listed).mpr (.inr own)

/-! ## Generic parameters -/

section Generics

variable {data : DataType} {constructor : Constructor}

/-- A function that builds a constructor bounds the type variables of the constructor's own. -/
theorem Constructor.eq_of_mem_neededPaths_generics
    {generic : Generic}
    (listed : generic ∈ constructor.generics)
    {path : String}
    (needed : path ∈ generic.neededPaths) :
    path = "std::any::Any" ∧ constructor.existentials ≠ [] := by
  rcases List.mem_map.mp listed with ⟨name, -, rfl⟩
  split at needed
  next own =>
    refine ⟨List.mem_singleton.mp needed, List.ne_nil_of_mem (List.contains_iff_mem.mp own)⟩
  next =>
    split at needed
    next => cases needed
    next => cases needed

theorem Constructor.mem_neededPaths_generics
    {name : String}
    (own : name ∈ constructor.existentials)
    (known : name ∈ constructor.typeParams) :
    ∃ generic ∈ constructor.generics, "std::any::Any" ∈ generic.neededPaths := by
  refine ⟨_, List.mem_map_of_mem known, ?_⟩
  rw [if_pos (List.contains_iff_mem.mpr own)]
  exact List.mem_singleton_self _

theorem Constructor.neededPaths_of_mem_outerGenerics :
    ∀ generic ∈ constructor.outerGenerics, generic.neededPaths = [] :=
  List.forall_mem_map.mpr fun _ _ => rfl

theorem DataType.neededPaths_of_mem_generics :
    ∀ generic ∈ data.generics, generic.neededPaths = [] :=
  List.forall_mem_map.mpr fun _ _ => rfl

theorem DataType.neededPaths_of_mem_matcherGenerics :
    ∀ generic ∈ data.matcherGenerics, generic.neededPaths = [] :=
  List.forall_mem_append.mpr
    ⟨DataType.neededPaths_of_mem_generics, List.forall_mem_singleton.mpr rfl⟩

theorem DataType.neededPaths_of_mem_boundGenerics {bound : String} (other : bound ≠ "Any") :
    ∀ generic ∈ data.boundGenerics (.named bound), generic.neededPaths = [] := by
  rw [boundGenerics, generics, List.map_map, List.forall_mem_map]
  intro name _
  rw [Function.comp_apply, Generic.neededPaths_plain_bound, Bound.neededPaths, if_neg other]

end Generics

namespace DataType

variable {data : DataType} {constructor : Constructor} {field : Field}

namespace Declares

variable (declares : data.Declares)

include declares

theorem shares_of_restriction
    (listed : constructor ∈ data.constructors)
    {restriction : Restriction}
    (restricts : restriction ∈ constructor.restrictions) :
    data.FieldPath "std::rc::Rc" :=
  have ⟨among, function⟩ := declares.witness constructor listed restriction restricts
  shares_of_containsArrow listed among function

theorem needsOnly_narrowedType
    (listed : constructor ∈ data.constructors)
    (among : field ∈ constructor.caseFields) :
    (data.narrowedType constructor field).NeedsOnly data.FieldPath := by
  rw [narrowedType]
  split
  next isWitness =>
    rcases Constructor.isWitness_iff.mp isWitness with ⟨restriction, restricts, -⟩
    exact needsOnly_toCode fun _ => declares.shares_of_restriction listed restricts
  next => exact needsOnly_borrowedType listed among

theorem needsOnly_resultCode (listed : constructor ∈ data.constructors) :
    (data.resultCode constructor).NeedsOnly data.FieldPath := by
  by_cases none : constructor.restrictions = []
  · have same : data.resultCode constructor = data.selfCode := by
      rw [resultCode, resultType, Constructor.narrow_of_apart, selfCode]
      rw [none]
      exact List.forall_mem_nil _
    rw [same]
    exact needsOnly_selfCode
  · obtain ⟨restriction, restricts⟩ := List.exists_mem_of_ne_nil _ none
    exact needsOnly_toCode fun _ => declares.shares_of_restriction listed restricts

/-! ## Functions of one constructor -/

theorem needsOnly_buildingFunction
    (listed : constructor ∈ data.constructors)
    (receiver : Bool) :
    (data.buildingFunction receiver constructor).NeedsOnly fun path =>
      data.FieldPath path ∨ path = "std::any::Any" ∧ data.BindsVariables := by
  refine FunctionItem.needsOnly_iff.mpr ⟨fun generic among path needed => ?_, ?_, ?_⟩
  · have ⟨same, binds⟩ := Constructor.eq_of_mem_neededPaths_generics among needed
    exact .inr ⟨same, constructor, listed, binds⟩
  · refine List.forall_mem_map.mpr fun field among path needed => .inl ?_
    exact needsOnly_fieldType listed (declares.isCaseField _ listed field among) path needed
  · exact fun path needed => .inl (declares.needsOnly_resultCode listed path needed)

theorem needsOnly_isFunction (listed : constructor ∈ data.constructors) :
    (data.isFunction constructor).NeedsOnly data.FieldPath :=
  FunctionItem.needsOnly_of_unbound Constructor.neededPaths_of_mem_outerGenerics
    (List.forall_mem_singleton.mpr (declares.needsOnly_resultCode listed))
    (List.forall_mem_nil _)

theorem needsOnly_ifFunction (listed : constructor ∈ data.constructors) :
    (data.ifFunction constructor).NeedsOnly data.FieldPath := by
  refine FunctionItem.needsOnly_of_unbound ?_ (List.forall_mem_cons.mpr ⟨?_, ?_⟩) ?_
  · exact List.forall_mem_append.mpr
      ⟨Constructor.neededPaths_of_mem_outerGenerics, List.forall_mem_singleton.mpr rfl⟩
  · exact declares.needsOnly_resultCode listed
  · refine List.forall_mem_singleton.mpr (needsOnly_implOnce.mpr ⟨?_, needsOnly_resultParam⟩)
    exact List.forall_mem_map.mpr fun _ among => declares.needsOnly_narrowedType listed among
  · exact (needsOnly_named rfl).mpr (List.forall_mem_singleton.mpr needsOnly_resultParam)

theorem needsOnly_destructureFunction (listed : constructor ∈ data.constructors) :
    (data.destructureFunction constructor).NeedsOnly data.FieldPath := by
  refine FunctionItem.needsOnly_of_unbound Constructor.neededPaths_of_mem_outerGenerics ?_ ?_
  · exact List.forall_mem_singleton.mpr (declares.needsOnly_resultCode listed)
  · refine needsOnly_tuple.mpr (List.forall_mem_map.mpr fun _ among => ?_)
    exact declares.needsOnly_narrowedType listed among

end Declares

/-! ## Functions of the data type -/

variable {allowed : String → Prop}

/-- A function with the generic parameters of a match needs what its handlers need. -/
theorem needsOnly_of_matcherGenerics
    {item : FunctionItem}
    {others : List Slot}
    (generics : item.generics = data.matcherGenerics)
    (parameters : item.parameters = valueSlot data.selfCode :: others)
    (slots : ∀ slot ∈ others, slot.type.NeedsOnly allowed)
    (result : item.result = data.resultParam) :
    item.NeedsOnly allowed := by
  refine FunctionItem.needsOnly_of_unbound ?_ ?_ ?_
  · rw [generics]
    exact neededPaths_of_mem_matcherGenerics
  · rw [parameters]
    exact List.forall_mem_cons.mpr ⟨needsOnly_selfCode, slots⟩
  · rw [result]
    exact needsOnly_resultParam

theorem needsOnly_acceptFunction : data.acceptFunction.NeedsOnly allowed := by
  refine needsOnly_of_matcherGenerics rfl rfl (List.forall_mem_singleton.mpr ?_) rfl
  refine needsOnly_reference.mpr (needsOnly_implTrait.mpr ?_)
  exact List.forall_mem_map.mpr fun _ _ => needsOnly_param

theorem needsOnly_matchFunction : data.matchFunction.NeedsOnly data.FieldPath := by
  refine needsOnly_of_matcherGenerics rfl rfl (List.forall_mem_map.mpr ?_) rfl
  intro constructor listed
  refine needsOnly_implOnce.mpr ⟨List.forall_mem_map.mpr ?_, needsOnly_resultParam⟩
  exact fun _ among => needsOnly_borrowedType listed among

theorem needsOnly_foldFunction : data.foldFunction.NeedsOnly data.FieldPath := by
  refine needsOnly_of_matcherGenerics rfl rfl (List.forall_mem_map.mpr ?_) rfl
  intro constructor listed
  refine needsOnly_dynRef.mpr ⟨List.forall_mem_map.mpr ?_, needsOnly_resultParam⟩
  intro field among
  rw [foldedType]
  split
  next => exact needsOnly_resultParam
  next => exact needsOnly_borrowedType listed among

section Accessed

variable {entry : FieldEntry} {first : Holder} (declares : data.Declares)
variable (held : first ∈ data.holders entry)

include declares held

theorem Declares.needsOnly_getter :
    ∀ item ∈ data.getter entry first (data.holders entry), item.NeedsOnly data.FieldPath := by
  have ⟨listed, isArgument⟩ := mem_of_mem_holders held
  have type := needsOnly_borrowedType listed (declares.isCaseField _ listed _ isArgument)
  refine List.forall_mem_singleton.mpr ?_
  refine FunctionItem.needsOnly_of_unbound neededPaths_of_mem_generics
    (List.forall_mem_singleton.mpr needsOnly_selfCode) ?_
  split
  next => exact type
  next => exact (needsOnly_named rfl).mpr (List.forall_mem_singleton.mpr type)

theorem Declares.needsOnly_modifier :
    ∀ item ∈ data.modifier entry first (data.holders entry), item.NeedsOnly data.FieldPath := by
  have ⟨listed, isArgument⟩ := mem_of_mem_holders held
  have type := needsOnly_fieldType listed (declares.isCaseField _ listed _ isArgument)
  have unbound : ∀ generic ∈
      (if data.isRecursiveField first.field then data.boundGenerics (.named "Clone")
        else data.generics), generic.neededPaths = [] := by
    split
    next => exact neededPaths_of_mem_boundGenerics (by decide)
    next => exact neededPaths_of_mem_generics
  refine List.forall_mem_cons.mpr ⟨?_, List.forall_mem_singleton.mpr ?_⟩
  · refine FunctionItem.needsOnly_of_unbound unbound ?_ needsOnly_selfCode
    exact List.forall_mem_cons.mpr ⟨needsOnly_selfCode, List.forall_mem_singleton.mpr type⟩
  · refine FunctionItem.needsOnly_of_unbound unbound ?_ needsOnly_selfCode
    refine List.forall_mem_cons.mpr ⟨needsOnly_selfCode, List.forall_mem_singleton.mpr ?_⟩
    exact needsOnly_implOnce.mpr ⟨List.forall_mem_singleton.mpr type, type⟩

end Accessed

/-! ## Derivations -/

theorem mem_imports_enumCode {path : String} :
    path ∈ data.enumCode.imports ↔
      path = "std::rc::Rc" ∧ data.Shares ∨ path = "std::any::Any" ∧ data.ErasesArgument := by
  have shares : (data.constructors.any fun constructor => constructor.caseFields.any fun field =>
      data.isRecursiveField field || constructor.isErased field || field.type.containsArrow) =
        true ↔ data.Shares := by
    simp only [List.any_eq_true, Bool.or_eq_true, or_assoc, Shares]
  have erases : (data.constructors.any fun constructor =>
      constructor.arguments.any constructor.isErased) = true ↔ data.ErasesArgument := by
    simp only [List.any_eq_true, ErasesArgument]
  rw [enumCode, CodeUnit.mem_imports_importing, CodeUnit.imports_ofType,
    or_iff_right List.not_mem_nil, storageImports, List.mem_append]
  rw [List.mem_ite_nil_right, List.mem_ite_nil_right, List.mem_singleton, List.mem_singleton]
  exact or_congr (and_comm.trans (and_congr_right' shares))
    (and_comm.trans (and_congr_right' erases))

theorem neededPaths_enumCode : data.enumCode.neededPaths =
    data.constructors.flatMap fun constructor =>
      constructor.caseFields.flatMap fun field =>
        (data.storedType constructor field).neededPaths := by
  have none : data.generics.flatMap Generic.neededPaths = [] :=
    List.flatMap_eq_nil_iff.mpr neededPaths_of_mem_generics
  rw [enumCode, CodeUnit.neededPaths_importing, CodeUnit.neededPaths_ofType,
    TypeItem.neededPaths, none, List.nil_append, List.flatMap_map]
  refine List.flatMap_congr fun constructor _ => ?_
  rw [storedFields, List.flatMap_map]

theorem fieldPath_of_mem_enumCode :
    ∀ path ∈ data.enumCode.neededPaths, data.FieldPath path := by
  rw [neededPaths_enumCode, List.forall_mem_flatMap]
  intro constructor listed
  exact List.forall_mem_flatMap.mpr fun field among => needsOnly_storedType listed among

theorem Erases.mem_neededPaths_enumCode (erases : data.Erases) :
    "std::any::Any" ∈ data.enumCode.neededPaths := by
  obtain ⟨constructor, listed, field, among, erased⟩ := erases
  rw [neededPaths_enumCode]
  refine List.mem_flatMap.mpr ⟨constructor, listed, List.mem_flatMap.mpr ⟨field, among, ?_⟩⟩
  rw [storedType, if_pos erased]
  exact List.mem_cons_of_mem _ (List.mem_singleton_self _)

theorem needsOnly_caseMethod (listed : constructor ∈ data.constructors) :
    (data.caseMethod constructor).NeedsOnly data.FieldPath :=
  FunctionItem.needsOnly_of_unbound (List.forall_mem_nil _)
    (List.forall_mem_map.mpr fun _ among => needsOnly_borrowedType listed among)
    needsOnly_resultParam

theorem fieldPath_of_mem_casesTrait :
    ∀ path ∈ data.casesTrait.neededPaths, data.FieldPath path := by
  have none : data.matcherGenerics.flatMap Generic.neededPaths = [] :=
    List.flatMap_eq_nil_iff.mpr neededPaths_of_mem_matcherGenerics
  rw [casesTrait, TypeItem.neededPaths, none, List.nil_append]
  refine List.forall_mem_flatMap.mpr (List.forall_mem_map.mpr ?_)
  exact fun constructor listed => needsOnly_caseMethod listed

theorem derivedPath_of_mem_lazyValue :
    ∀ path ∈ data.lazyValue.neededPaths, data.DerivedPath .lazy path := by
  have self : data.selfCode.NeedsOnly (data.DerivedPath .lazy) := needsOnly_selfCode
  refine List.forall_mem_flatMap.mpr (List.forall_mem_singleton.mpr ?_)
  refine FunctionItem.needsOnly_iff.mpr ⟨List.forall_mem_append.mpr ⟨?_, ?_⟩, ?_, ?_⟩
  · intro generic listed path needed
    rw [neededPaths_of_mem_boundGenerics (by decide) generic listed] at needed
    cases needed
  · refine List.forall_mem_singleton.mpr ?_
    rw [Generic.neededPaths_plain_bound]
    exact self
  · exact List.forall_mem_singleton.mpr needsOnly_param
  · refine List.forall_mem_cons.mpr ⟨.lazyCell rfl rfl, forall_mem_neededPathsAll.mpr ?_⟩
    refine List.forall_mem_cons.mpr ⟨self, List.forall_mem_singleton.mpr ?_⟩
    exact needsOnly_function.mpr ⟨List.forall_mem_nil _, self⟩

theorem imports_forFields
    (functions : FieldEntry → Holder → List Holder → List FunctionItem)
    (request : Span)
    (what : String)
    (path : String) :
    path ∉ (CodeUnit.concat
      (data.fieldIndex.map (data.forField request what functions))).imports := by
  rw [CodeUnit.mem_imports_concat]
  rintro ⟨unit, listed, imported⟩
  rcases List.mem_map.mp listed with ⟨entry, -, rfl⟩
  rcases data.forField_cases request what functions entry with
    ⟨-, outcome⟩ | ⟨-, outcome⟩ | ⟨-, first, -, outcome⟩ <;> rw [outcome] at imported <;>
    cases imported

/-- Of the derivations that of lazy values alone has imports. -/
theorem mem_imports_derive {request : Span} {derivation : Derivation} {path : String} :
    path ∈ (data.derive request derivation).imports ↔
      derivation = .lazy ∧ path = "std::cell::LazyCell" := by
  cases derivation with
  | lazy =>
      rw [derive, lazyValue, CodeUnit.mem_imports_importing, CodeUnit.imports_ofFunctions,
        or_iff_right List.not_mem_nil, List.mem_singleton]
      exact (and_iff_right rfl).symm
  | getters => exact iff_of_false (data.imports_forFields data.getter request "getter" path) (by simp)
  | modifiers =>
      exact iff_of_false (data.imports_forFields data.modifier request "modifier" path) (by simp)
  | destructure =>
      refine iff_of_false ?_ (by simp)
      change path ∉ (data.destructuring request).imports
      rcases data.destructuring_cases request with
        ⟨-, constructor, outcome⟩ | ⟨-, message, -, outcome⟩ <;> rw [outcome] <;>
        exact List.not_mem_nil
  | matcher | constructors | caseOf | catamorphism | factory =>
      exact iff_of_false List.not_mem_nil (by simp)

/-- Functions for fields need what their fields need. -/
theorem fieldPath_of_mem_forFields
    {functions : FieldEntry → Holder → List Holder → List FunctionItem}
    {request : Span}
    {what : String}
    (needs : ∀ entry, ∀ first ∈ data.holders entry,
      ∀ item ∈ functions entry first (data.holders entry), item.NeedsOnly data.FieldPath) :
    ∀ path ∈ (CodeUnit.concat
        (data.fieldIndex.map (data.forField request what functions))).neededPaths,
      data.FieldPath path := by
  intro path needed
  rcases CodeUnit.mem_neededPaths_concat.mp needed with ⟨unit, listed, needed⟩
  rcases List.mem_map.mp listed with ⟨entry, -, rfl⟩
  rcases data.forField_cases request what functions entry with
    ⟨-, outcome⟩ | ⟨-, outcome⟩ | ⟨-, first, held, outcome⟩ <;> rw [outcome] at needed
  · cases needed
  · cases needed
  · exact List.forall_mem_flatMap.mpr (needs entry first held) path needed

namespace Declares

variable (declares : data.Declares)

include declares

/-- Everything that a derivation needs is needed for a field or known to be its own. -/
theorem derivedPath_of_mem {request : Span} {derivation : Derivation} :
    ∀ path ∈ (data.derive request derivation).neededPaths, data.DerivedPath derivation path := by
  have ofFields {item : FunctionItem} (needs : item.NeedsOnly data.FieldPath) :
      ∀ path ∈ item.neededPaths, data.DerivedPath derivation path :=
    fun path needed => .field (needs path needed)
  -- Functions are looked at one by one, and the methods of a type as well.
  cases derivation with
  | matcher =>
      refine List.forall_mem_append.mpr
        ⟨List.forall_mem_flatMap.mpr ?_, List.forall_mem_flatMap.mpr ?_⟩
      · exact List.forall_mem_singleton.mpr fun path needed =>
          .field (fieldPath_of_mem_casesTrait path needed)
      · exact List.forall_mem_cons.mpr ⟨needsOnly_acceptFunction,
          List.forall_mem_singleton.mpr (ofFields needsOnly_matchFunction)⟩
  | constructors =>
      refine List.forall_mem_flatMap.mpr (List.forall_mem_map.mpr ?_)
      intro constructor listed path needed
      rcases declares.needsOnly_buildingFunction listed false path needed with
        ofField | ⟨same, binds⟩
      · exact .field ofField
      · exact .unknown same binds (.inl rfl)
  | lazy => exact derivedPath_of_mem_lazyValue
  | caseOf =>
      refine List.forall_mem_flatMap.mpr (List.forall_mem_flatMap.mpr fun constructor listed => ?_)
      exact List.forall_mem_cons.mpr ⟨ofFields (declares.needsOnly_isFunction listed),
        List.forall_mem_singleton.mpr (ofFields (declares.needsOnly_ifFunction listed))⟩
  | destructure =>
      rw [derive, destructuring]
      split
      next constructor single =>
        have listed : constructor ∈ data.constructors := by simp [single]
        exact List.forall_mem_flatMap.mpr (List.forall_mem_singleton.mpr
          (ofFields (declares.needsOnly_destructureFunction listed)))
      next => exact List.forall_mem_nil _
  | getters =>
      exact fun path needed => .field <|
        fieldPath_of_mem_forFields (fun _ _ held => declares.needsOnly_getter held) path needed
  | modifiers =>
      exact fun path needed => .field <|
        fieldPath_of_mem_forFields (fun _ _ held => declares.needsOnly_modifier held) path needed
  | catamorphism =>
      exact List.forall_mem_flatMap.mpr
        (List.forall_mem_singleton.mpr (ofFields needsOnly_foldFunction))
  | factory =>
      rw [derive, factory, CodeUnit.neededPaths_ofType]
      refine List.forall_mem_flatMap.mpr (List.forall_mem_map.mpr ?_)
      intro constructor listed path needed
      rcases declares.needsOnly_buildingFunction listed true path needed with
        ofField | ⟨same, binds⟩
      · exact .field ofField
      · exact .unknown same binds (.inr rfl)

/-- The bound of a type variable is needed wherever its constructor is built. -/
theorem mem_neededPaths_derive
    {request : Span}
    {derivation : Derivation}
    (binds : data.BindsVariables)
    (builds : derivation = .constructors ∨ derivation = .factory) :
    "std::any::Any" ∈ (data.derive request derivation).neededPaths := by
  obtain ⟨constructor, listed, nonempty⟩ := binds
  obtain ⟨name, own⟩ := List.exists_mem_of_ne_nil _ nonempty
  obtain ⟨generic, among, needed⟩ := Constructor.mem_neededPaths_generics own
    (declares.own constructor listed name own)
  have inFunction (receiver : Bool) :
      "std::any::Any" ∈ (data.buildingFunction receiver constructor).neededPaths :=
    List.mem_append_left _ (List.mem_flatMap.mpr ⟨generic, among, needed⟩)
  rcases builds with rfl | rfl
  · exact List.mem_flatMap.mpr ⟨_, List.mem_map_of_mem listed, inFunction false⟩
  · rw [derive, factory, CodeUnit.neededPaths_ofType]
    exact List.mem_flatMap.mpr ⟨_, List.mem_map_of_mem listed, inFunction true⟩

end Declares

/-! ## Modules -/

section Modules

variable {request : Span} {derivations : List Derivation} {code : CodeUnit}
variable (generated : data.generate request derivations = .ok code)

include generated

theorem mem_imports_of_generate {path : String} :
    path ∈ code.imports ↔
      (path = "std::rc::Rc" ∧ data.Shares ∨ path = "std::any::Any" ∧ data.ErasesArgument) ∨
        .lazy ∈ derivations ∧ path = "std::cell::LazyCell" := by
  rw [eq_concat_of_generate generated, CodeUnit.mem_imports_concat]
  simp only [List.mem_cons, List.mem_map, mem_distinct, exists_eq_or_imp,
    exists_exists_and_eq_and, mem_imports_enumCode, mem_imports_derive, ← and_assoc,
    exists_and_right]
  simp only [and_comm, exists_eq_left]

theorem mem_neededPaths_of_generate {path : String} :
    path ∈ code.neededPaths ↔
      path ∈ data.enumCode.neededPaths ∨
        ∃ derivation ∈ derivations, path ∈ (data.derive request derivation).neededPaths := by
  rw [eq_concat_of_generate generated, CodeUnit.mem_neededPaths_concat]
  simp only [List.mem_cons, List.mem_map, mem_distinct, exists_eq_or_imp,
    exists_exists_and_eq_and]

variable (declares : data.Declares)

include declares

theorem imported_of_mem_neededPaths
    {path : String}
    (needed : path ∈ code.neededPaths)
    (known : path ≠ "std::any::Any") :
    path ∈ code.imports := by
  have ofField (ofField : data.FieldPath path) : path ∈ code.imports := by
    cases ofField with
    | shared same shares =>
        exact (mem_imports_of_generate generated).mpr (.inl (.inl ⟨same, shares⟩))
    | unknown same => exact absurd same known
  rcases (mem_neededPaths_of_generate generated).mp needed with
    stored | ⟨derivation, asked, derived⟩
  · exact ofField (fieldPath_of_mem_enumCode path stored)
  · cases declares.derivedPath_of_mem path derived with
    | field needed => exact ofField needed
    | lazyCell same builds =>
        exact (mem_imports_of_generate generated).mpr (.inr ⟨builds ▸ asked, same⟩)
    | unknown same => exact absurd same known

theorem unknown_mem_neededPaths_iff :
    "std::any::Any" ∈ code.neededPaths ↔
      data.Erases ∨
        data.BindsVariables ∧ (.constructors ∈ derivations ∨ .factory ∈ derivations) := by
  have ofField (ofField : data.FieldPath "std::any::Any") : data.Erases := by
    cases ofField with
    | shared same => exact absurd same (by decide)
    | unknown _ erases => exact erases
  rw [mem_neededPaths_of_generate generated]
  constructor
  · rintro (stored | ⟨derivation, asked, derived⟩)
    · exact .inl (ofField (fieldPath_of_mem_enumCode _ stored))
    · cases declares.derivedPath_of_mem _ derived with
      | field needed => exact .inl (ofField needed)
      | lazyCell same => exact absurd same (by decide)
      | unknown _ binds builds =>
          rcases builds with rfl | rfl
          · exact .inr ⟨binds, .inl asked⟩
          · exact .inr ⟨binds, .inr asked⟩
  · rintro (erases | ⟨binds, asked | asked⟩)
    · exact .inl erases.mem_neededPaths_enumCode
    · exact .inr ⟨_, asked, declares.mem_neededPaths_derive binds (.inl rfl)⟩
    · exact .inr ⟨_, asked, declares.mem_neededPaths_derive binds (.inr rfl)⟩

end Modules

/-- Only a constructor with a type variable of its own stores a field as a value of unknown type. -/
theorem Erases.bindsVariables (erases : data.Erases) : data.BindsVariables := by
  obtain ⟨constructor, listed, field, -, erased⟩ := erases
  obtain ⟨name, own, -⟩ := List.any_eq_true.mp erased
  exact ⟨constructor, listed, List.ne_nil_of_mem own⟩

end DataType

/-! ## Instances -/

namespace InstanceRequest

variable {request : InstanceRequest} {path : String}

theorem imported_of_mem_item (naming : InstanceNaming) (body : Body) :
    ∀ path ∈ (request.item naming body).neededPaths,
      path = "std::sync::LazyLock" ∧ path ∈ (request.item naming body).imports := by
  rw [item]
  split
  next =>
    refine List.forall_mem_flatMap.mpr (List.forall_mem_singleton.mpr ?_)
    refine FunctionItem.needsOnly_of_unbound
      (DataType.neededPaths_of_mem_boundGenerics (by decide)) ?_ ?_
    · refine List.forall_mem_map.mpr fun parameter _ => (needsOnly_named rfl).mpr ?_
      exact List.forall_mem_singleton.mpr needsOnly_param
    · exact (needsOnly_named rfl).mpr (List.forall_mem_singleton.mpr DataType.needsOnly_selfCode)
  next =>
    refine List.forall_mem_append.mpr
      ⟨List.forall_mem_nil _, List.forall_mem_append.mpr ⟨?_, List.forall_mem_nil _⟩⟩
    refine List.forall_mem_flatMap.mpr (List.forall_mem_singleton.mpr ?_)
    refine List.forall_mem_cons.mpr ⟨⟨rfl, List.mem_singleton_self _⟩, ?_⟩
    exact (needsOnly_named rfl).mpr (List.forall_mem_singleton.mpr DataType.needsOnly_selfCode)

/-- An instance needs at most what a static is initialized with, and imports it. -/
theorem imported_of_generate
    {generator : InstanceGenerator}
    {unit : CodeUnit}
    (success : request.generate generator = .ok unit) :
    ∀ path ∈ unit.neededPaths, path = "std::sync::LazyLock" ∧ path ∈ unit.imports := by
  rcases generate_eq_ok_iff.mp success with ⟨found, -, -, rfl⟩
  intro path needed
  have ⟨lazyLock, imported⟩ := imported_of_mem_item (request.naming found) _ path needed
  exact ⟨lazyLock, CodeUnit.mem_imports_importing.mpr (.inl imported)⟩

end InstanceRequest

theorem DataType.imported_of_deriveInstances
    {data : DataType}
    {asking : Declaration}
    {searched : Snapshot}
    {registry : GeneratorRegistry}
    {unit : CodeUnit}
    (derived : data.deriveInstances asking searched registry = .ok unit) :
    ∀ path ∈ unit.neededPaths, path = "std::sync::LazyLock" ∧ path ∈ unit.imports := by
  rcases Derived.bind_eq_ok_iff.mp derived with ⟨units, each, same⟩
  cases same
  intro path needed
  rcases CodeUnit.mem_neededPaths_concat.mp needed with ⟨unit, listed, needed⟩
  rcases Derived.exists_of_mem_mapM each listed with ⟨item, -, one⟩
  dsimp only at one
  split at one
  next generator _ =>
    have ⟨lazyLock, imported⟩ := InstanceRequest.imported_of_generate one path needed
    exact ⟨lazyLock, CodeUnit.mem_imports_concat.mpr ⟨unit, listed, imported⟩⟩
  next => cases one

/-! ## Models -/

namespace Declaration

variable {declaration : Declaration} {snapshot : Snapshot} {data : DataType}

/-- Cases that are parameters of the matcher have no type variables of their own. -/
theorem not_bindsVariables_of_lambdas
    (built : declaration.toDataType snapshot = .ok data)
    (lambdas : data.encoding = .lambdas) :
    ¬ data.BindsVariables := by
  rcases toDataType_eq_ok_iff.mp built with
    ⟨matcher, resultVar, encoding, cases, -, -, reads, -, -, -, rfl⟩
  cases lambdas
  rintro ⟨constructor, listed, nonempty⟩
  exact nonempty (existentials_of_readCases reads _ (mem_constructorsOf_cases listed))

/--
A module with the code of a model and its instances imports everything that it
needs, except for the bound and the storage of values of unknown type.  These are
needed if a field is stored so, witnesses included, or if a constructor with a
type variable of its own gets a function that builds it.  They are imported if an
argument is stored so, or if the generator of an instance asks for them.  Nothing
is missing if the cases are parameters of the matcher.
-/
theorem needed_imports
    {declaration asking : Declaration}
    {snapshot searched : Snapshot}
    {registry : GeneratorRegistry}
    {data : DataType}
    {request : Span}
    {derivations : List Derivation}
    {code instances : CodeUnit}
    (built : declaration.toDataType snapshot = .ok data)
    (generated : data.generate request derivations = .ok code)
    (derived : data.deriveInstances asking searched registry = .ok instances) :
    let unit := code.append instances
    (∀ path ∈ unit.neededPaths, path ≠ "std::any::Any" → path ∈ unit.imports) ∧
    ("std::any::Any" ∈ unit.neededPaths ↔
      data.Erases ∨
        data.BindsVariables ∧ (.constructors ∈ derivations ∨ .factory ∈ derivations)) ∧
    ("std::any::Any" ∈ unit.imports ↔
      data.ErasesArgument ∨ "std::any::Any" ∈ instances.imports) ∧
    (data.encoding = .lambdas → ∀ path ∈ unit.neededPaths, path ∈ unit.imports) := by
  intro unit
  have declares := declares_of_toDataType built
  have others : ∀ path ∈ unit.neededPaths, path ≠ "std::any::Any" → path ∈ unit.imports := by
    intro path needed known
    refine CodeUnit.mem_imports_append.mpr ?_
    rcases CodeUnit.mem_neededPaths_append.mp needed with inCode | inInstances
    · exact .inl (DataType.imported_of_mem_neededPaths generated declares inCode known)
    · exact .inr (DataType.imported_of_deriveInstances derived path inInstances).2
  have unknown : "std::any::Any" ∈ unit.neededPaths ↔ "std::any::Any" ∈ code.neededPaths := by
    rw [CodeUnit.mem_neededPaths_append]
    refine or_iff_left fun inInstances => ?_
    exact absurd (DataType.imported_of_deriveInstances derived _ inInstances).1 (by decide)
  have needed := unknown.trans (DataType.unknown_mem_neededPaths_iff generated declares)
  refine ⟨others, needed, ?_, fun lambdas path inUnit => ?_⟩
  · rw [CodeUnit.mem_imports_append, DataType.mem_imports_of_generate generated]
    simp
  · refine others path inUnit ?_
    rintro rfl
    have none := not_bindsVariables_of_lambdas built lambdas
    rcases needed.mp inUnit with erases | ⟨binds, -⟩
    · exact none erases.bindsVariables
    · exact none binds

/-- Shapes whose cases are those of an interface. -/
def shape : Declaration where
  name := "Shape"
  span := ⟨1, 8⟩
  typeParams := []
  request := ⟨⟨9, 10⟩, none, [⟨"Eq", ⟨9, 10⟩⟩]⟩
  methods := [{
    name := "match"
    span := ⟨11, 16⟩
    typeParams := [⟨"R", ⟨17, 18⟩⟩]
    parameters := [⟨"cases", ⟨20, 25⟩, .con "ShapeCases" [.var "R"], []⟩]
    result := .var "R"
    isAbstract := true }]
  statics := []

/-- A dot has a type variable of its own, which none of its fields mentions. -/
def shapeCases : Interface where
  name := "ShapeCases"
  span := ⟨30, 40⟩
  typeParams := [⟨"X", ⟨40, 41⟩⟩]
  methods := [{
    name := "Dot"
    span := ⟨41, 44⟩
    typeParams := [⟨"T", ⟨45, 46⟩⟩]
    parameters := [⟨"size", ⟨47, 51⟩, .atom "i32", []⟩]
    result := .var "X"
    isAbstract := true }]

/-- Everything that is known about the shapes. -/
def shapeSnapshot : Snapshot :=
  { (default : Snapshot) with
    declarations := [shape]
    interfaces := [shapeCases]
    providers := [{
      name := "Numbers"
      span := ⟨60, 67⟩
      members := [.field "int_eq" ⟨68, 70⟩ (.con "Eq" [.atom "i32"])] }] }

/-- The model of shapes. -/
def shapeModel : DataType where
  name := "Shape"
  span := ⟨1, 8⟩
  typeParams := []
  constructors := [{
    name := "Dot"
    span := ⟨41, 44⟩
    index := 0
    arguments := [⟨"size", ⟨47, 51⟩, .atom "i32"⟩]
    restrictions := []
    existentials := ["T"]
    typeParams := ["T"] }]
  matcher := "match"
  resultVar := "R"
  encoding := .visitor "ShapeCases" "cases"

/-- The function that builds a dot has a bound that is not imported. -/
theorem needed_imports_shape :
    ∃ code instances,
      shape.toDataType shapeSnapshot = .ok shapeModel ∧
      shapeModel.generate ⟨9, 10⟩ [.constructors] = .ok code ∧
      shapeModel.deriveInstances shape shapeSnapshot .full = .ok instances ∧
      (∀ path ∈ (code.append instances).neededPaths,
        path ≠ "std::any::Any" → path ∈ (code.append instances).imports) ∧
      "std::any::Any" ∈ (code.append instances).neededPaths ∧
      "std::any::Any" ∉ (code.append instances).imports := by
  have built : shape.toDataType shapeSnapshot = .ok shapeModel := rfl
  obtain ⟨code, generated⟩ :
      ∃ code, shapeModel.generate ⟨9, 10⟩ [.constructors] = .ok code := ⟨_, rfl⟩
  obtain ⟨instances, derived, imports⟩ :
      ∃ instances, shapeModel.deriveInstances shape shapeSnapshot .full = .ok instances ∧
        instances.imports = ["std::sync::LazyLock"] := ⟨_, rfl, rfl⟩
  obtain ⟨others, needed, imported, -⟩ := needed_imports built generated derived
  have binds : shapeModel.BindsVariables := ⟨_, List.mem_singleton_self _, by decide⟩
  have stored : ¬ shapeModel.ErasesArgument := by
    unfold DataType.ErasesArgument
    decide
  refine ⟨code, instances, built, generated, derived, others, ?_, ?_⟩
  · exact needed.mpr (.inr ⟨binds, .inl (by decide)⟩)
  · rw [imported, imports]
    exact not_or.mpr ⟨stored, by decide⟩

end Declaration

end DataDerive
