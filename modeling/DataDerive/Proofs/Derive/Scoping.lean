import DataDerive.Derive.Generate
import DataDerive.Proofs.Code.Scope
import DataDerive.Proofs.Model.Witness

/-!
# Scopes in the code of a data type

Each kind of derived code pairs a list of generic parameters with types that are
mapped in a way of its own: as they are stored, handed out, or narrowed.  How a field
is stored depends on whether it is erased and on whether it is of the data type itself.
-/

namespace DataDerive

open TypeExpr

/-! ## Types -/

namespace TypeExpr

theorem toCodeAll_eq_map (types : List TypeExpr) : toCodeAll types = types.map toCode := by
  induction types with
  | nil => rw [toCodeAll, List.map_nil]
  | cons type rest ih => rw [toCodeAll, ih, List.map_cons]

/-- The type parameters of the code for a type are its variables. -/
@[simp]
theorem within_toCode {names : List String} {type : TypeExpr} :
    type.toCode.Within names ↔ ∀ name ∈ type.variableOccurrences, name ∈ names := by
  induction type with
  | var name => simp [toCode]
  | compound type compound ih =>
      cases type with
      | var name => cases compound
      | con head arguments =>
          have each : (∀ item ∈ toCodeAll arguments, item.Within names) ↔
              ∀ name ∈ (TypeExpr.con head arguments).variableOccurrences, name ∈ names := by
            rw [toCodeAll_eq_map, variableOccurrences_con, List.forall_mem_map,
              List.forall_mem_flatMap]
            exact forall₂_congr ih
          rw [toCode]
          split
          next => rw [CodeType.within_tuple, each]
          next => rw [CodeType.within_named, each]
      | arrow parameters result =>
          have outputs := ih result (List.mem_append_right _ (List.mem_singleton_self result))
          have inputs : (∀ item ∈ toCodeAll parameters, item.Within names) ↔
              ∀ name ∈ parameters.flatMap variableOccurrences, name ∈ names := by
            rw [toCodeAll_eq_map, List.forall_mem_map, List.forall_mem_flatMap]
            exact forall₂_congr fun type listed => ih type (List.mem_append_left _ listed)
          rw [toCode, CodeType.within_sharedFn, inputs, outputs, variableOccurrences_arrow,
            List.forall_mem_append]

end TypeExpr

/-! ## Constructors -/

/-- No constructor binds a type variable that has the name of a type parameter. -/
def DataType.Unshadowed (data : DataType) : Prop :=
  ∀ constructor ∈ data.constructors, ∀ name ∈ constructor.existentials, name ∉ data.typeParams

/-- The type parameters of a constructor that are not its own. -/
def Constructor.outerParams (constructor : Constructor) : List String :=
  constructor.typeParams.filter fun name => !constructor.existentials.contains name

/-- Which type variables occur where in a constructor of a data type. -/
structure DataType.Scopes (data : DataType) (constructor : Constructor) : Prop where
  /-- A field that is not stored as a value of unknown type is over the type parameters. -/
  field : ∀ field ∈ constructor.caseFields, constructor.isErased field = false →
    ∀ name ∈ field.type.variableOccurrences, name ∈ data.typeParams
  /-- An argument is over the type parameters of the constructor. -/
  argument : ∀ field ∈ constructor.arguments,
    ∀ name ∈ field.type.variableOccurrences, name ∈ constructor.typeParams
  /-- A field with the name of a witness is one, and is narrowed to outer type parameters. -/
  witness : ∀ field ∈ constructor.caseFields, constructor.isWitness field = true →
    ∀ name ∈ (constructor.narrow field.type).variableOccurrences,
      name ∈ constructor.outerParams
  /-- Every other field is an argument. -/
  other : ∀ field ∈ constructor.caseFields, constructor.isWitness field = false →
    field ∈ constructor.arguments
  isCaseField : ∀ field ∈ constructor.arguments, field ∈ constructor.caseFields
  /-- The result is over the type parameters of the constructor. -/
  result : ∀ name ∈ (data.resultType constructor).variableOccurrences,
    name ∈ constructor.typeParams ∧ name ∈ data.typeParams
  /-- A narrowed parameter is a type parameter of the data type. -/
  narrowed : ∀ restriction ∈ constructor.restrictions, restriction.parameter ∈ data.typeParams
  /-- A constructor keeps the type parameters that it does not narrow, besides its own. -/
  kept : ∀ name ∈ constructor.typeParams, name ∈ constructor.existentials ∨
    ∀ restriction ∈ constructor.restrictions, restriction.parameter ≠ name

namespace Interleaved

variable {position : Nat} {restrictions : List Restriction} {arguments fields : List Field}

theorem mem_arguments_or_witness
    (interleaved : Interleaved position restrictions arguments fields)
    {field : Field}
    (listed : field ∈ fields) :
    field ∈ arguments ∨ ∃ restriction ∈ restrictions, restriction.witness = field := by
  induction interleaved with
  | nil => cases listed
  | @witness restriction _ _ _ _ ih =>
      rcases List.mem_cons.mp listed with rfl | later
      · exact Or.inr ⟨restriction, List.mem_cons_self, rfl⟩
      · refine (ih later).imp_right ?_
        rintro ⟨other, among, same⟩
        exact ⟨other, List.mem_cons_of_mem _ among, same⟩
  | argument _ ih =>
      rcases List.mem_cons.mp listed with rfl | later
      · exact Or.inl List.mem_cons_self
      · exact (ih later).imp_left (List.mem_cons_of_mem _)

end Interleaved

namespace Constructor

variable {constructor : Constructor} {field : Field}

theorem isErased_eq_false_iff :
    constructor.isErased field = false ↔
      ∀ name ∈ field.type.variableOccurrences, name ∉ constructor.existentials := by
  rw [isErased, List.any_eq_false]
  simp only [mentions_iff, mem_freeVars]
  exact ⟨fun open_ name occurs own => open_ name own occurs,
    fun open_ name own occurs => open_ name occurs own⟩

theorem isWitness_iff :
    constructor.isWitness field = true ↔
      ∃ restriction ∈ constructor.restrictions, restriction.witness.name = field.name := by
  simp [isWitness]

@[simp]
theorem mem_outerParams {name : String} :
    name ∈ constructor.outerParams ↔
      name ∈ constructor.typeParams ∧ name ∉ constructor.existentials := by
  simp [outerParams]

/-- A constructor erases a field whose type mentions one of its own type variables. -/
def Erases (constructor : Constructor) (field : Field) : Prop :=
  ∃ own ∈ constructor.existentials, own ∈ field.type.freeVars

theorem isErased_eq_true_iff : constructor.isErased field = true ↔ constructor.Erases field := by
  simp only [isErased, List.any_eq_true, TypeExpr.mentions_iff, Erases]

end Constructor

/-! ## Fields of the data type itself -/

namespace DataType

variable {data : DataType} {field : Field}

/-- A field recurs if it is of the data type itself, with whatever arguments. -/
def Recurs (data : DataType) (field : Field) : Prop :=
  ∃ arguments, field.type = .con data.name arguments

theorem isRecursiveField_iff : data.isRecursiveField field = true ↔ data.Recurs field := by
  rw [isRecursiveField, beq_iff_eq, Recurs]
  cases field.type with
  | con name arguments => simp [head?]
  | var | arrow => simp [head?]

end DataType

namespace Declaration

variable {declaration : Declaration} {snapshot : Snapshot} {data : DataType}

/-- Every constructor of a model scopes its type variables. -/
theorem scopes_of_toDataType
    (built : declaration.toDataType snapshot = .ok data)
    {constructor : Constructor}
    (listed : constructor ∈ data.constructors) :
    data.Scopes constructor := by
  have wellFormed := wellFormed_of_toDataType built
  have names := typeParams_of_toDataType built
  rcases exists_declaredCases built with ⟨cases, -, same⟩
  have member := listed
  rw [same] at member
  rcases exists_of_mem_constructorsOf member with ⟨index, case, -, rfl⟩
  have consistent := narrowsConsistently wellFormed listed
  have parts := declaration.interleaved_toConstructor index case
  have inScope := wellFormed.inScope _ listed
  have isCaseField : ∀ field ∈ (declaration.toConstructor index case).arguments,
      field ∈ (declaration.toConstructor index case).caseFields := by
    intro field among
    rcases parts.exists_of_mem_arguments among with ⟨offset, found, -⟩
    rw [caseFields_toConstructor]
    exact List.mem_of_getElem? found
  constructor
  case field =>
    intro field among stored name occurs
    rcases inScope field among name (mem_freeVars.mpr occurs) with declared | own
    · exact declared
    · exact absurd own (Constructor.isErased_eq_false_iff.mp stored name occurs)
  case argument =>
    intro field among name occurs
    rw [wellFormed.mem_typeParams_iff listed]
    refine (inScope field (isCaseField field among) name (mem_freeVars.mpr occurs)).imp_left ?_
    intro declared
    refine ⟨declared, ?_⟩
    rintro restriction restricts rfl
    exact consistent.not_mem_arguments restriction restricts field among (mem_freeVars.mpr occurs)
  case witness =>
    intro field among isWitness name occurs
    rcases Constructor.isWitness_iff.mp isWitness with ⟨restriction, restricts, sameName⟩
    cases List.inj_on_of_nodup_map (wellFormed.nodup_fieldNames _ listed)
      (witness_mem_caseFields restricts) among sameName
    rw [consistent.narrow_witness restriction restricts] at occurs
    have inside : name ∈ restriction.type.freeVars := by simpa using occurs
    rw [Constructor.mem_outerParams, wellFormed.mem_typeParams_iff listed]
    refine ⟨Or.inl ⟨?_, ?_⟩, ?_⟩
    · exact mem_typeParams_of_restriction wellFormed listed restricts inside
    · rintro other restrictsOther rfl
      exact consistent.not_mem_types other restrictsOther restriction restricts inside
    · exact fun own => (mem_restrictions_iff.mp restricts).not_own name own inside
  case other =>
    intro field among isArgument
    rw [caseFields_toConstructor] at among
    refine (parts.mem_arguments_or_witness among).resolve_right ?_
    rintro ⟨restriction, restricts, rfl⟩
    rw [Constructor.isWitness_iff.mpr ⟨restriction, restricts, rfl⟩] at isArgument
    cases isArgument
  case isCaseField => exact isCaseField
  case result =>
    intro name occurs
    rcases consistent.resultType name (mem_freeVars.mpr occurs) with ⟨declared, -, kept⟩
    exact ⟨kept, declared⟩
  case narrowed =>
    intro restriction restricts
    rw [names]
    exact (mem_restrictions_iff.mp restricts).declared
  case kept =>
    intro name kept
    exact ((wellFormed.mem_typeParams_iff listed).mp kept).symm.imp_right And.right

end Declaration

/-! ## Generic parameters -/

namespace Constructor

variable (constructor : Constructor)

@[simp]
theorem map_name_generics : constructor.generics.map Generic.name = constructor.typeParams := by
  rw [generics, List.map_map]
  refine List.map_id'' (fun name => ?_) _
  rw [Function.comp_apply]
  split_ifs <;> simp [Generic.plain]

@[simp]
theorem map_name_outerGenerics :
    constructor.outerGenerics.map Generic.name = constructor.outerParams := by
  rw [outerGenerics, List.map_map]
  exact List.map_id _

theorem paramOccurrences_of_mem_generics :
    ∀ generic ∈ constructor.generics, generic.paramOccurrences = [] := by
  rw [generics, List.forall_mem_map]
  intro name _
  split_ifs <;> simp [Bound.paramOccurrences, Bound.forEver]

end Constructor

namespace DataType

variable {data : DataType} {constructor : Constructor} {field : Field} {names : List String}

@[simp]
theorem map_name_generics (data : DataType) : data.generics.map Generic.name = data.typeParams := by
  rw [generics, List.map_map]
  exact List.map_id _

@[simp]
theorem map_name_boundGenerics (data : DataType) (bound : Bound) :
    (data.boundGenerics bound).map Generic.name = data.typeParams := by
  rw [boundGenerics, generics, List.map_map, List.map_map]
  refine List.map_id'' (fun name => ?_) _
  simp [Generic.plain]

/-! ## Fields -/

theorem within_selfCode (covered : ∀ name ∈ data.typeParams, name ∈ names) :
    data.selfCode.Within names := by
  simpa [selfCode, selfType] using covered

theorem within_storedType
    (stored : constructor.isErased field = false →
      ∀ name ∈ field.type.variableOccurrences, name ∈ names) :
    (data.storedType constructor field).Within names := by
  rw [storedType]
  cases erased : constructor.isErased field with
  | true => simp
  | false =>
      rw [if_neg Bool.false_ne_true]
      split
      next => simpa using stored erased
      next => simpa using stored erased

theorem within_borrowedType
    (stored : constructor.isErased field = false →
      ∀ name ∈ field.type.variableOccurrences, name ∈ names) :
    (data.borrowedType constructor field).Within names := by
  rw [borrowedType]
  split
  next pointed =>
    have kept : constructor.isErased field = false := by
      simpa using (Bool.and_eq_true_iff.mp pointed).2
    simpa using stored kept
  next => simpa using within_storedType stored

namespace Scopes

variable (scopes : data.Scopes constructor)

include scopes

theorem within_resultCode : (data.resultCode constructor).Within constructor.typeParams :=
  within_toCode.mpr fun name occurs => (scopes.result name occurs).1

theorem within_resultCode_outer
    (unshadowed : ∀ name ∈ constructor.existentials, name ∉ data.typeParams) :
    (data.resultCode constructor).Within constructor.outerParams := by
  refine within_toCode.mpr fun name occurs => ?_
  rcases scopes.result name occurs with ⟨kept, declared⟩
  exact Constructor.mem_outerParams.mpr ⟨kept, fun own => unshadowed name own declared⟩

theorem within_narrowedType (among : field ∈ constructor.caseFields) :
    (data.narrowedType constructor field).Within constructor.outerParams := by
  rw [narrowedType]
  cases isWitness : constructor.isWitness field with
  | true => simpa using scopes.witness field among isWitness
  | false =>
      rw [if_neg Bool.false_ne_true]
      refine within_borrowedType fun stored name occurs => Constructor.mem_outerParams.mpr ?_
      exact ⟨scopes.argument field (scopes.other field among isWitness) name occurs,
        Constructor.isErased_eq_false_iff.mp stored name occurs⟩

end Scopes

theorem paramOccurrences_of_mem_generics :
    ∀ generic ∈ data.generics, generic.paramOccurrences = [] :=
  List.forall_mem_map.mpr fun _ _ => rfl

theorem paramOccurrences_of_mem_boundGenerics (bound : String) :
    ∀ generic ∈ data.boundGenerics (.named bound), generic.paramOccurrences = [] := by
  rw [boundGenerics, generics, List.map_map, List.forall_mem_map]
  intro name _
  simp [Bound.paramOccurrences]

/-! ## Functions of one constructor -/

@[simp]
theorem genericNames_buildingFunction (receiver : Bool) :
    (data.buildingFunction receiver constructor).genericNames = constructor.typeParams :=
  constructor.map_name_generics

@[simp]
theorem genericNames_isFunction :
    (data.isFunction constructor).genericNames = constructor.outerParams :=
  constructor.map_name_outerGenerics

@[simp]
theorem genericNames_destructureFunction :
    (data.destructureFunction constructor).genericNames = constructor.outerParams :=
  constructor.map_name_outerGenerics

@[simp]
theorem genericNames_ifFunction :
    (data.ifFunction constructor).genericNames = constructor.outerParams ++ [data.resultVar] := by
  rw [← constructor.map_name_outerGenerics]
  exact List.map_append

namespace Scopes

variable (scopes : data.Scopes constructor)

include scopes

theorem scopedIn_buildingFunction (receiver : Bool) :
    (data.buildingFunction receiver constructor).ScopedIn [] := by
  refine FunctionItem.scopedIn_of_unbound
    ((List.append_nil _).trans (genericNames_buildingFunction receiver))
    constructor.paramOccurrences_of_mem_generics ?_ scopes.within_resultCode
  exact List.forall_mem_map.mpr fun field among => within_toCode.mpr (scopes.argument field among)

variable (unshadowed : ∀ name ∈ constructor.existentials, name ∉ data.typeParams)

include unshadowed

theorem scopedIn_isFunction : (data.isFunction constructor).ScopedIn [] := by
  refine FunctionItem.scopedIn_of_unbound ((List.append_nil _).trans genericNames_isFunction)
    (List.forall_mem_map.mpr fun _ _ => rfl) ?_ (by simp [isFunction, CodeType.bool, CodeType.atom])
  refine List.forall_mem_singleton.mpr ?_
  exact CodeType.within_reference.mpr (scopes.within_resultCode_outer unshadowed)

theorem scopedIn_destructureFunction : (data.destructureFunction constructor).ScopedIn [] := by
  refine FunctionItem.scopedIn_of_unbound
    ((List.append_nil _).trans genericNames_destructureFunction)
    (List.forall_mem_map.mpr fun _ _ => rfl) ?_ ?_
  · refine List.forall_mem_singleton.mpr ?_
    exact CodeType.within_reference.mpr (scopes.within_resultCode_outer unshadowed)
  · refine CodeType.within_tuple.mpr (List.forall_mem_map.mpr fun field among => ?_)
    exact scopes.within_narrowedType among

theorem scopedIn_ifFunction : (data.ifFunction constructor).ScopedIn [] := by
  have more : ∀ name ∈ constructor.outerParams,
      name ∈ constructor.outerParams ++ [data.resultVar] :=
    fun _ => List.mem_append_left _
  have result : data.resultParam.Within (constructor.outerParams ++ [data.resultVar]) := by
    simp [resultParam]
  refine FunctionItem.scopedIn_of_unbound
    ((List.append_nil _).trans genericNames_ifFunction) ?_ ?_ ?_
  · exact List.forall_mem_append.mpr
      ⟨List.forall_mem_map.mpr fun _ _ => rfl, List.forall_mem_singleton.mpr rfl⟩
  · refine List.forall_mem_cons.mpr ⟨?_, List.forall_mem_singleton.mpr ?_⟩
    · exact CodeType.within_reference.mpr ((scopes.within_resultCode_outer unshadowed).mono more)
    · refine CodeType.within_implOnce.mpr ⟨List.forall_mem_map.mpr fun field among => ?_, result⟩
      exact (scopes.within_narrowedType among).mono more
  · exact CodeType.within_named.mpr (List.forall_mem_singleton.mpr result)

end Scopes

/-! ## Functions of the data type -/

section Matching

/-- The names in scope of the functions that match. -/
def matcherNames (data : DataType) : List String :=
  data.typeParams ++ [data.resultVar]

theorem map_name_matcherGenerics (data : DataType) :
    data.matcherGenerics.map Generic.name = data.matcherNames := by
  rw [matcherGenerics, List.map_append, map_name_generics]
  rfl

theorem paramOccurrences_of_mem_matcherGenerics :
    ∀ generic ∈ data.matcherGenerics, generic.paramOccurrences = [] :=
  List.forall_mem_append.mpr
    ⟨paramOccurrences_of_mem_generics, List.forall_mem_singleton.mpr rfl⟩

theorem mem_matcherNames : ∀ name ∈ data.typeParams, name ∈ data.matcherNames :=
  fun _ => List.mem_append_left _

theorem within_resultParam : data.resultParam.Within data.matcherNames := by
  simp [resultParam, matcherNames]

theorem within_valueSlot : (valueSlot data.selfCode).type.Within data.matcherNames :=
  CodeType.within_reference.mpr (within_selfCode mem_matcherNames)

/-- A function with the generic parameters of a match is scoped by its other parameters. -/
theorem scopedIn_of_matcherGenerics
    {item : FunctionItem}
    {others : List Slot}
    (generics : item.generics = data.matcherGenerics)
    (parameters : item.parameters = valueSlot data.selfCode :: others)
    (slots : ∀ slot ∈ others, slot.type.Within data.matcherNames)
    (result : item.result = data.resultParam) :
    item.ScopedIn [] := by
  have names : item.genericNames ++ [] = data.matcherNames := by
    rw [List.append_nil, FunctionItem.genericNames, generics, map_name_matcherGenerics]
  refine FunctionItem.scopedIn_of_unbound names ?_ ?_ ?_
  · rw [generics]
    exact paramOccurrences_of_mem_matcherGenerics
  · rw [parameters]
    exact List.forall_mem_cons.mpr ⟨within_valueSlot, slots⟩
  · rw [result]
    exact within_resultParam

variable (scopes : ∀ constructor ∈ data.constructors, data.Scopes constructor)

include scopes

theorem within_borrowedTypes
    (listed : constructor ∈ data.constructors)
    (among : field ∈ constructor.caseFields) :
    (data.borrowedType constructor field).Within data.matcherNames :=
  within_borrowedType fun stored name occurs =>
    mem_matcherNames name ((scopes constructor listed).field field among stored name occurs)

omit scopes in
theorem scopedIn_acceptFunction : data.acceptFunction.ScopedIn [] := by
  refine scopedIn_of_matcherGenerics rfl rfl (List.forall_mem_singleton.mpr ?_) rfl
  refine CodeType.within_reference.mpr (CodeType.within_implTrait.mpr ?_)
  refine List.forall_mem_map.mpr fun generic listed => CodeType.within_param.mpr ?_
  rw [← map_name_matcherGenerics]
  exact List.mem_map_of_mem listed

theorem scopedIn_matchFunction : data.matchFunction.ScopedIn [] := by
  refine scopedIn_of_matcherGenerics rfl rfl (List.forall_mem_map.mpr ?_) rfl
  intro constructor listed
  refine CodeType.within_implOnce.mpr ⟨List.forall_mem_map.mpr ?_, within_resultParam⟩
  exact fun field among => within_borrowedTypes scopes listed among

theorem scopedIn_foldFunction : data.foldFunction.ScopedIn [] := by
  refine scopedIn_of_matcherGenerics rfl rfl (List.forall_mem_map.mpr ?_) rfl
  intro constructor listed
  refine CodeType.within_dynRef.mpr ⟨List.forall_mem_map.mpr ?_, within_resultParam⟩
  intro field among
  rw [foldedType]
  split
  next => exact within_resultParam
  next => exact within_borrowedTypes scopes listed among

theorem wellScoped_casesTrait : data.casesTrait.WellScoped := by
  refine List.forall_mem_map.mpr fun constructor listed => ?_
  rw [map_name_matcherGenerics]
  refine FunctionItem.scopedIn_of_unbound rfl (List.forall_mem_nil _) ?_ within_resultParam
  exact List.forall_mem_map.mpr fun field among => within_borrowedTypes scopes listed among

end Matching

/-! ## Derivations -/

section Derivations

variable (scopes : ∀ constructor ∈ data.constructors, data.Scopes constructor)

include scopes

theorem wellScoped_matcherCode : data.matcherCode.WellScoped := by
  refine ⟨List.forall_mem_singleton.mpr (wellScoped_casesTrait scopes),
    List.forall_mem_nil _, ?_⟩
  exact List.forall_mem_cons.mpr
    ⟨scopedIn_acceptFunction,
      List.forall_mem_singleton.mpr (scopedIn_matchFunction scopes)⟩

theorem wellScoped_enumCode : data.enumCode.WellScoped := by
  refine CodeUnit.WellScoped.importing (CodeUnit.wellScoped_ofType ?_) _
  refine List.forall_mem_map.mpr fun constructor listed => ?_
  refine List.forall_mem_map.mpr fun field among => ?_
  rw [map_name_generics]
  exact within_storedType ((scopes constructor listed).field field among)

theorem wellScoped_constructorFunctions : data.constructorFunctions.WellScoped :=
  CodeUnit.wellScoped_ofFunctions (List.forall_mem_map.mpr fun constructor listed =>
    (scopes constructor listed).scopedIn_buildingFunction false)

theorem wellScoped_factory : data.factory.WellScoped :=
  CodeUnit.wellScoped_ofType ⟨List.forall_mem_nil _, List.forall_mem_map.mpr fun constructor listed =>
    (scopes constructor listed).scopedIn_buildingFunction true⟩

theorem wellScoped_catamorphism : data.catamorphism.WellScoped :=
  CodeUnit.wellScoped_ofFunctions (List.forall_mem_singleton.mpr (scopedIn_foldFunction scopes))

omit scopes in
theorem wellScoped_lazyValue : data.lazyValue.WellScoped := by
  have self : data.selfCode.Within (data.typeParams ++ ["F"]) :=
    within_selfCode fun _ => List.mem_append_left _
  refine (CodeUnit.wellScoped_ofFunctions (List.forall_mem_singleton.mpr ?_)).importing _
  rw [FunctionItem.scopedIn_iff]
  simp only [FunctionItem.genericNames, List.map_append, map_name_boundGenerics, List.append_nil]
  refine ⟨List.forall_mem_append.mpr ⟨?_, ?_⟩, ?_, ?_⟩
  · intro generic listed name occurs
    rw [paramOccurrences_of_mem_boundGenerics "'static" generic listed] at occurs
    cases occurs
  · refine List.forall_mem_singleton.mpr ?_
    rw [Generic.paramOccurrences_plain_bound]
    exact self
  · refine List.forall_mem_singleton.mpr (CodeType.within_param.mpr ?_)
    exact List.mem_append_right _ (List.mem_singleton_self _)
  · refine CodeType.within_named.mpr (List.forall_mem_cons.mpr ⟨self, ?_⟩)
    exact List.forall_mem_singleton.mpr (CodeType.within_boxedOnce.mpr
      ⟨List.forall_mem_nil _, self⟩)

omit scopes in
theorem mem_of_mem_holders
    {entry : FieldEntry}
    {holder : Holder}
    (listed : holder ∈ data.holders entry) :
    holder.constructor ∈ data.constructors ∧
      holder.field ∈ holder.constructor.arguments := by
  rcases List.mem_filterMap.mp listed with ⟨occurrence, -, found⟩
  rcases Option.bind_eq_some_iff.mp found with ⟨constructor, isConstructor, found⟩
  rcases Option.bind_eq_some_iff.mp found with ⟨field, isField, same⟩
  cases same
  exact ⟨List.mem_of_getElem? isConstructor, List.mem_of_getElem? isField⟩

theorem declared_of_mem_holders
    {entry : FieldEntry}
    {holder : Holder}
    (listed : holder ∈ data.holders entry)
    (stored : holder.constructor.isErased holder.field = false) :
    ∀ name ∈ holder.field.type.variableOccurrences, name ∈ data.typeParams := by
  rcases mem_of_mem_holders listed with ⟨isConstructor, isArgument⟩
  have constructor := scopes holder.constructor isConstructor
  exact constructor.field holder.field (constructor.isCaseField _ isArgument) stored

omit scopes in
/-- Only fields that are stored as they are have functions. -/
theorem wellScoped_forField
    {request : Span}
    {what : String}
    {functions : FieldEntry → Holder → List Holder → List FunctionItem}
    {entry : FieldEntry}
    (inside : ∀ first ∈ data.holders entry,
      first.constructor.isErased first.field = false →
        ∀ item ∈ functions entry first (data.holders entry), item.ScopedIn []) :
    (data.forField request what functions entry).WellScoped := by
  rw [forField]
  split
  next => exact CodeUnit.wellScoped_empty
  next stored =>
    split
    next => exact CodeUnit.wellScoped_ofWarning _
    next =>
      split
      next => exact CodeUnit.wellScoped_empty
      next first others found =>
        have listed : first ∈ data.holders entry := by simp [found]
        refine CodeUnit.wellScoped_ofFunctions (inside first listed ?_)
        rw [Bool.not_eq_true, List.any_eq_false] at stored
        simpa using stored first listed

theorem scopedIn_getter
    {entry : FieldEntry}
    {first : Holder}
    (listed : first ∈ data.holders entry) :
    ∀ item ∈ data.getter entry first (data.holders entry), item.ScopedIn [] := by
  have type : (data.borrowedType first.constructor first.field).Within data.typeParams :=
    within_borrowedType (declared_of_mem_holders scopes listed)
  refine List.forall_mem_singleton.mpr ?_
  refine FunctionItem.scopedIn_of_unbound ((List.append_nil _).trans data.map_name_generics)
    paramOccurrences_of_mem_generics ?_ ?_
  · refine List.forall_mem_singleton.mpr (CodeType.within_reference.mpr ?_)
    exact within_selfCode fun _ => id
  · split
    next => exact type
    next => exact CodeType.within_named.mpr (List.forall_mem_singleton.mpr type)

omit scopes in
/-- A function that changes a field of a value is scoped by what it takes besides the value. -/
theorem scopedIn_of_modifierGenerics
    {item : FunctionItem}
    {second : Slot}
    (generics : item.generics =
      if data.isRecursiveField field then data.boundGenerics (.named "Clone")
      else data.generics)
    (parameters : item.parameters = [⟨"value", data.selfCode⟩, second])
    (inside : second.type.Within data.typeParams)
    (result : item.result = data.selfCode) :
    item.ScopedIn [] := by
  have self : data.selfCode.Within data.typeParams := within_selfCode fun _ => id
  have names : item.genericNames ++ [] = data.typeParams := by
    rw [List.append_nil, FunctionItem.genericNames, generics]
    split <;> simp
  refine FunctionItem.scopedIn_of_unbound names ?_ ?_ ?_
  · rw [generics]
    split
    next => exact paramOccurrences_of_mem_boundGenerics "Clone"
    next => exact paramOccurrences_of_mem_generics
  · rw [parameters]
    exact List.forall_mem_cons.mpr ⟨self, List.forall_mem_singleton.mpr inside⟩
  · rw [result]
    exact self

theorem scopedIn_modifier
    {entry : FieldEntry}
    {first : Holder}
    (listed : first ∈ data.holders entry)
    (stored : first.constructor.isErased first.field = false) :
    ∀ item ∈ data.modifier entry first (data.holders entry), item.ScopedIn [] := by
  have type : first.field.type.toCode.Within data.typeParams :=
    within_toCode.mpr (declared_of_mem_holders scopes listed stored)
  refine List.forall_mem_cons.mpr ⟨?_, List.forall_mem_singleton.mpr ?_⟩
  · exact scopedIn_of_modifierGenerics rfl rfl type rfl
  · refine scopedIn_of_modifierGenerics rfl rfl (CodeType.within_implOnce.mpr ?_) rfl
    exact ⟨List.forall_mem_singleton.mpr type, type⟩

theorem wellScoped_getters (request : Span) : (data.getters request).WellScoped :=
  CodeUnit.wellScoped_concat (List.forall_mem_map.mpr fun _ _ =>
    wellScoped_forField fun _ listed _ => scopedIn_getter scopes listed)

theorem wellScoped_modifiers (request : Span) : (data.modifiers request).WellScoped :=
  CodeUnit.wellScoped_concat (List.forall_mem_map.mpr fun _ _ =>
    wellScoped_forField fun _ listed stored => scopedIn_modifier scopes listed stored)

variable (unshadowed : data.Unshadowed)

include unshadowed

theorem wellScoped_caseFunctions : data.caseFunctions.WellScoped := by
  refine CodeUnit.wellScoped_ofFunctions (List.forall_mem_flatMap.mpr fun constructor listed => ?_)
  exact List.forall_mem_cons.mpr
    ⟨(scopes constructor listed).scopedIn_isFunction (unshadowed constructor listed),
      List.forall_mem_singleton.mpr
        ((scopes constructor listed).scopedIn_ifFunction (unshadowed constructor listed))⟩

theorem wellScoped_destructuring (request : Span) : (data.destructuring request).WellScoped := by
  rw [destructuring]
  split
  next constructor single =>
    have listed : constructor ∈ data.constructors := by simp [single]
    refine CodeUnit.wellScoped_ofFunctions (List.forall_mem_singleton.mpr ?_)
    exact (scopes constructor listed).scopedIn_destructureFunction (unshadowed constructor listed)
  next => exact CodeUnit.wellScoped_ofWarning _

/-- Every derivation gives well scoped code if no constructor hides a type parameter. -/
theorem wellScoped_derive (request : Span) (derivation : Derivation) :
    (data.derive request derivation).WellScoped := by
  cases derivation with
  | matcher => exact wellScoped_matcherCode scopes
  | constructors => exact wellScoped_constructorFunctions scopes
  | lazy => exact wellScoped_lazyValue
  | caseOf => exact wellScoped_caseFunctions scopes unshadowed
  | destructure => exact wellScoped_destructuring scopes unshadowed request
  | getters => exact wellScoped_getters scopes request
  | modifiers => exact wellScoped_modifiers scopes request
  | catamorphism => exact wellScoped_catamorphism scopes
  | factory => exact wellScoped_factory scopes

theorem exists_generate
    (nonempty : data.constructors ≠ [])
    (request : Span)
    (derivations : List Derivation) :
    ∃ unit, data.generate request derivations = .ok unit ∧ unit.WellScoped := by
  have some : data.constructors.isEmpty = false := by simpa using nonempty
  rw [generate, some]
  refine ⟨_, rfl, CodeUnit.wellScoped_concat (List.forall_mem_cons.mpr ?_)⟩
  refine ⟨wellScoped_enumCode scopes, List.forall_mem_map.mpr fun derivation _ => ?_⟩
  exact wellScoped_derive scopes unshadowed request derivation

end Derivations

end DataType

end DataDerive
