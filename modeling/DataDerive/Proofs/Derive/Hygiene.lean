import DataDerive.Proofs.Code.References
import DataDerive.Proofs.Derive.Clashes
import DataDerive.Proofs.Derive.Scoping
import DataDerive.Proofs.Derive.Variants
import DataDerive.Proofs.Identifier

/-!
# Hygiene of derived functions

Derivations write names of the declaration next to fixed names of their own: type
parameters next to the parameter for the function that builds a lazy value, and
the fields that a pattern binds next to handlers, the cases, the function that
changes a field and the fold.  No name is looked at to keep them apart.  For each
derivation there is a condition on the names of the declaration under which the
generic parameters are distinct, one for the value parameters, and one under which
no arm binds a name that it needs from its surroundings; each is exact.
-/

namespace DataDerive

/-- The names to which a pattern binds the fields of a case. -/
def Constructor.spellings (constructor : Constructor) : List String :=
  constructor.caseFields.map Field.spelling

namespace DataType

/-! ## Arms for constructors -/

variable {data : DataType} {constructor : Constructor} {field : Field}

/-- The pattern for a constructor binds all fields of its case. -/
theorem boundNames_fieldPattern (data : DataType) (constructor : Constructor) :
    (data.fieldPattern constructor).boundNames = constructor.spellings := by
  have ofUnit (unit : constructor.isUnit = true) :
      (constructor.caseFields.map fun field => (field.spelling, field.spelling)) = [] :=
    List.map_eq_nil_iff.mpr (Constructor.caseFields_of_isUnit unit)
  rw [fieldPattern, boundNames_patternWith ofUnit, List.map_map]
  rfl

theorem hygienic_fieldPattern_iff {result : Expr} :
    Arm.Hygienic ⟨data.fieldPattern constructor, result⟩ ↔
      result.ResolvesIn constructor.spellings := by
  rw [Arm.Hygienic, boundNames_fieldPattern]

theorem hygienic_anything {name : String} : Arm.Hygienic ⟨.anything, .ident name⟩ :=
  Expr.resolvesIn_ident.mpr List.not_mem_nil

theorem resolvesIn_borrowed {binding : String} {names : List String} :
    (data.borrowed constructor field binding).ResolvesIn names ↔ binding ∈ names := by
  rw [borrowed]
  split
  next => exact Expr.resolvesIn_throughPointer.trans Expr.resolvesIn_bound
  next => exact Expr.resolvesIn_bound

theorem resolvesIn_borrowedFields (data : DataType) (constructor : Constructor) :
    ∀ value ∈ data.borrowedFields constructor, value.ResolvesIn constructor.spellings :=
  List.forall_mem_map.mpr fun _ among => resolvesIn_borrowed.mpr (List.mem_map_of_mem among)

/-- A handler that is given the fields is hidden by a field that is spelled like it. -/
theorem resolvesIn_call_borrowedFields {handler : String} :
    (Expr.call (.ident handler) (data.borrowedFields constructor)).ResolvesIn
        constructor.spellings ↔
      handler ∉ constructor.spellings := by
  rw [Expr.resolvesIn_call, Expr.resolvesIn_ident]
  exact and_iff_left (data.resolvesIn_borrowedFields constructor)

/-- No field is spelled with a capital letter. -/
theorem some_not_mem_spellings (constructor : Constructor) :
    "Some" ∉ constructor.spellings := by
  intro listed
  rcases List.mem_map.mp listed with ⟨field, -, same⟩
  exact Identifier.snakeName_ne_some field.name same

theorem forall_mem_arms_matchEach {result : Constructor → Expr} :
    (∀ arm ∈ (data.matchEach result).arms, arm.Hygienic) ↔
      ∀ constructor ∈ data.constructors,
        (result constructor).ResolvesIn constructor.spellings := by
  rw [matchEach, Body.arms, List.forall_mem_map]
  exact forall₂_congr fun _ _ => hygienic_fieldPattern_iff

theorem hygienic_acceptFunction_iff :
    (∀ arm ∈ data.acceptFunction.arms, arm.Hygienic) ↔
      ∀ constructor ∈ data.constructors, "cases" ∉ constructor.spellings := by
  refine forall_mem_arms_matchEach.trans (forall₂_congr fun constructor _ => ?_)
  rw [Expr.resolvesIn_method, Expr.resolvesIn_ident]
  exact and_iff_left (data.resolvesIn_borrowedFields constructor)

theorem hygienic_matchFunction_iff :
    (∀ arm ∈ data.matchFunction.arms, arm.Hygienic) ↔
      ∀ constructor ∈ data.constructors, constructor.handlerName ∉ constructor.spellings :=
  forall_mem_arms_matchEach.trans (forall₂_congr fun _ _ => resolvesIn_call_borrowedFields)

theorem hygienic_ifFunction_iff :
    (∀ arm ∈ (data.ifFunction constructor).arms, arm.Hygienic) ↔
      constructor.handlerName ∉ constructor.spellings := by
  have others : ∀ arm ∈ (if data.isSingleCase then [] else
      [(⟨.anything, .ident "None"⟩ : Arm)]), arm.Hygienic := by
    split
    next => exact List.forall_mem_nil _
    next => exact List.forall_mem_singleton.mpr hygienic_anything
  refine (List.forall_mem_cons.trans (and_iff_left others)).trans ?_
  rw [hygienic_fieldPattern_iff, Expr.present, Expr.resolvesIn_call, Expr.resolvesIn_ident,
    List.forall_mem_singleton, resolvesIn_call_borrowedFields]
  exact and_iff_right (some_not_mem_spellings constructor)

theorem hygienic_destructureFunction :
    ∀ arm ∈ (data.destructureFunction constructor).arms, arm.Hygienic := by
  refine List.forall_mem_singleton.mpr (hygienic_fieldPattern_iff.mpr ?_)
  exact Expr.resolvesIn_tuple.mpr (data.resolvesIn_borrowedFields constructor)

/-- What the fold needs from its surroundings in the arm for a constructor. -/
def FoldApart (data : DataType) (constructor : Constructor) : Prop :=
  constructor.handlerName ∉ constructor.spellings ∧
    ((∃ field ∈ constructor.caseFields, field.type = data.selfType) →
      data.foldName ∉ constructor.spellings ∧
        ∀ other ∈ data.constructors, other.handlerName ∉ constructor.spellings)

instance (data : DataType) (constructor : Constructor) : Decidable (data.FoldApart constructor) :=
  inferInstanceAs (Decidable (_ ∧ (_ → _ ∧ _)))

theorem resolvesIn_foldedField (among : field ∈ constructor.caseFields) :
    (data.foldedField constructor field).ResolvesIn constructor.spellings ↔
      (field.type = data.selfType → data.foldName ∉ constructor.spellings ∧
        ∀ other ∈ data.constructors, other.handlerName ∉ constructor.spellings) := by
  have bound : field.spelling ∈ constructor.spellings := List.mem_map_of_mem among
  rw [foldedField]
  split
  next self =>
    rw [Expr.resolvesIn_call, Expr.resolvesIn_ident, List.forall_mem_cons, List.forall_mem_map,
      Expr.resolvesIn_throughPointer, Expr.resolvesIn_bound]
    simp only [Expr.resolvesIn_ident, self, bound, true_and, true_imp_iff]
  next other => exact iff_of_true (resolvesIn_borrowed.mpr bound) fun self => absurd self other

theorem hygienic_foldFunction_iff :
    (∀ arm ∈ data.foldFunction.arms, arm.Hygienic) ↔
      ∀ constructor ∈ data.constructors, data.FoldApart constructor := by
  refine forall_mem_arms_matchEach.trans (forall₂_congr fun constructor _ => ?_)
  have fields : (∀ field ∈ constructor.caseFields,
        (data.foldedField constructor field).ResolvesIn constructor.spellings) ↔
      ∀ field ∈ constructor.caseFields, field.type = data.selfType →
        data.foldName ∉ constructor.spellings ∧
          ∀ other ∈ data.constructors, other.handlerName ∉ constructor.spellings :=
    forall₂_congr fun _ among => resolvesIn_foldedField among
  rw [Expr.resolvesIn_call, Expr.resolvesIn_ident, List.forall_mem_map, fields, FoldApart]
  simp only [forall_exists_index, and_imp]

/-! ## Arms for fields -/

section Accessed

variable {entry : FieldEntry} {first : Holder}

/-- The pattern of a getter binds the field of every holder to one name. -/
theorem mem_boundNames_oneOf {holders : List Holder} {binding name : String} :
    name ∈ (Pattern.oneOf (holders.map fun holder =>
        .fields (data.variantPath holder.constructor)
          [(holder.field.spelling, binding)])).boundNames ↔
      holders ≠ [] ∧ name = binding := by
  rw [Pattern.boundNames]
  induction holders with
  | nil => simp [Pattern.boundNamesAll]
  | cons holder rest ih =>
      rw [List.map_cons, Pattern.boundNamesAll, List.mem_append, ih]
      simp only [Pattern.boundNames, List.map_cons, List.map_nil, List.mem_singleton, ne_eq,
        reduceCtorEq, not_false_eq_true, true_and, or_iff_left_iff_imp, and_imp]
      exact fun _ same => same

/-- The pattern of a getter. -/
def readPattern (data : DataType) (entry : FieldEntry) : Pattern :=
  .oneOf ((data.holders entry).map fun holder =>
    .fields (data.variantPath holder.constructor) [(holder.field.spelling, entryName entry)])

theorem hygienic_getter (held : first ∈ data.holders entry) :
    ∀ item ∈ data.getter entry first (data.holders entry), ∀ arm ∈ item.arms, arm.Hygienic := by
  refine List.forall_mem_singleton.mpr ?_
  have reads : (data.borrowed first.constructor first.field (entryName entry)).ResolvesIn
      (data.readPattern entry).boundNames :=
    resolvesIn_borrowed.mpr (mem_boundNames_oneOf.mpr ⟨List.ne_nil_of_mem held, rfl⟩)
  have clear : "Some" ∉ (data.readPattern entry).boundNames :=
    fun bound => Identifier.snakeName_ne_some entry.name (mem_boundNames_oneOf.mp bound).2.symm
  change ∀ arm ∈ (if data.isTotal entry then _ else _ : List Arm), arm.Hygienic
  split
  next => exact List.forall_mem_singleton.mpr reads
  next =>
    refine List.forall_mem_cons.mpr ⟨?_, List.forall_mem_singleton.mpr hygienic_anything⟩
    exact Expr.resolvesIn_call.mpr
      ⟨Expr.resolvesIn_ident.mpr clear, List.forall_mem_singleton.mpr reads⟩

theorem getElem?_of_mem_holders (held : first ∈ data.holders entry) :
    first.constructor.arguments[first.position]? = some first.field := by
  rcases List.mem_filterMap.mp held with ⟨occurrence, -, found⟩
  rcases Option.bind_eq_some_iff.mp found with ⟨constructor, -, found⟩
  rcases Option.bind_eq_some_iff.mp found with ⟨field, isField, same⟩
  cases same
  exact isField

/-- A field that is changed needs the function that changes it. -/
theorem resolvesIn_updated {names : List String} (bound : field.spelling ∈ names) :
    (data.updated field).ResolvesIn names ↔ "update" ∉ names := by
  rw [updated]
  split <;> simp [bound]

theorem hygienic_changingArm_iff
    (laidOut : first.constructor.LaidOut)
    (held : first ∈ data.holders entry) :
    (data.changingArm first).Hygienic ↔ "update" ∉ first.constructor.spellings := by
  have found := getElem?_of_mem_holders held
  have among : first.field ∈ first.constructor.caseFields :=
    laidOut.interleaved.sublist.mem (List.mem_of_getElem? found)
  rw [changingArm_eq laidOut found, hygienic_fieldPattern_iff,
    variantOf_of_ne_nil (List.ne_nil_of_mem among), Expr.resolvesIn_construct, List.forall_mem_map]
  constructor
  · intro resolves
    have changed := resolves _ among
    rw [if_pos rfl] at changed
    exact (resolvesIn_updated (List.mem_map_of_mem among)).mp changed
  · intro clear field listed
    have bound : field.spelling ∈ first.constructor.spellings := List.mem_map_of_mem listed
    dsimp only
    split
    next => exact (resolvesIn_updated bound).mpr clear
    next => exact Expr.resolvesIn_bound.mpr bound

theorem hygienic_modifier_iff
    (laidOut : ∀ constructor ∈ data.constructors, constructor.LaidOut) :
    (∀ item ∈ data.modifier entry first (data.holders entry),
        ∀ arm ∈ item.arms, arm.Hygienic) ↔
      ∀ holder ∈ data.holders entry, "update" ∉ holder.constructor.spellings := by
  have others : ∀ arm ∈ (if data.isTotal entry then [] else
      [(⟨.ident "other", .bound "other"⟩ : Arm)]), arm.Hygienic := by
    split
    next => exact List.forall_mem_nil _
    next =>
      have bound : Arm.Hygienic ⟨.ident "other", .bound "other"⟩ :=
        Expr.resolvesIn_bound.mpr (List.mem_singleton_self _)
      exact List.forall_mem_singleton.mpr bound
  refine List.forall_mem_cons.trans ?_
  refine (and_iff_right (List.forall_mem_nil _)).trans (List.forall_mem_singleton.trans ?_)
  refine (List.forall_mem_append.trans (and_iff_left others)).trans ?_
  rw [List.forall_mem_map]
  refine forall₂_congr fun holder held => hygienic_changingArm_iff ?_ held
  exact laidOut _ (mem_of_mem_holders held).1

end Accessed

/-! ## Functions of derivations -/

section Derivations

variable {holds : FunctionItem → Prop}

/-- What holds of all functions for fields is a condition on the fields that are accessed. -/
theorem forall_allFunctions_forFields
    {functions : FieldEntry → Holder → List Holder → List FunctionItem}
    {condition : FieldEntry → Prop}
    (each : ∀ entry, ∀ first ∈ data.holders entry,
      (∀ item ∈ functions entry first (data.holders entry), holds item) ↔ condition entry)
    (request : Span)
    (what : String) :
    (∀ item ∈ (CodeUnit.concat
        (data.fieldIndex.map (data.forField request what functions))).allFunctions, holds item) ↔
      ∀ entry ∈ data.accessed, condition entry := by
  rw [CodeUnit.forall_mem_allFunctions_concat, List.forall_mem_map, accessed]
  simp only [List.mem_filter, and_imp]
  refine forall₂_congr fun entry _ => ?_
  rcases data.forField_cases request what functions entry with
    ⟨hidden, outcome⟩ | ⟨hidden, outcome⟩ | ⟨shown, first, held, outcome⟩
  · rw [outcome, hidden]
    exact iff_of_true (List.forall_mem_nil _) fun shown => absurd shown Bool.false_ne_true
  · rw [outcome, hidden]
    exact iff_of_true (List.forall_mem_nil _) fun shown => absurd shown Bool.false_ne_true
  · rw [outcome, CodeUnit.allFunctions_ofFunctions, each entry first held]
    exact (imp_iff_right shown).symm

/-- What holds of the functions for every field holds of all functions for fields. -/
theorem forall_allFunctions_forFields_of_forall
    {functions : FieldEntry → Holder → List Holder → List FunctionItem}
    (each : ∀ entry, ∀ first ∈ data.holders entry,
      ∀ item ∈ functions entry first (data.holders entry), holds item)
    (request : Span)
    (what : String) :
    ∀ item ∈ (CodeUnit.concat
      (data.fieldIndex.map (data.forField request what functions))).allFunctions, holds item := by
  have always (entry : FieldEntry) (first : Holder) (held : first ∈ data.holders entry) :
      (∀ item ∈ functions entry first (data.holders entry), holds item) ↔ True :=
    iff_of_true (each entry first held) trivial
  exact (forall_allFunctions_forFields always request what).mpr fun _ _ => trivial

theorem forall_allFunctions_destructuring (request : Span) :
    (∀ item ∈ (data.destructuring request).allFunctions, holds item) ↔
      (data.isSingleCase = true →
        ∀ constructor ∈ data.constructors, holds (data.destructureFunction constructor)) := by
  rw [destructuring, isSingleCase]
  split
  next constructor single =>
    rw [single, CodeUnit.allFunctions_ofFunctions, List.forall_mem_singleton,
      List.forall_mem_singleton]
    exact (imp_iff_right rfl).symm
  next several =>
    refine iff_of_true (List.forall_mem_nil _) fun single => ?_
    obtain ⟨constructor, same⟩ := List.length_eq_one_iff.mp (beq_iff_eq.mp single)
    exact absurd same (several constructor)

theorem allFunctions_matcherCode (data : DataType) :
    data.matcherCode.allFunctions =
      data.acceptFunction :: data.matchFunction :: data.constructors.map data.caseMethod :=
  congrArg (data.acceptFunction :: data.matchFunction :: ·) (List.append_nil _)

theorem allFunctions_factory (data : DataType) :
    data.factory.allFunctions = data.constructors.map (data.buildingFunction true) :=
  List.append_nil _

theorem statics_derive (request : Span) (derivation : Derivation) :
    (data.derive request derivation).statics = [] := by
  have forFields (functions : FieldEntry → Holder → List Holder → List FunctionItem)
      (what : String) :
      (CodeUnit.concat
        (data.fieldIndex.map (data.forField request what functions))).statics = [] := by
    rw [CodeUnit.statics_concat, List.flatMap_eq_nil_iff, List.forall_mem_map]
    intro entry _
    rcases data.forField_cases request what functions entry with
      ⟨-, outcome⟩ | ⟨-, outcome⟩ | ⟨-, first, -, outcome⟩ <;> rw [outcome] <;> rfl
  cases derivation with
  | getters => exact forFields data.getter "getter"
  | modifiers => exact forFields data.modifier "modifier"
  | destructure =>
      change (data.destructuring request).statics = []
      rcases data.destructuring_cases request with
        ⟨-, constructor, outcome⟩ | ⟨-, message, -, outcome⟩ <;> rw [outcome] <;> rfl
  | matcher | factory | constructors | lazy | caseOf | catamorphism => rfl

/-! ## Generic parameters -/

/-- What keeps the generic parameters of the functions of a derivation apart. -/
def GenericsApart (data : DataType) : Derivation → Prop
  | .matcher | .catamorphism => data.typeParams.Nodup
  | .lazy => "F" ∉ data.typeParams ∧ data.typeParams.Nodup
  | .constructors | .factory => ∀ constructor ∈ data.constructors, constructor.typeParams.Nodup
  | .caseOf => ∀ constructor ∈ data.constructors, constructor.outerParams.Nodup
  | .destructure =>
      data.isSingleCase = true → ∀ constructor ∈ data.constructors, constructor.outerParams.Nodup
  | .getters | .modifiers => ∀ entry ∈ data.accessed, data.typeParams.Nodup

instance (data : DataType) (derivation : Derivation) : Decidable (data.GenericsApart derivation) :=
  match derivation with
  | .matcher | .catamorphism => inferInstanceAs (Decidable (List.Nodup _))
  | .lazy => inferInstanceAs (Decidable (_ ∧ _))
  | .destructure => inferInstanceAs (Decidable (_ → _))
  | .constructors | .factory | .caseOf | .getters | .modifiers =>
      inferInstanceAs (Decidable (∀ _ ∈ _, List.Nodup _))

theorem nodup_append_singleton_iff {names : List String} {extra : String} :
    (names ++ [extra]).Nodup ↔ extra ∉ names ∧ names.Nodup :=
  (List.perm_append_singleton extra names).nodup_iff.trans List.nodup_cons

/-- The type parameters that a constructor does not bind are those of the model. -/
theorem WellFormed.mem_typeParams_of_mem_outerParams
    (wellFormed : data.WellFormed)
    (listed : constructor ∈ data.constructors)
    {name : String}
    (among : name ∈ constructor.outerParams) :
    name ∈ data.typeParams := by
  obtain ⟨known, notOwn⟩ := Constructor.mem_outerParams.mp among
  exact (((wellFormed.mem_typeParams_iff listed).mp known).resolve_right notOwn).1

theorem nodup_genericNames_derive_iff
    (wellFormed : data.WellFormed)
    (fresh : data.resultVar ∉ data.typeParams)
    (request : Span)
    (derivation : Derivation) :
    (∀ item ∈ (data.derive request derivation).allFunctions, item.genericNames.Nodup) ↔
      data.GenericsApart derivation := by
  have matching : (data.matcherGenerics.map Generic.name).Nodup ↔ data.typeParams.Nodup := by
    rw [map_name_matcherGenerics, matcherNames, nodup_append_singleton_iff]
    exact and_iff_right fresh
  have own (constructor : Constructor) :
      (constructor.generics.map Generic.name).Nodup ↔ constructor.typeParams.Nodup := by
    rw [constructor.map_name_generics]
  have plain (constructor : Constructor) :
      (constructor.outerGenerics.map Generic.name).Nodup ↔ constructor.outerParams.Nodup := by
    rw [constructor.map_name_outerGenerics]
  cases derivation with
  | matcher =>
      have methods : ∀ item ∈ data.constructors.map data.caseMethod, item.genericNames.Nodup :=
        List.forall_mem_map.mpr fun _ _ => List.nodup_nil
      rw [derive, allFunctions_matcherCode, List.forall_mem_cons, List.forall_mem_cons,
        and_iff_left methods]
      exact (and_congr matching matching).trans and_self_iff
  | constructors =>
      rw [derive, constructorFunctions, CodeUnit.allFunctions_ofFunctions, List.forall_mem_map]
      exact forall₂_congr fun constructor _ => own constructor
  | lazy =>
      rw [derive, lazyValue, GenericsApart, ← nodup_append_singleton_iff]
      refine List.forall_mem_singleton.trans ?_
      rw [FunctionItem.genericNames, List.map_append, map_name_boundGenerics]
      rfl
  | caseOf =>
      rw [derive, caseFunctions, CodeUnit.allFunctions_ofFunctions, List.forall_mem_flatMap]
      refine forall₂_congr fun constructor listed => ?_
      rw [List.forall_mem_cons, List.forall_mem_singleton, genericNames_isFunction,
        genericNames_ifFunction, nodup_append_singleton_iff]
      have notOuter : data.resultVar ∉ constructor.outerParams :=
        fun among => fresh (wellFormed.mem_typeParams_of_mem_outerParams listed among)
      exact ⟨And.left, fun distinct => ⟨distinct, notOuter, distinct⟩⟩
  | destructure =>
      rw [derive, forall_allFunctions_destructuring]
      refine imp_congr_right fun _ => forall₂_congr fun constructor _ => plain constructor
  | getters =>
      refine forall_allFunctions_forFields (fun entry first _ => ?_) request "getter"
      refine List.forall_mem_singleton.trans ?_
      rw [FunctionItem.genericNames, map_name_generics]
  | modifiers =>
      refine forall_allFunctions_forFields (fun entry first _ => ?_) request "modifier"
      have names : ((if data.isRecursiveField first.field then data.boundGenerics (.named "Clone")
          else data.generics).map Generic.name).Nodup ↔ data.typeParams.Nodup := by
        split <;> simp
      rw [modifier, List.forall_mem_cons, List.forall_mem_singleton]
      exact (and_congr names names).trans and_self_iff
  | catamorphism => exact List.forall_mem_singleton.trans matching
  | factory =>
      rw [derive, allFunctions_factory, List.forall_mem_map]
      exact forall₂_congr fun constructor _ => own constructor

/-! ## Value parameters -/

/-- What keeps the value parameters of the functions of a derivation apart. -/
def ParametersApart (data : DataType) : Derivation → Prop
  | .matcher =>
      KeepsApart Identifier.snakeCase (data.constructors.map Constructor.name) ∧
        ∀ constructor ∈ data.constructors,
          KeepsApart Identifier.snakeName (constructor.caseFields.map Field.name)
  | .constructors | .factory =>
      ∀ constructor ∈ data.constructors,
        KeepsApart Identifier.snakeName (constructor.arguments.map Field.name)
  | .catamorphism => KeepsApart Identifier.snakeCase (data.constructors.map Constructor.name)
  | _ => True

instance (data : DataType) (derivation : Derivation) :
    Decidable (data.ParametersApart derivation) :=
  match derivation with
  | .matcher => inferInstanceAs (Decidable (_ ∧ _))
  | .constructors | .factory => inferInstanceAs (Decidable (∀ _ ∈ _, KeepsApart _ _))
  | .catamorphism => inferInstanceAs (Decidable (KeepsApart _ _))
  | .lazy | .caseOf | .destructure | .getters | .modifiers => inferInstanceAs (Decidable True)

theorem value_ne_handlerName (constructor : Constructor) : "value" ≠ constructor.handlerName :=
  (by decide : Unlike "value" "on_").append_ne "" constructor.snake

/-- A value and the handlers of all cases. -/
theorem nodup_value_handlerNames_iff (names : (data.constructors.map Constructor.name).Nodup) :
    ("value" :: data.constructors.map Constructor.handlerName).Nodup ↔
      KeepsApart Identifier.snakeCase (data.constructors.map Constructor.name) := by
  have other : "value" ∉ data.constructors.map Constructor.handlerName := by
    intro listed
    rcases List.mem_map.mp listed with ⟨constructor, -, same⟩
    exact value_ne_handlerName constructor same.symm
  rw [List.nodup_cons, and_iff_right other, ← nodup_map_iff_keepsApart names, List.map_map]
  exact nodup_map_marked "on_" Constructor.snake data.constructors

theorem nodup_parameterNames_matchFunction_iff
    (names : (data.constructors.map Constructor.name).Nodup) :
    data.matchFunction.parameterNames.Nodup ↔
      KeepsApart Identifier.snakeCase (data.constructors.map Constructor.name) := by
  rw [← nodup_value_handlerNames_iff names, FunctionItem.parameterNames, matchFunction,
    List.map_cons, List.map_map]
  rfl

theorem nodup_parameterNames_foldFunction_iff
    (names : (data.constructors.map Constructor.name).Nodup) :
    data.foldFunction.parameterNames.Nodup ↔
      KeepsApart Identifier.snakeCase (data.constructors.map Constructor.name) := by
  rw [← nodup_value_handlerNames_iff names, FunctionItem.parameterNames, foldFunction,
    List.map_cons, List.map_map]
  rfl

theorem nodup_parameterNames_buildingFunction_iff (laidOut : constructor.LaidOut)
    (receiver : Bool) :
    (data.buildingFunction receiver constructor).parameterNames.Nodup ↔
      KeepsApart Identifier.snakeName (constructor.arguments.map Field.name) := by
  rw [← nodup_map_iff_keepsApart laidOut.nodup_argumentNames, List.map_map]
  change ((argumentSlots constructor).map Slot.name).Nodup ↔ _
  rw [argumentSlots, List.map_map]
  rfl

theorem nodup_parameterNames_caseMethod_iff (laidOut : constructor.LaidOut) :
    (data.caseMethod constructor).parameterNames.Nodup ↔
      KeepsApart Identifier.snakeName (constructor.caseFields.map Field.name) := by
  rw [← nodup_map_iff_keepsApart laidOut.distinct, List.map_map]
  change ((constructor.caseFields.map _).map Slot.name).Nodup ↔ _
  rw [List.map_map]
  rfl

theorem nodup_parameterNames_getter {entry : FieldEntry} {first : Holder} :
    ∀ item ∈ data.getter entry first (data.holders entry), item.parameterNames.Nodup :=
  List.forall_mem_singleton.mpr (List.nodup_singleton _)

theorem nodup_parameterNames_modifier {entry : FieldEntry} {first : Holder} :
    ∀ item ∈ data.modifier entry first (data.holders entry), item.parameterNames.Nodup := by
  have unlike : Unlike "value" "new_" := by decide
  refine List.forall_mem_cons.mpr ⟨?_, List.forall_mem_singleton.mpr ?_⟩
  · refine List.nodup_cons.mpr ⟨fun listed => ?_, List.nodup_singleton _⟩
    exact unlike.append_ne "" (entrySnake entry) (List.mem_singleton.mp listed)
  · change ["value", "update"].Nodup
    decide

theorem nodup_parameterNames_derive_iff
    (names : (data.constructors.map Constructor.name).Nodup)
    (laidOut : ∀ constructor ∈ data.constructors, constructor.LaidOut)
    (request : Span)
    (derivation : Derivation) :
    (∀ item ∈ (data.derive request derivation).allFunctions, item.parameterNames.Nodup) ↔
      data.ParametersApart derivation := by
  cases derivation with
  | matcher =>
      have accepts : data.acceptFunction.parameterNames.Nodup := by
        change ["value", "cases"].Nodup
        decide
      rw [derive, allFunctions_matcherCode, List.forall_mem_cons, List.forall_mem_cons,
        List.forall_mem_map, and_iff_right accepts, nodup_parameterNames_matchFunction_iff names]
      exact and_congr_right' (forall₂_congr fun constructor listed =>
        nodup_parameterNames_caseMethod_iff (laidOut constructor listed))
  | constructors =>
      rw [derive, constructorFunctions, CodeUnit.allFunctions_ofFunctions, List.forall_mem_map]
      exact forall₂_congr fun constructor listed =>
        nodup_parameterNames_buildingFunction_iff (laidOut constructor listed) false
  | lazy => exact iff_of_true (List.forall_mem_singleton.mpr (List.nodup_singleton _)) trivial
  | caseOf =>
      rw [derive, caseFunctions, CodeUnit.allFunctions_ofFunctions, List.forall_mem_flatMap]
      refine iff_of_true (fun constructor _ => List.forall_mem_cons.mpr ⟨?_, ?_⟩) trivial
      · exact List.nodup_singleton _
      · refine List.forall_mem_singleton.mpr (List.nodup_cons.mpr ⟨?_, List.nodup_singleton _⟩)
        exact fun listed => value_ne_handlerName constructor (List.mem_singleton.mp listed)
  | destructure =>
      rw [derive, forall_allFunctions_destructuring]
      exact iff_of_true (fun _ _ _ => List.nodup_singleton _) trivial
  | getters =>
      refine iff_of_true ?_ trivial
      exact forall_allFunctions_forFields_of_forall
        (fun _ _ _ => nodup_parameterNames_getter) request "getter"
  | modifiers =>
      refine iff_of_true ?_ trivial
      exact forall_allFunctions_forFields_of_forall
        (fun _ _ _ => nodup_parameterNames_modifier) request "modifier"
  | catamorphism =>
      exact List.forall_mem_singleton.trans (nodup_parameterNames_foldFunction_iff names)
  | factory =>
      rw [derive, allFunctions_factory, List.forall_mem_map]
      exact forall₂_congr fun constructor listed =>
        nodup_parameterNames_buildingFunction_iff (laidOut constructor listed) true

/-! ## Arms -/

/-- What keeps the arms in the functions of a derivation from hiding what they need. -/
def ArmsApart (data : DataType) : Derivation → Prop
  | .matcher => ∀ constructor ∈ data.constructors,
      "cases" ∉ constructor.spellings ∧ constructor.handlerName ∉ constructor.spellings
  | .caseOf => ∀ constructor ∈ data.constructors,
      constructor.handlerName ∉ constructor.spellings
  | .modifiers => ∀ entry ∈ data.accessed, ∀ holder ∈ data.holders entry,
      "update" ∉ holder.constructor.spellings
  | .catamorphism => ∀ constructor ∈ data.constructors, data.FoldApart constructor
  | _ => True

instance (data : DataType) (derivation : Derivation) : Decidable (data.ArmsApart derivation) :=
  match derivation with
  | .matcher | .caseOf | .catamorphism => inferInstanceAs (Decidable (∀ _ ∈ _, _))
  | .modifiers => inferInstanceAs (Decidable (∀ _ ∈ _, ∀ _ ∈ _, _))
  | .constructors | .lazy | .destructure | .getters | .factory =>
      inferInstanceAs (Decidable True)

theorem hygienic_derive_iff
    (laidOut : ∀ constructor ∈ data.constructors, constructor.LaidOut)
    (request : Span)
    (derivation : Derivation) :
    (∀ arm ∈ (data.derive request derivation).arms, arm.Hygienic) ↔
      data.ArmsApart derivation := by
  rw [CodeUnit.forall_mem_arms_of_functions (data.statics_derive request derivation)]
  have none {item : FunctionItem} (noArms : item.arms = []) :
      ∀ arm ∈ item.arms, arm.Hygienic := by
    rw [noArms]
    exact List.forall_mem_nil _
  cases derivation with
  | matcher =>
      have methods : ∀ item ∈ data.constructors.map data.caseMethod,
          ∀ arm ∈ item.arms, arm.Hygienic :=
        List.forall_mem_map.mpr fun _ _ => none rfl
      rw [derive, allFunctions_matcherCode, List.forall_mem_cons, List.forall_mem_cons,
        and_iff_left methods, hygienic_acceptFunction_iff, hygienic_matchFunction_iff, ArmsApart]
      simp only [forall_and]
  | constructors =>
      rw [derive, constructorFunctions, CodeUnit.allFunctions_ofFunctions, List.forall_mem_map]
      exact iff_of_true (fun _ _ => none rfl) trivial
  | lazy => exact iff_of_true (List.forall_mem_singleton.mpr (none rfl)) trivial
  | caseOf =>
      rw [derive, caseFunctions, CodeUnit.allFunctions_ofFunctions, List.forall_mem_flatMap]
      refine forall₂_congr fun constructor _ => ?_
      rw [List.forall_mem_cons, List.forall_mem_singleton, hygienic_ifFunction_iff]
      exact and_iff_right (none rfl)
  | destructure =>
      rw [derive, forall_allFunctions_destructuring]
      exact iff_of_true (fun _ _ _ => hygienic_destructureFunction) trivial
  | getters =>
      refine iff_of_true ?_ trivial
      exact forall_allFunctions_forFields_of_forall (fun _ _ => hygienic_getter) request "getter"
  | modifiers =>
      exact forall_allFunctions_forFields (fun _ _ _ => hygienic_modifier_iff laidOut) request
        "modifier"
  | catamorphism => exact List.forall_mem_singleton.trans hygienic_foldFunction_iff
  | factory =>
      rw [derive, allFunctions_factory, List.forall_mem_map]
      exact iff_of_true (fun _ _ => none rfl) trivial

end Derivations

/-! ## Modules -/

section Modules

variable {request : Span} {derivations : List Derivation} {code : CodeUnit}
variable (generated : data.generate request derivations = .ok code)

include generated

theorem forall_allFunctions_generate_iff {holds : FunctionItem → Prop} :
    (∀ item ∈ code.allFunctions, holds item) ↔
      ∀ derivation ∈ derivations,
        ∀ item ∈ (data.derive request derivation).allFunctions, holds item := by
  rw [eq_concat_of_generate generated, CodeUnit.forall_mem_allFunctions_concat,
    List.forall_mem_cons, List.forall_mem_map]
  simp only [mem_distinct]
  exact and_iff_right (List.forall_mem_nil _)

theorem forall_arms_generate_iff {holds : Arm → Prop} :
    (∀ arm ∈ code.arms, holds arm) ↔
      ∀ derivation ∈ derivations, ∀ arm ∈ (data.derive request derivation).arms, holds arm := by
  rw [eq_concat_of_generate generated, CodeUnit.forall_mem_arms_concat,
    List.forall_mem_cons, List.forall_mem_map]
  simp only [mem_distinct]
  exact and_iff_right (List.forall_mem_nil _)

end Modules

end DataType

end DataDerive
