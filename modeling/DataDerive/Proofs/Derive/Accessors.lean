import DataDerive.Proofs.Derive.Hygiene
import DataDerive.Proofs.Derive.Outcomes

/-!
# Accessors of fields

The index of fields is built by one pass over all arguments, and what is derived
for a name is decided by counting its occurrences.  In a model that is built the
names of the arguments of a constructor differ and a constructor stands at its
index, so the occurrences of a name are the constructors that have it, each with
the position of its argument there.  The functions that read and those that
change a field therefore agree on which constructors they treat, and both have a
last arm for the others exactly if there are others.
-/

namespace DataDerive

/-- If at most one member is kept, it is the first one found. -/
theorem filter_eq_toList_find? {α : Type} {keeps : α → Bool} {members : List α}
    (once : members.Pairwise fun first second => keeps first = true → keeps second = false) :
    members.filter keeps = (members.find? keeps).toList := by
  induction once with
  | nil => rfl
  | @cons first rest apart _ ih =>
      cases kept : keeps first with
      | false =>
          have other : ¬ keeps first = true := Bool.eq_false_iff.mp kept
          rw [List.filter_cons_of_neg other, List.find?_cons_of_neg other, ih]
      | true =>
          have none : rest.filter keeps = [] :=
            List.filter_eq_nil_iff.mpr fun member listed =>
              Bool.eq_false_iff.mp (apart member listed kept)
          rw [List.filter_cons_of_pos kept, List.find?_cons_of_pos kept, none]
          rfl

/-- An entry has a conflict exactly if two of its occurrences differ in type. -/
theorem FieldEntry.hasConflict_iff {entry : FieldEntry} :
    entry.hasConflict = true ↔
      ∃ occurrence ∈ entry.occurrences, ∃ other ∈ entry.occurrences,
        occurrence.type ≠ other.type := by
  rw [hasConflict]
  cases entry.occurrences with
  | nil => simp
  | cons first rest =>
      constructor
      · intro conflict
        rcases List.any_eq_true.mp conflict with ⟨occurrence, listed, differs⟩
        exact ⟨occurrence, List.mem_cons_of_mem _ listed, first, List.mem_cons_self,
          bne_iff_ne.mp differs⟩
      · rintro ⟨occurrence, listed, other, otherListed, differ⟩
        by_contra agree
        have same : ∀ member ∈ first :: rest, member.type = first.type := by
          refine List.forall_mem_cons.mpr ⟨rfl, fun member inRest => ?_⟩
          by_contra apart
          exact agree (List.any_eq_true.mpr ⟨member, inRest, bne_iff_ne.mpr apart⟩)
        exact differ ((same occurrence listed).trans (same other otherListed).symm)

namespace Constructor

/-- Whether an argument has a name. -/
def hasArgument (constructor : Constructor) (name : String) : Bool :=
  constructor.arguments.any fun field => field.name == name

/-- A constructor with its argument of a name. -/
def holder? (constructor : Constructor) (name : String) : Option DataType.Holder :=
  (constructor.arguments.zipIdx.find? fun argument => argument.1.name == name).map
    fun argument => ⟨constructor, argument.1, argument.2⟩

variable {constructor : Constructor} {name : String} {holder : DataType.Holder}

theorem holder?_spec (held : constructor.holder? name = some holder) :
    holder.constructor = constructor ∧
      constructor.arguments[holder.position]? = some holder.field ∧ holder.field.name = name := by
  rcases Option.map_eq_some_iff.mp held with ⟨⟨field, position⟩, found, rfl⟩
  have same := List.find?_some found
  rw [beq_iff_eq] at same
  exact ⟨rfl, List.mem_zipIdx_iff_getElem?.mp (List.mem_of_find?_eq_some found), same⟩

theorem isSome_holder? : (constructor.holder? name).isSome = constructor.hasArgument name := by
  rw [Bool.eq_iff_iff, holder?, Option.isSome_map, List.find?_isSome, hasArgument, List.any_eq_true]
  constructor
  · rintro ⟨⟨field, position⟩, listed, same⟩
    exact ⟨field, List.mem_of_getElem? (List.mem_zipIdx_iff_getElem?.mp listed), same⟩
  · rintro ⟨field, listed, same⟩
    rcases List.mem_iff_getElem?.mp listed with ⟨position, found⟩
    exact ⟨(field, position), List.mem_zipIdx_iff_getElem?.mpr found, same⟩

end Constructor

/-- A pattern matches the values of a variant. -/
inductive Pattern.Admits (path : VariantPath) : Pattern → Prop where
  | unit : Admits path (.unit path)
  | fields (bindings : List (String × String)) : Admits path (.fields path bindings)
  | oneOf {alternatives : List Pattern} {pattern : Pattern}
      (listed : pattern ∈ alternatives)
      (admits : Admits path pattern) :
      Admits path (.oneOf alternatives)
  | ident (name : String) : Admits path (.ident name)
  | anything : Admits path .anything

/-- The occurrence that a holder is. -/
def DataType.Holder.occurrence (holder : DataType.Holder) : FieldOccurrence :=
  ⟨holder.constructor.index, holder.position, holder.field.type⟩

/-- If names identify arguments, a name occurs in a constructor once or not at all. -/
theorem Constructor.occurrencesIn_filter {constructor : Constructor}
    (distinct : (constructor.arguments.map Field.name).Nodup)
    (name : String) :
    ((DataType.occurrencesIn constructor).filter (fun occurrence => occurrence.1 == name)).map
        Prod.snd =
      (constructor.holder? name).toList.map DataType.Holder.occurrence := by
  have once : constructor.arguments.zipIdx.Pairwise fun first second =>
      (first.1.name == name) = true → (second.1.name == name) = false := by
    have names : (constructor.arguments.zipIdx.map Prod.fst).Pairwise fun first second =>
        first.name ≠ second.name := by
      rw [List.zipIdx_map_fst]
      exact List.pairwise_map.mp distinct
    refine (List.pairwise_map.mp names).imp fun apart same => ?_
    rw [beq_iff_eq] at same
    rw [beq_eq_false_iff_ne, ← same]
    exact apart.symm
  rw [DataType.occurrencesIn, List.filter_map, List.map_map]
  have first := filter_eq_toList_find? once
  rw [Constructor.holder?, Option.toList_map, ← first, List.map_map]
  rfl

namespace DataType

variable {data : DataType} {name : String} {holder : Holder}

/-! ## Holders -/

/-- The names of arguments, each once. -/
def argumentNames (data : DataType) : List String :=
  distinct (data.constructors.flatMap fun constructor => constructor.arguments.map Field.name)

/-- The entry of a name in the index of fields. -/
def entryOf (data : DataType) (name : String) : FieldEntry :=
  ⟨name, (data.occurrences.filter fun occurrence => occurrence.1 == name).map Prod.snd⟩

/-- The constructors that have an argument of a name. -/
def holdersOf (data : DataType) (name : String) : List Holder :=
  data.constructors.filterMap fun constructor => constructor.holder? name

/-- Whether some constructor has no argument of a name. -/
def lacks (data : DataType) (name : String) : Bool :=
  data.constructors.any fun constructor => !constructor.hasArgument name

theorem fieldIndex_eq (data : DataType) :
    data.fieldIndex = data.argumentNames.map data.entryOf := by
  have names : data.occurrences.map Prod.fst =
      data.constructors.flatMap fun constructor => constructor.arguments.map Field.name := by
    rw [occurrences, List.map_flatMap]
    refine List.flatMap_congr fun constructor _ => ?_
    have fields := List.zipIdx_map_fst 0 constructor.arguments
    calc (occurrencesIn constructor).map Prod.fst
        = (constructor.arguments.zipIdx.map Prod.fst).map Field.name := by
          rw [occurrencesIn, List.map_map, List.map_map]
          rfl
      _ = constructor.arguments.map Field.name := by rw [fields]
  rw [fieldIndex, names]
  rfl

theorem map_constructor_holdersOf (data : DataType) (name : String) :
    (data.holdersOf name).map Holder.constructor =
      data.constructors.filter fun constructor => constructor.hasArgument name := by
  rw [holdersOf, List.map_filterMap, ← List.filterMap_eq_filter]
  refine List.filterMap_congr fun constructor _ => ?_
  rw [Option.guard, ← Constructor.isSome_holder?]
  cases held : constructor.holder? name with
  | none => rfl
  | some holder => exact congrArg some (Constructor.holder?_spec held).1

/-- The occurrences of a name are its holders. -/
theorem occurrences_entryOf
    (distinct : ∀ constructor ∈ data.constructors,
      (constructor.arguments.map Field.name).Nodup) :
    (data.entryOf name).occurrences = (data.holdersOf name).map Holder.occurrence := by
  rw [entryOf, occurrences, List.filter_flatMap, List.map_flatMap, holdersOf,
    List.filterMap_eq_flatMap_toList, List.map_flatMap]
  exact List.flatMap_congr fun constructor listed =>
    Constructor.occurrencesIn_filter (distinct constructor listed) name

theorem mem_holdersOf (held : holder ∈ data.holdersOf name) :
    holder.constructor ∈ data.constructors ∧
      holder.constructor.arguments[holder.position]? = some holder.field ∧
      holder.field.name = name := by
  rcases List.mem_filterMap.mp held with ⟨constructor, listed, found⟩
  rcases Constructor.holder?_spec found with ⟨rfl, placed, named⟩
  exact ⟨listed, placed, named⟩

/-- The holders that the occurrences of a name lead to are those that there are. -/
theorem holders_entryOf
    (wellFormed : data.WellFormed)
    (distinct : ∀ constructor ∈ data.constructors,
      (constructor.arguments.map Field.name).Nodup) :
    data.holders (data.entryOf name) = data.holdersOf name := by
  rw [holders, occurrences_entryOf distinct, List.filterMap_map]
  refine (List.filterMap_congr fun holder held => ?_).trans List.filterMap_some
  rcases mem_holdersOf held with ⟨listed, placed, -⟩
  rw [Function.comp_apply, Holder.occurrence, wellFormed.getElem?_index listed,
    Option.bind_eq_bind, Option.bind_some, placed]
  rfl

/-- Every argument of a name has a holder. -/
theorem exists_holder
    (distinct : ∀ constructor ∈ data.constructors,
      (constructor.arguments.map Field.name).Nodup)
    {constructor : Constructor}
    {field : Field}
    (listed : constructor ∈ data.constructors)
    (among : field ∈ constructor.arguments)
    (named : field.name = name) :
    ∃ holder ∈ data.holdersOf name,
      holder.constructor = constructor ∧ holder.field = field := by
  have has : (constructor.holder? name).isSome = true := by
    rw [Constructor.isSome_holder?, Constructor.hasArgument, List.any_eq_true]
    exact ⟨field, among, beq_iff_eq.mpr named⟩
  rcases Option.isSome_iff_exists.mp has with ⟨holder, found⟩
  rcases Constructor.holder?_spec found with ⟨same, placed, sameName⟩
  have one : holder.field = field :=
    List.inj_on_of_nodup_map (distinct constructor listed) (List.mem_of_getElem? placed) among
      (sameName.trans named.symm)
  exact ⟨holder, List.mem_filterMap.mpr ⟨constructor, listed, found⟩, same, one⟩

/-! ## The decision for a name -/

/-- Some constructor types its argument of a name by a type variable of its own. -/
def ErasesNamed (data : DataType) (name : String) : Prop :=
  ∃ constructor ∈ data.constructors, ∃ field ∈ constructor.arguments, field.name = name ∧
    ∃ own ∈ constructor.existentials, own ∈ field.type.freeVars

/-- Two constructors have arguments of a name and of different types. -/
def DisagreesOn (data : DataType) (name : String) : Prop :=
  ∃ constructor ∈ data.constructors, ∃ field ∈ constructor.arguments,
    ∃ other ∈ data.constructors, ∃ otherField ∈ other.arguments,
      field.name = name ∧ otherField.name = name ∧ field.type ≠ otherField.type

section Decisions

variable (distinct : ∀ constructor ∈ data.constructors,
  (constructor.arguments.map Field.name).Nodup)

include distinct

theorem any_isErased_holdersOf (name : String) :
    ((data.holdersOf name).any fun holder => holder.constructor.isErased holder.field) = true ↔
      data.ErasesNamed name := by
  simp only [List.any_eq_true, Constructor.isErased, TypeExpr.mentions_iff]
  constructor
  · rintro ⟨holder, held, own, isOwn, occurs⟩
    rcases mem_holdersOf held with ⟨listed, placed, named⟩
    exact ⟨_, listed, _, List.mem_of_getElem? placed, named, own, isOwn, occurs⟩
  · rintro ⟨constructor, listed, field, among, named, own, isOwn, occurs⟩
    rcases exists_holder distinct listed among named with ⟨holder, held, rfl, rfl⟩
    exact ⟨holder, held, own, isOwn, occurs⟩

theorem hasConflict_entryOf (name : String) :
    (data.entryOf name).hasConflict = true ↔ data.DisagreesOn name := by
  rw [FieldEntry.hasConflict_iff, occurrences_entryOf distinct]
  constructor
  · rintro ⟨_, isFirst, _, isSecond, differ⟩
    rcases List.mem_map.mp isFirst with ⟨holder, held, rfl⟩
    rcases List.mem_map.mp isSecond with ⟨other, otherHeld, rfl⟩
    rcases mem_holdersOf held with ⟨listed, placed, named⟩
    rcases mem_holdersOf otherHeld with ⟨otherListed, otherPlaced, otherNamed⟩
    exact ⟨_, listed, _, List.mem_of_getElem? placed, _, otherListed, _,
      List.mem_of_getElem? otherPlaced, named, otherNamed, differ⟩
  · rintro ⟨constructor, listed, field, among, other, otherListed, otherField, otherAmong, named,
      otherNamed, differ⟩
    rcases exists_holder distinct listed among named with ⟨holder, held, -, rfl⟩
    rcases exists_holder distinct otherListed otherAmong otherNamed with ⟨rival, rivalHeld, -, rfl⟩
    exact ⟨_, List.mem_map_of_mem held, _, List.mem_map_of_mem rivalHeld, differ⟩

/-- Counting occurrences tells whether every constructor has an argument of the name. -/
theorem isTotal_entryOf (name : String) :
    data.isTotal (data.entryOf name) = !data.lacks name := by
  have count : (data.entryOf name).occurrences.length =
      (data.constructors.filter fun constructor => constructor.hasArgument name).length := by
    rw [occurrences_entryOf distinct, List.length_map, ← map_constructor_holdersOf,
      List.length_map]
  rw [isTotal, count, Bool.eq_iff_iff, beq_iff_eq, List.length_filter_eq_length_iff, lacks,
    Bool.not_eq_true', List.any_eq_false]
  simp

end Decisions

/-! ## Matches over the holders of a name -/

/-- The pattern that reads the argument of a holder under the name of a field. -/
def readingPattern (data : DataType) (name : String) (holder : Holder) : Pattern :=
  .fields (data.variantPath holder.constructor)
    [(holder.field.spelling, Identifier.snakeName name)]

/--
A match treats the constructors that have an argument of a name by arms of their
own, and all others by a last arm, which is there exactly if there are others.
-/
structure Covers (data : DataType) (name : String) (own others : List Arm) : Prop where
  /-- The own arms match the holders and nothing else. -/
  own_iff : ∀ path, (∃ arm ∈ own, arm.pattern.Admits path) ↔
    ∃ holder ∈ data.holdersOf name, data.variantPath holder.constructor = path
  /-- There is a single last arm for everything, or none. -/
  others_iff : data.lacks name = false ∧ others = [] ∨
    data.lacks name = true ∧ ∃ arm, others = [arm] ∧ ∀ path, arm.pattern.Admits path
  /-- Every variant is matched. -/
  exhaustive : ∀ constructor ∈ data.constructors, ∃ arm ∈ own ++ others,
    arm.pattern.Admits (data.variantPath constructor)
  /--
  A last arm is there for a constructor that no own arm is made for.  As long as
  variants have names of their own, which an enum requires, none of them matches it.
  -/
  reached : others ≠ [] → ∃ constructor ∈ data.constructors,
    (∀ holder ∈ data.holdersOf name, holder.constructor ≠ constructor) ∧
      ((data.constructors.map Constructor.variantName).Nodup →
        ∀ arm ∈ own, ¬ arm.pattern.Admits (data.variantPath constructor))

/-- An arm builds a holder again from its bindings, changed at the position of the argument. -/
def ChangesAt (data : DataType) (holder : Holder) (arm : Arm) : Prop :=
  arm.pattern = data.fieldPattern holder.constructor ∧
    ∃ values, arm.result = data.rebuilt holder.constructor values ∧
      values.length = holder.constructor.arguments.length ∧
      ∀ index field, holder.constructor.arguments[index]? = some field →
        (values[index]? = some (.bound field.spelling) ↔ index ≠ holder.position)

theorem exists_holder_of_hasArgument {constructor : Constructor}
    (listed : constructor ∈ data.constructors)
    (has : constructor.hasArgument name = true) :
    ∃ holder ∈ data.holdersOf name, holder.constructor = constructor := by
  have among : constructor ∈ (data.holdersOf name).map Holder.constructor := by
    rw [map_constructor_holdersOf]
    exact List.mem_filter.mpr ⟨listed, has⟩
  exact List.mem_map.mp among

theorem hasArgument_of_mem_holdersOf (held : holder ∈ data.holdersOf name) :
    holder.constructor.hasArgument name = true := by
  have among := List.mem_map_of_mem (f := Holder.constructor) held
  rw [map_constructor_holdersOf] at among
  exact (List.mem_filter.mp among).2

/-- Own arms for the holders and a last arm for the others make up a match. -/
theorem covers_of_own_iff {own others : List Arm}
    (own_iff : ∀ path, (∃ arm ∈ own, arm.pattern.Admits path) ↔
      ∃ holder ∈ data.holdersOf name, data.variantPath holder.constructor = path)
    (others_iff : data.lacks name = false ∧ others = [] ∨
      data.lacks name = true ∧ ∃ arm, others = [arm] ∧ ∀ path, arm.pattern.Admits path) :
    data.Covers name own others where
  own_iff := own_iff
  others_iff := others_iff
  exhaustive := by
    intro constructor listed
    rcases others_iff with ⟨everywhere, rfl⟩ | ⟨-, last, rfl, always⟩
    · have has : constructor.hasArgument name = true := by
        simpa using List.any_eq_false.mp everywhere constructor listed
      rcases exists_holder_of_hasArgument listed has with ⟨holder, held, rfl⟩
      rcases (own_iff _).mpr ⟨holder, held, rfl⟩ with ⟨arm, isOwn, admits⟩
      exact ⟨arm, List.mem_append_left _ isOwn, admits⟩
    · exact ⟨last, List.mem_append_right _ (List.mem_singleton_self last), always _⟩
  reached := by
    intro some
    rcases others_iff with ⟨-, none⟩ | ⟨lacking, -⟩
    · exact absurd none some
    · rcases List.any_eq_true.mp lacking with ⟨constructor, listed, without⟩
      have notHeld : ∀ holder ∈ data.holdersOf name, holder.constructor ≠ constructor := by
        intro holder held same
        rw [← same, hasArgument_of_mem_holdersOf held] at without
        cases without
      refine ⟨constructor, listed, notHeld, fun distinct arm isOwn admits => ?_⟩
      rcases (own_iff _).mp ⟨arm, isOwn, admits⟩ with ⟨holder, held, same⟩
      exact notHeld holder held (List.inj_on_of_nodup_map distinct (mem_holdersOf held).1 listed
        (congrArg VariantPath.variant same))

/-- A pattern for a constructor matches its variant, whatever it binds. -/
theorem admits_patternWith_iff
    {constructor : Constructor}
    {bindings : List (String × String)}
    {path : VariantPath} :
    (data.patternWith constructor bindings).Admits path ↔ data.variantPath constructor = path := by
  rw [patternWith]
  constructor
  · intro admits
    split at admits
    next => cases admits; rfl
    next => cases admits; rfl
  · rintro rfl
    split
    next => exact .unit
    next => exact .fields _

theorem changesAt_changingArm (data : DataType) (holder : Holder) :
    data.ChangesAt holder (data.changingArm holder) := by
  refine ⟨rfl, _, rfl, by simp, fun index field placed => ?_⟩
  rw [List.getElem?_map, List.getElem?_zipIdx, placed, Option.map_some, Option.map_some,
    Option.some_inj, Nat.zero_add]
  dsimp only
  rw [changedValue]
  constructor
  · rintro unchanged rfl
    rw [if_neg (not_not.mpr rfl)] at unchanged
    split at unchanged
    next => cases unchanged
    next => cases unchanged
  · intro other
    rw [if_pos other]

/-! ## What is derived for a name -/

/-- Functions read an argument of a name, replace it and change it. -/
structure Accesses (data : DataType) (name : String) (get set modify : FunctionItem) : Prop where
  getName : get.name = "get_" ++ Identifier.snakeCase name
  setName : set.name = "set_" ++ Identifier.snakeCase name
  modifyName : modify.name = "modify_" ++ Identifier.snakeCase name
  /-- What is read may be missing exactly if some constructor has no such argument. -/
  optional : (∃ type, get.result = .option type) ↔ data.lacks name = true
  /-- There is a holder for each constructor that has the argument, in their order. -/
  constructors : (data.holdersOf name).map Holder.constructor =
    data.constructors.filter fun constructor => constructor.hasArgument name
  /-- A holder stands at the position of the argument. -/
  placed : ∀ holder ∈ data.holdersOf name,
    holder.constructor.arguments[holder.position]? = some holder.field ∧ holder.field.name = name
  /-- One arm reads, with a pattern for each holder. -/
  reads : ∃ value others, get.body = some (.cases (.ident "value")
      (⟨.oneOf ((data.holdersOf name).map (data.readingPattern name)), value⟩ :: others)) ∧
    data.Covers name [⟨.oneOf ((data.holdersOf name).map (data.readingPattern name)), value⟩] others
  /-- An arm for each holder changes. -/
  changes : ∃ others, modify.body = some (.cases (.ident "value")
      ((data.holdersOf name).map data.changingArm ++ others)) ∧
    data.Covers name ((data.holdersOf name).map data.changingArm) others
  changesAt : ∀ holder ∈ data.holdersOf name, data.ChangesAt holder (data.changingArm holder)

/-- The code to read and the code to change an argument of a name, in one of three cases. -/
inductive AccessorsFor (data : DataType) (name : String) : CodeUnit → CodeUnit → Prop where
  /-- An argument that is stored as a value of unknown type is not accessed. -/
  | nothing (erased : data.ErasesNamed name) : AccessorsFor data name .empty .empty
  /-- Arguments of different types are warned of. -/
  | warned {reading changing : Message}
      (stored : ¬ data.ErasesNamed name)
      (disagrees : data.DisagreesOn name)
      (readingCode : reading.code = .conflictingField)
      (changingCode : changing.code = .conflictingField) :
      AccessorsFor data name (.ofWarning reading) (.ofWarning changing)
  /-- All others are accessed. -/
  | accessed {get set modify : FunctionItem}
      (stored : ¬ data.ErasesNamed name)
      (agrees : ¬ data.DisagreesOn name)
      (accesses : data.Accesses name get set modify) :
      AccessorsFor data name (.ofFunctions [get]) (.ofFunctions [set, modify])

/-- The code that reads an argument of a name. -/
def gettersFor (data : DataType) (request : Span) (name : String) : CodeUnit :=
  data.forField request "getter" data.getter (data.entryOf name)

/-- The code that replaces and changes an argument of a name. -/
def modifiersFor (data : DataType) (request : Span) (name : String) : CodeUnit :=
  data.forField request "modifier" data.modifier (data.entryOf name)

theorem getters_eq_concat (data : DataType) (request : Span) :
    data.getters request = .concat (data.argumentNames.map (data.gettersFor request)) := by
  rw [getters, fieldIndex_eq, List.map_map]
  rfl

theorem modifiers_eq_concat (data : DataType) (request : Span) :
    data.modifiers request = .concat (data.argumentNames.map (data.modifiersFor request)) := by
  rw [modifiers, fieldIndex_eq, List.map_map]
  rfl

section Accessors

/-- What is handed out is borrowed, so it is not missing. -/
theorem borrowedType_ne_option {constructor : Constructor} {field : Field} {type : CodeType} :
    data.borrowedType constructor field ≠ .option type := by
  rw [borrowedType]
  split
  next => exact CodeType.noConfusion
  next => exact CodeType.noConfusion

/-- One arm that reads covers the holders, with a last arm for the others. -/
theorem covers_reading {value : Expr} {others : List Arm}
    (others_iff : data.lacks name = false ∧ others = [] ∨
      data.lacks name = true ∧ ∃ arm, others = [arm] ∧ ∀ path, arm.pattern.Admits path) :
    data.Covers name [⟨.oneOf ((data.holdersOf name).map (data.readingPattern name)), value⟩]
      others := by
  refine covers_of_own_iff (fun path => ⟨?_, ?_⟩) others_iff
  · rintro ⟨arm, isOwn, admits⟩
    rw [List.mem_singleton.mp isOwn] at admits
    cases admits with
    | oneOf listed admits =>
        rcases List.mem_map.mp listed with ⟨holder, held, rfl⟩
        cases admits
        exact ⟨holder, held, rfl⟩
  · rintro ⟨holder, held, rfl⟩
    exact ⟨_, List.mem_singleton_self _, .oneOf (List.mem_map_of_mem held) (.fields _)⟩

/-- The arms that change cover the holders, with a last arm for the others. -/
theorem covers_changing {others : List Arm}
    (others_iff : data.lacks name = false ∧ others = [] ∨
      data.lacks name = true ∧ ∃ arm, others = [arm] ∧ ∀ path, arm.pattern.Admits path) :
    data.Covers name ((data.holdersOf name).map data.changingArm) others := by
  refine covers_of_own_iff (fun path => ⟨?_, ?_⟩) others_iff
  · rintro ⟨arm, isOwn, admits⟩
    rcases List.mem_map.mp isOwn with ⟨holder, held, rfl⟩
    exact ⟨holder, held, admits_patternWith_iff.mp admits⟩
  · rintro ⟨holder, held, rfl⟩
    exact ⟨_, List.mem_map_of_mem held, admits_patternWith_iff.mpr rfl⟩

variable (distinct : ∀ constructor ∈ data.constructors,
  (constructor.arguments.map Field.name).Nodup)

include distinct

/-- The functions for the holders of a name access it. -/
theorem exists_accesses (name : String) (first : Holder) :
    ∃ get set modify,
      data.getter (data.entryOf name) first (data.holdersOf name) = [get] ∧
      data.modifier (data.entryOf name) first (data.holdersOf name) = [set, modify] ∧
      data.Accesses name get set modify := by
  have total := isTotal_entryOf distinct name
  refine ⟨_, _, _, rfl, rfl, rfl, rfl, rfl, ?optional, map_constructor_holdersOf data name,
    fun holder held => (mem_holdersOf held).2, ?reads, ?changes,
    fun holder _ => changesAt_changingArm data holder⟩
  case optional =>
    dsimp only
    rw [total]
    cases data.lacks name with
    | true => exact ⟨fun _ => rfl, fun _ => ⟨_, rfl⟩⟩
    | false =>
        refine iff_of_false ?_ Bool.false_ne_true
        rintro ⟨type, same⟩
        rw [Bool.not_false, if_pos rfl] at same
        exact borrowedType_ne_option same
  case reads =>
    dsimp only
    rw [total]
    cases lacking : data.lacks name with
    | true => exact ⟨_, _, rfl, covers_reading (.inr ⟨lacking, _, rfl, fun _ => .anything⟩)⟩
    | false => exact ⟨_, _, rfl, covers_reading (.inl ⟨lacking, rfl⟩)⟩
  case changes =>
    dsimp only
    rw [total]
    cases lacking : data.lacks name with
    | true => exact ⟨_, rfl, covers_changing (.inr ⟨lacking, _, rfl, fun _ => .ident _⟩)⟩
    | false => exact ⟨_, rfl, covers_changing (.inl ⟨lacking, rfl⟩)⟩

/-- Reading and changing an argument of a name are decided alike. -/
theorem accessorsFor_of_argument
    (wellFormed : data.WellFormed)
    (request : Span)
    {constructor : Constructor}
    {field : Field}
    (listed : constructor ∈ data.constructors)
    (among : field ∈ constructor.arguments) :
    data.AccessorsFor field.name (data.gettersFor request field.name)
      (data.modifiersFor request field.name) := by
  rcases exists_holder distinct listed among rfl with ⟨holder, held, -⟩
  have erased := any_isErased_holdersOf distinct field.name
  have conflict := hasConflict_entryOf distinct field.name
  rw [gettersFor, modifiersFor, forField, forField, holders_entryOf wellFormed distinct]
  by_cases erases : data.ErasesNamed field.name
  · rw [if_pos (erased.mpr erases), if_pos (erased.mpr erases)]
    exact .nothing erases
  · rw [if_neg fun any => erases (erased.mp any), if_neg fun any => erases (erased.mp any)]
    by_cases disagrees : data.DisagreesOn field.name
    · rw [if_pos (conflict.mpr disagrees), if_pos (conflict.mpr disagrees)]
      exact .warned erases disagrees rfl rfl
    · rw [if_neg fun has => disagrees (conflict.mp has),
        if_neg fun has => disagrees (conflict.mp has)]
      cases holders : data.holdersOf field.name with
      | nil =>
          rw [holders] at held
          cases held
      | cons first rest =>
          rcases exists_accesses distinct field.name first with
            ⟨get, set, modify, reads, changes, accesses⟩
          rw [holders] at reads changes
          dsimp only
          rw [reads, changes]
          exact .accessed erases disagrees accesses

end Accessors

end DataType

namespace Declaration

variable {declaration : Declaration} {snapshot : Snapshot} {data : DataType}

theorem nodup_argumentNames (built : declaration.toDataType snapshot = .ok data) :
    ∀ constructor ∈ data.constructors, (constructor.arguments.map Field.name).Nodup :=
  fun constructor listed => (laidOut_of_toDataType built constructor listed).nodup_argumentNames

/--
The code that reads and the code that changes arguments is made up of what is
derived for each name.  For the name of any argument of a model that is built this
is nothing, a warning, or functions whose matches have a place for every
constructor, and none for constructors that there are not.
-/
theorem accessors_cover
    (built : declaration.toDataType snapshot = .ok data)
    (request : Span) :
    data.getters request = .concat (data.argumentNames.map (data.gettersFor request)) ∧
    data.modifiers request = .concat (data.argumentNames.map (data.modifiersFor request)) ∧
    ∀ constructor ∈ data.constructors, ∀ field ∈ constructor.arguments,
      data.AccessorsFor field.name (data.gettersFor request field.name)
        (data.modifiersFor request field.name) :=
  ⟨data.getters_eq_concat request, data.modifiers_eq_concat request,
    fun _ listed _ among => DataType.accessorsFor_of_argument (nodup_argumentNames built)
      (wellFormed_of_toDataType built) request listed among⟩

/-- Only one of the two constructors of conversions has a value, so its getter is optional. -/
theorem accessors_cover_conversion :
    conversion.toDataType default = .ok conversionModel ∧
    conversionModel.lacks "value" = true ∧
    conversionModel.AccessorsFor "value" (conversionModel.gettersFor ⟨0, 9⟩ "value")
      (conversionModel.modifiersFor ⟨0, 9⟩ "value") := by
  have built : conversion.toDataType default = .ok conversionModel := rfl
  have covered := accessors_cover built ⟨0, 9⟩
  exact ⟨built, rfl, covered.2.2 _ List.mem_cons_self _ List.mem_cons_self⟩

end Declaration

end DataDerive
