import DataDerive.Proofs.Derive.OwnName

/-!
# Values of the data type inside its own values

An enum that holds a value of itself has no finite size, so a field of the data type
is stored behind a pointer.  A field counts as one only if the data type is the head
of its type.  Tuples are stored by their items; and so a tuple that has the data type
among its items, at whatever depth of further tuples, makes the enum hold itself.
All other occurrences of the data type are behind a pointer, in a shared function or
among the arguments of another type, and it is known exactly which fields do not
have this.
-/

namespace DataDerive

/-! ## What stands around a type -/

/-- What a type stands directly in. -/
inductive Layer where
  /-- The items of a tuple. -/
  | tuple
  /-- The arguments of a named type. -/
  | argument (head : String)
  /-- A shared pointer. -/
  | pointer
  /-- A function behind a shared pointer. -/
  | sharedFunction
  /-- A reference, a function that is not shared, or a bound. -/
  | borrowed
  deriving Repr, DecidableEq

/-- A layer keeps a named type out of the value around it. -/
def Layer.Guards (name : String) : Layer → Prop
  | .pointer => True
  | .sharedFunction => True
  | .argument head => head ≠ name
  | .tuple => False
  | .borrowed => False

namespace CodeType

mutual

/-- The layers around each occurrence of a named type, the outermost first. -/
def layers (name : String) : CodeType → List (List Layer)
  | .param _ => []
  | .named head arguments =>
      (if head = name then [[]] else []) ++
        (layersAll name arguments).map (.argument head :: ·)
  | .reference target => (layers name target).map (.borrowed :: ·)
  | .tuple items => (layersAll name items).map (.tuple :: ·)
  | .shared target => (layers name target).map (.pointer :: ·)
  | .implOnce parameters result =>
      (layersAll name parameters ++ layers name result).map (.borrowed :: ·)
  | .dynRef parameters result =>
      (layersAll name parameters ++ layers name result).map (.borrowed :: ·)
  | .sharedFn parameters result =>
      (layersAll name parameters ++ layers name result).map (.sharedFunction :: ·)
  | .boxedOnce parameters result =>
      (layersAll name parameters ++ layers name result).map (.borrowed :: ·)
  | .sharedAny => []
  | .implTrait _ arguments => (layersAll name arguments).map (.borrowed :: ·)

/-- The layers around each occurrence of a named type in several types. -/
def layersAll (name : String) : List CodeType → List (List Layer)
  | [] => []
  | type :: rest => layers name type ++ layersAll name rest

end

variable {name : String}

theorem layersAll_eq_flatMap (types : List CodeType) :
    layersAll name types = types.flatMap (layers name) := by
  induction types with
  | nil => rfl
  | cons type rest ih => rw [layersAll, ih, List.flatMap_cons]

/-- A value of the type holds values of a named type, at most as items of tuples. -/
def Exposes (type : CodeType) (name : String) : Prop :=
  ∃ around ∈ type.layers name, ∀ layer ∈ around, layer = .tuple

/-- Every occurrence of a named type is kept out of the values of the type. -/
def Shields (type : CodeType) (name : String) : Prop :=
  ∀ around ∈ type.layers name, ∃ layer ∈ around, layer.Guards name

theorem exposes_named {head : String} {arguments : List CodeType} :
    (named head arguments).Exposes name ↔ head = name := by
  simp only [Exposes, layers, List.mem_append, List.mem_map]
  constructor
  · rintro ⟨around, bare | ⟨inner, -, rfl⟩, tuples⟩
    · by_contra other
      rw [if_neg other] at bare
      cases bare
    · cases tuples _ List.mem_cons_self
  · intro same
    exact ⟨[], .inl (by rw [if_pos same]; exact List.mem_cons_self), List.forall_mem_nil _⟩

theorem exposes_tuple {items : List CodeType} :
    (tuple items).Exposes name ↔ ∃ item ∈ items, item.Exposes name := by
  simp only [Exposes, layers, layersAll_eq_flatMap, List.mem_map, List.mem_flatMap]
  constructor
  · rintro ⟨_, ⟨around, ⟨item, among, listed⟩, rfl⟩, tuples⟩
    exact ⟨item, among, around, listed, (List.forall_mem_cons.mp tuples).2⟩
  · rintro ⟨item, among, around, listed, tuples⟩
    exact ⟨.tuple :: around, ⟨around, ⟨item, among, listed⟩, rfl⟩,
      List.forall_mem_cons.mpr ⟨rfl, tuples⟩⟩

theorem not_exposes_param (parameter : String) : ¬ (param parameter).Exposes name := by
  rintro ⟨_, listed, -⟩
  cases listed

theorem not_exposes_sharedAny : ¬ sharedAny.Exposes name := by
  rintro ⟨_, listed, -⟩
  cases listed

theorem not_exposes_shared (target : CodeType) : ¬ (shared target).Exposes name := by
  rintro ⟨_, listed, tuples⟩
  obtain ⟨around, -, rfl⟩ := List.mem_map.mp listed
  cases tuples _ List.mem_cons_self

theorem not_exposes_sharedFn (parameters : List CodeType) (result : CodeType) :
    ¬ (sharedFn parameters result).Exposes name := by
  rintro ⟨_, listed, tuples⟩
  obtain ⟨around, -, rfl⟩ := List.mem_map.mp listed
  cases tuples _ List.mem_cons_self

theorem shields_sharedAny : sharedAny.Shields name :=
  List.forall_mem_nil _

theorem shields_shared (target : CodeType) : (shared target).Shields name :=
  List.forall_mem_map.mpr fun _ _ => ⟨.pointer, List.mem_cons_self, trivial⟩

end CodeType

/-! ## The code for a declared type -/

namespace TypeExpr

open CodeType

variable {name : String} {type : TypeExpr}

/-- A declared type is a named type or a tuple that holds it among its items. -/
inductive Holds (name : String) : TypeExpr → Prop where
  | itself
      {arguments : List TypeExpr}
      (ordinary : isTupleName name arguments.length = false) :
      Holds name (.con name arguments)
  | item
      {head : String}
      {arguments : List TypeExpr}
      {item : TypeExpr}
      (isTuple : isTupleName head arguments.length = true)
      (among : item ∈ arguments)
      (inner : Holds name item) :
      Holds name (.con head arguments)

theorem not_holds_var (parameter : String) : ¬ (var parameter).Holds name := by
  intro holds
  cases holds

theorem not_holds_arrow (parameters : List TypeExpr) (result : TypeExpr) :
    ¬ (arrow parameters result).Holds name := by
  intro holds
  cases holds

theorem holds_tuple
    {head : String}
    {arguments : List TypeExpr}
    (isTuple : isTupleName head arguments.length = true) :
    (con head arguments).Holds name ↔ ∃ item ∈ arguments, item.Holds name := by
  constructor
  · rintro (ordinary | ⟨-, among, inner⟩)
    · rw [isTuple] at ordinary
      cases ordinary
    · exact ⟨_, among, inner⟩
  · rintro ⟨item, among, inner⟩
    exact .item isTuple among inner

theorem holds_named
    {head : String}
    {arguments : List TypeExpr}
    (ordinary : isTupleName head arguments.length = false) :
    (con head arguments).Holds name ↔ head = name := by
  constructor
  · rintro (- | ⟨isTuple, -, -⟩)
    · rfl
    · rw [ordinary] at isTuple
      cases isTuple
  · rintro rfl
    exact .itself ordinary

theorem toCode_tuple
    {head : String}
    {arguments : List TypeExpr}
    (isTuple : isTupleName head arguments.length = true) :
    (con head arguments).toCode = .tuple (arguments.map toCode) := by
  rw [toCode, if_pos isTuple, toCodeAll_eq_map]

theorem toCode_named
    {head : String}
    {arguments : List TypeExpr}
    (ordinary : isTupleName head arguments.length = false) :
    (con head arguments).toCode = .named head (arguments.map toCode) := by
  rw [toCode, ordinary, if_neg Bool.false_ne_true, toCodeAll_eq_map]

/-- The values of a type hold those that its declared form says. -/
theorem exposes_toCode : type.toCode.Exposes name ↔ type.Holds name := by
  induction type with
  | var parameter =>
      rw [toCode]
      exact iff_of_false (not_exposes_param parameter) (not_holds_var parameter)
  | compound type compound ih =>
      cases type with
      | var parameter => cases compound
      | arrow parameters result =>
          rw [toCode]
          exact iff_of_false (not_exposes_sharedFn _ _) (not_holds_arrow parameters result)
      | con head arguments =>
          cases isTuple : isTupleName head arguments.length with
          | true =>
              rw [toCode_tuple isTuple, exposes_tuple, holds_tuple isTuple]
              simp only [List.mem_map, exists_exists_and_eq_and]
              exact exists_congr fun item => and_congr_right fun among => ih item among
          | false => rw [toCode_named isTuple, exposes_named, holds_named isTuple]

/-- What a type does not hold directly is kept out by some layer. -/
theorem shields_toCode (apart : ¬ type.Holds name) : type.toCode.Shields name := by
  induction type with
  | var parameter => exact List.forall_mem_nil _
  | compound type compound ih =>
      cases type with
      | var parameter => cases compound
      | arrow parameters result =>
          rw [toCode]
          exact List.forall_mem_map.mpr fun _ _ =>
            ⟨.sharedFunction, List.mem_cons_self, trivial⟩
      | con head arguments =>
          cases isTuple : isTupleName head arguments.length with
          | true =>
              rw [toCode_tuple isTuple, Shields, layers, layersAll_eq_flatMap, List.flatMap_map,
                List.forall_mem_map]
              intro around listed
              obtain ⟨item, among, listed⟩ := List.mem_flatMap.mp listed
              have itemApart : ¬ item.Holds name := fun holds => apart (.item isTuple among holds)
              obtain ⟨layer, inside, guards⟩ := ih item among itemApart around listed
              exact ⟨layer, List.mem_cons_of_mem _ inside, guards⟩
          | false =>
              have other : head ≠ name := mt (holds_named isTuple).mpr apart
              rw [toCode_named isTuple, Shields, layers, if_neg other, List.nil_append,
                List.forall_mem_map]
              exact fun around _ => ⟨.argument head, List.mem_cons_self, other⟩

theorem length_layersAll_toCode
    {types : List TypeExpr}
    (each : ∀ type ∈ types, (type.toCode.layers name).length =
      type.constructorOccurrences.count name) :
    (layersAll name (types.map toCode)).length = (constructorOccurrencesAll types).count name := by
  rw [layersAll_eq_flatMap, List.flatMap_map, List.length_flatMap,
    constructorOccurrencesAll_eq_flatMap, List.count_flatMap]
  exact congrArg List.sum (List.map_congr_left each)

/-- A name that no tuple has occurs in the code for a type as often as in the type. -/
theorem length_layers_toCode
    (ordinary : ∀ arity, isTupleName name arity = false)
    (type : TypeExpr) :
    (type.toCode.layers name).length = type.constructorOccurrences.count name := by
  induction type with
  | var parameter => rfl
  | compound type compound ih =>
      cases type with
      | var parameter => cases compound
      | arrow parameters result =>
          have inner := length_layersAll_toCode fun type listed =>
            ih type (List.mem_append_left _ listed)
          have last := ih result (List.mem_append_right _ (List.mem_singleton_self result))
          rw [toCode, toCodeAll_eq_map, layers, List.length_map, List.length_append, inner, last,
            constructorOccurrences, List.count_append]
      | con head arguments =>
          have inner := length_layersAll_toCode (show ∀ type ∈ arguments, _ from ih)
          cases isTuple : isTupleName head arguments.length with
          | true =>
              have other : head ≠ name := by
                rintro rfl
                rw [ordinary] at isTuple
                cases isTuple
              rw [toCode_tuple isTuple, layers, List.length_map, inner, constructorOccurrences,
                List.count_cons_of_ne other]
          | false =>
              rw [toCode_named isTuple, layers, List.length_append, List.length_map, inner,
                constructorOccurrences, List.count_cons, Nat.add_comm]
              by_cases same : head = name
              · simp [same]
              · simp [same]

end TypeExpr

/-! ## Stored fields -/

namespace DataType

open CodeType

variable {data : DataType} {constructor : Constructor} {field : Field} {name : String}

/-- The values of a field hold others unless it is erased or behind the pointer. -/
theorem exposes_storedType :
    (data.storedType constructor field).Exposes name ↔
      constructor.isErased field = false ∧ data.isRecursiveField field = false ∧
        field.type.Holds name := by
  rw [storedType, ← TypeExpr.exposes_toCode]
  cases constructor.isErased field with
  | true => simp [not_exposes_sharedAny]
  | false =>
      cases data.isRecursiveField field with
      | true => simp [not_exposes_shared]
      | false => simp

theorem shields_storedType (apart : ¬ (data.storedType constructor field).Exposes name) :
    (data.storedType constructor field).Shields name := by
  rw [exposes_storedType] at apart
  rw [storedType]
  cases erased : constructor.isErased field with
  | true => exact shields_sharedAny
  | false =>
      cases pointed : data.isRecursiveField field with
      | true => exact shields_shared _
      | false => exact TypeExpr.shields_toCode fun holds => apart ⟨erased, pointed, holds⟩

theorem length_layers_storedType
    (ordinary : ∀ arity, TypeExpr.isTupleName name arity = false)
    (kept : constructor.isErased field = false) :
    ((data.storedType constructor field).layers name).length =
      field.type.constructorOccurrences.count name := by
  rw [← TypeExpr.length_layers_toCode ordinary, storedType, kept, if_neg Bool.false_ne_true]
  split
  · rw [layers, List.length_map]
  · rfl

/--
A field of another head that holds the data type is a tuple, and one of its items
holds the data type.
-/
theorem exists_item_of_holds
    (other : data.isRecursiveField field = false)
    (holds : field.type.Holds data.name) :
    ∃ head items, field.type = .con head items ∧
      TypeExpr.isTupleName head items.length = true ∧ ∃ item ∈ items, item.Holds data.name := by
  rw [isRecursiveField] at other
  generalize field.type = type at other holds
  cases holds with
  | itself => simp [TypeExpr.head?] at other
  | item isTuple among inner => exact ⟨_, _, rfl, isTuple, _, among, inner⟩

/--
The generated enum has the fields of the constructors.  A field holds a value of a
named type directly, at most as an item of tuples, exactly if its declared type does
and it is neither erased nor behind the pointer of a field of the data type.  So a
field holds the data type itself exactly if it is a kept tuple of another name with
an item that holds the data type.  In every other field, each occurrence of the data
type is behind a shared pointer, in a shared function or among the arguments of
another type; none is lost on the way if the data type does not have the name of a
tuple.
-/
theorem storage_indirection
    {request : Span}
    {derivations : List Derivation}
    {code : CodeUnit}
    (generated : data.generate request derivations = .ok code) :
    ∃ enum, code.enums = [enum] ∧ enum.name = data.typeName ∧
      enum.variants = data.constructors.map (fun constructor =>
        ⟨constructor.variantName, constructor.caseFields.map fun field =>
          ⟨field.spelling, data.storedType constructor field⟩⟩) ∧
      ∀ constructor ∈ data.constructors, ∀ field ∈ constructor.caseFields,
        let stored := data.storedType constructor field
        (∀ name, stored.Exposes name ↔
          constructor.isErased field = false ∧ data.isRecursiveField field = false ∧
            field.type.Holds name) ∧
        (stored.Exposes data.name ↔
          constructor.isErased field = false ∧ data.isRecursiveField field = false ∧
            ∃ head items, field.type = .con head items ∧
              TypeExpr.isTupleName head items.length = true ∧
              ∃ item ∈ items, item.Holds data.name) ∧
        (¬ stored.Exposes data.name → stored.Shields data.name) ∧
        ((∀ arity, TypeExpr.isTupleName data.name arity = false) →
          constructor.isErased field = false →
          (stored.layers data.name).length =
            field.type.constructorOccurrences.count data.name) := by
  refine ⟨data.enumItem, enums_of_generate generated, rfl, rfl, ?_⟩
  intro constructor _ field _ stored
  refine ⟨fun name => exposes_storedType, ?_, shields_storedType, length_layers_storedType⟩
  rw [exposes_storedType]
  refine and_congr_right fun _ => and_congr_right fun other => ⟨exists_item_of_holds other, ?_⟩
  rintro ⟨head, items, same, isTuple, inside⟩
  rw [same]
  exact (TypeExpr.holds_tuple isTuple).mpr inside

/-- Expressions, with a case that has an expression in a pair. -/
def pairing : Declaration where
  name := "Expr"
  span := ⟨1, 8⟩
  typeParams := []
  request := ⟨⟨9, 10⟩, none, []⟩
  methods := [{
    name := "match"
    span := ⟨11, 16⟩
    typeParams := [⟨"R", ⟨17, 18⟩⟩]
    parameters := [
      ⟨"Lit", ⟨20, 23⟩, .arrow [.atom "i32"] (.var "R"), ["value"]⟩,
      ⟨"Pair", ⟨24, 28⟩, .arrow [.con "Tuple2" [.atom "Expr", .atom "i32"]] (.var "R"),
        ["both"]⟩]
    result := .var "R"
    isAbstract := true }]
  statics := []

/-- The case with the pair. -/
def pairingCase : Constructor where
  name := "Pair"
  span := ⟨24, 28⟩
  index := 1
  arguments := [⟨"both", ⟨24, 28⟩, .con "Tuple2" [.atom "Expr", .atom "i32"]⟩]
  restrictions := []
  existentials := []
  typeParams := []

/-- The model of the expressions. -/
def pairingModel : DataType where
  name := "Expr"
  span := ⟨1, 8⟩
  typeParams := []
  constructors := [{
    name := "Lit"
    span := ⟨20, 23⟩
    index := 0
    arguments := [⟨"value", ⟨20, 23⟩, .atom "i32"⟩]
    restrictions := []
    existentials := []
    typeParams := [] }, pairingCase]
  matcher := "match"
  resultVar := "R"
  encoding := .lambdas

/-- An expression in a pair is stored without a pointer. -/
theorem storage_indirection_pair :
    ∃ code enum,
      pairing.toDataType default = .ok pairingModel ∧
      pairingModel.generate ⟨9, 10⟩ [] = .ok code ∧
      code.enums = [enum] ∧ enum.name = "Expr" ∧
      ∃ variant ∈ enum.variants, ∃ slot ∈ variant.fields,
        slot.type = .tuple [.atom "Expr", .atom "i32"] ∧ slot.type.Exposes "Expr" := by
  have built : pairing.toDataType default = .ok pairingModel := rfl
  obtain ⟨code, generated⟩ : ∃ code, pairingModel.generate ⟨9, 10⟩ [] = .ok code := ⟨_, rfl⟩
  obtain ⟨enum, only, names, variants, fields⟩ := storage_indirection generated
  have listed : pairingCase ∈ pairingModel.constructors := by decide
  have holds := (fields pairingCase listed _ (List.mem_singleton_self _)).2.1.mpr
    ⟨rfl, rfl, "Tuple2", _, rfl, by decide, .atom "Expr", List.mem_cons_self, .itself rfl⟩
  refine ⟨code, enum, built, generated, only, names.trans (by decide), ?_⟩
  rw [variants]
  exact ⟨_, List.mem_map_of_mem listed, _, List.mem_singleton_self _, rfl, holds⟩

end DataType

end DataDerive
