import DataDerive.Proofs.Derive.Names
import DataDerive.Proofs.Model.WellFormed
import Mathlib.Data.List.Nodup
import Mathlib.Data.List.Pairwise

/-!
# Clashes of generated names

The names in a declaration are checked to differ as they are written, but they
are spelled anew in generated code, and nothing checks the spellings.  Here is
what can clash.  The names of one derivation clash only if two names that it
spells become one.  The functions that build constructors and those that make
instances have no mark of their own, so they may clash with those of any
derivation; all other derivations mark their names, and the marks keep them
apart.
-/

namespace DataDerive

/-! ## Spelling names apart -/

/-- A way to spell names keeps those of a list apart. -/
def KeepsApart (spell : String → String) (names : List String) : Prop :=
  ∀ name ∈ names, ∀ other ∈ names, spell name = spell other → name = other

instance (spell : String → String) (names : List String) : Decidable (KeepsApart spell names) :=
  inferInstanceAs (Decidable (∀ name ∈ names, ∀ other ∈ names, _))

theorem nodup_map_iff_keepsApart
    {spell : String → String}
    {names : List String}
    (distinct : names.Nodup) :
    (names.map spell).Nodup ↔ KeepsApart spell names :=
  List.nodup_map_iff_inj_on distinct

theorem keepsApart_congr
    {spell : String → String}
    {names others : List String}
    (same : ∀ name, name ∈ names ↔ name ∈ others) :
    KeepsApart spell names ↔ KeepsApart spell others := by
  simp only [KeepsApart, same]

/-! ## Marks -/

/-- Neither of two texts starts with the other. -/
def Unlike (mark other : String) : Prop :=
  ¬ mark.toList <+: other.toList ∧ ¬ other.toList <+: mark.toList

instance (mark other : String) : Decidable (Unlike mark other) :=
  inferInstanceAs (Decidable (_ ∧ _))

theorem Unlike.append_ne {mark other : String} (unlike : Unlike mark other) (left right : String) :
    mark ++ left ≠ other ++ right := by
  intro same
  have starts : mark.toList <+: (mark ++ left).toList := by simp
  have otherStarts : other.toList <+: (mark ++ left).toList := by simp [same]
  exact (List.prefix_or_prefix_of_prefix starts otherStarts).elim unlike.1 unlike.2

theorem Unlike.symm {mark other : String} (unlike : Unlike mark other) : Unlike other mark :=
  ⟨unlike.2, unlike.1⟩

theorem nodup_map_marked {α : Type} (mark : String) (spell : α → String) (members : List α) :
    (members.map fun member => mark ++ spell member).Nodup ↔ (members.map spell).Nodup := by
  have injective : Function.Injective (mark ++ ·) := fun _ _ =>
    (String.append_right_inj mark).mp
  rw [← List.nodup_map_iff injective (l := members.map spell), List.map_map]
  rfl

/-- Names that are marked in two ways repeat where unmarked names do. -/
theorem nodup_flatMap_marked
    {α : Type}
    {mark other : String}
    (unlike : Unlike mark other)
    (spell : α → String)
    (members : List α) :
    (members.flatMap fun member => [mark ++ spell member, other ++ spell member]).Nodup ↔
      (members.map spell).Nodup := by
  induction members with
  | nil => simp
  | cons first rest ih =>
      have marked (name : String) :
          mark ++ name ∈
              rest.flatMap (fun member => [mark ++ spell member, other ++ spell member]) ↔
            name ∈ rest.map spell := by
        simp [unlike.append_ne _ _, eq_comm (a := name)]
      have otherMarked (name : String) :
          other ++ name ∈
              rest.flatMap (fun member => [mark ++ spell member, other ++ spell member]) ↔
            name ∈ rest.map spell := by
        simp [unlike.symm.append_ne _ _, eq_comm (a := name)]
      rw [List.flatMap_cons, List.cons_append, List.singleton_append, List.nodup_cons,
        List.nodup_cons, List.mem_cons, not_or, marked, otherMarked, ih, List.map_cons,
        List.nodup_cons]
      constructor
      · rintro ⟨-, new, distinct⟩
        exact ⟨new, distinct⟩
      · rintro ⟨new, distinct⟩
        exact ⟨⟨unlike.append_ne _ _, new⟩, new, distinct⟩

namespace Derivation

/-- The texts with which a derivation marks the names of its functions. -/
def marks : Derivation → List String
  | .matcher => ["accept", "match_"]
  | .lazy => ["lazy"]
  | .caseOf => ["is_", "if_"]
  | .destructure => ["destructure"]
  | .getters => ["get_"]
  | .modifiers => ["set_", "modify_"]
  | .catamorphism => ["cata_"]
  | .constructors | .factory => []

theorem unlike_marks :
    ∀ derivation ∈ all, ∀ other ∈ all, derivation ≠ other →
      ∀ mark ∈ derivation.marks, ∀ otherMark ∈ other.marks, Unlike mark otherMark := by
  decide

end Derivation

namespace DataType

variable {data : DataType} {derivation other : Derivation} {name : String}

theorem exists_mark
    (marked : derivation ≠ .constructors)
    (listed : name ∈ data.addedFunctionNames derivation) :
    ∃ mark ∈ derivation.marks, ∃ rest, name = mark ++ rest := by
  cases derivation with
  | constructors => exact absurd rfl marked
  | matcher =>
      rcases List.mem_pair.mp listed with rfl | rfl
      · exact ⟨"accept", by decide, "", rfl⟩
      · exact ⟨"match_", by decide, _, rfl⟩
  | lazy =>
      cases List.mem_singleton.mp listed
      exact ⟨"lazy", by decide, "", rfl⟩
  | caseOf =>
      obtain ⟨constructor, -, among⟩ := List.mem_flatMap.mp listed
      rcases List.mem_pair.mp among with rfl | rfl
      · exact ⟨"is_", by decide, _, rfl⟩
      · exact ⟨"if_", by decide, _, rfl⟩
  | destructure =>
      rw [addedFunctionNames] at listed
      split at listed
      next =>
        cases List.mem_singleton.mp listed
        exact ⟨"destructure", by decide, "", rfl⟩
      next => cases listed
  | getters =>
      obtain ⟨entry, -, rfl⟩ := List.mem_map.mp listed
      exact ⟨"get_", by decide, _, rfl⟩
  | modifiers =>
      obtain ⟨entry, -, among⟩ := List.mem_flatMap.mp listed
      rcases List.mem_pair.mp among with rfl | rfl
      · exact ⟨"set_", by decide, _, rfl⟩
      · exact ⟨"modify_", by decide, _, rfl⟩
  | catamorphism =>
      cases List.mem_singleton.mp listed
      exact ⟨"cata_", by decide, _, rfl⟩
  | factory => cases listed

/-- Two derivations that mark their names share none. -/
theorem disjoint_addedFunctionNames
    (apart : derivation ≠ other)
    (marked : derivation ≠ .constructors)
    (otherMarked : other ≠ .constructors) :
    (data.addedFunctionNames derivation).Disjoint (data.addedFunctionNames other) := by
  intro name listed otherListed
  obtain ⟨mark, isMark, rest, rfl⟩ := exists_mark marked listed
  obtain ⟨otherMark, isOtherMark, otherRest, same⟩ := exists_mark otherMarked otherListed
  have unlike := Derivation.unlike_marks derivation derivation.mem_all other other.mem_all apart
    mark isMark otherMark isOtherMark
  exact unlike.append_ne rest otherRest same

/-! ## The names of one derivation -/

/-- The names that a derivation spells stay apart. -/
def SpellsApart (data : DataType) : Derivation → Prop
  | .constructors => KeepsApart Identifier.snakeName (data.constructors.map Constructor.name)
  | .caseOf => KeepsApart Identifier.snakeCase (data.constructors.map Constructor.name)
  | .getters | .modifiers =>
      KeepsApart Identifier.snakeCase (data.accessed.map FieldEntry.name)
  | _ => True

instance (data : DataType) (derivation : Derivation) : Decidable (data.SpellsApart derivation) :=
  match derivation with
  | .constructors | .caseOf | .getters | .modifiers =>
      inferInstanceAs (Decidable (KeepsApart _ _))
  | .matcher | .lazy | .destructure | .catamorphism | .factory =>
      inferInstanceAs (Decidable True)

theorem nodup_addedFunctionNames_iff
    (wellFormed : data.WellFormed)
    (derivation : Derivation) :
    (data.addedFunctionNames derivation).Nodup ↔ data.SpellsApart derivation := by
  have accessedApart : (data.accessed.map entrySnake).Nodup ↔
      KeepsApart Identifier.snakeCase (data.accessed.map FieldEntry.name) := by
    rw [← nodup_map_iff_keepsApart data.nodup_map_name_accessed, List.map_map]
    rfl
  cases derivation with
  | matcher =>
      have unlike : Unlike "accept" "match_" := by decide
      have different : "accept" ≠ "match_" ++ data.snake := unlike.append_ne "" data.snake
      refine iff_of_true (List.nodup_cons.mpr ⟨?_, List.nodup_singleton _⟩) trivial
      exact fun listed => different (List.mem_singleton.mp listed)
  | constructors =>
      rw [SpellsApart, ← nodup_map_iff_keepsApart wellFormed.nodup_names, List.map_map]
      rfl
  | lazy => exact iff_of_true (List.nodup_singleton _) trivial
  | caseOf =>
      rw [SpellsApart, ← nodup_map_iff_keepsApart wellFormed.nodup_names, List.map_map]
      exact nodup_flatMap_marked (by decide) Constructor.snake data.constructors
  | destructure =>
      refine iff_of_true ?_ trivial
      rw [addedFunctionNames]
      split
      next => exact List.nodup_singleton _
      next => exact List.nodup_nil
  | getters => exact (nodup_map_marked "get_" entrySnake data.accessed).trans accessedApart
  | modifiers =>
      exact (nodup_flatMap_marked (by decide) entrySnake data.accessed).trans accessedApart
  | catamorphism => exact iff_of_true (List.nodup_singleton _) trivial
  | factory => exact iff_of_true List.nodup_nil trivial

/-! ## All names -/

/-- Names repeat among derivations within one of them or between two of them. -/
theorem nodup_flatMap_distinct_iff
    (names : Derivation → List String)
    (derivations : List Derivation) :
    ((distinct derivations).flatMap names).Nodup ↔
      (∀ derivation ∈ derivations, (names derivation).Nodup) ∧
        ∀ derivation ∈ derivations, ∀ other ∈ derivations, derivation ≠ other →
          (names derivation).Disjoint (names other) := by
  rw [List.nodup_flatMap]
  refine and_congr (by simp only [mem_distinct]) ?_
  constructor
  · intro pairwise derivation listed other otherListed apart
    -- The list of names knows pairs in its own order only.
    have symmetric : Std.Symm (Function.onFun List.Disjoint names) :=
      ⟨fun _ _ => List.Disjoint.symm⟩
    exact pairwise.forall (mem_distinct.mpr listed) (mem_distinct.mpr otherListed) apart
  · intro disjoint
    refine (nodup_distinct derivations).pairwise_of_forall_ne fun derivation listed other => ?_
    intro otherListed apart
    exact disjoint derivation (mem_distinct.mp listed) other (mem_distinct.mp otherListed) apart

/-- What keeps the types of a module apart. -/
def TypesApart (data : DataType) (derivations : List Derivation) : Prop :=
  .matcher ∈ derivations →
    data.traitName ≠ data.typeName ∧
      (.factory ∈ derivations → data.traitName ≠ data.typeName ++ "Factory")

theorem mem_addedTypeNames :
    name ∈ data.addedTypeNames derivation ↔
      derivation = .matcher ∧ name = data.traitName ∨
        derivation = .factory ∧ name = data.typeName ++ "Factory" := by
  cases derivation <;> simp [addedTypeNames]

theorem nodup_addedTypeNames (data : DataType) (derivation : Derivation) :
    (data.addedTypeNames derivation).Nodup := by
  cases derivation with
  | matcher | factory => exact List.nodup_singleton _
  | _ => exact List.nodup_nil

theorem nodup_typeNames_iff (data : DataType) (derivations : List Derivation) :
    (data.typeName :: (distinct derivations).flatMap data.addedTypeNames).Nodup ↔
      data.TypesApart derivations := by
  have longer : data.typeName ≠ data.typeName ++ "Factory" := fun same => by
    simpa using congrArg String.length same
  rw [List.nodup_cons, nodup_flatMap_distinct_iff, List.mem_flatMap]
  simp only [mem_distinct]
  constructor
  · rintro ⟨new, -, disjoint⟩ matching_
    refine ⟨fun same => new ⟨.matcher, matching_, ?_⟩, fun building same => ?_⟩
    · exact List.mem_singleton.mpr same.symm
    · exact disjoint .matcher matching_ .factory building (by decide)
        (List.mem_singleton_self data.traitName) (List.mem_singleton.mpr same)
  · intro apart
    refine ⟨?_, fun derivation _ => data.nodup_addedTypeNames derivation, ?_⟩
    · rintro ⟨derivation, listed, among⟩
      rcases mem_addedTypeNames.mp among with ⟨rfl, same⟩ | ⟨rfl, same⟩
      · exact (apart listed).1 same.symm
      · exact longer same
    · intro derivation listed other otherListed different name among otherAmong
      rcases mem_addedTypeNames.mp among with ⟨rfl, same⟩ | ⟨rfl, same⟩ <;>
        rcases mem_addedTypeNames.mp otherAmong with ⟨rfl, otherSame⟩ | ⟨rfl, otherSame⟩
      · exact different rfl
      · exact (apart listed).2 otherListed (same.symm.trans otherSame)
      · exact (apart otherListed).2 listed (otherSame.symm.trans same)
      · exact different rfl

/-- What keeps the functions of a module apart. -/
structure FunctionsApart
    (data : DataType)
    (derivations : List Derivation)
    (classes : List String) : Prop where
  /-- Every derivation spells its own names apart. -/
  spelled : ∀ derivation ∈ derivations, data.SpellsApart derivation
  /-- The functions that build constructors are named as none of another derivation. -/
  constructors : .constructors ∈ derivations →
    ∀ derivation ∈ derivations, derivation ≠ .constructors →
      ∀ constructor ∈ data.constructors,
        constructor.functionName ∉ data.addedFunctionNames derivation
  /-- The functions that make instances are named apart, and as none of a derivation. -/
  instances : data.isParametric →
    KeepsApart Identifier.snakeCase classes ∧
      ∀ className ∈ classes, ∀ derivation ∈ derivations,
        data.instanceName className ∉ data.addedFunctionNames derivation

/-- Names of derivations are disjoint if those of functions that build constructors are. -/
theorem disjoint_addedFunctionNames_iff (derivations : List Derivation) :
    (∀ derivation ∈ derivations, ∀ other ∈ derivations, derivation ≠ other →
      (data.addedFunctionNames derivation).Disjoint (data.addedFunctionNames other)) ↔
    (.constructors ∈ derivations →
      ∀ derivation ∈ derivations, derivation ≠ .constructors →
        ∀ constructor ∈ data.constructors,
          constructor.functionName ∉ data.addedFunctionNames derivation) := by
  have building (derivation : Derivation) :
      (data.addedFunctionNames .constructors).Disjoint (data.addedFunctionNames derivation) ↔
        ∀ constructor ∈ data.constructors,
          constructor.functionName ∉ data.addedFunctionNames derivation := by
    rw [List.disjoint_left, addedFunctionNames, List.forall_mem_map]
  constructor
  -- Derivations other than the constructors mark their names, so only these can meet others.
  · intro disjoint builds derivation listed apart
    exact (building derivation).mp (disjoint _ builds derivation listed apart.symm)
  · intro clear derivation listed other otherListed apart
    by_cases builds : derivation = .constructors
    · subst builds
      exact (building other).mpr (clear listed other otherListed apart.symm)
    · by_cases otherBuilds : other = .constructors
      · subst otherBuilds
        exact ((building derivation).mpr (clear otherListed derivation listed apart)).symm
      · exact disjoint_addedFunctionNames apart builds otherBuilds

theorem nodup_functionNames_iff
    (wellFormed : data.WellFormed)
    (derivations : List Derivation)
    (items : List Named) :
    ((distinct derivations).flatMap data.addedFunctionNames ++
        if data.isParametric then
          ((firstOfEachName [] items).map Named.name).map data.instanceName
        else
          []).Nodup ↔
      data.FunctionsApart derivations (items.map Named.name) := by
  have names (name : String) :
      name ∈ (firstOfEachName [] items).map Named.name ↔ name ∈ items.map Named.name := by
    rw [mem_map_firstOfEachName]
    exact and_iff_left List.not_mem_nil
  have classes : (((firstOfEachName [] items).map Named.name).map data.instanceName).Nodup ↔
      KeepsApart Identifier.snakeCase (items.map Named.name) := by
    rw [← keepsApart_congr names, ← nodup_map_iff_keepsApart nodup_map_firstOfEachName]
    exact nodup_map_marked (data.snake ++ "_") Identifier.snakeCase _
  have clear : ((distinct derivations).flatMap data.addedFunctionNames).Disjoint
        (((firstOfEachName [] items).map Named.name).map data.instanceName) ↔
      ∀ className ∈ items.map Named.name, ∀ derivation ∈ derivations,
        data.instanceName className ∉ data.addedFunctionNames derivation := by
    rw [List.disjoint_right, List.forall_mem_map]
    simp only [names, List.mem_flatMap, mem_distinct, not_exists, not_and]
  rw [List.nodup_append', nodup_flatMap_distinct_iff, disjoint_addedFunctionNames_iff]
  simp only [nodup_addedFunctionNames_iff wellFormed]
  cases parametric : data.isParametric with
  | true =>
      rw [if_pos rfl, classes, clear]
      constructor
      · rintro ⟨⟨spelled, constructors⟩, instances⟩
        exact ⟨spelled, constructors, fun _ => instances⟩
      · rintro ⟨spelled, constructors, instances⟩
        exact ⟨⟨spelled, constructors⟩, instances parametric⟩
  | false =>
      rw [if_neg Bool.false_ne_true]
      constructor
      · rintro ⟨⟨spelled, constructors⟩, -⟩
        refine ⟨spelled, constructors, fun other => ?_⟩
        exact absurd (parametric.symm.trans other) Bool.false_ne_true
      · rintro ⟨spelled, constructors, -⟩
        exact ⟨⟨spelled, constructors⟩, List.nodup_nil, List.disjoint_nil_right _⟩

/-- Cases that are parameters never give the trait the name of another type. -/
theorem typesApart_of_lambdas (lambdas : data.encoding = .lambdas) (derivations : List Derivation) :
    data.TypesApart derivations := by
  intro _
  rw [traitName, lambdas]
  constructor
  · intro same
    simpa using congrArg String.length same
  · intro _ same
    exact absurd ((String.append_right_inj _).mp same) (by decide)

end DataType

namespace Declaration

/--
What keeps the names in the code of a model apart, and nothing else: the spellings
of constructor names for the variants, of field names for their fields, the name
of the interface for the types, and for the functions the spellings in one
derivation, and of constructors and instances among all of them.
-/
theorem nodup_names_iff
    {declaration asking : Declaration}
    {snapshot searched : Snapshot}
    {registry : GeneratorRegistry}
    {data : DataType}
    {request : Span}
    {derivations : List Derivation}
    {code instances : CodeUnit}
    (built : declaration.toDataType snapshot = .ok data)
    (generated : data.generate request derivations = .ok code)
    (derived : data.deriveInstances asking searched registry = .ok instances) :
    let unit := code.append instances
    ((unit.variants.map VariantItem.name).Nodup ↔
      KeepsApart Identifier.pascalCase (data.constructors.map Constructor.name)) ∧
    ((∀ variant ∈ unit.variants, (variant.fields.map Slot.name).Nodup) ↔
      ∀ constructor ∈ data.constructors,
        KeepsApart Identifier.snakeName (constructor.caseFields.map Field.name)) ∧
    (unit.typeNames.Nodup ↔ data.TypesApart derivations) ∧
    (unit.functionNames.Nodup ↔
      data.FunctionsApart derivations (asking.request.instances.map Named.name)) := by
  intro unit
  have wellFormed := wellFormed_of_toDataType built
  obtain ⟨variants, types, functions⟩ := DataType.names_of_generate generated
  obtain ⟨noTypes, instanceFunctions⟩ := DataType.names_of_deriveInstances derived
  have unitVariants : unit.variants = data.constructors.map fun constructor =>
      ⟨constructor.variantName, data.storedFields constructor⟩ := by
    rw [CodeUnit.variants_append, variants, CodeUnit.variants, noTypes]
    exact List.append_nil _
  have unitTypes : unit.typeNames =
      data.typeName :: (distinct derivations).flatMap data.addedTypeNames := by
    rw [CodeUnit.typeNames_append, types, CodeUnit.typeNames, noTypes]
    exact List.append_nil _
  refine ⟨?_, ?_, ?_, ?_⟩
  · rw [unitVariants, List.map_map, ← nodup_map_iff_keepsApart wellFormed.nodup_names,
      List.map_map]
    rfl
  · rw [unitVariants, List.forall_mem_map]
    refine forall₂_congr fun constructor listed => ?_
    rw [← nodup_map_iff_keepsApart (wellFormed.nodup_fieldNames constructor listed),
      DataType.storedFields, List.map_map, List.map_map]
    rfl
  · rw [unitTypes, data.nodup_typeNames_iff]
  · rw [CodeUnit.functionNames_append, functions, instanceFunctions,
      DataType.nodup_functionNames_iff wellFormed]

/-- Conversions with instances. -/
def conversionWithInstances : Declaration :=
  { conversion with
    request := ⟨⟨0, 9⟩, none, [⟨"Eq", ⟨1, 3⟩⟩, ⟨"Hash", ⟨4, 8⟩⟩]⟩ }

theorem nodup_names_conversion :
    ∃ code instances,
      conversion.toDataType default = .ok conversionModel ∧
      conversionModel.generate ⟨0, 9⟩ Derivation.all = .ok code ∧
      conversionModel.deriveInstances conversionWithInstances default .full = .ok instances ∧
      ((code.append instances).variants.map VariantItem.name).Nodup ∧
      (∀ variant ∈ (code.append instances).variants, (variant.fields.map Slot.name).Nodup) ∧
      (code.append instances).typeNames.Nodup ∧
      (code.append instances).functionNames.Nodup := by
  have built : conversion.toDataType default = .ok conversionModel := rfl
  obtain ⟨code, generated⟩ :
      ∃ code, conversionModel.generate ⟨0, 9⟩ Derivation.all = .ok code := ⟨_, rfl⟩
  obtain ⟨instances, derived⟩ :
      ∃ instances, conversionModel.deriveInstances conversionWithInstances default .full =
        .ok instances := ⟨_, rfl⟩
  obtain ⟨variants, fields, types, functions⟩ := nodup_names_iff built generated derived
  have lambdas : conversionModel.encoding = .lambdas := rfl
  have apart : conversionModel.FunctionsApart Derivation.all ["Eq", "Hash"] :=
    ⟨by decide, by decide, by decide⟩
  exact ⟨code, instances, built, generated, derived, variants.mpr (by decide),
    fields.mpr (by decide), types.mpr (DataType.typesApart_of_lambdas lambdas _),
    functions.mpr apart⟩

/-- Expressions whose cases are those of an interface. -/
def lazyExpr : Declaration where
  name := "Expr"
  span := ⟨1, 8⟩
  typeParams := []
  request := ⟨⟨9, 10⟩, none, []⟩
  methods := [{
    name := "match"
    span := ⟨11, 16⟩
    typeParams := [⟨"R", ⟨17, 18⟩⟩]
    parameters := [⟨"cases", ⟨20, 25⟩, .con "ExprFactory" [.var "R"], []⟩]
    result := .var "R"
    isAbstract := true }]
  statics := []

/-- An interface named as a factory, with cases and fields that differ in case only. -/
def exprFactory : Interface where
  name := "ExprFactory"
  span := ⟨30, 40⟩
  typeParams := [⟨"X", ⟨40, 41⟩⟩]
  methods :=
    [{ name := "lazy"
       span := ⟨41, 45⟩
       typeParams := []
       parameters :=
         [⟨"leftSide", ⟨46, 54⟩, .atom "i32", []⟩, ⟨"left_side", ⟨55, 60⟩, .atom "i32", []⟩]
       result := .var "X"
       isAbstract := true },
     { name := "Lazy"
       span := ⟨61, 65⟩
       typeParams := []
       parameters := []
       result := .var "X"
       isAbstract := true }]

/-- Everything that is known about the expressions. -/
def lazySnapshot : Snapshot :=
  { (default : Snapshot) with declarations := [lazyExpr], interfaces := [exprFactory] }

/-- Names that differ as they are written clash in all kinds of generated items. -/
theorem names_clash_lazyExpr :
    ∃ data code instances,
      lazyExpr.toDataType lazySnapshot = .ok data ∧
      data.generate ⟨9, 10⟩ Derivation.all = .ok code ∧
      data.deriveInstances lazyExpr lazySnapshot .full = .ok instances ∧
      ¬ ((code.append instances).variants.map VariantItem.name).Nodup ∧
      (∃ variant ∈ (code.append instances).variants, ¬ (variant.fields.map Slot.name).Nodup) ∧
      ¬ (code.append instances).typeNames.Nodup ∧
      ¬ (code.append instances).functionNames.Nodup := by
  refine ⟨_, _, _, rfl, rfl, rfl, ?_⟩
  decide +kernel

end Declaration

end DataDerive
