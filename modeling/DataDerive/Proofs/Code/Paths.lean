import DataDerive.Proofs.Code.Unit

/-!
# Paths that generated code needs

Generated code writes some names that are no names of the language: shared
pointers, values of unknown type, lazy cells and statics that are initialized on
first use.  Each of them needs a path to be imported.  The needed paths are read
off the types and bounds of signatures and of storage; the types that a
declaration names are imported by its own module.
-/

namespace DataDerive

/-! ## Types -/

namespace CodeType

/-- Whether a named type is the cell of a value that is built on first access. -/
def isLazyCell (name : String) : List CodeType → Bool
  | [_, .boxedOnce [] _] => name == "LazyCell"
  | _ => false

mutual

/-- The paths that a type needs where it is written. -/
def neededPaths : CodeType → List String
  | .param _ => []
  | .named name arguments =>
      (if isLazyCell name arguments then ["std::cell::LazyCell"] else []) ++
        neededPathsAll arguments
  | .reference target => neededPaths target
  | .tuple items => neededPathsAll items
  | .shared target => "std::rc::Rc" :: neededPaths target
  | .implOnce parameters result => neededPathsAll parameters ++ neededPaths result
  | .dynRef parameters result => neededPathsAll parameters ++ neededPaths result
  | .sharedFn parameters result =>
      "std::rc::Rc" :: (neededPathsAll parameters ++ neededPaths result)
  | .boxedOnce parameters result => neededPathsAll parameters ++ neededPaths result
  | .sharedAny => ["std::rc::Rc", "std::any::Any"]
  | .implTrait _ arguments => neededPathsAll arguments

/-- The paths that several types need. -/
def neededPathsAll : List CodeType → List String
  | [] => []
  | type :: rest => neededPaths type ++ neededPathsAll rest

end

theorem neededPathsAll_eq_flatMap (types : List CodeType) :
    neededPathsAll types = types.flatMap neededPaths := by
  induction types with
  | nil => rfl
  | cons type rest ih => exact congrArg (type.neededPaths ++ ·) ih

/-- All paths that a type needs are allowed. -/
def NeedsOnly (allowed : String → Prop) (type : CodeType) : Prop :=
  ∀ path ∈ type.neededPaths, allowed path

section NeedsOnly

variable {allowed : String → Prop}

theorem forall_mem_neededPathsAll {types : List CodeType} :
    (∀ path ∈ neededPathsAll types, allowed path) ↔ ∀ type ∈ types, type.NeedsOnly allowed := by
  rw [neededPathsAll_eq_flatMap, List.forall_mem_flatMap]
  rfl

theorem needsOnly_function {types : List CodeType} {result : CodeType} :
    (∀ path ∈ neededPathsAll types ++ result.neededPaths, allowed path) ↔
      (∀ type ∈ types, type.NeedsOnly allowed) ∧ result.NeedsOnly allowed := by
  rw [List.forall_mem_append, forall_mem_neededPathsAll]
  rfl

theorem needsOnly_param {name : String} : (param name).NeedsOnly allowed :=
  List.forall_mem_nil _

/-- A named type that is no lazy cell needs what its arguments need. -/
theorem needsOnly_named
    {name : String}
    {arguments : List CodeType}
    (ordinary : isLazyCell name arguments = false) :
    (named name arguments).NeedsOnly allowed ↔
      ∀ argument ∈ arguments, argument.NeedsOnly allowed := by
  rw [NeedsOnly, neededPaths, ordinary]
  exact forall_mem_neededPathsAll

theorem needsOnly_reference {target : CodeType} :
    (reference target).NeedsOnly allowed ↔ target.NeedsOnly allowed :=
  Iff.rfl

theorem needsOnly_tuple {items : List CodeType} :
    (tuple items).NeedsOnly allowed ↔ ∀ item ∈ items, item.NeedsOnly allowed :=
  forall_mem_neededPathsAll

theorem needsOnly_implOnce {parameters : List CodeType} {result : CodeType} :
    (implOnce parameters result).NeedsOnly allowed ↔
      (∀ parameter ∈ parameters, parameter.NeedsOnly allowed) ∧ result.NeedsOnly allowed :=
  needsOnly_function

theorem needsOnly_dynRef {parameters : List CodeType} {result : CodeType} :
    (dynRef parameters result).NeedsOnly allowed ↔
      (∀ parameter ∈ parameters, parameter.NeedsOnly allowed) ∧ result.NeedsOnly allowed :=
  needsOnly_function

theorem needsOnly_implTrait {name : String} {arguments : List CodeType} :
    (implTrait name arguments).NeedsOnly allowed ↔
      ∀ argument ∈ arguments, argument.NeedsOnly allowed :=
  forall_mem_neededPathsAll

end NeedsOnly

end CodeType

/-! ## Generic parameters -/

/-- The paths that a bound needs. -/
def Bound.neededPaths : Bound → List String
  | .named name => if name = "Any" then ["std::any::Any"] else []
  | .producer result => result.neededPaths

/-- The paths that the bounds of a generic parameter need. -/
def Generic.neededPaths (parameter : Generic) : List String :=
  parameter.bounds.flatMap Bound.neededPaths

theorem Generic.neededPaths_plain_bound (name : String) (bound : Bound) :
    ((plain name).bound bound).neededPaths = bound.neededPaths :=
  List.append_nil _

/-! ## Items -/

namespace FunctionItem

/-- The paths that the signature of a function needs. -/
def neededPaths (item : FunctionItem) : List String :=
  item.generics.flatMap Generic.neededPaths ++
    (item.parameters.flatMap (fun slot => slot.type.neededPaths) ++ item.result.neededPaths)

/-- All paths that the signature of a function needs are allowed. -/
def NeedsOnly (allowed : String → Prop) (item : FunctionItem) : Prop :=
  ∀ path ∈ item.neededPaths, allowed path

theorem needsOnly_iff {allowed : String → Prop} {item : FunctionItem} :
    item.NeedsOnly allowed ↔
      (∀ generic ∈ item.generics, ∀ path ∈ generic.neededPaths, allowed path) ∧
      (∀ slot ∈ item.parameters, slot.type.NeedsOnly allowed) ∧
      item.result.NeedsOnly allowed := by
  rw [NeedsOnly, neededPaths]
  simp only [List.forall_mem_append, List.forall_mem_flatMap]
  rfl

/-- A function whose bounds need nothing needs what its parameters and its result need. -/
theorem needsOnly_of_unbound
    {allowed : String → Prop}
    {item : FunctionItem}
    (unbound : ∀ generic ∈ item.generics, generic.neededPaths = [])
    (parameters : ∀ slot ∈ item.parameters, slot.type.NeedsOnly allowed)
    (result : item.result.NeedsOnly allowed) :
    item.NeedsOnly allowed := by
  refine needsOnly_iff.mpr ⟨fun generic listed path needed => ?_, parameters, result⟩
  rw [unbound generic listed] at needed
  cases needed

end FunctionItem

/-- The paths that the signatures and the storage of a type need. -/
def TypeItem.neededPaths : TypeItem → List String
  | .enum _ _ generics _ variants =>
      generics.flatMap Generic.neededPaths ++
        variants.flatMap fun variant => variant.fields.flatMap fun slot => slot.type.neededPaths
  | .trait _ _ generics methods =>
      generics.flatMap Generic.neededPaths ++ methods.flatMap FunctionItem.neededPaths
  | .struct _ _ generics fields methods =>
      generics.flatMap Generic.neededPaths ++
        (fields.flatMap (fun slot => slot.type.neededPaths) ++
          methods.flatMap FunctionItem.neededPaths)

/-- The paths that a static needs: that of its initialization, and those of its type. -/
def StaticItem.neededPaths (item : StaticItem) : List String :=
  "std::sync::LazyLock" :: item.type.neededPaths

/-! ## Units -/

namespace CodeUnit

variable {path : String}

/-- The paths that the items of a unit need. -/
def neededPaths (unit : CodeUnit) : List String :=
  unit.types.flatMap TypeItem.neededPaths ++
    (unit.statics.flatMap StaticItem.neededPaths ++
      unit.functions.flatMap FunctionItem.neededPaths)

theorem mem_neededPaths_append {first second : CodeUnit} :
    path ∈ (first.append second).neededPaths ↔
      path ∈ first.neededPaths ∨ path ∈ second.neededPaths := by
  simp only [neededPaths, append, List.flatMap_append, List.mem_append, or_or_or_comm]

theorem mem_imports_append {first second : CodeUnit} :
    path ∈ (first.append second).imports ↔ path ∈ first.imports ∨ path ∈ second.imports := by
  rw [append, mem_distinct, List.mem_append]

theorem mem_neededPaths_concat {units : List CodeUnit} :
    path ∈ (concat units).neededPaths ↔ ∃ unit ∈ units, path ∈ unit.neededPaths :=
  concat_iff (fun unit => path ∈ unit.neededPaths) List.not_mem_nil
    (fun _ _ => mem_neededPaths_append) units

theorem mem_imports_concat {units : List CodeUnit} :
    path ∈ (concat units).imports ↔ ∃ unit ∈ units, path ∈ unit.imports :=
  concat_iff (fun unit => path ∈ unit.imports) List.not_mem_nil
    (fun _ _ => mem_imports_append) units

theorem mem_imports_importing {unit : CodeUnit} {paths : List String} :
    path ∈ (unit.importing paths).imports ↔ path ∈ unit.imports ∨ path ∈ paths := by
  rw [importing, mem_distinct, List.mem_append]

theorem neededPaths_importing (unit : CodeUnit) (paths : List String) :
    (unit.importing paths).neededPaths = unit.neededPaths :=
  rfl

theorem imports_ofType (item : TypeItem) : (ofType item).imports = [] :=
  rfl

theorem imports_ofFunctions (items : List FunctionItem) : (ofFunctions items).imports = [] :=
  rfl

theorem neededPaths_ofType (item : TypeItem) : (ofType item).neededPaths = item.neededPaths := by
  simp [neededPaths, ofType, empty]

end CodeUnit

end DataDerive
