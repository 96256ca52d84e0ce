import DataDerive.Code.Item

/-!
# Scopes of type parameters in generated code

A generated function may use its own generic parameters, and a method those of
its trait as well.  The fields of a type may use the generic parameters of the
type, and statics have none.  Code in which nothing else is used is well scoped,
and putting units of code together keeps that.
-/

namespace DataDerive

/-! ## Types -/

namespace CodeType

variable {names : List String}

theorem paramOccurrencesAll_eq_flatMap (types : List CodeType) :
    paramOccurrencesAll types = types.flatMap paramOccurrences := by
  induction types with
  | nil => rfl
  | cons type rest ih => exact congrArg (type.paramOccurrences ++ ·) ih

/-- The type parameters of a type are among the names. -/
def Within (names : List String) (type : CodeType) : Prop :=
  ∀ name ∈ type.paramOccurrences, name ∈ names

theorem Within.mono
    {others : List String}
    {type : CodeType}
    (within : type.Within names)
    (more : ∀ name ∈ names, name ∈ others) :
    type.Within others :=
  fun name occurs => more name (within name occurs)

theorem within_all {types : List CodeType} :
    (∀ name ∈ paramOccurrencesAll types, name ∈ names) ↔ ∀ type ∈ types, type.Within names := by
  simp only [paramOccurrencesAll_eq_flatMap, List.mem_flatMap, Within]
  constructor
  · intro all type listed name occurs
    exact all name ⟨type, listed, occurs⟩
  · rintro all name ⟨type, listed, occurs⟩
    exact all type listed name occurs

theorem within_function {types : List CodeType} {result : CodeType} :
    (∀ name ∈ paramOccurrencesAll types ++ result.paramOccurrences, name ∈ names) ↔
      (∀ type ∈ types, type.Within names) ∧ result.Within names := by
  rw [List.forall_mem_append, within_all]
  rfl

@[simp]
theorem within_param {name : String} : (param name).Within names ↔ name ∈ names :=
  List.forall_mem_singleton

@[simp]
theorem within_named {head : String} {arguments : List CodeType} :
    (named head arguments).Within names ↔ ∀ argument ∈ arguments, argument.Within names :=
  within_all

@[simp]
theorem within_reference {target : CodeType} :
    (reference target).Within names ↔ target.Within names :=
  Iff.rfl

@[simp]
theorem within_tuple {items : List CodeType} :
    (tuple items).Within names ↔ ∀ item ∈ items, item.Within names :=
  within_all

@[simp]
theorem within_shared {target : CodeType} :
    (shared target).Within names ↔ target.Within names :=
  Iff.rfl

@[simp]
theorem within_implOnce {parameters : List CodeType} {result : CodeType} :
    (implOnce parameters result).Within names ↔
      (∀ parameter ∈ parameters, parameter.Within names) ∧ result.Within names :=
  within_function

@[simp]
theorem within_dynRef {parameters : List CodeType} {result : CodeType} :
    (dynRef parameters result).Within names ↔
      (∀ parameter ∈ parameters, parameter.Within names) ∧ result.Within names :=
  within_function

@[simp]
theorem within_sharedFn {parameters : List CodeType} {result : CodeType} :
    (sharedFn parameters result).Within names ↔
      (∀ parameter ∈ parameters, parameter.Within names) ∧ result.Within names :=
  within_function

@[simp]
theorem within_boxedOnce {parameters : List CodeType} {result : CodeType} :
    (boxedOnce parameters result).Within names ↔
      (∀ parameter ∈ parameters, parameter.Within names) ∧ result.Within names :=
  within_function

@[simp]
theorem within_sharedAny : sharedAny.Within names :=
  List.forall_mem_nil _

@[simp]
theorem within_implTrait {head : String} {arguments : List CodeType} :
    (implTrait head arguments).Within names ↔ ∀ argument ∈ arguments, argument.Within names :=
  within_all

end CodeType

/-! ## Generic parameters -/

/-- Every occurrence of a type parameter in a bound. -/
def Bound.paramOccurrences : Bound → List String
  | .named _ => []
  | .producer result => result.paramOccurrences

namespace Generic

/-- Every occurrence of a type parameter in the bounds of a generic parameter. -/
def paramOccurrences (parameter : Generic) : List String :=
  parameter.bounds.flatMap Bound.paramOccurrences

@[simp]
theorem name_bound (parameter : Generic) (bound : Bound) :
    (parameter.bound bound).name = parameter.name := by
  rw [Generic.bound]
  split <;> rfl

@[simp]
theorem paramOccurrences_plain (name : String) : (plain name).paramOccurrences = [] :=
  rfl

@[simp]
theorem paramOccurrences_plain_bound (name : String) (bound : Bound) :
    ((plain name).bound bound).paramOccurrences = bound.paramOccurrences :=
  List.append_nil _

end Generic

/-! ## Functions and types -/

namespace FunctionItem

/-- The names of the generic parameters of a function. -/
def genericNames (item : FunctionItem) : List String :=
  item.generics.map Generic.name

/-- Every occurrence of a type parameter in the bounds, the parameters and the result. -/
def paramOccurrences (item : FunctionItem) : List String :=
  item.generics.flatMap Generic.paramOccurrences ++
    (item.parameters.flatMap (fun slot => slot.type.paramOccurrences) ++
      item.result.paramOccurrences)

/-- Whatever a function uses is one of its own generic parameters or of those around it. -/
def ScopedIn (outer : List String) (item : FunctionItem) : Prop :=
  ∀ name ∈ item.paramOccurrences, name ∈ item.genericNames ++ outer

/-- A name occurs somewhere in the signature of a function. -/
def Mentions (name : String) (item : FunctionItem) : Prop :=
  name ∈ item.genericNames ++ item.paramOccurrences

theorem scopedIn_iff {outer : List String} {item : FunctionItem} :
    item.ScopedIn outer ↔
      (∀ generic ∈ item.generics, ∀ name ∈ generic.paramOccurrences,
        name ∈ item.genericNames ++ outer) ∧
      (∀ slot ∈ item.parameters, slot.type.Within (item.genericNames ++ outer)) ∧
      item.result.Within (item.genericNames ++ outer) := by
  simp only [ScopedIn, paramOccurrences, List.forall_mem_append, List.forall_mem_flatMap,
    CodeType.Within]

/-- A function without bounds over type parameters is scoped by its parameters and its result. -/
theorem scopedIn_of_unbound
    {outer names : List String}
    {item : FunctionItem}
    (scope : item.genericNames ++ outer = names)
    (unbound : ∀ generic ∈ item.generics, generic.paramOccurrences = [])
    (parameters : ∀ slot ∈ item.parameters, slot.type.Within names)
    (result : item.result.Within names) :
    item.ScopedIn outer := by
  rw [scopedIn_iff, scope]
  refine ⟨fun generic listed name occurs => ?_, parameters, result⟩
  rw [unbound generic listed] at occurs
  cases occurs

/-- A function that brings along all that it uses mentions nothing else. -/
theorem ScopedIn.not_mentions
    {item : FunctionItem}
    (inside : item.ScopedIn [])
    {name : String}
    (absent : name ∉ item.genericNames) :
    ¬ item.Mentions name := by
  intro mentioned
  rcases List.mem_append.mp mentioned with own | occurs
  · exact absent own
  · exact absent (by simpa using inside name occurs)

end FunctionItem

/-- The fields of a type use its generic parameters, and so do the methods of a trait. -/
def TypeItem.WellScoped : TypeItem → Prop
  | .enum _ _ generics _ variants =>
      ∀ variant ∈ variants, ∀ slot ∈ variant.fields,
        slot.type.Within (generics.map Generic.name)
  | .trait _ _ generics methods =>
      ∀ method ∈ methods, method.ScopedIn (generics.map Generic.name)
  | .struct _ _ generics fields methods =>
      (∀ slot ∈ fields, slot.type.Within (generics.map Generic.name)) ∧
        ∀ method ∈ methods, method.ScopedIn []

/-! ## Units -/

/-- Every type parameter that is used in some code is in scope there. -/
structure CodeUnit.WellScoped (unit : CodeUnit) : Prop where
  types : ∀ item ∈ unit.types, item.WellScoped
  statics : ∀ item ∈ unit.statics, item.type.Within []
  functions : ∀ item ∈ unit.functions, item.ScopedIn []

namespace CodeUnit

theorem wellScoped_empty : empty.WellScoped :=
  ⟨List.forall_mem_nil _, List.forall_mem_nil _, List.forall_mem_nil _⟩

theorem wellScoped_ofType {item : TypeItem} (inside : item.WellScoped) :
    (ofType item).WellScoped :=
  ⟨List.forall_mem_singleton.mpr inside, List.forall_mem_nil _, List.forall_mem_nil _⟩

theorem wellScoped_ofFunctions
    {items : List FunctionItem}
    (inside : ∀ item ∈ items, item.ScopedIn []) :
    (ofFunctions items).WellScoped :=
  ⟨List.forall_mem_nil _, List.forall_mem_nil _, inside⟩

theorem wellScoped_ofWarning (message : Message) : (ofWarning message).WellScoped :=
  ⟨List.forall_mem_nil _, List.forall_mem_nil _, List.forall_mem_nil _⟩

theorem WellScoped.importing
    {unit : CodeUnit}
    (inside : unit.WellScoped)
    (paths : List String) :
    (unit.importing paths).WellScoped :=
  ⟨inside.types, inside.statics, inside.functions⟩

theorem WellScoped.append
    {first second : CodeUnit}
    (inside : first.WellScoped)
    (other : second.WellScoped) :
    (first.append second).WellScoped :=
  ⟨List.forall_mem_append.mpr ⟨inside.types, other.types⟩,
    List.forall_mem_append.mpr ⟨inside.statics, other.statics⟩,
    List.forall_mem_append.mpr ⟨inside.functions, other.functions⟩⟩

theorem wellScoped_concat
    {units : List CodeUnit}
    (inside : ∀ unit ∈ units, unit.WellScoped) :
    (concat units).WellScoped := by
  have onward (start : CodeUnit) (first : start.WellScoped) :
      (units.foldl append start).WellScoped := by
    induction units generalizing start with
    | nil => exact first
    | cons unit rest ih =>
        rw [List.forall_mem_cons] at inside
        exact ih inside.2 _ (first.append inside.1)
  exact onward empty wellScoped_empty

end CodeUnit

end DataDerive
