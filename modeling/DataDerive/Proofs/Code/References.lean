import DataDerive.Proofs.Code.Scope
import DataDerive.Proofs.Code.Unit

/-!
# References in generated bodies

The right-hand side of an arm refers to what the pattern of the arm has bound and
to parameters, locals and functions of the surroundings.  Both are written as
plain names, so a name that the pattern binds hides the same name of the
surroundings.  An arm is hygienic if every reference finds what it is meant for.
-/

namespace DataDerive

/-- A name to which an expression refers. -/
inductive Reference where
  /-- A parameter, a local or a function of the surroundings. -/
  | outer (name : String)
  /-- What the pattern around has bound to a name. -/
  | bound (name : String)
  deriving Repr, DecidableEq

/-- A reference finds what it is meant for behind a pattern that binds some names. -/
def Reference.Resolves (names : List String) : Reference → Prop
  | .outer name => name ∉ names
  | .bound name => name ∈ names

instance (names : List String) (reference : Reference) : Decidable (reference.Resolves names) :=
  match reference with
  | .outer name => inferInstanceAs (Decidable (name ∉ names))
  | .bound name => inferInstanceAs (Decidable (name ∈ names))

/-! ## Expressions -/

namespace Expr

mutual

/-- The references in an expression. -/
def references : Expr → List Reference
  | .ident name => [.outer name]
  | .bound name => [.bound name]
  | .member _ _ => []
  | .number _ _ => []
  | .quoted _ => []
  | .throughPointer value => references value
  | .call function arguments => references function ++ referencesAll arguments
  | .method receiver _ arguments => references receiver ++ referencesAll arguments
  | .unit _ => []
  | .construct _ fields => fieldReferencesAll fields
  | .tuple items => referencesAll items
  | .array items => referencesAll items
  | .all conditions => referencesAll conditions
  | .identity _ => []
  | .delayed value => references value
  | .constant value => references value
  | .matching value _ => references value
  | .formatted _ arguments => referencesAll arguments
  | .hashOf items => referencesAll items
termination_by structural value => value

/-- The references in several expressions. -/
def referencesAll : List Expr → List Reference
  | [] => []
  | value :: rest => references value ++ referencesAll rest
termination_by structural values => values

/-- The references in the values of fields. -/
def fieldReferencesAll : List (String × Expr) → List Reference
  | [] => []
  | field :: rest => fieldReferences field ++ fieldReferencesAll rest
termination_by structural fields => fields

/-- The references in the value of a field. -/
def fieldReferences : String × Expr → List Reference
  | (_, value) => references value
termination_by structural field => field

end

theorem referencesAll_eq_flatMap (values : List Expr) :
    referencesAll values = values.flatMap references := by
  induction values with
  | nil => rfl
  | cons value rest ih => rw [referencesAll, ih, List.flatMap_cons]

theorem references_call (function : Expr) (arguments : List Expr) :
    (call function arguments).references =
      function.references ++ arguments.flatMap references := by
  rw [references, referencesAll_eq_flatMap]

@[simp]
theorem references_clone (value : Expr) : value.clone.references = value.references := by
  rw [clone, references, referencesAll, List.append_nil]

/-- All references in an expression find what they are meant for. -/
def ResolvesIn (names : List String) (value : Expr) : Prop :=
  ∀ reference ∈ value.references, reference.Resolves names

instance (names : List String) (value : Expr) : Decidable (value.ResolvesIn names) :=
  inferInstanceAs (Decidable (∀ _ ∈ _, _))

section ResolvesIn

variable {names : List String}

theorem forall_mem_referencesAll {values : List Expr} :
    (∀ reference ∈ referencesAll values, reference.Resolves names) ↔
      ∀ value ∈ values, value.ResolvesIn names := by
  rw [referencesAll_eq_flatMap]
  exact List.forall_mem_flatMap

@[simp]
theorem resolvesIn_ident {name : String} : (ident name).ResolvesIn names ↔ name ∉ names :=
  List.forall_mem_singleton

@[simp]
theorem resolvesIn_bound {name : String} : (bound name).ResolvesIn names ↔ name ∈ names :=
  List.forall_mem_singleton

@[simp]
theorem resolvesIn_member {item part : String} : (member item part).ResolvesIn names :=
  List.forall_mem_nil _

@[simp]
theorem resolvesIn_number {value : Nat} {suffix : String} :
    (number value suffix).ResolvesIn names :=
  List.forall_mem_nil _

@[simp]
theorem resolvesIn_quoted {text : String} : (quoted text).ResolvesIn names :=
  List.forall_mem_nil _

@[simp]
theorem resolvesIn_throughPointer {value : Expr} :
    (throughPointer value).ResolvesIn names ↔ value.ResolvesIn names :=
  Iff.rfl

@[simp]
theorem resolvesIn_call {function : Expr} {arguments : List Expr} :
    (call function arguments).ResolvesIn names ↔
      function.ResolvesIn names ∧ ∀ argument ∈ arguments, argument.ResolvesIn names := by
  rw [ResolvesIn, references, List.forall_mem_append, forall_mem_referencesAll]
  rfl

@[simp]
theorem resolvesIn_method {receiver : Expr} {name : String} {arguments : List Expr} :
    (method receiver name arguments).ResolvesIn names ↔
      receiver.ResolvesIn names ∧ ∀ argument ∈ arguments, argument.ResolvesIn names := by
  rw [ResolvesIn, references, List.forall_mem_append, forall_mem_referencesAll]
  rfl

@[simp]
theorem resolvesIn_construct {path : VariantPath} {fields : List (String × Expr)} :
    (construct path fields).ResolvesIn names ↔
      ∀ field ∈ fields, field.2.ResolvesIn names := by
  rw [ResolvesIn, references]
  induction fields with
  | nil => simp [fieldReferencesAll]
  | cons field rest ih =>
      obtain ⟨name, value⟩ := field
      rw [fieldReferencesAll, fieldReferences, List.forall_mem_append, ih, List.forall_mem_cons]
      rfl

@[simp]
theorem resolvesIn_tuple {items : List Expr} :
    (tuple items).ResolvesIn names ↔ ∀ item ∈ items, item.ResolvesIn names :=
  forall_mem_referencesAll

@[simp]
theorem resolvesIn_all {conditions : List Expr} :
    (all conditions).ResolvesIn names ↔ ∀ condition ∈ conditions, condition.ResolvesIn names :=
  forall_mem_referencesAll

@[simp]
theorem resolvesIn_delayed {value : Expr} :
    (delayed value).ResolvesIn names ↔ value.ResolvesIn names :=
  Iff.rfl

@[simp]
theorem resolvesIn_formatted {template : String} {arguments : List Expr} :
    (formatted template arguments).ResolvesIn names ↔
      ∀ argument ∈ arguments, argument.ResolvesIn names :=
  forall_mem_referencesAll

@[simp]
theorem resolvesIn_hashOf {items : List Expr} :
    (hashOf items).ResolvesIn names ↔ ∀ item ∈ items, item.ResolvesIn names :=
  forall_mem_referencesAll

@[simp]
theorem resolvesIn_share {value : Expr} :
    value.share.ResolvesIn names ↔ value.ResolvesIn names := by
  simp [share]

@[simp]
theorem resolvesIn_clone {value : Expr} :
    value.clone.ResolvesIn names ↔ value.ResolvesIn names := by
  simp [clone]

end ResolvesIn

end Expr

/-! ## Arms -/

/-- The right-hand side of an arm refers to what its pattern binds and to nothing that it hides. -/
def Arm.Hygienic (arm : Arm) : Prop :=
  arm.result.ResolvesIn arm.pattern.boundNames

instance (arm : Arm) : Decidable arm.Hygienic :=
  inferInstanceAs (Decidable (arm.result.ResolvesIn _))

/-- The arms of a fallback. -/
def Fallback.arms : Fallback → List Arm
  | .none => []
  | .constant result => [⟨.anything, result⟩]
  | .caseNumbers numbers => numbers.map fun (pattern, number) => ⟨pattern, .number number ""⟩

/-- The arms of a class instance that is made from a function. -/
def ClassValue.arms : ClassValue → List Arm
  | .function value => value.arms ++ value.fallback.arms
  | .verbatim _ => []

/-- The arms of a body; a value that is taken apart has one. -/
def Body.arms : Body → List Arm
  | .expression _ => []
  | .cases _ arms => arms
  | .unpack pattern _ items => [⟨pattern, .tuple items⟩]
  | .classValue _ value => value.arms
  | .verbatim _ => []

/-- The arms of a function. -/
def FunctionItem.arms (item : FunctionItem) : List Arm :=
  match item.body with
  | some body => body.arms
  | none => []

/-- The names of the parameters of a function. -/
def FunctionItem.parameterNames (item : FunctionItem) : List String :=
  item.parameters.map Slot.name

/-! ## Units -/

/-- The methods of a type. -/
def TypeItem.methods : TypeItem → List FunctionItem
  | .enum _ _ _ _ _ => []
  | .trait _ _ _ methods => methods
  | .struct _ _ _ _ methods => methods

namespace CodeUnit

/-- The functions of a unit and the methods of its types. -/
def allFunctions (unit : CodeUnit) : List FunctionItem :=
  unit.functions ++ unit.types.flatMap TypeItem.methods

/-- The arms in all bodies of a unit. -/
def arms (unit : CodeUnit) : List Arm :=
  unit.allFunctions.flatMap FunctionItem.arms ++
    unit.statics.flatMap fun item => item.body.arms

theorem allFunctions_ofFunctions (items : List FunctionItem) :
    (ofFunctions items).allFunctions = items :=
  List.append_nil items

/-- The arms of a unit without statics are those of its functions. -/
theorem forall_mem_arms_of_functions
    {unit : CodeUnit}
    (none : unit.statics = [])
    {holds : Arm → Prop} :
    (∀ arm ∈ unit.arms, holds arm) ↔
      ∀ item ∈ unit.allFunctions, ∀ arm ∈ item.arms, holds arm := by
  rw [arms, none, List.flatMap_nil, List.append_nil, List.forall_mem_flatMap]

theorem mem_allFunctions_append {first second : CodeUnit} {item : FunctionItem} :
    item ∈ (first.append second).allFunctions ↔
      item ∈ first.allFunctions ∨ item ∈ second.allFunctions := by
  simp only [allFunctions, append, List.flatMap_append, List.mem_append, or_or_or_comm]

theorem mem_arms_append {first second : CodeUnit} {arm : Arm} :
    arm ∈ (first.append second).arms ↔ arm ∈ first.arms ∨ arm ∈ second.arms := by
  have functions : arm ∈ (first.append second).allFunctions.flatMap FunctionItem.arms ↔
      arm ∈ first.allFunctions.flatMap FunctionItem.arms ∨
        arm ∈ second.allFunctions.flatMap FunctionItem.arms := by
    simp only [List.mem_flatMap, mem_allFunctions_append, or_and_right, exists_or]
  have statics : (first.append second).statics = first.statics ++ second.statics := rfl
  rw [arms, List.mem_append, functions, statics, List.flatMap_append, List.mem_append,
    or_or_or_comm, ← List.mem_append, ← List.mem_append]
  rfl

theorem forall_mem_allFunctions_concat {holds : FunctionItem → Prop} {units : List CodeUnit} :
    (∀ item ∈ (concat units).allFunctions, holds item) ↔
      ∀ unit ∈ units, ∀ item ∈ unit.allFunctions, holds item := by
  have among (item : FunctionItem) : item ∈ (concat units).allFunctions ↔
      ∃ unit ∈ units, item ∈ unit.allFunctions :=
    concat_iff (fun unit => item ∈ unit.allFunctions) List.not_mem_nil
      (fun _ _ => mem_allFunctions_append) units
  simp only [among, forall_exists_index, and_imp]
  exact forall_comm.trans (forall_congr' fun _ => forall_comm)

theorem forall_mem_arms_concat {holds : Arm → Prop} {units : List CodeUnit} :
    (∀ arm ∈ (concat units).arms, holds arm) ↔
      ∀ unit ∈ units, ∀ arm ∈ unit.arms, holds arm := by
  have among (arm : Arm) : arm ∈ (concat units).arms ↔ ∃ unit ∈ units, arm ∈ unit.arms :=
    concat_iff (fun unit => arm ∈ unit.arms) List.not_mem_nil (fun _ _ => mem_arms_append) units
  simp only [among, forall_exists_index, and_imp]
  exact forall_comm.trans (forall_congr' fun _ => forall_comm)

end CodeUnit

end DataDerive
