import DataDerive.Proofs.ClassInstance.Found
import DataDerive.Proofs.Code.Unit
import DataDerive.Proofs.Derive.Outcomes
import DataDerive.Proofs.Model.Faults
import DataDerive.Run.Basic

/-!
# Severities of messages

A message either ends the work on a declaration or goes with its module.  Every
message that ends a phase is an error, so it is fatal; every message that goes
with a module is a note or a warning, so it is not.  The messages of a build are
known by their codes; there is one lemma for each later phase, one for each
derivation, and one for the instances.
-/

namespace DataDerive

open Derived

/-- A phase that fails ends in an error. -/
def EndsFatally {α : Type} (step : Derived α) : Prop :=
  FailsOnlyWith (fun message => message.isFatal = true) step

/-! ## Messages that end the building of a model -/

namespace Declaration

variable (declaration : Declaration) (snapshot : Snapshot)

theorem endsFatally_toDataType : EndsFatally (declaration.toDataType snapshot) := by
  have fatal : ∀ code ∈ buildingCodes, code.severity == .error := by decide
  exact fun message fails => fatal _ (declaration.failsWithin_toDataType snapshot message fails)

theorem endsFatally_derivations (standard : List Derivation) :
    EndsFatally (declaration.derivations standard) := by
  have one (item : Named) : EndsFatally (declaration.derivationOf item) := by
    rw [derivationOf]
    split
    next => exact failsOnlyWith_ok _
    next => exact failsOnlyWith_error rfl
  rw [derivations]
  split
  next => exact failsOnlyWith_mapM one _
  next => exact failsOnlyWith_ok _

end Declaration

/-! ## Messages that end the generation of code -/

theorem DataType.endsFatally_generate
    (data : DataType)
    (request : Span)
    (derivations : List Derivation) :
    EndsFatally (data.generate request derivations) := by
  rw [generate]
  split
  next => exact failsOnlyWith_error rfl
  next => exact failsOnlyWith_ok _

theorem SearchContext.IsNegative.isFatal {message : Message} (negative : IsNegative message) :
    message.isFatal = true := by
  have fatal : ∀ code ∈ [Code.noInstance, .ambiguousInstance, .searchTooDeep, .internal],
      code.severity == .error := by decide
  exact fatal message.code (List.mem_cons.mpr negative)

theorem SearchContext.endsFatally_find (context : SearchContext) (target : TypeExpr) :
    EndsFatally (context.find target) := fun _ fails =>
  (solve_ensures context.admits_unrestricted (deepestGoal + 1) _ .start).message_of_error fails
    |>.isFatal

namespace InstanceRequest

variable (request : InstanceRequest)

theorem endsFatally_findings : EndsFatally request.findings :=
  failsOnlyWith_mapM (fun _ => failsOnlyWith_mapM (fun field =>
    ((request.context field).endsFatally_find field.type).bind fun _ => failsOnlyWith_ok _) _) _

theorem endsFatally_checkPassable (naming : InstanceNaming) :
    EndsFatally (request.checkPassable naming) := by
  rw [checkPassable]
  split
  next => exact failsOnlyWith_ok ()
  next => exact failsOnlyWith_error rfl

theorem endsFatally_generate (generator : InstanceGenerator) :
    EndsFatally (request.generate generator) := by
  rw [generate_eq]
  exact request.endsFatally_findings.bind fun found =>
    (request.endsFatally_checkPassable (request.naming found)).bind fun _ => failsOnlyWith_ok _

end InstanceRequest

theorem DataType.endsFatally_deriveInstances
    (data : DataType)
    (declaration : Declaration)
    (snapshot : Snapshot)
    (registry : GeneratorRegistry) :
    EndsFatally (data.deriveInstances declaration snapshot registry) := by
  refine (failsOnlyWith_mapM (fun item => ?_) _).bind fun _ => failsOnlyWith_ok _
  dsimp only
  split
  next generator _ => exact InstanceRequest.endsFatally_generate _ generator
  next => exact failsOnlyWith_error rfl

/-! ## Messages that go with code -/

/-- The notes on a unit are notes, and the warnings are warnings. -/
structure CodeUnit.Graded (unit : CodeUnit) : Prop where
  notes : ∀ message ∈ unit.notes, message.severity = .note
  warnings : ∀ message ∈ unit.warnings, message.severity = .warning

namespace CodeUnit

theorem graded_of_silent
    {unit : CodeUnit}
    (notes : unit.notes = [])
    (warnings : unit.warnings = []) :
    unit.Graded :=
  ⟨by simp [notes], by simp [warnings]⟩

theorem graded_ofWarning {message : Message} (isWarning : message.severity = .warning) :
    (ofWarning message).Graded :=
  ⟨List.forall_mem_nil _, List.forall_mem_singleton.mpr isWarning⟩

theorem Graded.append {first second : CodeUnit} (graded : first.Graded) (other : second.Graded) :
    (first.append second).Graded :=
  ⟨List.forall_mem_append.mpr ⟨graded.notes, other.notes⟩,
    List.forall_mem_append.mpr ⟨graded.warnings, other.warnings⟩⟩

theorem graded_concat {units : List CodeUnit} (each : ∀ unit ∈ units, unit.Graded) :
    (concat units).Graded := by
  constructor
  · rw [notes_concat, List.forall_mem_flatMap]
    exact fun unit listed => (each unit listed).notes
  · rw [warnings_concat, List.forall_mem_flatMap]
    exact fun unit listed => (each unit listed).warnings

/-- No message that goes with graded code is fatal. -/
theorem Graded.isFatal_eq_false
    {unit : CodeUnit}
    (graded : unit.Graded)
    {message : Message}
    (listed : message ∈ unit.notes ++ unit.warnings) :
    message.isFatal = false := by
  rw [Message.isFatal]
  rcases List.mem_append.mp listed with isNote | isWarning
  · rw [graded.notes message isNote]
    rfl
  · rw [graded.warnings message isWarning]
    rfl

end CodeUnit

namespace DataType

variable (data : DataType)

theorem graded_forField
    (request : Span)
    (what : String)
    (functions : FieldEntry → Holder → List Holder → List FunctionItem)
    (entry : FieldEntry) :
    (data.forField request what functions entry).Graded := by
  rcases data.forField_cases request what functions entry with
    ⟨-, outcome⟩ | ⟨-, outcome⟩ | ⟨-, first, -, outcome⟩
  · exact outcome ▸ CodeUnit.graded_of_silent rfl rfl
  · exact outcome ▸ CodeUnit.graded_ofWarning rfl
  · exact outcome ▸ CodeUnit.graded_of_silent rfl rfl

theorem graded_destructuring (request : Span) : (data.destructuring request).Graded := by
  rcases data.destructuring_cases request with
    ⟨-, constructor, outcome⟩ | ⟨-, message, isWarning, outcome⟩
  · exact outcome ▸ CodeUnit.graded_of_silent rfl rfl
  · exact outcome ▸ CodeUnit.graded_ofWarning isWarning

theorem graded_derive (request : Span) (derivation : Derivation) :
    (data.derive request derivation).Graded := by
  have fields (what : String)
      (functions : FieldEntry → Holder → List Holder → List FunctionItem) :
      (CodeUnit.concat (data.fieldIndex.map (data.forField request what functions))).Graded :=
    CodeUnit.graded_concat (List.forall_mem_map.mpr fun entry _ =>
      data.graded_forField request what functions entry)
  cases derivation with
  | destructure => exact data.graded_destructuring request
  | getters => exact fields _ _
  | modifiers => exact fields _ _
  | matcher | constructors | lazy | caseOf | catamorphism | factory =>
      exact CodeUnit.graded_of_silent rfl rfl

theorem graded_of_generate
    {data : DataType}
    {request : Span}
    {derivations : List Derivation}
    {unit : CodeUnit}
    (generated : data.generate request derivations = .ok unit) :
    unit.Graded := by
  rw [eq_concat_of_generate generated]
  exact CodeUnit.graded_concat (List.forall_mem_cons.mpr
    ⟨CodeUnit.graded_of_silent rfl rfl,
      List.forall_mem_map.mpr fun derivation _ => data.graded_derive request derivation⟩)

end DataType

theorem InstanceRequest.graded_of_generate
    {request : InstanceRequest}
    {generator : InstanceGenerator}
    {unit : CodeUnit}
    (generated : request.generate generator = .ok unit) :
    unit.Graded := by
  rcases generate_eq_ok_iff.mp generated with ⟨found, -, -, rfl⟩
  constructor
  · refine List.forall_mem_flatMap.mpr fun row _ => ?_
    exact List.forall_mem_map.mpr fun entry _ => rfl
  · have silent : (request.unitOf generator found).warnings = [] := by
      change (request.item _ _).warnings = []
      rw [item]
      split <;> rfl
    rw [silent]
    exact List.forall_mem_nil _

theorem DataType.graded_of_deriveInstances
    {data : DataType}
    {declaration : Declaration}
    {snapshot : Snapshot}
    {registry : GeneratorRegistry}
    {unit : CodeUnit}
    (derived : data.deriveInstances declaration snapshot registry = .ok unit) :
    unit.Graded := by
  rcases bind_eq_ok_iff.mp derived with ⟨units, each, same⟩
  cases same
  refine CodeUnit.graded_concat fun unit listed => ?_
  rcases exists_of_mem_mapM each listed with ⟨item, -, one⟩
  dsimp only at one
  split at one
  next generator _ => exact InstanceRequest.graded_of_generate one
  next => cases one

end DataDerive
