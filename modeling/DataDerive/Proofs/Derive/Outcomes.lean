import DataDerive.Derive.Generate

/-!
# What deriving can do

Functions for a field are derived only if it is stored as it is, has one type and
is in some constructor; these are the fields that are accessed.  A type is taken
apart only if it has one constructor.  All other derivations always generate their
items, and the units of all derivations come after the enum.
-/

namespace DataDerive.DataType

variable (data : DataType)

/-- Whether functions are derived for a field. -/
def isAccessed (entry : FieldEntry) : Bool :=
  let holders := data.holders entry
  !(holders.any fun holder => holder.constructor.isErased holder.field) &&
    !entry.hasConflict && !holders.isEmpty

/-- The fields for which functions are derived. -/
def accessed : List FieldEntry :=
  data.fieldIndex.filter data.isAccessed

theorem nodup_map_name_accessed : (data.accessed.map FieldEntry.name).Nodup := by
  have whole : data.fieldIndex.map FieldEntry.name =
      distinct (data.occurrences.map Prod.fst) := by
    rw [fieldIndex, List.map_map]
    exact List.map_id _
  have names : (data.fieldIndex.map FieldEntry.name).Nodup := whole ▸ nodup_distinct _
  exact names.sublist (List.filter_sublist.map FieldEntry.name)

/-- What deriving functions for a field can do. -/
theorem forField_cases
    (request : Span)
    (what : String)
    (functions : FieldEntry → Holder → List Holder → List FunctionItem)
    (entry : FieldEntry) :
    (data.isAccessed entry = false ∧ data.forField request what functions entry = .empty) ∨
    (data.isAccessed entry = false ∧
      data.forField request what functions entry =
        .ofWarning (data.conflict request what entry)) ∨
    (data.isAccessed entry = true ∧ ∃ first ∈ data.holders entry,
      data.forField request what functions entry =
        .ofFunctions (functions entry first (data.holders entry))) := by
  rw [forField, isAccessed]
  split
  next erased => exact .inl ⟨by simp [erased], rfl⟩
  next stored =>
    split
    next conflict => exact .inr (.inl ⟨by simp [conflict], rfl⟩)
    next agreed =>
      split
      next none => exact .inl ⟨by simp [none], rfl⟩
      next first others found =>
        refine .inr (.inr ⟨?_, first, found ▸ List.mem_cons_self, rfl⟩)
        simp [found, found ▸ stored, agreed]

/-- What taking a type apart can do. -/
theorem destructuring_cases (request : Span) :
    (data.isSingleCase = true ∧ ∃ constructor,
      data.destructuring request = .ofFunctions [data.destructureFunction constructor]) ∨
    (data.isSingleCase = false ∧ ∃ message, message.severity = .warning ∧
      data.destructuring request = .ofWarning message) := by
  rw [destructuring, isSingleCase]
  split
  next constructor single => exact .inl ⟨by rw [single]; rfl, constructor, rfl⟩
  next several =>
    have many : data.constructors.length ≠ 1 := fun one => by
      obtain ⟨constructor, single⟩ := List.length_eq_one_iff.mp one
      exact several constructor single
    exact .inr ⟨beq_eq_false_iff_ne.mpr many, _, rfl, rfl⟩

/-- Generated code is the enum and the units of the derivations, each once. -/
theorem eq_concat_of_generate
    {data : DataType}
    {request : Span}
    {derivations : List Derivation}
    {unit : CodeUnit}
    (generated : data.generate request derivations = .ok unit) :
    unit = .concat (data.enumCode :: (distinct derivations).map (data.derive request)) := by
  rw [generate] at generated
  split at generated
  next => cases generated
  next => exact (Except.ok.inj generated).symm

end DataDerive.DataType
