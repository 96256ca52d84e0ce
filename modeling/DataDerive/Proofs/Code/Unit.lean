import DataDerive.Code.Item

/-!
# What several units are made of

Putting units one after the other puts each kind of their items one after the
other, and the messages as well.
-/

namespace DataDerive.CodeUnit

section Parts

variable {α : Type} {part : CodeUnit → List α}

/-- A part of units that is empty in the empty unit and appended with units. -/
theorem part_concat
    (ofEmpty : part empty = [])
    (ofAppend : ∀ first second : CodeUnit, part (first.append second) = part first ++ part second)
    (units : List CodeUnit) :
    part (concat units) = units.flatMap part := by
  have onward (start : CodeUnit) :
      part (units.foldl append start) = part start ++ units.flatMap part := by
    induction units generalizing start with
    | nil => exact (List.append_nil _).symm
    | cons unit rest ih =>
        rw [List.foldl_cons, ih, ofAppend, List.flatMap_cons, List.append_assoc]
  rw [concat, onward, ofEmpty, List.nil_append]

end Parts

/-- What an appended unit has if one of its parts has it, several units have if one of them has. -/
theorem concat_iff
    (has : CodeUnit → Prop)
    (ofEmpty : ¬ has empty)
    (ofAppend : ∀ first second : CodeUnit, has (first.append second) ↔ has first ∨ has second)
    (units : List CodeUnit) :
    has (concat units) ↔ ∃ unit ∈ units, has unit := by
  have onward (start : CodeUnit) :
      has (units.foldl append start) ↔ has start ∨ ∃ unit ∈ units, has unit := by
    induction units generalizing start with
    | nil => simp
    | cons unit rest ih =>
        simp only [List.foldl_cons, ih, ofAppend, or_assoc, List.mem_cons, exists_eq_or_imp]
  rw [concat, onward, or_iff_right ofEmpty]

@[simp]
theorem types_concat (units : List CodeUnit) :
    (concat units).types = units.flatMap CodeUnit.types :=
  part_concat rfl (fun _ _ => rfl) units

@[simp]
theorem statics_concat (units : List CodeUnit) :
    (concat units).statics = units.flatMap CodeUnit.statics :=
  part_concat rfl (fun _ _ => rfl) units

@[simp]
theorem notes_concat (units : List CodeUnit) :
    (concat units).notes = units.flatMap CodeUnit.notes :=
  part_concat rfl (fun _ _ => rfl) units

@[simp]
theorem warnings_concat (units : List CodeUnit) :
    (concat units).warnings = units.flatMap CodeUnit.warnings :=
  part_concat rfl (fun _ _ => rfl) units

end DataDerive.CodeUnit
