import DataDerive.Model.Builder
import Mathlib.Data.List.Sort

/-!
# Fields in their places

A constructor keeps the witnesses of a case apart from its arguments.  The two
lists are an interleaving of the fields of the case in which every restriction
knows the position of its witness.  Telling witnesses from arguments produces
such an interleaving, whatever is taken for a witness, and laying out the fields
of a constructor undoes one.  So the cases of a matcher survive in the model.
-/

namespace DataDerive

/--
The witnesses of restrictions and the arguments, both in their order, make up
the fields of a case from a position on, and every restriction has the position
of its witness.
-/
inductive Interleaved : (position : Nat) → List Restriction → List Field → List Field → Prop
  | nil (position : Nat) : Interleaved position [] [] []
  | witness
      {restriction : Restriction}
      {restrictions : List Restriction}
      {arguments fields : List Field}
      (rest : Interleaved (restriction.position + 1) restrictions arguments fields) :
      Interleaved restriction.position (restriction :: restrictions) arguments
        (restriction.witness :: fields)
  | argument
      {position : Nat}
      {field : Field}
      {restrictions : List Restriction}
      {arguments fields : List Field}
      (rest : Interleaved (position + 1) restrictions arguments fields) :
      Interleaved position restrictions (field :: arguments) (field :: fields)

namespace Interleaved

variable {position : Nat} {restrictions : List Restriction} {arguments fields : List Field}

theorem position_le
    (interleaved : Interleaved position restrictions arguments fields) :
    ∀ restriction ∈ restrictions, position ≤ restriction.position := by
  induction interleaved with
  | nil => simp
  | witness rest ih =>
      intro restriction member
      rcases List.mem_cons.mp member with rfl | later
      · exact Nat.le_refl _
      · exact Nat.le_of_succ_le (ih restriction later)
  | argument rest ih =>
      intro restriction member
      exact Nat.le_of_succ_le (ih restriction member)

theorem pairwise_positions
    (interleaved : Interleaved position restrictions arguments fields) :
    restrictions.Pairwise fun first second => first.position < second.position := by
  induction interleaved with
  | nil => exact List.Pairwise.nil
  | witness rest ih =>
      rw [List.pairwise_cons]
      exact ⟨fun later member => Nat.lt_of_succ_le (rest.position_le later member), ih⟩
  | argument rest ih => exact ih

theorem nodup_positions
    (interleaved : Interleaved position restrictions arguments fields) :
    (restrictions.map Restriction.position).Nodup :=
  List.pairwise_map.mpr (interleaved.pairwise_positions.imp Nat.ne_of_lt)

/-- The order of the restrictions is no choice. -/
theorem restrictions_eq_of_mem_iff
    {others : List Restriction}
    {otherArguments otherFields : List Field}
    (interleaved : Interleaved position restrictions arguments fields)
    (other : Interleaved position others otherArguments otherFields)
    (same : ∀ restriction, restriction ∈ restrictions ↔ restriction ∈ others) :
    restrictions = others := by
  have asymmetric : Std.Antisymm fun first second : Restriction =>
      first.position < second.position :=
    ⟨fun _ _ less more => absurd more (Nat.lt_asymm less)⟩
  have irreflexive : Std.Irrefl fun first second : Restriction =>
      first.position < second.position :=
    ⟨fun _ => Nat.lt_irrefl _⟩
  exact interleaved.pairwise_positions.eq_of_mem_iff other.pairwise_positions same

/-- The arguments are the fields at the positions without a witness. -/
theorem arguments_eq
    (interleaved : Interleaved position restrictions arguments fields) :
    arguments =
      ((fields.zipIdx position).filter fun (_, index) =>
        index ∉ restrictions.map Restriction.position).map Prod.fst := by
  induction interleaved with
  | nil => rfl
  | @witness first restrictions _ fields rest ih =>
      rw [List.zipIdx_cons, List.filter_cons_of_neg (by simp), ih]
      refine congrArg _ (List.filter_congr fun place listed => ?_)
      have later := List.le_snd_of_mem_zipIdx listed
      have differs : place.2 ≠ first.position := by omega
      simp [differs]
  | argument rest ih =>
      rw [List.zipIdx_cons, List.filter_cons_of_pos, List.map_cons, ← ih]
      rw [decide_eq_true_iff, List.mem_map]
      rintro ⟨restriction, restricts, same⟩
      have above := rest.position_le restriction restricts
      omega

/-- Every witness is the field at its position. -/
theorem witness_placed
    (interleaved : Interleaved position restrictions arguments fields)
    {restriction : Restriction}
    (member : restriction ∈ restrictions) :
    ∃ offset, restriction.position = position + offset ∧
      fields[offset]? = some restriction.witness := by
  induction interleaved with
  | nil => cases member
  | @witness first _ _ _ rest ih =>
      rcases List.mem_cons.mp member with rfl | later
      · exact ⟨0, rfl, rfl⟩
      · rcases ih later with ⟨offset, placed, found⟩
        exact ⟨offset + 1, by omega, found⟩
  | argument rest ih =>
      rcases ih member with ⟨offset, placed, found⟩
      exact ⟨offset + 1, by omega, found⟩

/-- Every argument is a field, and no witness stands at its position. -/
theorem exists_of_mem_arguments
    (interleaved : Interleaved position restrictions arguments fields)
    {argument : Field}
    (member : argument ∈ arguments) :
    ∃ offset, fields[offset]? = some argument ∧
      ∀ restriction ∈ restrictions, restriction.position ≠ position + offset := by
  rw [interleaved.arguments_eq, List.mem_map] at member
  rcases member with ⟨⟨field, index⟩, listed, rfl⟩
  rcases List.mem_filter.mp listed with ⟨placed, free⟩
  rcases List.mem_zipIdx_iff_le_and_getElem?_sub.mp placed with ⟨above, found⟩
  refine ⟨index - position, found, fun restriction restricts same => ?_⟩
  have here : restriction.position = index := same.trans (Nat.add_sub_of_le above)
  rw [decide_eq_true_iff, ← here] at free
  exact free (List.mem_map_of_mem restricts)

theorem sublist (interleaved : Interleaved position restrictions arguments fields) :
    arguments.Sublist fields := by
  induction interleaved with
  | nil => exact .slnil
  | witness _ ih => exact ih.cons _
  | argument _ ih => exact ih.cons_cons _

/-- If names identify fields, no argument has the name of a witness. -/
theorem name_ne_of_mem_arguments
    (interleaved : Interleaved position restrictions arguments fields)
    (distinct : (fields.map Field.name).Nodup)
    {restriction : Restriction}
    (restricts : restriction ∈ restrictions)
    {argument : Field}
    (among : argument ∈ arguments) :
    restriction.witness.name ≠ argument.name := by
  intro same
  rcases interleaved.witness_placed restricts with ⟨place, placed, witness⟩
  rcases interleaved.exists_of_mem_arguments among with ⟨offset, found, free⟩
  have names : (fields.map Field.name)[offset]? = (fields.map Field.name)[place]? := by
    rw [List.getElem?_map, List.getElem?_map, found, witness, Option.map_some, Option.map_some,
      same]
  have inside : offset < (fields.map Field.name).length := by
    rw [List.length_map]
    exact (List.getElem?_eq_some_iff.mp found).1
  have equal := (List.getElem?_inj inside distinct).mp names
  exact free restriction restricts (equal ▸ placed)

end Interleaved

/-! ## Laying out -/

namespace Constructor

theorem layOut_of_restriction
    {constructor : Constructor}
    {position : Nat}
    {restriction : Restriction}
    (found : constructor.restrictionAt? position = some restriction)
    (remaining : Nat)
    (arguments : List Field) :
    constructor.layOut (remaining + 1) position arguments =
      restriction.witness :: constructor.layOut remaining (position + 1) arguments := by
  rw [layOut.eq_def]
  simp only [found]

theorem layOut_of_no_restriction
    {constructor : Constructor}
    {position : Nat}
    (free : constructor.restrictionAt? position = none)
    (remaining : Nat)
    (argument : Field)
    (rest : List Field) :
    constructor.layOut (remaining + 1) position (argument :: rest) =
      argument :: constructor.layOut remaining (position + 1) rest := by
  rw [layOut.eq_def]
  simp only [free]

/-- Laying out restores the fields if the constructor finds the witnesses from there on. -/
theorem layOut_eq
    {constructor : Constructor}
    {position : Nat}
    {restrictions : List Restriction}
    {arguments fields : List Field}
    (interleaved : Interleaved position restrictions arguments fields)
    (finds : ∀ later, position ≤ later →
      constructor.restrictionAt? later =
        restrictions.find? fun restriction => restriction.position == later) :
    constructor.layOut (arguments.length + restrictions.length) position arguments = fields := by
  -- By `finds` a witness is found exactly at the next position of the interleaving.
  induction interleaved with
  | nil => rfl
  | @witness first _ _ _ rest ih =>
      have here : constructor.restrictionAt? first.position = some first := by
        rw [finds first.position (Nat.le_refl _), List.find?_cons_of_pos (by simp)]
      rw [List.length_cons, ← Nat.add_assoc, layOut_of_restriction here]
      refine congrArg _ (ih fun later above => ?_)
      rw [finds later (Nat.le_of_succ_le above), List.find?_cons_of_neg]
      simp only [beq_iff_eq]
      omega
  | @argument position _ _ _ _ rest ih =>
      have here : constructor.restrictionAt? position = none := by
        rw [finds position (Nat.le_refl _), List.find?_eq_none]
        intro restriction member same
        have above := rest.position_le restriction member
        rw [beq_iff_eq] at same
        omega
      rw [List.length_cons, Nat.add_right_comm, layOut_of_no_restriction here]
      exact congrArg _ (ih fun later above => finds later (Nat.le_of_succ_le above))

theorem caseFields_eq
    {constructor : Constructor}
    {fields : List Field}
    (interleaved : Interleaved 0 constructor.restrictions constructor.arguments fields) :
    constructor.caseFields = fields :=
  layOut_eq interleaved fun _ _ => rfl

end Constructor

/-! ## Telling witnesses from arguments -/

namespace Declaration

variable {declaration : Declaration} {case : Case}

/-- A witness is recorded as it is and where it is. -/
theorem witness?_place
    {position : Nat}
    {narrowed : List String}
    {field : Field}
    {restriction : Restriction}
    (found : declaration.witness? case position narrowed field = some restriction) :
    restriction.witness = field ∧ restriction.position = position := by
  rw [witness?] at found
  split at found
  next input name _ =>
    split at found
    next => cases found
    next =>
      rcases Option.bind_eq_some_iff.mp found with ⟨unifier, -, rest⟩
      dsimp only at rest
      split at rest
      next => cases rest
      next =>
        cases rest
        exact ⟨rfl, rfl⟩
  next => cases found

theorem interleaved_splitFields
    (declaration : Declaration)
    (case : Case)
    (position : Nat)
    (narrowed : List String)
    (fields : List Field) :
    Interleaved position
      (declaration.splitFields case position narrowed fields).1
      (declaration.splitFields case position narrowed fields).2
      fields := by
  induction fields generalizing position narrowed with
  | nil => exact .nil position
  | cons field rest ih =>
      rw [splitFields]
      split
      next restriction found =>
        rcases witness?_place found with ⟨rfl, rfl⟩
        exact .witness (ih _ _)
      next => exact .argument (ih _ _)

theorem interleaved_toConstructor (declaration : Declaration) (index : Nat) (case : Case) :
    Interleaved 0 (declaration.toConstructor index case).restrictions
      (declaration.toConstructor index case).arguments case.fields :=
  interleaved_splitFields declaration case 0 [] case.fields

/-- The fields of a case are the fields of its constructor. -/
@[simp]
theorem caseFields_toConstructor (declaration : Declaration) (index : Nat) (case : Case) :
    (declaration.toConstructor index case).caseFields = case.fields :=
  Constructor.caseFields_eq (declaration.interleaved_toConstructor index case)

/-- The constructor of a case gives the case back. -/
@[simp]
theorem toCase_toConstructor (declaration : Declaration) (index : Nat) (case : Case) :
    (declaration.toConstructor index case).toCase = case := by
  rw [Constructor.toCase, caseFields_toConstructor]
  rfl

end Declaration

end DataDerive
