import DataDerive.Proofs.Model.Witness
import Mathlib.Data.List.DropRight

/-!
# Renaming a case's own type parameters

A case may have type parameters of its own.  They are bound by the case, so
their names should not matter.  This module gives them other names in a case and
in the constructor that is made of it.  Making a constructor, the checks of names
and the checks of type variables go along with that, if the new names are new and
no witness narrows a type parameter of the case itself.
-/

namespace DataDerive

open Derived TypeExpr

/-! ## Changing a member of a list -/

section Modify

variable {α : Type} {members : List α} {index : Nat} {member : α} {change : α → α}
variable {keep : α → Bool}

theorem exists_modify_of_getElem?
    (listed : members[index]? = some member)
    (change : α → α) :
    ∃ before after, members = before ++ member :: after ∧ before.length = index ∧
      members.modify index change = before ++ change member :: after := by
  rcases List.getElem?_eq_some_iff.mp listed with ⟨inside, found⟩
  rcases List.exists_of_modify change inside with ⟨before, other, after, split, place, changed⟩
  have same : other = member := by
    subst place
    rw [split] at listed
    simpa using listed
  exact ⟨before, after, same ▸ split, place, same ▸ changed⟩

theorem modify_append_cons (before after : List α) :
    (before ++ member :: after).modify before.length change =
      before ++ change member :: after := by
  induction before with
  | nil => rfl
  | cons first rest ih => simp [ih]

theorem getElem?_filter_of_getElem?
    (listed : members[index]? = some member)
    (kept : keep member = true) :
    (members.filter keep)[(members.take index).countP keep]? = some member := by
  rcases exists_modify_of_getElem? listed id with ⟨before, after, rfl, rfl, -⟩
  rw [List.take_left, List.filter_append, List.filter_cons_of_pos kept,
    List.countP_eq_length_filter, List.getElem?_append_right (Nat.le_refl _), Nat.sub_self]
  rfl

theorem filter_modify
    (listed : members[index]? = some member)
    (kept : keep member = true)
    (still : keep (change member) = true) :
    (members.modify index change).filter keep =
      (members.filter keep).modify ((members.take index).countP keep) change := by
  rcases exists_modify_of_getElem? listed change with ⟨before, after, rfl, rfl, changed⟩
  rw [changed, List.take_left, List.filter_append, List.filter_append,
    List.filter_cons_of_pos kept, List.filter_cons_of_pos still, List.countP_eq_length_filter,
    modify_append_cons]

/-- Changing the member that is found, if it is found after the change as well. -/
theorem find?_modify_findIdx (still : ∀ member, keep member = true → keep (change member) = true) :
    (members.modify (members.findIdx keep) change).find? keep =
      (members.find? keep).map change := by
  induction members with
  | nil => simp
  | cons member rest ih =>
      rw [List.findIdx_cons]
      by_cases found : keep member = true
      · rw [found, cond_true, List.modify_zero_cons, List.find?_cons_of_pos found,
          List.find?_cons_of_pos (still member found)]
        rfl
      · rw [Bool.not_eq_true] at found
        rw [found, cond_false, List.modify_succ_cons, List.find?_cons_of_neg (by simp [found]),
          List.find?_cons_of_neg (by simp [found]), ih]

end Modify

/-! ## Types and fields -/

namespace TypeExpr

variable {own : List String} {rename : String → String} {type : TypeExpr} {name : String}

/-- Rename those variables of a type that are listed. -/
def renameOwn (own : List String) (rename : String → String) (type : TypeExpr) : TypeExpr :=
  type.replace fun name => .var (if name ∈ own then rename name else name)

theorem renameOwn_of_apart (apart : ∀ name ∈ own, name ∉ type.freeVars) :
    type.renameOwn own rename = type := by
  refine replace_of_fixes fun name occurs => ?_
  rw [if_neg fun listed => apart name listed (mem_freeVars.mpr occurs)]

theorem mem_freeVars_renameOwn :
    name ∈ (type.renameOwn own rename).freeVars ↔
      (name ∈ type.freeVars ∧ name ∉ own) ∨
        ∃ old ∈ own, old ∈ type.freeVars ∧ rename old = name := by
  simp only [renameOwn, mem_freeVars, mem_variableOccurrences_replace, variableOccurrences_var,
    List.mem_singleton]
  constructor
  · rintro ⟨old, occurs, rfl⟩
    by_cases listed : old ∈ own
    · exact Or.inr ⟨old, listed, occurs, (if_pos listed).symm⟩
    · rw [if_neg listed]
      exact Or.inl ⟨occurs, listed⟩
  · rintro (⟨occurs, outer⟩ | ⟨old, listed, occurs, rfl⟩)
    · exact ⟨name, occurs, (if_neg outer).symm⟩
    · exact ⟨old, occurs, (if_pos listed).symm⟩

/-- A variable that is neither renamed nor a new name occurs as before. -/
theorem mem_freeVars_renameOwn_of_outer
    (outer : name ∉ own)
    (kept : ∀ old ∈ own, rename old ≠ name) :
    name ∈ (type.renameOwn own rename).freeVars ↔ name ∈ type.freeVars := by
  rw [mem_freeVars_renameOwn]
  constructor
  · rintro (⟨occurs, -⟩ | ⟨old, listed, -, same⟩)
    · exact occurs
    · exact absurd same (kept old listed)
  · exact fun occurs => Or.inl ⟨occurs, outer⟩

theorem not_mem_freeVars_arrow_var
    {input : TypeExpr}
    {result : String}
    (apart : ∀ old ∈ own, old ∉ input.freeVars)
    (outer : result ∉ own) :
    ∀ old ∈ own, old ∉ (TypeExpr.arrow [input] (.var result)).freeVars := by
  intro old listed occurs
  have cases : old ∈ input.freeVars ∨ old = result := by simpa using occurs
  rcases cases with inside | rfl
  · exact apart old listed inside
  · exact outer listed

theorem not_mem_map_of_mem_freeVars
    (unused : ∀ old ∈ own, rename old ∉ type.freeVars)
    (occurs : name ∈ type.freeVars) :
    name ∉ own.map rename := by
  intro new
  rcases List.mem_map.mp new with ⟨old, listed, rfl⟩
  exact unused old listed occurs

/-- The variables that are not bound stay. -/
theorem mem_freeVars_renameOwn_and_not_mem_map
    (unused : ∀ old ∈ own, rename old ∉ type.freeVars) :
    name ∈ (type.renameOwn own rename).freeVars ∧ name ∉ own.map rename ↔
      name ∈ type.freeVars ∧ name ∉ own := by
  rw [mem_freeVars_renameOwn]
  constructor
  · rintro ⟨⟨occurs, outer⟩ | ⟨old, listed, -, same⟩, kept⟩
    · exact ⟨occurs, outer⟩
    · exact absurd (List.mem_map.mpr ⟨old, listed, same⟩) kept
  · rintro ⟨occurs, outer⟩
    exact ⟨Or.inl ⟨occurs, outer⟩, not_mem_map_of_mem_freeVars unused occurs⟩

theorem eq_var_of_renameOwn_eq_var (same : type.renameOwn own rename = .var name) :
    ∃ old, type = .var old ∧ (if old ∈ own then rename old else old) = name := by
  cases type with
  | var old =>
      rw [renameOwn, replace_var, var.injEq] at same
      exact ⟨old, rfl, same⟩
  | con => simp [renameOwn] at same
  | arrow => simp [renameOwn] at same

/-- A function from one type to a variable is renamed to one only from such a function. -/
theorem eq_arrow_of_renameOwn_eq_arrow
    {input : TypeExpr}
    (same : type.renameOwn own rename = .arrow [input] (.var name)) :
    ∃ before old, type = .arrow [before] (.var old) ∧
      before.renameOwn own rename = input ∧
        (if old ∈ own then rename old else old) = name := by
  cases type with
  | var old => simp [renameOwn] at same
  | con => simp [renameOwn] at same
  | arrow parameters result =>
      rw [renameOwn, replace_arrow, arrow.injEq, List.map_eq_singleton_iff] at same
      rcases same with ⟨⟨before, rfl, input⟩, result⟩
      rcases eq_var_of_renameOwn_eq_var result with ⟨old, rfl, name⟩
      exact ⟨before, old, rfl, input, name⟩

end TypeExpr

/-- Rename those variables of a field that are listed. -/
def Field.renameOwn (own : List String) (rename : String → String) (field : Field) : Field :=
  { field with type := field.type.renameOwn own rename }

theorem Field.renameOwn_of_apart
    {own : List String}
    {rename : String → String}
    {field : Field}
    (apart : ∀ name ∈ own, name ∉ field.type.freeVars) :
    field.renameOwn own rename = field := by
  rw [renameOwn, TypeExpr.renameOwn_of_apart apart]

/-! ## Cases and constructors -/

/-- Rename the type parameters of a case itself. -/
def Case.renameOwn (rename : String → String) (case : Case) : Case :=
  { case with
    fields := case.fields.map (Field.renameOwn case.existentials rename)
    existentials := case.existentials.map rename }

/-- Rename the type parameters of the case itself, which come last among all type parameters. -/
def Constructor.renameOwn (rename : String → String) (constructor : Constructor) :
    Constructor :=
  { constructor with
    arguments := constructor.arguments.map (Field.renameOwn constructor.existentials rename)
    existentials := constructor.existentials.map rename
    typeParams := constructor.typeParams.rdrop constructor.existentials.length ++
      constructor.existentials.map rename }

/-- Rename the type parameters of one case in its constructor. -/
def DataType.renameCase (index : Nat) (rename : String → String) (data : DataType) : DataType :=
  { data with constructors := data.constructors.modify index (Constructor.renameOwn rename) }

/-- The new names of the type parameters of a case are not declared and occur in no field. -/
structure Declaration.RenamesFresh
    (declaration : Declaration)
    (case : Case)
    (rename : String → String) : Prop where
  undeclared : ∀ own ∈ case.existentials, rename own ∉ declaration.parameterNames
  unused : ∀ own ∈ case.existentials, ∀ field ∈ case.fields, rename own ∉ field.type.freeVars

/-- No witness of a case narrows a name that is a type parameter of the case itself. -/
def Declaration.NarrowsNoOwn (declaration : Declaration) (case : Case) : Prop :=
  ∀ restriction, declaration.Witnessed case restriction →
    restriction.parameter ∉ case.existentials

namespace Declaration

variable {declaration : Declaration} {case : Case} {restriction : Restriction}
variable {rename : String → String}

theorem RenamesFresh.ne_declared
    (fresh : declaration.RenamesFresh case rename)
    {name : String}
    (declared : name ∈ declaration.parameterNames) :
    ∀ own ∈ case.existentials, rename own ≠ name :=
  fun own listed same => fresh.undeclared own listed (same ▸ declared)

theorem Witnessed.renameOwn
    (witnessed : declaration.Witnessed case restriction)
    (outer : restriction.parameter ∉ case.existentials)
    (fresh : declaration.RenamesFresh case rename) :
    declaration.Witnessed (case.renameOwn rename) restriction := by
  have same : restriction.witness.renameOwn case.existentials rename = restriction.witness := by
    refine Field.renameOwn_of_apart ?_
    rw [witnessed.type_eq]
    exact not_mem_freeVars_arrow_var witnessed.not_own outer
  constructor
  case placed => rw [Case.renameOwn, List.getElem?_map, witnessed.placed, Option.map_some, same]
  case type_eq => exact witnessed.type_eq
  case declared => exact witnessed.declared
  case alone =>
    intro position renamed listed differs
    rw [Case.renameOwn, List.getElem?_map, Option.map_eq_some_iff] at listed
    rcases listed with ⟨other, found, rfl⟩
    rw [Field.renameOwn,
      mem_freeVars_renameOwn_of_outer outer (fresh.ne_declared witnessed.declared)]
    exact witnessed.alone position other found differs
  case ne_var => exact witnessed.ne_var
  case not_self => exact witnessed.not_self
  case not_own =>
    intro name listed occurs
    rcases List.mem_map.mp listed with ⟨own, member, rfl⟩
    exact fresh.unused own member _ (List.mem_of_getElem? witnessed.placed)
      (witnessed.mem_freeVars_of_type occurs)

theorem Witnessed.of_renameOwn
    (witnessed : declaration.Witnessed (case.renameOwn rename) restriction)
    (fresh : declaration.RenamesFresh case rename) :
    declaration.Witnessed case restriction ∧ restriction.parameter ∉ case.existentials := by
  have kept := fresh.ne_declared witnessed.declared
  have placed := witnessed.placed
  rw [Case.renameOwn, List.getElem?_map, Option.map_eq_some_iff] at placed
  rcases placed with ⟨field, found, renamed⟩
  have shape := witnessed.type_eq
  rw [← renamed] at shape
  rcases eq_arrow_of_renameOwn_eq_arrow shape with ⟨input, old, type, inputs, olds⟩
  -- The parameter is declared, and no new name is, so it has not been renamed.
  have outer : old ∉ case.existentials := by
    intro listed
    rw [if_pos listed] at olds
    exact kept old listed olds
  rw [if_neg outer] at olds
  subst olds
  have apart : ∀ own ∈ case.existentials, own ∉ input.freeVars := by
    intro own listed occurs
    refine witnessed.not_own (rename own) (List.mem_map_of_mem listed) ?_
    rw [← inputs]
    exact mem_freeVars_renameOwn.mpr (Or.inr ⟨own, listed, occurs, rfl⟩)
  rw [renameOwn_of_apart apart] at inputs
  -- Neither has any other part of the field.
  have same : field = restriction.witness := by
    rw [← renamed, Field.renameOwn_of_apart]
    rw [type]
    exact not_mem_freeVars_arrow_var apart outer
  refine ⟨⟨same ▸ found, witnessed.type_eq, witnessed.declared, ?_, witnessed.ne_var,
    witnessed.not_self, inputs ▸ apart⟩, outer⟩
  intro position other listed differs
  rw [← mem_freeVars_renameOwn_of_outer outer kept]
  refine witnessed.alone position (other.renameOwn case.existentials rename) ?_ differs
  rw [Case.renameOwn, List.getElem?_map, listed]
  rfl

/-- Renaming keeps exactly those witnesses that narrow no type parameter of the case itself. -/
theorem witnessed_renameOwn_iff (fresh : declaration.RenamesFresh case rename) :
    declaration.Witnessed (case.renameOwn rename) restriction ↔
      declaration.Witnessed case restriction ∧ restriction.parameter ∉ case.existentials :=
  ⟨fun witnessed => witnessed.of_renameOwn fresh,
    fun ⟨witnessed, outer⟩ => witnessed.renameOwn outer fresh⟩

theorem restrictions_renameOwn
    (fresh : declaration.RenamesFresh case rename)
    (unnarrowed : declaration.NarrowsNoOwn case)
    (index : Nat) :
    (declaration.toConstructor index (case.renameOwn rename)).restrictions =
      (declaration.toConstructor index case).restrictions := by
  refine (declaration.interleaved_toConstructor index
    (case.renameOwn rename)).restrictions_eq_of_mem_iff
      (declaration.interleaved_toConstructor index case) fun restriction => ?_
  rw [mem_restrictions_iff, mem_restrictions_iff, witnessed_renameOwn_iff fresh]
  exact and_iff_left_of_imp (unnarrowed restriction)

/-- Making a constructor goes along with renaming if no witness narrows a renamed name. -/
theorem toConstructor_renameOwn
    (fresh : declaration.RenamesFresh case rename)
    (unnarrowed : declaration.NarrowsNoOwn case)
    (index : Nat) :
    declaration.toConstructor index (case.renameOwn rename) =
      (declaration.toConstructor index case).renameOwn rename := by
  -- The witnesses stand where they stood, so the arguments are the same fields, renamed.
  have restrictions := restrictions_renameOwn fresh unnarrowed index
  have arguments :
      (declaration.toConstructor index (case.renameOwn rename)).arguments =
        (declaration.toConstructor index case).arguments.map
          (Field.renameOwn case.existentials rename) := by
    rw [(declaration.interleaved_toConstructor index (case.renameOwn rename)).arguments_eq,
      (declaration.interleaved_toConstructor index case).arguments_eq, restrictions,
      Case.renameOwn, List.zipIdx_map, List.filter_map, List.map_map, List.map_map]
    rfl
  have typeParams :
      (declaration.toConstructor index (case.renameOwn rename)).typeParams =
        (declaration.toConstructor index case).typeParams.rdrop case.existentials.length ++
          case.existentials.map rename := by
    rw [typeParams_toConstructor, typeParams_toConstructor, restrictions, List.rdrop,
      List.length_append, Nat.add_sub_cancel, List.take_left]
    rfl
  exact (Constructor.mk.injEq ..).mpr
    ⟨rfl, rfl, rfl, arguments, restrictions, rfl, typeParams⟩

/-! ## Checks -/

theorem outer_renameOwn_iff
    (fresh : declaration.RenamesFresh case rename)
    {name : String} :
    (∃ field ∈ (case.renameOwn rename).fields,
        name ∈ field.type.freeVars ∧ name ∉ (case.renameOwn rename).existentials) ↔
      ∃ field ∈ case.fields, name ∈ field.type.freeVars ∧ name ∉ case.existentials := by
  have one (field : Field) (listed : field ∈ case.fields) :
      name ∈ (field.renameOwn case.existentials rename).type.freeVars ∧
          name ∉ case.existentials.map rename ↔
        name ∈ field.type.freeVars ∧ name ∉ case.existentials :=
    mem_freeVars_renameOwn_and_not_mem_map fun own member => fresh.unused own member field listed
  constructor
  · rintro ⟨renamed, listed, outer⟩
    rcases List.mem_map.mp listed with ⟨field, among, rfl⟩
    exact ⟨field, among, (one field among).mp outer⟩
  · rintro ⟨field, listed, outer⟩
    exact ⟨_, List.mem_map_of_mem listed, (one field listed).mpr outer⟩

end Declaration

/-- The names and places of a case and its fields, without types and type variables. -/
def Case.outline (case : Case) : Case :=
  { case with
    fields := case.fields.map fun field => { field with type := .var "" }
    existentials := [] }

theorem Case.outline_renameOwn (rename : String → String) (case : Case) :
    (case.renameOwn rename).outline = case.outline := by
  simp [outline, renameOwn, Field.renameOwn]

namespace Declaration

variable {declaration : Declaration} {case : Case} {restriction : Restriction}
variable {rename : String → String}

theorem checkFieldNames_outline
    (declaration : Declaration)
    (caseName : String)
    (earlier : List String)
    (fields : List Field) :
    declaration.checkFieldNames caseName earlier
        (fields.map fun field => { field with type := .var "" }) =
      declaration.checkFieldNames caseName earlier fields := by
  induction fields generalizing earlier with
  | nil => rfl
  | cons field rest ih => simp only [List.map_cons, checkFieldNames, ih]

/-- Only names and places matter to the check of names. -/
theorem checkCaseNames_outline (declaration : Declaration) (earlier cases : List Case) :
    declaration.checkCaseNames (earlier.map Case.outline) (cases.map Case.outline) =
      declaration.checkCaseNames earlier cases := by
  induction cases generalizing earlier with
  | nil => rfl
  | cons case rest ih =>
      have onward := ih (earlier ++ [case])
      rw [List.map_append] at onward
      rw [List.map_cons, checkCaseNames, checkCaseNames, List.find?_map]
      simp only [Function.comp_def, Case.outline]
      cases found : earlier.find? fun first => first.name == case.name with
      | some first => rfl
      | none =>
          simp only [Option.map_none]
          rw [checkFieldNames_outline, ← onward]
          rfl

theorem mem_usedVars_constructorsOf {cases : List Case} {name : String} :
    name ∈ usedVars (declaration.constructorsOf cases) ↔
      ∃ case ∈ cases, ∃ field ∈ case.fields,
        name ∈ field.type.freeVars ∧ name ∉ case.existentials := by
  simp only [mem_usedVars, mem_outerVars]
  constructor
  · rintro ⟨constructor, member, used⟩
    rcases exists_of_mem_constructorsOf member with ⟨index, case, listed, rfl⟩
    rw [caseFields_toConstructor] at used
    exact ⟨case, listed, used⟩
  · rintro ⟨case, listed, used⟩
    rcases List.mem_iff_getElem?.mp listed with ⟨index, found⟩
    have built : (declaration.constructorsOf cases)[index]? =
        some (declaration.toConstructor index case) := by
      rw [getElem?_constructorsOf, found, Option.map_some]
    refine ⟨declaration.toConstructor index case, List.mem_of_getElem? built, ?_⟩
    rwa [caseFields_toConstructor]

/-! ## One case among others -/

variable {cases : List Case} {index : Nat}

theorem checkCaseNames_modify
    (declaration : Declaration)
    (listed : cases[index]? = some case)
    (rename : String → String) :
    declaration.checkCaseNames [] (cases.modify index (Case.renameOwn rename)) =
      declaration.checkCaseNames [] cases := by
  rcases exists_modify_of_getElem? listed (Case.renameOwn rename) with
    ⟨before, after, split, -, changed⟩
  -- The outlines are the same before and after, and the check sees nothing else.
  have outlines : (cases.modify index (Case.renameOwn rename)).map Case.outline =
      cases.map Case.outline := by
    rw [changed, split, List.map_append, List.map_append, List.map_cons, List.map_cons,
      Case.outline_renameOwn]
  rw [← declaration.checkCaseNames_outline, outlines]
  exact declaration.checkCaseNames_outline [] cases

theorem coded_checkTypeParams_modify
    (listed : cases[index]? = some case)
    (fresh : declaration.RenamesFresh case rename) :
    coded (declaration.checkTypeParams
        (declaration.constructorsOf (cases.modify index (Case.renameOwn rename)))) =
      coded (declaration.checkTypeParams (declaration.constructorsOf cases)) := by
  have used (name : String) :
      name ∈ usedVars (declaration.constructorsOf (cases.modify index (Case.renameOwn rename))) ↔
        name ∈ usedVars (declaration.constructorsOf cases) := by
    rcases exists_modify_of_getElem? listed (Case.renameOwn rename) with
      ⟨before, after, split, -, changed⟩
    rw [mem_usedVars_constructorsOf, mem_usedVars_constructorsOf, changed, split]
    simp only [List.mem_append, List.mem_cons, or_and_right, exists_or, exists_eq_left,
      outer_renameOwn_iff fresh]
  rw [coded_checkTypeParams, coded_checkTypeParams]
  simp only [used]

theorem constructorsOf_modify
    (listed : cases[index]? = some case)
    (fresh : declaration.RenamesFresh case rename)
    (unnarrowed : ∀ restriction, declaration.Witnessed case restriction →
      restriction.parameter ∉ case.existentials) :
    declaration.constructorsOf (cases.modify index (Case.renameOwn rename)) =
      (declaration.constructorsOf cases).modify index (Constructor.renameOwn rename) := by
  refine List.ext_getElem? fun position => ?_
  rw [getElem?_constructorsOf, List.getElem?_modify, List.getElem?_modify, getElem?_constructorsOf]
  by_cases here : index = position
  · subst here
    simp [listed, toConstructor_renameOwn fresh unnarrowed]
  · simp [here]

/--
Assembling a model goes along with renaming the type parameters of one case, if
the new names are new there and no witness of the case narrows an old one.
-/
theorem coded_assemble_modify
    {matcher : Method}
    {resultVar : String}
    {encoding : Encoding}
    (listed : cases[index]? = some case)
    (fresh : declaration.RenamesFresh case rename)
    (unnarrowed : ∀ restriction, declaration.Witnessed case restriction →
      restriction.parameter ∉ case.existentials) :
    coded (declaration.assemble matcher resultVar encoding
        (cases.modify index (Case.renameOwn rename))) =
      (coded (declaration.assemble matcher resultVar encoding cases)).map
        (DataType.renameCase index rename) := by
  have model : declaration.modelOf matcher resultVar encoding
      (cases.modify index (Case.renameOwn rename)) =
        (declaration.modelOf matcher resultVar encoding cases).renameCase index rename := by
    rw [modelOf, constructorsOf_modify listed fresh unnarrowed]
    rfl
  have nonempty : cases ≠ [] := List.ne_nil_of_mem (List.mem_of_getElem? listed)
  have changed : cases.modify index (Case.renameOwn rename) ≠ [] :=
    fun empty => nonempty (List.modify_eq_nil_iff.mp empty)
  rw [assemble_of_ne_nil nonempty, assemble_of_ne_nil changed, checkCaseNames_modify _ listed,
    model]
  simp only [coded_bind, coded_checkTypeParams_modify listed fresh]
  cases (declaration.checkCaseNames [] cases).coded with
  | error code => rfl
  | ok =>
      cases (declaration.checkTypeParams (declaration.constructorsOf cases)).coded with
      | error code => rfl
      | ok => rfl

end Declaration

end DataDerive
