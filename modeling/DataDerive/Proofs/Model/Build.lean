import DataDerive.Proofs.Derived
import DataDerive.Proofs.Model.Layout

/-!
# Built models

A model is built from the cases that its matcher declares, after checks of the
names of the cases and fields and of the type variables.  Each check is described
by what it accepts, and `toDataType_eq_ok_iff` puts them together: a model is
built exactly if the cases can be read and pass all checks, and it has one
constructor for each case.  The main results are that the cases can be read off
the model, and that every model is well formed.
-/

namespace DataDerive

open Derived

namespace Declaration

variable {declaration : Declaration} {snapshot : Snapshot} {data : DataType}

/-! ## Names -/

theorem checkFieldNames_eq_ok_iff
    {caseName : String}
    {earlier : List String}
    {fields : List Field} :
    declaration.checkFieldNames caseName earlier fields = .ok () ↔
      (fields.map Field.name).Nodup ∧ ∀ field ∈ fields, field.name ∉ earlier := by
  induction fields generalizing earlier with
  | nil => simp [checkFieldNames]
  | cons field rest ih =>
      rw [checkFieldNames, List.map_cons, List.nodup_cons, List.forall_mem_cons]
      split
      next repeated =>
        rw [List.contains_iff_mem] at repeated
        constructor
        · intro impossible
          cases impossible
        · rintro ⟨-, fresh, -⟩
          exact absurd repeated fresh
      next fresh =>
        rw [List.contains_iff_mem] at fresh
        rw [ih]
        simp only [List.mem_cons, not_or, List.mem_map]
        constructor
        · rintro ⟨distinct, apart⟩
          refine ⟨⟨?_, distinct⟩, fresh, fun other member => (apart other member).2⟩
          rintro ⟨other, member, same⟩
          exact (apart other member).1 same
        · rintro ⟨⟨first, distinct⟩, -, apart⟩
          refine ⟨distinct, fun other member => ⟨fun same => ?_, apart other member⟩⟩
          exact first ⟨other, member, same⟩

theorem checkCaseNames_eq_ok_iff {earlier cases : List Case} :
    declaration.checkCaseNames earlier cases = .ok () ↔
      (cases.map Case.name).Nodup ∧
        (∀ case ∈ cases, ∀ first ∈ earlier, first.name ≠ case.name) ∧
          ∀ case ∈ cases, (case.fields.map Field.name).Nodup := by
  induction cases generalizing earlier with
  | nil => simp [checkCaseNames]
  | cons case rest ih =>
      rw [checkCaseNames, List.map_cons, List.nodup_cons, List.forall_mem_cons,
        List.forall_mem_cons]
      split
      next first repeated =>
        constructor
        · intro impossible
          cases impossible
        · rintro ⟨-, ⟨apart, -⟩, -⟩
          have same := List.find?_some repeated
          rw [beq_iff_eq] at same
          exact absurd same (apart first (List.mem_of_find?_eq_some repeated))
      next fresh =>
        have apart : ∀ first ∈ earlier, first.name ≠ case.name := by
          simpa using fresh
        rw [check_bind_eq_ok_iff, checkFieldNames_eq_ok_iff, ih]
        simp only [List.mem_append, List.mem_singleton, List.not_mem_nil, not_false_eq_true,
          implies_true, and_true]
        constructor
        · rintro ⟨fields, distinct, others, rests⟩
          refine ⟨⟨?_, distinct⟩, ⟨apart, fun other member first before => ?_⟩, fields, rests⟩
          · intro repeated
            rcases List.mem_map.mp repeated with ⟨other, member, same⟩
            exact others other member case (Or.inr rfl) same.symm
          · exact others other member first (Or.inl before)
        · rintro ⟨⟨first, distinct⟩, ⟨-, others⟩, fields, rests⟩
          refine ⟨fields, distinct, fun other member before among => ?_, rests⟩
          rcases among with inside | rfl
          · exact others other member before inside
          · intro same
            exact first (List.mem_map.mpr ⟨other, member, same.symm⟩)

/-! ## Type variables -/

theorem mem_outerVars {constructor : Constructor} {field : Field} {name : String} :
    name ∈ outerVars constructor field ↔
      name ∈ field.type.freeVars ∧ name ∉ constructor.existentials := by
  simp [outerVars]

theorem mem_usedVars {constructors : List Constructor} {name : String} :
    name ∈ usedVars constructors ↔
      ∃ constructor ∈ constructors, ∃ field ∈ constructor.caseFields,
        name ∈ outerVars constructor field := by
  simp [usedVars]

theorem coded_checkFieldVars
    (declaration : Declaration)
    (constructor : Constructor)
    (field : Field) :
    coded (declaration.checkFieldVars constructor field) =
      if ∀ name ∈ outerVars constructor field, declaration.declares name then .ok ()
      else .error .undeclaredVariable := by
  rw [checkFieldVars]
  split
  next name found =>
    rw [if_neg]
    · rfl
    · intro declared
      have undeclared := List.find?_some found
      rw [declared name (List.mem_of_find?_eq_some found)] at undeclared
      cases undeclared
  next found =>
    rw [if_pos]
    · rfl
    · simpa using found

/--
The variables of the fields are checked first, then the type parameters.  Only
the variables that are used decide.
-/
theorem coded_checkTypeParams (declaration : Declaration) (constructors : List Constructor) :
    coded (declaration.checkTypeParams constructors) =
      if ∀ name ∈ usedVars constructors, declaration.declares name then
        if ∀ name ∈ declaration.parameterNames, name ∈ usedVars constructors then .ok ()
        else .error .unusedParameter
      else .error .undeclaredVariable := by
  have fields := coded_forM
    (fun constructor : Constructor =>
      coded_forM (coded_checkFieldVars declaration constructor) constructor.caseFields)
    constructors
  have used : (∀ constructor ∈ constructors, ∀ field ∈ constructor.caseFields,
      ∀ name ∈ outerVars constructor field, declaration.declares name) ↔
        ∀ name ∈ usedVars constructors, declaration.declares name := by
    simp only [mem_usedVars]
    constructor
    · rintro declared name ⟨constructor, member, field, among, outer⟩
      exact declared constructor member field among name outer
    · intro declared constructor member field among name outer
      exact declared name ⟨constructor, member, field, among, outer⟩
  rw [checkTypeParams, coded_bind, fields]
  simp only [used]
  split
  next =>
    change coded _ = _
    split
    next unused found =>
      rw [if_neg]
      · rfl
      · intro all
        have missing := List.find?_some found
        have listed := all unused.name
          (List.mem_map_of_mem (List.mem_of_find?_eq_some found))
        simp [listed] at missing
    next found =>
      rw [if_pos]
      · rfl
      · intro name listed
        rcases List.mem_map.mp listed with ⟨item, member, rfl⟩
        have present := List.find?_eq_none.mp found item member
        simpa using present
  next => rfl

theorem checkTypeParams_eq_ok_iff {constructors : List Constructor} :
    declaration.checkTypeParams constructors = .ok () ↔
      (∀ name ∈ usedVars constructors, declaration.declares name) ∧
        ∀ name ∈ declaration.parameterNames, name ∈ usedVars constructors := by
  rw [← coded_eq_ok_iff, coded_checkTypeParams]
  split
  next declared =>
    split
    next used => exact iff_of_true rfl ⟨declared, used⟩
    next used => exact iff_of_false nofun fun both => used both.2
  next declared => exact iff_of_false nofun fun both => declared both.1

/-! ## Building -/

/-- The constructors of a list of cases. -/
def constructorsOf (declaration : Declaration) (cases : List Case) : List Constructor :=
  cases.zipIdx.map fun (case, index) => declaration.toConstructor index case

/-- The model with the constructors of a list of cases. -/
def modelOf
    (declaration : Declaration)
    (matcher : Method)
    (resultVar : String)
    (encoding : Encoding)
    (cases : List Case) : DataType where
  name := declaration.name
  span := declaration.span
  typeParams := declaration.parameterNames
  constructors := declaration.constructorsOf cases
  matcher := matcher.name
  resultVar := resultVar
  encoding := encoding

/-- What is done with the cases of a matcher once they are read. -/
def assemble
    (declaration : Declaration)
    (matcher : Method)
    (resultVar : String)
    (encoding : Encoding)
    (cases : List Case) : Derived DataType := do
  if cases.isEmpty then
    .error (declaration.fault .noCases matcher.span
      s!"matcher `{matcher.name}` declares no cases")
  declaration.checkCaseNames [] cases
  declaration.checkTypeParams (declaration.constructorsOf cases)
  return declaration.modelOf matcher resultVar encoding cases

theorem toDataType_eq (declaration : Declaration) (snapshot : Snapshot) :
    declaration.toDataType snapshot =
      declaration.matcher >>= fun matcher =>
        declaration.resultVar matcher >>= fun resultVar =>
          declaration.readCases snapshot matcher resultVar >>= fun read =>
            declaration.assemble matcher resultVar read.1 read.2 :=
  rfl

@[simp]
theorem getElem?_constructorsOf (declaration : Declaration) (cases : List Case) (index : Nat) :
    (declaration.constructorsOf cases)[index]? =
      cases[index]?.map (declaration.toConstructor index) := by
  simp [constructorsOf, Function.comp_def]

theorem exists_of_mem_constructorsOf
    {cases : List Case}
    {constructor : Constructor}
    (member : constructor ∈ declaration.constructorsOf cases) :
    ∃ index, ∃ case ∈ cases, constructor = declaration.toConstructor index case := by
  rcases List.mem_iff_getElem?.mp member with ⟨index, found⟩
  rw [getElem?_constructorsOf, Option.map_eq_some_iff] at found
  rcases found with ⟨case, listed, rfl⟩
  exact ⟨index, case, List.mem_of_getElem? listed, rfl⟩

@[simp]
theorem constructorsOf_eq_nil_iff {cases : List Case} :
    declaration.constructorsOf cases = [] ↔ cases = [] := by
  simp [constructorsOf]

@[simp]
theorem map_toCase_constructorsOf (declaration : Declaration) (cases : List Case) :
    (declaration.constructorsOf cases).map Constructor.toCase = cases := by
  simp [constructorsOf, Function.comp_def]

/-- Once there is a case, only the checks can fail. -/
theorem assemble_of_ne_nil
    {matcher : Method}
    {resultVar : String}
    {encoding : Encoding}
    {cases : List Case}
    (nonempty : cases ≠ []) :
    declaration.assemble matcher resultVar encoding cases =
      declaration.checkCaseNames [] cases >>= fun _ =>
        declaration.checkTypeParams (declaration.constructorsOf cases) >>= fun _ =>
          .ok (declaration.modelOf matcher resultVar encoding cases) := by
  cases cases with
  | nil => exact absurd rfl nonempty
  | cons case rest => rfl

theorem assemble_eq_ok_iff
    {matcher : Method}
    {resultVar : String}
    {encoding : Encoding}
    {cases : List Case} :
    declaration.assemble matcher resultVar encoding cases = .ok data ↔
      cases ≠ [] ∧ declaration.checkCaseNames [] cases = .ok () ∧
        declaration.checkTypeParams (declaration.constructorsOf cases) = .ok () ∧
          declaration.modelOf matcher resultVar encoding cases = data := by
  by_cases nonempty : cases = []
  · subst nonempty
    exact iff_of_false nofun fun both => both.1 rfl
  · rw [assemble_of_ne_nil nonempty, check_bind_eq_ok_iff, check_bind_eq_ok_iff,
      Except.ok.injEq, and_iff_right nonempty]

theorem toDataType_eq_ok_iff :
    declaration.toDataType snapshot = .ok data ↔
      ∃ matcher resultVar encoding cases,
        declaration.matcher = .ok matcher ∧ declaration.resultVar matcher = .ok resultVar ∧
          declaration.readCases snapshot matcher resultVar = .ok (encoding, cases) ∧
            cases ≠ [] ∧ declaration.checkCaseNames [] cases = .ok () ∧
              declaration.checkTypeParams (declaration.constructorsOf cases) = .ok () ∧
                declaration.modelOf matcher resultVar encoding cases = data := by
  rw [toDataType_eq]
  simp only [bind_eq_ok_iff, Prod.exists, assemble_eq_ok_iff]
  constructor
  · rintro ⟨matcher, single, resultVar, generic, encoding, cases, read, rest⟩
    exact ⟨matcher, resultVar, encoding, cases, single, generic, read, rest⟩
  · rintro ⟨matcher, resultVar, encoding, cases, single, generic, read, rest⟩
    exact ⟨matcher, single, resultVar, generic, encoding, cases, read, rest⟩

theorem typeParams_of_toDataType (built : declaration.toDataType snapshot = .ok data) :
    data.typeParams = declaration.parameterNames := by
  rcases toDataType_eq_ok_iff.mp built with
    ⟨matcher, resultVar, encoding, cases, -, -, -, -, -, -, rfl⟩
  rfl

theorem name_of_toDataType (built : declaration.toDataType snapshot = .ok data) :
    data.name = declaration.name := by
  rcases toDataType_eq_ok_iff.mp built with
    ⟨matcher, resultVar, encoding, cases, -, -, -, -, -, -, rfl⟩
  rfl

/-- The constructors of a model are those of the declared cases, one for each. -/
theorem exists_declaredCases (built : declaration.toDataType snapshot = .ok data) :
    ∃ cases, declaration.declaredCases snapshot = .ok cases ∧
      data.constructors = declaration.constructorsOf cases := by
  rcases toDataType_eq_ok_iff.mp built with
    ⟨matcher, resultVar, encoding, cases, single, generic, read, -, -, -, rfl⟩
  refine ⟨cases, ?_, rfl⟩
  rw [declaredCases, single]
  change (declaration.resultVar matcher >>= _) = _
  rw [generic]
  change (declaration.readCases snapshot matcher resultVar >>= _) = _
  rw [read]
  rfl

/--
The declared cases can be read off a model, with the same names, places, fields
and own type parameters in the same order, and every witness stands where it was
declared.
-/
theorem declaredCases_eq_cases (built : declaration.toDataType snapshot = .ok data) :
    declaration.declaredCases snapshot = .ok data.cases ∧
      ∀ constructor ∈ data.constructors, ∀ restriction ∈ constructor.restrictions,
        constructor.toCase.fields[restriction.position]? = some restriction.witness := by
  rcases exists_declaredCases built with ⟨cases, declared, same⟩
  rw [DataType.cases, same, map_toCase_constructorsOf]
  refine ⟨declared, ?_⟩
  intro constructor member restriction restricts
  rcases exists_of_mem_constructorsOf member with ⟨index, case, -, rfl⟩
  rcases (declaration.interleaved_toConstructor index case).witness_placed restricts with
    ⟨offset, placed, found⟩
  rw [toCase_toConstructor, placed, Nat.zero_add]
  exact found

/-- Conversions of a value, of which the read ones know their source and target. -/
def conversion : Declaration where
  name := "Conversion"
  span := ⟨0, 9⟩
  typeParams := [⟨"S", ⟨10, 11⟩⟩, ⟨"T", ⟨12, 13⟩⟩, ⟨"V", ⟨14, 15⟩⟩]
  request := default
  methods :=
    [{ name := "match"
       span := ⟨20, 25⟩
       typeParams := [⟨"R", ⟨26, 27⟩⟩]
       parameters :=
         [⟨"Read", ⟨30, 34⟩,
            .arrow
              [.arrow [.con "List" [.var "V"]] (.var "S"), .var "V",
                .arrow [.atom "String"] (.var "T")]
              (.var "R"),
            ["source", "value", "target"]⟩,
          ⟨"Plain", ⟨40, 45⟩, .arrow [.var "S", .var "T"] (.var "R"), ["source", "target"]⟩]
       result := .var "R"
       isAbstract := true }]
  statics := []

/-- The model of conversions, with a leading and a trailing witness. -/
def conversionModel : DataType where
  name := "Conversion"
  span := ⟨0, 9⟩
  typeParams := ["S", "T", "V"]
  constructors :=
    [{ name := "Read"
       span := ⟨30, 34⟩
       index := 0
       arguments := [⟨"value", ⟨30, 34⟩, .var "V"⟩]
       restrictions :=
         [⟨"S", .con "List" [.var "V"],
            ⟨"source", ⟨30, 34⟩, .arrow [.con "List" [.var "V"]] (.var "S")⟩, 0⟩,
          ⟨"T", .atom "String", ⟨"target", ⟨30, 34⟩, .arrow [.atom "String"] (.var "T")⟩, 2⟩]
       existentials := []
       typeParams := ["V"] },
     { name := "Plain"
       span := ⟨40, 45⟩
       index := 1
       arguments := [⟨"source", ⟨40, 45⟩, .var "S"⟩, ⟨"target", ⟨40, 45⟩, .var "T"⟩]
       restrictions := []
       existentials := []
       typeParams := ["S", "T", "V"] }]
  matcher := "match"
  resultVar := "R"
  encoding := .lambdas

theorem declaredCases_eq_cases_conversion :
    conversion.toDataType default = .ok conversionModel ∧
      conversion.declaredCases default = .ok conversionModel.cases ∧
        ∀ constructor ∈ conversionModel.constructors,
          ∀ restriction ∈ constructor.restrictions,
            constructor.toCase.fields[restriction.position]? = some restriction.witness :=
  ⟨rfl, declaredCases_eq_cases rfl⟩

end Declaration

end DataDerive
