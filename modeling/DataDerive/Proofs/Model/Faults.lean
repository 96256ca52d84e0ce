import DataDerive.Proofs.Model.Build

/-!
# Faults found by a build

Each phase of building a model has its own codes.  Reading the matcher and its
cases, comparing names, and comparing type variables never end in each other's
faults, so the code of a message tells the phase that it comes from.  In particular
two fields of one name are found only when the names of the cases are compared, and
the message is about a field of a case that does repeat a name.
-/

namespace DataDerive.Declaration

open Derived

variable {declaration : Declaration} {snapshot : Snapshot}

/-! ## The codes of each phase -/

/-- The codes of the messages that reading the cases of a matcher can end in. -/
def readingCodes : List Code :=
  [.caseNotFunction, .fieldNameCount, .unknownInterface]

/-- The codes of the messages that building a model can end in. -/
def buildingCodes : List Code :=
  [.noMatcher, .severalMatchers, .matcherNotGeneric, .noCases, .repeatedConstructor,
    .repeatedField, .undeclaredVariable, .unusedParameter] ++ readingCodes

section Codes

variable (declaration snapshot)

theorem failsWithin_matcher :
    FailsWithin [.noMatcher, .severalMatchers] declaration.matcher := by
  rw [matcher]
  split
  next => exact failsOnlyWith_ok _
  next => exact failsOnlyWith_error (by decide : Code.noMatcher ∈ _)
  next => exact failsOnlyWith_error (by decide : Code.severalMatchers ∈ _)

theorem failsWithin_resultVar (matcher : Method) :
    FailsWithin [.matcherNotGeneric] (declaration.resultVar matcher) := by
  rw [resultVar]
  split
  next => exact failsOnlyWith_error (List.mem_singleton_self _)
  next =>
    split
    next => exact failsOnlyWith_error (List.mem_singleton_self _)
    next =>
      split
      next => exact failsOnlyWith_error (List.mem_singleton_self _)
      next => exact failsOnlyWith_ok _

theorem failsWithin_lambdaCase (resultVar : String) (parameter : Parameter) :
    FailsWithin readingCodes (declaration.lambdaCase resultVar parameter) := by
  have names (types : List TypeExpr) :
      FailsWithin readingCodes (declaration.fieldNames parameter types) := by
    rw [fieldNames]
    split
    next => exact failsOnlyWith_ok _
    next =>
      split
      next => exact failsOnlyWith_ok _
      next => exact failsOnlyWith_error (by decide : Code.fieldNameCount ∈ readingCodes)
  have refused : Code.caseNotFunction ∈ readingCodes := by decide
  rw [lambdaCase]
  split
  next types _ _ =>
    split
    next => exact (names types).bind fun _ => failsOnlyWith_ok _
    next => exact failsOnlyWith_error refused
  next => exact failsOnlyWith_error refused

theorem failsWithin_visitorCases
    (resultVar : String)
    (parameter : Parameter)
    (interface : Interface)
    (arguments : List TypeExpr) :
    FailsWithin readingCodes
      (declaration.visitorCases resultVar parameter interface arguments) := by
  have one (instantiation : Substitution) (method : Method) :
      FailsWithin readingCodes (declaration.visitorCase resultVar instantiation method) := by
    rw [visitorCase]
    split
    next => exact failsOnlyWith_ok _
    next => exact failsOnlyWith_error (by decide : Code.caseNotFunction ∈ readingCodes)
  rw [visitorCases]
  split
  next => exact failsOnlyWith_mapM (one _) _
  next => exact failsOnlyWith_error (by decide : Code.unknownInterface ∈ readingCodes)

theorem failsWithin_readCases (matcher : Method) (resultVar : String) :
    FailsWithin readingCodes (declaration.readCases snapshot matcher resultVar) := by
  rw [readCases]
  split
  next =>
    split
    next =>
      exact (declaration.failsWithin_visitorCases resultVar _ _ _).bind fun _ => failsOnlyWith_ok _
    next => exact failsOnlyWith_error (by decide : Code.unknownInterface ∈ readingCodes)
  next =>
    exact (failsOnlyWith_mapM (declaration.failsWithin_lambdaCase resultVar) _).bind fun _ =>
      failsOnlyWith_ok _

theorem failsWithin_checkFieldNames
    (caseName : String)
    (earlier : List String)
    (fields : List Field) :
    FailsWithin [.repeatedField] (declaration.checkFieldNames caseName earlier fields) := by
  induction fields generalizing earlier with
  | nil => exact failsOnlyWith_ok ()
  | cons field rest ih =>
      rw [checkFieldNames]
      split
      next => exact failsOnlyWith_error (List.mem_singleton_self _)
      next => exact ih _

theorem failsWithin_checkCaseNames (earlier cases : List Case) :
    FailsWithin [.repeatedConstructor, .repeatedField]
      (declaration.checkCaseNames earlier cases) := by
  induction cases generalizing earlier with
  | nil => exact failsOnlyWith_ok ()
  | cons case rest ih =>
      rw [checkCaseNames]
      split
      next => exact failsOnlyWith_error (by decide : Code.repeatedConstructor ∈ _)
      next =>
        have fields := (declaration.failsWithin_checkFieldNames case.name [] case.fields).mono
          (List.subset_cons_self Code.repeatedConstructor _)
        exact fields.bind fun _ => ih _

theorem failsWithin_checkTypeParams (constructors : List Constructor) :
    FailsWithin [.undeclaredVariable, .unusedParameter]
      (declaration.checkTypeParams constructors) := by
  have code := coded_checkTypeParams declaration constructors
  intro message fails
  rw [fails, coded_error] at code
  split at code
  next =>
    split at code
    next => cases code
    next =>
      rw [Except.error.inj code]
      decide
  next =>
    rw [Except.error.inj code]
    decide

theorem failsWithin_assemble
    (matcher : Method)
    (resultVar : String)
    (encoding : Encoding)
    (cases : List Case) :
    FailsWithin buildingCodes (declaration.assemble matcher resultVar encoding cases) := by
  by_cases nonempty : cases = []
  · subst nonempty
    exact failsOnlyWith_error (by decide : Code.noCases ∈ buildingCodes)
  · rw [assemble_of_ne_nil nonempty]
    refine ((declaration.failsWithin_checkCaseNames [] cases).mono (by decide)).bind fun _ => ?_
    refine ((declaration.failsWithin_checkTypeParams _).mono (by decide)).bind fun _ => ?_
    exact failsOnlyWith_ok _

theorem failsWithin_toDataType :
    FailsWithin buildingCodes (declaration.toDataType snapshot) := by
  rw [toDataType_eq]
  refine (declaration.failsWithin_matcher.mono (by decide)).bind fun matcher => ?_
  refine ((declaration.failsWithin_resultVar matcher).mono (by decide)).bind fun resultVar => ?_
  refine ((declaration.failsWithin_readCases snapshot matcher resultVar).mono
    (by decide)).bind fun read => ?_
  exact declaration.failsWithin_assemble matcher resultVar read.1 read.2

end Codes

/-! ## Fields of one name -/

variable {message : Message}

/-- A message about a repeated field is about a field whose name stands earlier. -/
theorem exists_repeated_of_checkFieldNames
    {caseName : String}
    {earlier : List String}
    {fields : List Field}
    (fails : declaration.checkFieldNames caseName earlier fields = .error message) :
    ∃ field ∈ fields, message = declaration.fault .repeatedField field.span
      s!"constructor `{caseName}` has two fields named `{field.name}`" := by
  induction fields generalizing earlier with
  | nil => cases fails
  | cons field rest ih =>
      rw [checkFieldNames] at fails
      split at fails
      next => exact ⟨field, List.mem_cons_self, (Except.error.inj fails).symm⟩
      next =>
        rcases ih fails with ⟨other, later, same⟩
        exact ⟨other, List.mem_cons_of_mem _ later, same⟩

theorem exists_case_of_checkCaseNames
    {earlier cases : List Case}
    (fails : declaration.checkCaseNames earlier cases = .error message)
    (code : message.code = .repeatedField) :
    ∃ case ∈ cases, declaration.checkFieldNames case.name [] case.fields = .error message := by
  induction cases generalizing earlier with
  | nil => cases fails
  | cons case rest ih =>
      rw [checkCaseNames] at fails
      split at fails
      next =>
        cases Except.error.inj fails
        cases code
      next =>
        rcases bind_eq_error_iff.mp fails with here | ⟨_, -, later⟩
        · exact ⟨case, List.mem_cons_self, here⟩
        · rcases ih later with ⟨other, listed, found⟩
          exact ⟨other, List.mem_cons_of_mem _ listed, found⟩

/--
If a build ends because of a repeated field, the cases were read, and the message is
about a field of a case in which two fields share a name.
-/
theorem exists_case_of_repeatedField
    (fails : declaration.toDataType snapshot = .error message)
    (code : message.code = .repeatedField) :
    ∃ matcher resultVar encoding cases,
      declaration.matcher = .ok matcher ∧ declaration.resultVar matcher = .ok resultVar ∧
      declaration.readCases snapshot matcher resultVar = .ok (encoding, cases) ∧
      ∃ case ∈ cases, ¬ (case.fields.map Field.name).Nodup ∧
        ∃ field ∈ case.fields, message = declaration.fault .repeatedField field.span
          s!"constructor `{case.name}` has two fields named `{field.name}`" := by
  -- The other phases have other codes.
  have apart {codes : List Code} {α : Type} {step : Derived α} (within : FailsWithin codes step)
      (other : Code.repeatedField ∉ codes) : step ≠ .error message :=
    fun ends => other (code ▸ within message ends)
  rw [toDataType_eq] at fails
  rcases bind_eq_error_iff.mp fails with ends | ⟨matcher, single, fails⟩
  · exact absurd ends (apart declaration.failsWithin_matcher (by decide))
  rcases bind_eq_error_iff.mp fails with ends | ⟨resultVar, generic, fails⟩
  · exact absurd ends (apart (declaration.failsWithin_resultVar matcher) (by decide))
  rcases bind_eq_error_iff.mp fails with ends | ⟨⟨encoding, cases⟩, read, fails⟩
  · exact absurd ends (apart (declaration.failsWithin_readCases snapshot matcher resultVar)
      (by decide))
  refine ⟨matcher, resultVar, encoding, cases, single, generic, read, ?_⟩
  have nonempty : cases ≠ [] := by
    rintro rfl
    cases Except.error.inj fails
    cases code
  rw [assemble_of_ne_nil nonempty] at fails
  rcases bind_eq_error_iff.mp fails with names | ⟨_, -, fails⟩
  · rcases exists_case_of_checkCaseNames names code with ⟨case, listed, repeats⟩
    refine ⟨case, listed, fun distinct => ?_, exists_repeated_of_checkFieldNames repeats⟩
    have passes : declaration.checkFieldNames case.name [] case.fields = .ok () :=
      checkFieldNames_eq_ok_iff.mpr ⟨distinct, fun _ _ => List.not_mem_nil⟩
    rw [passes] at repeats
    cases repeats
  · rcases bind_eq_error_iff.mp fails with ends | ⟨_, -, fails⟩
    · exact absurd ends (apart (declaration.failsWithin_checkTypeParams _) (by decide))
    · cases fails

end DataDerive.Declaration
