import DataDerive.Declaration
import DataDerive.Diagnostic.Basic
import DataDerive.Model.Basic
import DataDerive.Model.FieldName
import DataDerive.Unification

/-!
# Building the model of a declaration

The single abstract method of a declaration is its matcher.  It is generic in
its result, and it lists the cases either as parameters of function type or as
the abstract methods of one interface.  The cases are checked, witnesses are
told from arguments, and the type variables are compared with the declared
parameters.  The first fault ends the work and is reported at the element that
has it.
-/

namespace DataDerive.Declaration

/-- A message about an element of a declaration. -/
def fault
    (declaration : Declaration)
    (code : Code)
    (span : Span)
    (text : String) : Message :=
  .at_ code text (.declaration declaration.name span)

/-- A message about several elements of a declaration. -/
def faults
    (declaration : Declaration)
    (code : Code)
    (spans : List Span)
    (text : String) : Message :=
  ⟨code, text, spans.map (.declaration declaration.name)⟩

/-- The single abstract method. -/
def matcher (declaration : Declaration) : Derived Method :=
  match declaration.abstractMethods with
  | [matcher] => .ok matcher
  | [] =>
      .error (declaration.fault .noMatcher declaration.span
        s!"`{declaration.name}` declares no abstract matcher method")
  | methods =>
      .error (declaration.faults .severalMatchers (methods.map Method.span)
        s!"`{declaration.name}` declares more than one abstract method")

/-- The type variable that a matcher returns. -/
def resultVar (declaration : Declaration) (matcher : Method) : Derived String :=
  let refuse (text : String) : Derived String :=
    .error (declaration.fault .matcherNotGeneric matcher.span text)
  match matcher.result.asVar? with
  | none =>
      refuse s!"matcher `{matcher.name}` must return a type variable, found `{matcher.result.text}`"
  | some name =>
      if !(matcher.typeParams.map Named.name).contains name then
        refuse s!"matcher `{matcher.name}` must be generic in its result type `{name}`"
      else if declaration.declares name then
        refuse s!"result type `{name}` of matcher `{matcher.name}` shadows a type parameter of `{declaration.name}`"
      else
        .ok name

/-- The names of the fields of a case that is a parameter. -/
def fieldNames
    (declaration : Declaration)
    (parameter : Parameter)
    (types : List TypeExpr) : Derived (List String) :=
  let count := parameter.fieldNames.length
  if parameter.fieldNames.isEmpty then
    .ok (FieldName.ofTypes types)
  else if count = types.length then
    .ok parameter.fieldNames
  else
    .error (declaration.fault .fieldNameCount parameter.span
      s!"case `{parameter.name}` names {count} field(s) but takes {types.length} argument(s)")

/-- The case that a parameter of function type stands for. -/
def lambdaCase
    (declaration : Declaration)
    (resultVar : String)
    (parameter : Parameter) : Derived Case :=
  let refused : Derived Case :=
    .error (declaration.fault .caseNotFunction parameter.span
      s!"case `{parameter.name}` must be a function returning `{resultVar}`, found `{parameter.type.text}`")
  match parameter.type with
  | .arrow types result =>
      if result.asVar? = some resultVar then do
        let names ← declaration.fieldNames parameter types
        let fields := (names.zip types).map fun (name, type) => ⟨name, parameter.span, type⟩
        return ⟨parameter.name, parameter.span, fields, []⟩
      else
        refused
  | _ => refused

/-- The case that an abstract method of an interface stands for. -/
def visitorCase
    (declaration : Declaration)
    (resultVar : String)
    (instantiation : Substitution)
    (method : Method) : Derived Case :=
  let existentials := method.typeParams.map Named.name
  let outer := instantiation.without existentials
  let result := outer.substitute method.result
  if result.asVar? = some resultVar then
    let fields := method.parameters.map fun parameter =>
      ⟨parameter.name, parameter.span, outer.substitute parameter.type⟩
    .ok ⟨method.name, method.span, fields, existentials⟩
  else
    .error (declaration.fault .caseNotFunction method.span
      s!"case `{method.name}` must return `{resultVar}`, found `{result.text}`")

/-- The cases that the abstract methods of an interface stand for. -/
def visitorCases
    (declaration : Declaration)
    (resultVar : String)
    (parameter : Parameter)
    (interface : Interface)
    (arguments : List TypeExpr) : Derived (List Case) :=
  let expected := interface.typeParams.length
  if expected = arguments.length then
    let instantiation := Substitution.ofPairs
      ((interface.typeParams.map Named.name).zip arguments)
    (interface.methods.filter Method.isAbstract).mapM
      (declaration.visitorCase resultVar instantiation)
  else
    .error (declaration.fault .unknownInterface parameter.span
      s!"visitor interface `{interface.name}` takes {expected} type argument(s), found {arguments.length}")

/--
The only parameter of a matcher, with its type taken apart, if the result
variable occurs among the arguments of that type.
-/
def visitorParameter? (matcher : Method) (resultVar : String) :
    Option (Parameter × String × List TypeExpr) :=
  match matcher.parameters with
  | [parameter] =>
      match parameter.type with
      | .con name arguments =>
          if arguments.any fun argument => argument.mentions resultVar then
            some (parameter, name, arguments)
          else
            none
      | _ => none
  | _ => none

/-- The cases of a matcher and how it lists them. -/
def readCases
    (declaration : Declaration)
    (snapshot : Snapshot)
    (matcher : Method)
    (resultVar : String) : Derived (Encoding × List Case) :=
  match visitorParameter? matcher resultVar with
  | some (parameter, name, arguments) =>
      match snapshot.interface? name with
      | some interface => do
          let cases ← declaration.visitorCases resultVar parameter interface arguments
          return (.visitor name parameter.name, cases)
      | none =>
          .error (declaration.fault .unknownInterface parameter.span
            s!"visitor interface `{name}` is not in scope")
  | none => do
      let cases ← matcher.parameters.mapM (declaration.lambdaCase resultVar)
      return (.lambdas, cases)

/-- The cases of a declaration as its matcher lists them. -/
def declaredCases (declaration : Declaration) (snapshot : Snapshot) : Derived (List Case) := do
  let matcher ← declaration.matcher
  let resultVar ← declaration.resultVar matcher
  let (_, cases) ← declaration.readCases snapshot matcher resultVar
  return cases

/-- Refuse a field with the name of an earlier one. -/
def checkFieldNames
    (declaration : Declaration)
    (caseName : String) :
    (earlier : List String) → List Field → Derived Unit
  | _, [] => .ok ()
  | earlier, field :: rest =>
      if earlier.contains field.name then
        .error (declaration.fault .repeatedField field.span
          s!"constructor `{caseName}` has two fields named `{field.name}`")
      else
        declaration.checkFieldNames caseName (field.name :: earlier) rest

/-- Refuse a case with the name of an earlier one, and repeated fields in any case. -/
def checkCaseNames (declaration : Declaration) :
    (earlier : List Case) → List Case → Derived Unit
  | _, [] => .ok ()
  | earlier, case :: rest =>
      match earlier.find? fun first => first.name == case.name with
      | some first =>
          .error (declaration.faults .repeatedConstructor [case.span, first.span]
            s!"duplicate constructor `{case.name}`")
      | none => do
          declaration.checkFieldNames case.name [] case.fields
          declaration.checkCaseNames (earlier ++ [case]) rest

/-- Whether a variable occurs in a field of a case other than the one at a position. -/
def occursElsewhere (case : Case) (position : Nat) (name : String) : Bool :=
  case.fields.zipIdx.any fun (field, index) => index != position && field.type.mentions name

/--
Recognize a field as a witness.  It takes one value and returns a type parameter
that no other field mentions and that no earlier witness narrows.  Its input is
neither a bare variable nor a type over the case's own variables.
-/
def witness?
    (declaration : Declaration)
    (case : Case)
    (position : Nat)
    (narrowed : List String)
    (field : Field) : Option Restriction :=
  match field.type with
  | .arrow [input] (.var name) =>
      if !declaration.declares name || narrowed.contains name ||
          occursElsewhere case position name then
        none
      else do
        let unifier ← Unification.unify? (.var name) input
        let bound := unifier.resolve (.var name)
        if bound.asVar?.isSome || case.existentials.any bound.mentions then
          none
        else
          some ⟨name, bound, field, position⟩
  | _ => none

/-- Tell witnesses from arguments among the fields of a case from a position on. -/
def splitFields (declaration : Declaration) (case : Case) :
    (position : Nat) → (narrowed : List String) → List Field →
      List Restriction × List Field
  | _, _, [] => ([], [])
  | position, narrowed, field :: rest =>
      match declaration.witness? case position narrowed field with
      | some restriction =>
          let (restrictions, arguments) :=
            declaration.splitFields case (position + 1) (restriction.parameter :: narrowed) rest
          (restriction :: restrictions, arguments)
      | none =>
          let (restrictions, arguments) :=
            declaration.splitFields case (position + 1) narrowed rest
          (restrictions, field :: arguments)

/-- The constructor of a case. -/
def toConstructor (declaration : Declaration) (index : Nat) (case : Case) : Constructor :=
  let (restrictions, arguments) := declaration.splitFields case 0 [] case.fields
  let narrowed := restrictions.map Restriction.parameter
  { name := case.name
    span := case.span
    index
    arguments
    restrictions
    existentials := case.existentials
    typeParams :=
      declaration.parameterNames.filter (fun name => !narrowed.contains name) ++
        case.existentials }

/-- The variables of a field that are not the case's own. -/
def outerVars (constructor : Constructor) (field : Field) : List String :=
  field.type.freeVars.filter fun name => !constructor.existentials.contains name

/-- Refuse a variable of a field that is not declared. -/
def checkFieldVars
    (declaration : Declaration)
    (constructor : Constructor)
    (field : Field) : Derived Unit :=
  match (outerVars constructor field).find? fun name => !declaration.declares name with
  | some name =>
      .error (declaration.fault .undeclaredVariable field.span
        s!"type variable `{name}` in constructor `{constructor.name}` is not declared on `{declaration.name}`")
  | none => .ok ()

/-- The variables of all fields of all constructors that are not a case's own. -/
def usedVars (constructors : List Constructor) : List String :=
  constructors.flatMap fun constructor => constructor.caseFields.flatMap (outerVars constructor)

/-- Refuse variables that are not declared and type parameters that are not used. -/
def checkTypeParams
    (declaration : Declaration)
    (constructors : List Constructor) : Derived Unit := do
  constructors.forM fun constructor =>
    constructor.caseFields.forM (declaration.checkFieldVars constructor)
  match declaration.typeParams.find? fun item =>
      !(usedVars constructors).contains item.name with
  | some unused =>
      .error (declaration.fault .unusedParameter unused.span
        s!"type parameter `{unused.name}` of `{declaration.name}` is not used by any constructor")
  | none => .ok ()

/-- The model of a declaration. -/
def toDataType (declaration : Declaration) (snapshot : Snapshot) : Derived DataType := do
  let matcher ← declaration.matcher
  let resultVar ← declaration.resultVar matcher
  let (encoding, cases) ← declaration.readCases snapshot matcher resultVar
  if cases.isEmpty then
    .error (declaration.fault .noCases matcher.span
      s!"matcher `{matcher.name}` declares no cases")
  declaration.checkCaseNames [] cases
  let constructors := cases.zipIdx.map fun (case, index) => declaration.toConstructor index case
  declaration.checkTypeParams constructors
  return {
    name := declaration.name
    span := declaration.span
    typeParams := declaration.parameterNames
    constructors
    matcher := matcher.name
    resultVar
    encoding }

end DataDerive.Declaration
