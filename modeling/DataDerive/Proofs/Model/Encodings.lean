import DataDerive.Proofs.Model.Hygiene

/-!
# The two encodings of a matcher

A matcher lists its cases as its own parameters, or it is given them as the
methods of one interface.  The interface has its own names for the type
parameters, and the matcher says what is put for them.  If the interface only
renames, no two names to the same, then both matchers stand for the same
constructors.  Only the places in the program differ.
-/

namespace DataDerive

open Derived TypeExpr

/-! ## Without places -/

def Field.unplaced (field : Field) : Field :=
  { field with span := default }

def Case.unplaced (case : Case) : Case :=
  { case with span := default, fields := case.fields.map Field.unplaced }

def Restriction.unplaced (restriction : Restriction) : Restriction :=
  { restriction with witness := restriction.witness.unplaced }

/-- A constructor without the places of itself and its fields. -/
def Constructor.unplaced (constructor : Constructor) : Constructor :=
  { constructor with
    span := default
    arguments := constructor.arguments.map Field.unplaced
    restrictions := constructor.restrictions.map Restriction.unplaced }

namespace Declaration

variable {declaration other : Declaration}

theorem occursElsewhere_unplaced (case : Case) (position : Nat) (name : String) :
    occursElsewhere case.unplaced position name = occursElsewhere case position name := by
  rw [occursElsewhere, Case.unplaced, List.zipIdx_map, List.any_map]
  rfl

theorem witness?_unplaced
    (declaration : Declaration)
    (case : Case)
    (position : Nat)
    (narrowed : List String)
    (field : Field) :
    declaration.witness? case.unplaced position narrowed field.unplaced =
      (declaration.witness? case position narrowed field).map Restriction.unplaced := by
  rw [witness?.eq_def, witness?.eq_def]
  rcases field with ⟨name, span, type⟩
  simp only [occursElsewhere_unplaced, Field.unplaced]
  split
  next input parameter =>
    split
    next => rfl
    next =>
      cases Unification.unify? (.var parameter) input with
      | none => rfl
      | some unifier =>
          change (if _ then none else some _) = Option.map _ (if _ then none else some _)
          rw [apply_ite (Option.map Restriction.unplaced)]
          rfl
  next => rfl

theorem splitFields_unplaced
    (declaration : Declaration)
    (case : Case)
    (position : Nat)
    (narrowed : List String)
    (fields : List Field) :
    declaration.splitFields case.unplaced position narrowed (fields.map Field.unplaced) =
      (declaration.splitFields case position narrowed fields).map
        (List.map Restriction.unplaced) (List.map Field.unplaced) := by
  induction fields generalizing position narrowed with
  | nil => rfl
  | cons field rest ih =>
      rw [List.map_cons, splitFields, splitFields, witness?_unplaced]
      cases declaration.witness? case position narrowed field with
      | none =>
          simp only [Option.map_none, ih]
          rfl
      | some restriction =>
          simp only [Option.map_some, ih]
          rfl

/-- Where a case and its fields are written makes no other difference to its constructor. -/
theorem toConstructor_unplaced (declaration : Declaration) (index : Nat) (case : Case) :
    declaration.toConstructor index case.unplaced =
      (declaration.toConstructor index case).unplaced := by
  have split := declaration.splitFields_unplaced case 0 [] case.fields
  change declaration.splitFields case.unplaced 0 [] case.unplaced.fields = _ at split
  simp only [toConstructor, split, Constructor.unplaced, Prod.map_fst, Prod.map_snd, List.map_map]
  rfl

theorem witness?_congr
    (same : declaration.parameterNames = other.parameterNames)
    (case : Case)
    (position : Nat)
    (narrowed : List String)
    (field : Field) :
    declaration.witness? case position narrowed field =
      other.witness? case position narrowed field := by
  simp only [witness?, declares, same]
  rfl

theorem splitFields_congr
    (same : declaration.parameterNames = other.parameterNames)
    (case : Case)
    (position : Nat)
    (narrowed : List String)
    (fields : List Field) :
    declaration.splitFields case position narrowed fields =
      other.splitFields case position narrowed fields := by
  induction fields generalizing position narrowed with
  | nil => rfl
  | cons field rest ih => simp only [splitFields, witness?_congr same, ih]

/-- Of a declaration, a constructor depends on the type parameters alone. -/
theorem toConstructor_congr
    (same : declaration.parameterNames = other.parameterNames)
    (index : Nat)
    (case : Case) :
    declaration.toConstructor index case = other.toConstructor index case := by
  simp only [toConstructor, splitFields_congr same, same]

theorem constructorsOf_unplaced (declaration : Declaration) (cases : List Case) :
    declaration.constructorsOf (cases.map Case.unplaced) =
      (declaration.constructorsOf cases).map Constructor.unplaced := by
  refine List.ext_getElem? fun index => ?_
  rw [getElem?_constructorsOf, List.getElem?_map, List.getElem?_map, getElem?_constructorsOf,
    Option.map_map, Option.map_map]
  congr 1
  funext case
  exact declaration.toConstructor_unplaced index case

/-- Cases that differ in their places alone have constructors that do. -/
theorem unplaced_constructorsOf
    (same : declaration.parameterNames = other.parameterNames)
    {cases others : List Case}
    (unplaced : cases.map Case.unplaced = others.map Case.unplaced) :
    (declaration.constructorsOf cases).map Constructor.unplaced =
      (other.constructorsOf others).map Constructor.unplaced := by
  rw [← constructorsOf_unplaced, ← constructorsOf_unplaced, unplaced]
  simp only [constructorsOf, toConstructor_congr same]

/-! ## Checks -/

variable {cases others : List Case}

theorem checkCaseNames_unplaced :
    declaration.checkCaseNames [] (cases.map Case.unplaced) = .ok () ↔
      declaration.checkCaseNames [] cases = .ok () := by
  simp [checkCaseNames_eq_ok_iff, Case.unplaced, Field.unplaced, Function.comp_def]

theorem mem_usedVars_unplaced {name : String} :
    name ∈ usedVars (declaration.constructorsOf (cases.map Case.unplaced)) ↔
      name ∈ usedVars (declaration.constructorsOf cases) := by
  simp [mem_usedVars_constructorsOf, Case.unplaced, Field.unplaced]

/-- The checks pass or fail together for cases that differ in their places alone. -/
theorem checks_unplaced
    (same : declaration.parameterNames = other.parameterNames)
    (unplaced : cases.map Case.unplaced = others.map Case.unplaced)
    (names : declaration.checkCaseNames [] cases = .ok ())
    (scopes : declaration.checkTypeParams (declaration.constructorsOf cases) = .ok ()) :
    other.checkCaseNames [] others = .ok () ∧
      other.checkTypeParams (other.constructorsOf others) = .ok () := by
  have used (name : String) : name ∈ usedVars (other.constructorsOf others) ↔
      name ∈ usedVars (declaration.constructorsOf cases) := by
    rw [← mem_usedVars_unplaced, ← unplaced, ← declaration.mem_usedVars_unplaced]
    simp only [mem_usedVars_constructorsOf]
  constructor
  · rw [← checkCaseNames_unplaced, checkCaseNames_eq_ok_iff] at names ⊢
    rwa [← unplaced]
  · rw [checkTypeParams_eq_ok_iff] at scopes ⊢
    simp only [used, declares, ← same]
    exact scopes

/-! ## The renamed interface -/

/-- Putting a variable back for each of its new names. -/
theorem substitute_renamed
    {names : List String}
    {rename : String → String}
    (injective : Set.InjOn rename {name | name ∈ names})
    {name : String}
    (listed : name ∈ names) :
    (Substitution.ofPairs ((names.map rename).zip (names.map .var))).substitute
      (.var (rename name)) = .var name := by
  have pairs : (names.map rename).zip (names.map TypeExpr.var) =
      names.map fun name => (rename name, TypeExpr.var name) := List.zip_map' ..
  have bound : rename name ∈
      (names.map fun name => (rename name, TypeExpr.var name)).map Prod.fst := by
    rw [List.map_map]
    exact List.mem_map_of_mem listed
  rcases Substitution.exists_get?_ofPairs bound with ⟨target, found⟩
  rcases List.mem_map.mp (Substitution.mem_of_get?_ofPairs found) with ⟨source, member, pair⟩
  rw [Prod.mk.injEq] at pair
  rcases pair with ⟨same, rfl⟩
  rw [Substitution.substitute, replace_var, pairs, found, Option.getD_some,
    injective member listed same]

/-- A case is listed by a method of an interface under other names for the type variables. -/
structure ListedBy
    (rename : String → String)
    (resultVar : String)
    (case : Case)
    (method : Method) : Prop where
  name_eq : method.name = case.name
  typeParams_eq : method.typeParams = []
  parameters_eq : method.parameters.map (fun parameter => (parameter.name, parameter.type)) =
    case.fields.map fun field => (field.name, field.type.replace fun name => .var (rename name))
  result_eq : method.result = .var (rename resultVar)

/--
A declaration whose matcher is given cases as the methods of an interface.  The
interface has other names for the type parameters and for the result variable.
-/
structure VisitorForm
    (names : List String)
    (resultVar : String)
    (cases : List Case)
    (rename : String → String)
    (visitor : Declaration)
    (snapshot : Snapshot) where
  matcher : Method
  parameter : Parameter
  interface : Interface
  names_eq : visitor.parameterNames = names
  matcher_eq : visitor.abstractMethods = [matcher]
  generic : resultVar ∈ matcher.typeParams.map Named.name
  result_eq : matcher.result = .var resultVar
  parameters_eq : matcher.parameters = [parameter]
  type_eq : parameter.type = .con interface.name ((names ++ [resultVar]).map .var)
  inScope : snapshot.interface? interface.name = some interface
  typeParams_eq : interface.typeParams.map Named.name = (names ++ [resultVar]).map rename
  lists : List.Forall₂ (ListedBy rename resultVar) cases
    (interface.methods.filter Method.isAbstract)

namespace VisitorForm

variable {visitor : Declaration} {snapshot : Snapshot} {names : List String}
variable {resultVar : String} {cases : List Case} {rename : String → String}

def visit
    (form : VisitorForm names resultVar cases rename visitor snapshot)
    (undeclared : resultVar ∉ names) :
    Visit visitor snapshot where
  matcher := form.matcher
  resultVar := resultVar
  parameter := form.parameter
  interfaceName := form.interface.name
  arguments := (names ++ [resultVar]).map .var
  interface := form.interface
  isMatcher := by rw [Declaration.matcher, form.matcher_eq]
  isResultVar := by
    have outside : visitor.declares resultVar = false := by
      rw [← Bool.not_eq_true, declares_iff, form.names_eq]
      exact undeclared
    have listed := List.contains_iff_mem.mpr form.generic
    rw [Declaration.resultVar, form.result_eq]
    simp only [asVar?, listed, outside]
    rfl
  visits := by
    have mentioned : ((names ++ [resultVar]).map TypeExpr.var).any
        (fun argument => argument.mentions resultVar) = true := by
      rw [List.any_eq_true]
      exact ⟨.var resultVar, by simp, by simp [mentions_iff]⟩
    rw [visitorParameter?, form.parameters_eq]
    simp only [form.type_eq, mentioned]
    rfl
  inScope := form.inScope

variable (form : VisitorForm names resultVar cases rename visitor snapshot)

theorem instantiation_visit (undeclared : resultVar ∉ names) :
    (form.visit undeclared).instantiation =
      .ofPairs (((names ++ [resultVar]).map rename).zip ((names ++ [resultVar]).map .var)) := by
  rw [← form.typeParams_eq]
  rfl

/-- Every case is read from the method that lists it. -/
theorem visitorCase_of_listedBy
    {method : Method}
    {case : Case}
    (injective : Set.InjOn rename {name | name ∈ names ++ [resultVar]})
    (lists : ListedBy rename resultVar case method)
    (closed : case.existentials = [])
    (declared : ∀ field ∈ case.fields, ∀ name ∈ field.type.freeVars, name ∈ names)
    (undeclared : resultVar ∉ names) :
    ∃ read, visitor.visitorCase resultVar (form.visit undeclared).instantiation method = .ok read ∧
      read.unplaced = case.unplaced := by
  have ownNames : method.ownNames = [] := by
    rw [Method.ownNames, lists.typeParams_eq]
    rfl
  have outer (type : TypeExpr) :
      ((form.visit undeclared).instantiation.without method.ownNames).substitute type =
        (form.visit undeclared).instantiation.substitute type := by
    rw [ownNames, Substitution.substitute_eq_replace, Substitution.substitute_eq_replace _ type]
    simp only [Substitution.substitute_var_without, List.not_mem_nil, if_false]
  have back (name : String) (listed : name ∈ names ++ [resultVar]) :
      (form.visit undeclared).instantiation.substitute (.var (rename name)) = .var name := by
    rw [instantiation_visit]
    exact substitute_renamed injective listed
  refine ⟨method.toCase (form.visit undeclared).instantiation, ?_, ?_⟩
  · rw [← coded_eq_ok_iff, coded_visitorCase, if_pos]
    rw [Method.returned, outer, lists.result_eq, back resultVar (by simp)]
    rfl
  · have fields : (method.toCase (form.visit undeclared).instantiation).fields.map
        Field.unplaced = case.fields.map Field.unplaced := by
      calc
        (method.toCase (form.visit undeclared).instantiation).fields.map Field.unplaced =
            (method.parameters.map fun parameter => (parameter.name, parameter.type)).map
              fun pair => ⟨pair.1, default,
                (form.visit undeclared).instantiation.substitute pair.2⟩ := by
          simp only [Method.toCase, List.map_map, outer]
          rfl
        _ = case.fields.map Field.unplaced := by
          rw [lists.parameters_eq, List.map_map]
          refine List.map_congr_left fun field listed => ?_
          have type : (form.visit undeclared).instantiation.substitute
              (field.type.replace fun name => .var (rename name)) = field.type := by
            rw [Substitution.substitute_eq_replace, replace_replace]
            refine replace_of_fixes fun name occurs => ?_
            rw [replace_var]
            exact back name
              (List.mem_append_left _ (declared field listed name (mem_freeVars.mpr occurs)))
          exact congrArg (Field.mk field.name default) type
    rw [Case.unplaced, Case.unplaced, fields, closed]
    change Case.mk method.name _ _ method.ownNames = _
    rw [ownNames, lists.name_eq]

/-- The visitor lists the same cases, up to their places. -/
theorem exists_visitorCases
    (injective : Set.InjOn rename {name | name ∈ names ++ [resultVar]})
    (closed : ∀ case ∈ cases, case.existentials = [])
    (declared : ∀ case ∈ cases, ∀ field ∈ case.fields, ∀ name ∈ field.type.freeVars,
      name ∈ names)
    (undeclared : resultVar ∉ names) :
    ∃ others, visitor.visitorCases resultVar form.parameter form.interface
        ((names ++ [resultVar]).map .var) = .ok others ∧
      others.map Case.unplaced = cases.map Case.unplaced := by
  have arity : form.interface.typeParams.length =
      ((names ++ [resultVar]).map TypeExpr.var).length := by
    rw [List.length_map, ← List.length_map Named.name, form.typeParams_eq, List.length_map]
  have listed : List.Forall₂
      (fun (case : Case) method =>
        (case.existentials = [] ∧
          ∀ field ∈ case.fields, ∀ name ∈ field.type.freeVars, name ∈ names) ∧
        ListedBy rename resultVar case method)
      cases (form.interface.methods.filter Method.isAbstract) :=
    (List.forall₂_and_left ..).mpr
      ⟨fun case among => ⟨closed case among, declared case among⟩, form.lists⟩
  rw [visitorCases]
  dsimp only
  rw [if_pos arity]
  refine exists_mapM_of_forall₂ (listed.flip.imp ?_)
  rintro method case ⟨⟨closed, declared⟩, lists⟩
  exact form.visitorCase_of_listedBy injective lists closed declared undeclared

end VisitorForm

/--
A matcher with its cases as parameters and one that is given them as a visitor
stand for the same constructors, if the interface of the visitor has a name of
its own for every type parameter and for the result variable.  The names may
overlap with the declared ones and change places with them.
-/
theorem toDataType_visitorForm
    {declaration visitor : Declaration}
    {snapshot visitorSnapshot : Snapshot}
    {data : DataType}
    (built : declaration.toDataType snapshot = .ok data)
    (lambdas : data.encoding = .lambdas)
    {cases : List Case}
    (lists : declaration.declaredCases snapshot = .ok cases)
    {rename : String → String}
    (injective : Set.InjOn rename {name | name ∈ declaration.parameterNames ++ [data.resultVar]})
    (form : VisitorForm declaration.parameterNames data.resultVar cases rename
      visitor visitorSnapshot) :
    ∃ visited, visitor.toDataType visitorSnapshot = .ok visited ∧
      visited.encoding = .visitor form.interface.name form.parameter.name ∧
      visited.typeParams = data.typeParams ∧ visited.resultVar = data.resultVar ∧
      visited.constructors.map Constructor.unplaced =
        data.constructors.map Constructor.unplaced := by
  rcases toDataType_eq_ok_iff.mp built with
    ⟨matcher, resultVar, encoding, read, single, generic, reads, nonempty, names, scopes, rfl⟩
  have same : cases = read := by
    rw [declaredCases, single] at lists
    change (declaration.resultVar matcher >>= _) = _ at lists
    rw [generic] at lists
    change (declaration.readCases snapshot matcher resultVar >>= _) = _ at lists
    rw [reads] at lists
    exact (Except.ok.inj lists).symm
  subst same
  cases lambdas
  have undeclared := not_mem_parameterNames_of_resultVar generic
  have closed := existentials_of_readCases reads
  have declared : ∀ case ∈ cases, ∀ field ∈ case.fields, ∀ name ∈ field.type.freeVars,
      name ∈ declaration.parameterNames := by
    intro case listed field among name occurs
    refine declares_iff.mp ((checkTypeParams_eq_ok_iff.mp scopes).1 name ?_)
    refine mem_usedVars_constructorsOf.mpr ⟨case, listed, field, among, occurs, ?_⟩
    rw [closed case listed]
    exact List.not_mem_nil
  rcases form.exists_visitorCases injective closed declared undeclared with
    ⟨others, visits, unplaced⟩
  have checks := checks_unplaced form.names_eq.symm unplaced.symm names scopes
  have others_nonempty : others ≠ [] := by
    rintro rfl
    exact nonempty (List.map_eq_nil_iff.mp unplaced.symm)
  refine ⟨visitor.modelOf form.matcher resultVar
    (.visitor form.interface.name form.parameter.name) others, ?_, rfl, form.names_eq, rfl, ?_⟩
  · rw [(form.visit undeclared).toDataType_eq]
    change visitor.visitorCases resultVar form.parameter form.interface _ >>= _ = _
    refine bind_eq_ok_iff.mpr ⟨others, visits, ?_⟩
    exact assemble_eq_ok_iff.mpr ⟨others_nonempty, checks.1, checks.2, rfl⟩
  · exact unplaced_constructorsOf form.names_eq unplaced

/-- The type parameters of a conversion and its result variable change their names in a cycle. -/
def cycled : String → String
  | "S" => "T"
  | "T" => "V"
  | "V" => "R"
  | "R" => "S"
  | name => name

/-- The interface of a visitor of conversions, under the changed names. -/
def conversionCases : Interface where
  name := "ConversionCases"
  span := ⟨50, 65⟩
  typeParams :=
    [⟨"T", ⟨66, 67⟩⟩, ⟨"V", ⟨68, 69⟩⟩, ⟨"R", ⟨70, 71⟩⟩, ⟨"S", ⟨72, 73⟩⟩]
  methods :=
    [{ name := "Read"
       span := ⟨80, 84⟩
       typeParams := []
       parameters :=
         [⟨"source", ⟨85, 91⟩, .arrow [.con "List" [.var "R"]] (.var "T"), []⟩,
          ⟨"value", ⟨92, 97⟩, .var "R", []⟩,
          ⟨"target", ⟨98, 104⟩, .arrow [.atom "String"] (.var "V"), []⟩]
       result := .var "S"
       isAbstract := true },
     { name := "Plain"
       span := ⟨110, 115⟩
       typeParams := []
       parameters := [⟨"source", ⟨116, 122⟩, .var "T", []⟩, ⟨"target", ⟨123, 129⟩, .var "V", []⟩]
       result := .var "S"
       isAbstract := true }]

def casesParameter : Parameter :=
  ⟨"cases", ⟨30, 35⟩, .con "ConversionCases" [.var "S", .var "T", .var "V", .var "R"], []⟩

def acceptMatcher : Method where
  name := "accept"
  span := ⟨20, 26⟩
  typeParams := [⟨"R", ⟨27, 28⟩⟩]
  parameters := [casesParameter]
  result := .var "R"
  isAbstract := true

/-- Conversions with a matcher that is given its cases as a visitor. -/
def conversionVisitor : Declaration :=
  { conversion with methods := [acceptMatcher] }

def conversionSnapshot : Snapshot :=
  { (default : Snapshot) with interfaces := [conversionCases] }

def conversionForm :
    VisitorForm conversion.parameterNames "R" conversionModel.cases cycled
      conversionVisitor conversionSnapshot where
  matcher := acceptMatcher
  parameter := casesParameter
  interface := conversionCases
  names_eq := rfl
  matcher_eq := rfl
  generic := by decide
  result_eq := rfl
  parameters_eq := rfl
  type_eq := rfl
  inScope := rfl
  typeParams_eq := rfl
  lists := .cons ⟨rfl, rfl, rfl, rfl⟩ (.cons ⟨rfl, rfl, rfl, rfl⟩ .nil)

theorem toDataType_visitorForm_conversion :
    conversion.toDataType default = .ok conversionModel ∧
      conversionModel.encoding = .lambdas ∧
      conversion.declaredCases default = .ok conversionModel.cases ∧
      Set.InjOn cycled {name | name ∈ conversion.parameterNames ++ ["R"]} ∧
      ∃ visited, conversionVisitor.toDataType conversionSnapshot = .ok visited ∧
        visited.encoding = .visitor "ConversionCases" "cases" ∧
        visited.typeParams = conversionModel.typeParams ∧
        visited.resultVar = conversionModel.resultVar ∧
        visited.constructors.map Constructor.unplaced =
          conversionModel.constructors.map Constructor.unplaced := by
  have injective : Set.InjOn cycled {name | name ∈ conversion.parameterNames ++ ["R"]} := by
    change ∀ left ∈ ["S", "T", "V", "R"], ∀ right ∈ ["S", "T", "V", "R"],
      cycled left = cycled right → left = right
    decide
  have built : conversion.toDataType default = .ok conversionModel := rfl
  have lists : conversion.declaredCases default = .ok conversionModel.cases := rfl
  exact ⟨built, rfl, lists, injective,
    toDataType_visitorForm built rfl lists injective conversionForm⟩

end Declaration

end DataDerive
