import DataDerive.Json.Writer
import DataDerive.Proofs.Replacement
import DataDerive.Proofs.TypeExpr.Acceptance
import DataDerive.Snapshot.Loading

/-!
# Loaded snapshots are well scoped

The types of a snapshot are read with the type parameters around them as
variables.  So no other variable occurs in a type that was read, and a type
parameter is never taken for a constructor.  Each element is loaded with a scope
of its own: a field of a provider has none, a static method its own type
parameters, and a method those of its owner as well.

Every span is checked on the way, one that is missing in the document stands for
no place and needs no check.
-/

namespace DataDerive

/-! ## Scopes of types -/

namespace TypeExpr

mutual

/-- Every occurrence of a constructor without arguments. -/
def atomOccurrences : TypeExpr → List String
  | .var _ => []
  | .con name [] => [name]
  | .con _ (first :: rest) => atomOccurrences first ++ atomOccurrencesAll rest
  | .arrow parameters result => atomOccurrencesAll parameters ++ atomOccurrences result

/-- Every occurrence of a constructor without arguments in a list of types. -/
def atomOccurrencesAll : List TypeExpr → List String
  | [] => []
  | type :: rest => atomOccurrences type ++ atomOccurrencesAll rest

end

theorem atomOccurrencesAll_eq_flatMap (types : List TypeExpr) :
    atomOccurrencesAll types = types.flatMap atomOccurrences := by
  induction types with
  | nil => rfl
  | cons type rest ih => rw [atomOccurrencesAll, ih, List.flatMap_cons]

/-- The variables of a type are in scope, and nothing in scope stands for a constructor. -/
structure ScopedBy (scope : List String) (type : TypeExpr) : Prop where
  free : ∀ name ∈ type.freeVars, name ∈ scope
  atoms : ∀ name ∈ scope, name ∉ type.atomOccurrences

variable {scope : List String} {type : TypeExpr}

theorem Written.scopedBy (written : Written scope type) : type.ScopedBy scope := by
  induction written with
  | var isPath inScope =>
      refine ⟨?_, fun _ _ => by simp [atomOccurrences]⟩
      simpa using inScope
  | @atom name isPath outside =>
      refine ⟨by simp, ?_⟩
      rintro other inScope listed
      rw [atomOccurrences, List.mem_singleton] at listed
      exact outside (listed ▸ inScope)
  | @applied name first rest isPath arguments ih =>
      refine ⟨fun x occurs => ?_, fun x inScope listed => ?_⟩
      · rw [mem_freeVars, variableOccurrences_con, List.mem_flatMap] at occurs
        rcases occurs with ⟨argument, among, occurs⟩
        exact (ih argument among).free x (mem_freeVars.mpr occurs)
      · rw [atomOccurrences, atomOccurrencesAll_eq_flatMap, ← List.flatMap_cons,
          List.mem_flatMap] at listed
        rcases listed with ⟨argument, among, listed⟩
        exact (ih argument among).atoms x inScope listed
  | @arrow parameters result inputs output ih ihResult =>
      refine ⟨fun x occurs => ?_, fun x inScope listed => ?_⟩
      · rw [mem_freeVars, variableOccurrences_arrow, List.mem_append, List.mem_flatMap] at occurs
        rcases occurs with ⟨parameter, among, occurs⟩ | occurs
        · exact (ih parameter among).free x (mem_freeVars.mpr occurs)
        · exact ihResult.free x (mem_freeVars.mpr occurs)
      · rw [atomOccurrences, atomOccurrencesAll_eq_flatMap, List.mem_append,
          List.mem_flatMap] at listed
        rcases listed with ⟨parameter, among, listed⟩ | listed
        · exact (ih parameter among).atoms x inScope listed
        · exact ihResult.atoms x inScope listed

end TypeExpr

/-! ## Spans and scopes of the elements -/

/-- A span that does not end before it starts. -/
def Span.Ordered (span : Span) : Prop :=
  span.start ≤ span.stop

/-- The spans of a method. -/
def Method.spans (method : Method) : List Span :=
  method.span :: (method.typeParams.map Named.span ++ method.parameters.map Parameter.span)

/-- The types of a method have the type parameters of its owner and its own in scope. -/
def Method.WellScoped (outer : List String) (method : Method) : Prop :=
  ∀ type ∈ method.parameters.map Parameter.type ++ [method.result],
    type.ScopedBy (outer ++ method.typeParams.map Named.name)

/-- The spans of a static member. -/
def StaticMember.spans : StaticMember → List Span
  | .field _ span _ => [span]
  | .method _ span typeParams _ _ => span :: typeParams.map Named.span

/-- A static field has no variable, and the types of a static method have its own in scope. -/
def StaticMember.WellScoped : StaticMember → Prop
  | .field _ _ type => type.freeVars = []
  | .method _ _ typeParams parameters result =>
      ∀ type ∈ parameters ++ [result], type.ScopedBy (typeParams.map Named.name)

/-- The spans of an annotation. -/
def Request.spans (request : Request) : List Span :=
  request.span :: (request.derive.getD [] ++ request.instances).map Named.span

/-- The spans of a declaration. -/
def Declaration.spans (declaration : Declaration) : List Span :=
  declaration.span :: (declaration.typeParams.map Named.span ++ declaration.request.spans ++
    declaration.methods.flatMap Method.spans ++ declaration.statics.flatMap StaticMember.spans)

/-- The spans of an interface. -/
def Interface.spans (interface : Interface) : List Span :=
  interface.span :: (interface.typeParams.map Named.span ++
    interface.methods.flatMap Method.spans)

/-- The spans of a provider. -/
def Provider.spans (provider : Provider) : List Span :=
  provider.span :: provider.members.flatMap StaticMember.spans

namespace Snapshot

/-- All static members, those of declarations and those of providers. -/
def statics (snapshot : Snapshot) : List StaticMember :=
  snapshot.declarations.flatMap Declaration.statics ++ snapshot.providers.flatMap Provider.members

/-- Every span of a snapshot. -/
def spans (snapshot : Snapshot) : List Span :=
  snapshot.declarations.flatMap Declaration.spans ++
    snapshot.interfaces.flatMap Interface.spans ++ snapshot.providers.flatMap Provider.spans

/-- Types mention what is in scope, and spans do not end before they start. -/
structure WellScoped (snapshot : Snapshot) : Prop where
  statics : ∀ member ∈ snapshot.statics, member.WellScoped
  declarations : ∀ declaration ∈ snapshot.declarations, ∀ method ∈ declaration.methods,
    method.WellScoped (declaration.typeParams.map Named.name)
  interfaces : ∀ interface ∈ snapshot.interfaces, ∀ method ∈ interface.methods,
    method.WellScoped (interface.typeParams.map Named.name)
  spans : ∀ span ∈ snapshot.spans, span.Ordered

end Snapshot

/-! ## What is loaded -/

namespace Loading

open TypeExpr

theorem checkSpan_eq_ok_iff {owner : String} {span : Span} :
    checkSpan owner span = .ok () ↔ span.Ordered := by
  rw [checkSpan]
  split
  next ordered => exact iff_of_true rfl ordered
  next disordered => exact iff_of_false nofun disordered

theorem ordered_of_checkAll {items : List Named} (checked : checkAll items = .ok ()) :
    ∀ span ∈ items.map Named.span, span.Ordered := by
  rw [List.forall_mem_map]
  intro item listed
  exact checkSpan_eq_ok_iff.mp (Except.forM_eq_ok_iff.mp checked item listed)

theorem scopedBy_of_type
    {scope : List String}
    {text : String}
    {read : TypeExpr}
    (loads : type scope text = .ok read) :
    read.ScopedBy scope := by
  rw [type, Except.mapError_eq_ok_iff, read_eq_ok_iff] at loads
  rcases loads with ⟨rest, reads, -⟩
  exact (written_of_readAt reads).scopedBy

/-- A parameter, as it is loaded in a scope. -/
theorem parameter_spec
    {scope : List String}
    {source : Parameter String}
    {loaded : Parameter}
    (loads : parameter scope source = .ok loaded) :
    loaded.span.Ordered ∧ loaded.type.ScopedBy scope := by
  rw [parameter, Except.check_bind_eq_ok_iff, Except.bind_eq_ok_iff] at loads
  rcases loads with ⟨checked, read, reads, same⟩
  cases same
  exact ⟨checkSpan_eq_ok_iff.mp checked, scopedBy_of_type reads⟩

theorem method_spec
    {outer : List String}
    {source : Method String}
    {loaded : Method}
    (loads : method outer source = .ok loaded) :
    (∀ span ∈ loaded.spans, span.Ordered) ∧ loaded.WellScoped outer := by
  rw [method, Except.check_bind_eq_ok_iff] at loads
  rcases loads with ⟨typeParams, loads⟩
  rcases Except.bind_eq_ok_iff.mp loads with ⟨parameters, parametersLoad, loads⟩
  rw [Except.check_bind_eq_ok_iff, Except.bind_eq_ok_iff] at loads
  rcases loads with ⟨checked, result, reads, same⟩
  cases same
  have ofParameter := Except.forall_of_mapM parametersLoad fun _ _ => parameter_spec
  constructor
  · refine List.forall_mem_cons.mpr ⟨checkSpan_eq_ok_iff.mp checked, ?_⟩
    refine List.forall_mem_append.mpr ⟨ordered_of_checkAll typeParams, ?_⟩
    exact List.forall_mem_map.mpr fun loaded listed => (ofParameter loaded listed).1
  · refine List.forall_mem_append.mpr ⟨?_, List.forall_mem_singleton.mpr ?_⟩
    · exact List.forall_mem_map.mpr fun loaded listed => (ofParameter loaded listed).2
    · exact scopedBy_of_type reads

theorem member_spec {source : StaticMember String} {loaded : StaticMember}
    (loads : member source = .ok loaded) :
    (∀ span ∈ loaded.spans, span.Ordered) ∧ loaded.WellScoped := by
  cases source with
  | field name span text =>
      rw [member, Except.check_bind_eq_ok_iff, Except.bind_eq_ok_iff] at loads
      rcases loads with ⟨checked, read, reads, same⟩
      cases same
      refine ⟨List.forall_mem_singleton.mpr (checkSpan_eq_ok_iff.mp checked), ?_⟩
      refine List.eq_nil_iff_forall_not_mem.mpr fun name occurs => ?_
      exact List.not_mem_nil ((scopedBy_of_type reads).free name occurs)
  | method name span typeParams parameterTexts resultText =>
      rw [member, Except.check_bind_eq_ok_iff, Except.check_bind_eq_ok_iff] at loads
      rcases loads with ⟨typeParamsChecked, checked, loads⟩
      rcases Except.bind_eq_ok_iff.mp loads with ⟨parameters, parametersRead, loads⟩
      rcases Except.bind_eq_ok_iff.mp loads with ⟨result, resultRead, same⟩
      cases same
      constructor
      · exact List.forall_mem_cons.mpr
          ⟨checkSpan_eq_ok_iff.mp checked, ordered_of_checkAll typeParamsChecked⟩
      · refine List.forall_mem_append.mpr ⟨?_, ?_⟩
        · exact Except.forall_of_mapM parametersRead fun _ _ => scopedBy_of_type
        · exact List.forall_mem_singleton.mpr (scopedBy_of_type resultRead)

/-- What is loaded of a declaration has the scopes and spans of its elements. -/
theorem declaration_spec {source : Declaration String} {loaded : Declaration}
    (loads : declaration source = .ok loaded) :
    (∀ span ∈ loaded.spans, span.Ordered) ∧
      (∀ method ∈ loaded.methods, method.WellScoped (loaded.typeParams.map Named.name)) ∧
      ∀ member ∈ loaded.statics, member.WellScoped := by
  rw [declaration, Except.check_bind_eq_ok_iff, Except.check_bind_eq_ok_iff,
    Except.check_bind_eq_ok_iff] at loads
  rcases loads with ⟨typeParams, derive, checked, loads⟩
  rcases Except.bind_eq_ok_iff.mp loads with ⟨methods, methodsLoad, loads⟩
  rw [Except.check_bind_eq_ok_iff, Except.check_bind_eq_ok_iff, Except.bind_eq_ok_iff] at loads
  rcases loads with ⟨asked, instances, statics, staticsLoad, same⟩
  cases same
  have ofMethod := Except.forall_of_mapM methodsLoad fun _ _ => method_spec
  have ofMember := Except.forall_of_mapM staticsLoad fun _ _ => member_spec
  refine ⟨?_, fun loaded listed => (ofMethod loaded listed).2,
    fun loaded listed => (ofMember loaded listed).2⟩
  simp only [Declaration.spans, Request.spans, List.map_append, List.forall_mem_cons,
    List.forall_mem_append, List.forall_mem_flatMap]
  exact ⟨checkSpan_eq_ok_iff.mp checked,
    ⟨⟨ordered_of_checkAll typeParams, checkSpan_eq_ok_iff.mp asked,
      ordered_of_checkAll derive, ordered_of_checkAll instances⟩,
      fun loaded listed => (ofMethod loaded listed).1⟩,
    fun loaded listed => (ofMember loaded listed).1⟩

theorem interface_spec {source : Interface String} {loaded : Interface}
    (loads : interface source = .ok loaded) :
    (∀ span ∈ loaded.spans, span.Ordered) ∧
      ∀ method ∈ loaded.methods, method.WellScoped (loaded.typeParams.map Named.name) := by
  rw [interface, Except.check_bind_eq_ok_iff, Except.check_bind_eq_ok_iff,
    Except.bind_eq_ok_iff] at loads
  rcases loads with ⟨typeParams, checked, methods, methodsLoad, same⟩
  cases same
  have ofMethod := Except.forall_of_mapM methodsLoad fun _ _ => method_spec
  refine ⟨?_, fun loaded listed => (ofMethod loaded listed).2⟩
  simp only [Interface.spans, List.forall_mem_cons, List.forall_mem_append,
    List.forall_mem_flatMap]
  exact ⟨checkSpan_eq_ok_iff.mp checked, ordered_of_checkAll typeParams,
    fun loaded listed => (ofMethod loaded listed).1⟩

theorem provider_spec {source : Provider String} {loaded : Provider}
    (loads : provider source = .ok loaded) :
    (∀ span ∈ loaded.spans, span.Ordered) ∧ ∀ member ∈ loaded.members, member.WellScoped := by
  rw [provider, Except.check_bind_eq_ok_iff, Except.bind_eq_ok_iff] at loads
  rcases loads with ⟨checked, members, membersLoad, same⟩
  cases same
  have ofMember := Except.forall_of_mapM membersLoad fun _ _ => member_spec
  refine ⟨?_, fun loaded listed => (ofMember loaded listed).2⟩
  simp only [Provider.spans, List.forall_mem_cons, List.forall_mem_flatMap]
  exact ⟨checkSpan_eq_ok_iff.mp checked, fun loaded listed => (ofMember loaded listed).1⟩

theorem snapshot_spec {source : Snapshot String} {loaded : Snapshot}
    (loads : snapshot source = .ok loaded) : loaded.WellScoped := by
  rcases Except.bind_eq_ok_iff.mp loads with ⟨declarations, declarationsLoad, loads⟩
  rcases Except.bind_eq_ok_iff.mp loads with ⟨interfaces, interfacesLoad, loads⟩
  rcases Except.bind_eq_ok_iff.mp loads with ⟨providers, providersLoad, same⟩
  cases same
  have ofDeclaration := Except.forall_of_mapM declarationsLoad fun _ _ => declaration_spec
  have ofInterface := Except.forall_of_mapM interfacesLoad fun _ _ => interface_spec
  have ofProvider := Except.forall_of_mapM providersLoad fun _ _ => provider_spec
  refine ⟨?_, fun loaded listed => (ofDeclaration loaded listed).2.1,
    fun loaded listed => (ofInterface loaded listed).2, ?_⟩
  · simp only [Snapshot.statics, List.forall_mem_append, List.forall_mem_flatMap]
    exact ⟨fun loaded listed => (ofDeclaration loaded listed).2.2,
      fun loaded listed => (ofProvider loaded listed).2⟩
  · simp only [Snapshot.spans, List.forall_mem_append, List.forall_mem_flatMap]
    exact ⟨⟨fun loaded listed => (ofDeclaration loaded listed).1,
      fun loaded listed => (ofInterface loaded listed).1⟩,
      fun loaded listed => (ofProvider loaded listed).1⟩

end Loading

/--
In every snapshot that is loaded, fields have no variables, types mention only
the type parameters around them and take none of these for a constructor, and
no span ends before it starts.
-/
theorem Snapshot.wellScoped_of_load {text : String} {snapshot : Snapshot}
    (loads : Snapshot.load text = .ok snapshot) : snapshot.WellScoped := by
  rw [Snapshot.load] at loads
  split at loads
  next => exact Loading.snapshot_spec loads
  next => cases loads

/-- A document in which a type parameter is bound by several elements and applied once. -/
def handlerDocument : Json :=
  .object [
    ("declarations", .array [.object [
      ("name", .string "Handler"),
      ("span", .array [.nat 1, .nat 8]),
      ("type_params", .array [.string "T"]),
      ("methods", .array [.object [
        ("name", .string "match"),
        ("type_params", .array [.string "R"]),
        ("params", .array [.object [
          ("name", .string "cases"),
          ("span", .array [.nat 17, .nat 22]),
          ("type", .string "HandlerCases<T, R>")]]),
        ("returns", .string "R")]]),
      ("statics", .array [.object [
        ("kind", .string "method"),
        ("name", .string "handler_eq"),
        ("type_params", .array [.string "T"]),
        ("params", .array [.string "Eq<T>"]),
        ("returns", .string "Eq<Handler<T>>")]])]]),
    ("interfaces", .array [.object [
      ("name", .string "HandlerCases"),
      ("type_params", .array [.string "A", .string "X"]),
      ("methods", .array [.object [
        ("name", .string "Parse"),
        ("type_params", .array [.object [
          ("name", .string "T"),
          ("span", .array [.nat 61, .nat 62])]]),
        ("params", .array [.object [
          ("name", .string "parse"),
          ("type", .string "fn(T<A>) -> T")]]),
        ("returns", .string "X")]])]]),
    ("providers", .array [.object [
      ("name", .string "Instances"),
      ("members", .array [.object [
        ("kind", .string "field"),
        ("name", .string "int_eq"),
        ("type", .string "Eq<i32>")]])]])]

/-- What is loaded from the document. -/
def handlerSnapshot : Snapshot where
  path := none
  source := none
  declarations := [{
    name := "Handler"
    span := ⟨1, 8⟩
    typeParams := [⟨"T", .absent⟩]
    request := ⟨.absent, none, []⟩
    methods := [{
      name := "match"
      span := .absent
      typeParams := [⟨"R", .absent⟩]
      parameters :=
        [⟨"cases", ⟨17, 22⟩, .con "HandlerCases" [.var "T", .var "R"], []⟩]
      result := .var "R"
      isAbstract := true }]
    statics := [.method "handler_eq" .absent [⟨"T", .absent⟩] [.con "Eq" [.var "T"]]
      (.con "Eq" [.con "Handler" [.var "T"]])] }]
  interfaces := [{
    name := "HandlerCases"
    span := .absent
    typeParams := [⟨"A", .absent⟩, ⟨"X", .absent⟩]
    methods := [{
      name := "Parse"
      span := .absent
      typeParams := [⟨"T", ⟨61, 62⟩⟩]
      parameters := [⟨"parse", .absent, .arrow [.con "T" [.var "A"]] (.var "T"), []⟩]
      result := .var "X"
      isAbstract := true }] }]
  providers := [⟨"Instances", .absent, [.field "int_eq" .absent (.con "Eq" [.atom "i32"])]⟩]
  lowPriority := []

theorem Snapshot.wellScoped_of_load_handler :
    Snapshot.load handlerDocument.write = .ok handlerSnapshot ∧ handlerSnapshot.WellScoped := by
  have loads : Snapshot.load handlerDocument.write = .ok handlerSnapshot := by
    rw [Snapshot.load, Json.read, Json.write, String.toList_ofList]
    decide +kernel
  exact ⟨loads, Snapshot.wellScoped_of_load loads⟩

end DataDerive
