import DataDerive.Json.Reader
import DataDerive.Snapshot.Document
import DataDerive.TypeExpr.Reader

/-!
# Loading snapshots

After a document is decoded its spans are checked and its types are read.  The
variables of a type are the type parameters around it: those of the declaration
or interface together with those of the method, only its own for a static
method, and none for a static field.

Elements are gone through in a fixed order, and the first fault is the answer.
-/

namespace DataDerive

/-- Why a snapshot cannot be loaded. -/
inductive LoadFault where
  /-- The text is no document of the expected form. -/
  | document
  /-- A span ends before it starts. -/
  | span (owner : String) (span : Span)
  /-- A text is not a type. -/
  | type (error : TypeExpr.SyntaxError)
  deriving Repr, DecidableEq

/-- What is wrong with a span. -/
def LoadFault.spanMessage (owner : String) (span : Span) : String :=
  s!"invalid span [{span.start}, {span.stop}] on `{owner}`"

/-- What a load fault says. -/
def LoadFault.message : LoadFault → String
  | .document => "malformed snapshot: the text is no snapshot document"
  | .span owner place => spanMessage owner place
  | .type error => error.message

/-- The outcome of loading. -/
abbrev Loaded : Type → Type := Except LoadFault

namespace Loading

/-- Refuse a span that ends before it starts. -/
def checkSpan (owner : String) (span : Span) : Loaded Unit :=
  if span.start ≤ span.stop then .ok () else .error (.span owner span)

/-- Check the span of a named item. -/
def checkNamed (item : Named) : Loaded Unit :=
  checkSpan item.name item.span

/-- Check the spans of named items. -/
def checkAll (items : List Named) : Loaded Unit :=
  items.forM checkNamed

/-- Read a type with its variables. -/
def type (scope : List String) (text : String) : Loaded TypeExpr :=
  (TypeExpr.read scope text).mapError .type

/-- Read the type of a parameter. -/
def parameter (scope : List String) (source : Parameter String) : Loaded Parameter := do
  checkSpan source.name source.span
  return { source with type := ← type scope source.type }

/-- Read the types of a method inside the type parameters `outer`. -/
def method (outer : List String) (source : Method String) : Loaded Method := do
  checkAll source.typeParams
  let scope := outer ++ source.typeParams.map Named.name
  let parameters ← source.parameters.mapM (parameter scope)
  checkSpan source.name source.span
  return { source with parameters, result := ← type scope source.result }

/-- Read the types of a static member. -/
def member : StaticMember String → Loaded StaticMember
  | .field name span text => do
      checkSpan name span
      return .field name span (← type [] text)
  | .method name span typeParams parameters result => do
      checkAll typeParams
      let scope := typeParams.map Named.name
      checkSpan name span
      return .method name span typeParams (← parameters.mapM (type scope)) (← type scope result)

/-- Read the types of a declaration. -/
def declaration (source : Declaration String) : Loaded Declaration := do
  checkAll source.typeParams
  checkAll (source.request.derive.getD [])
  checkSpan source.name source.span
  let methods ← source.methods.mapM (method source.parameterNames)
  checkSpan source.name source.request.span
  checkAll source.request.instances
  return { source with methods, statics := ← source.statics.mapM member }

/-- Read the types of an interface. -/
def interface (source : Interface String) : Loaded Interface := do
  checkAll source.typeParams
  checkSpan source.name source.span
  let scope := source.typeParams.map Named.name
  return { source with methods := ← source.methods.mapM (method scope) }

/-- Read the types of a provider. -/
def provider (source : Provider String) : Loaded Provider := do
  checkSpan source.name source.span
  return { source with members := ← source.members.mapM member }

/-- Read the types of a snapshot. -/
def snapshot (source : Snapshot String) : Loaded Snapshot := do
  let declarations ← source.declarations.mapM declaration
  let interfaces ← source.interfaces.mapM interface
  let providers ← source.providers.mapM provider
  return { source with declarations, interfaces, providers }

end Loading

/-- Load a snapshot from the text of its document. -/
def Snapshot.load (text : String) : Loaded Snapshot :=
  match (Json.read text).bind Document.snapshot with
  | some source => Loading.snapshot source
  | none => .error .document

/-- Name the place of a snapshot that names none itself. -/
def Snapshot.withPath (snapshot : Snapshot) (path : String) : Snapshot :=
  { snapshot with path := some (snapshot.path.getD path) }

end DataDerive
