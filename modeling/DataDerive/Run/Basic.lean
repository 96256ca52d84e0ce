import DataDerive.ClassInstance.Derive
import DataDerive.Code.Module
import DataDerive.Derive.Generate
import DataDerive.Model.Builder
import DataDerive.Run.Configuration

/-!
# Running over a snapshot

Each declaration is worked on by itself: its derivations are looked up, its data
type is built, and the code and the instances it asks for make one module.  The
first message of fatal severity ends the work on that declaration only; the
others go on.
-/

namespace DataDerive

/-- The module generated for a declaration. -/
structure GeneratedModule where
  /-- The name of the generated type. -/
  typeName : String
  /-- The name of its file, without the extension. -/
  fileStem : String
  text : String
  deriving Repr, DecidableEq

namespace Declaration

/-- The message that a declaration asks for a derivation that does not exist. -/
def unknownDerivation (declaration : Declaration) (item : Named) : Message :=
  let known := ", ".intercalate (Derivation.all.map Derivation.word)
  .at_ .unknownDerivation
    s!"unknown derivation `{item.name}` on `{declaration.name}` (known: {known})"
    (.value declaration.name declaration.request.span item.span)

/-- The derivation that an item of the annotation asks for. -/
def derivationOf (declaration : Declaration) (item : Named) : Derived Derivation :=
  match Derivation.ofWord? item.name with
  | some derivation => .ok derivation
  | none => .error (declaration.unknownDerivation item)

/-- The derivations of a declaration: those it lists, or `standard` if it lists none. -/
def derivations
    (declaration : Declaration)
    (standard : List Derivation) : Derived (List Derivation) :=
  match declaration.request.derive with
  | some items => items.mapM declaration.derivationOf
  | none => .ok standard

/-- The module of a declaration, and the notes and warnings on it. -/
def derive
    (declaration : Declaration)
    (snapshot : Snapshot)
    (standard : List Derivation)
    (registry : GeneratorRegistry) : Derived (GeneratedModule × List Message) := do
  let derivations ← declaration.derivations standard
  let data ← declaration.toDataType snapshot
  let code ← data.generate declaration.request.span derivations
  let instances ← data.deriveInstances declaration snapshot registry
  let unit := code.append instances
  return (⟨data.typeName, data.snake, unit.moduleText data.name⟩, unit.notes ++ unit.warnings)

end Declaration

/-- What a run produced, in the order of the declarations. -/
structure Run where
  /-- The modules of the declarations that succeeded. -/
  modules : List GeneratedModule
  /-- The message of each declaration that failed, and the notes and warnings of the others. -/
  messages : List Message
  deriving Repr, DecidableEq

namespace Run

/-- A run over no declaration. -/
def empty : Run := ⟨[], []⟩

/-- A run that goes on with the outcome of a declaration. -/
def add (run : Run) : Derived (GeneratedModule × List Message) → Run
  | .ok (module, messages) => ⟨run.modules ++ [module], run.messages ++ messages⟩
  | .error message => { run with messages := run.messages ++ [message] }

/-- Whether the work on a declaration failed. -/
def hasErrors (run : Run) : Bool :=
  run.messages.any Message.isFatal

/-- All modules as one text, with an empty line between them. -/
def text (run : Run) : String :=
  "\n".intercalate (run.modules.map GeneratedModule.text)

end Run

/-- Work on every declaration of a snapshot. -/
def Snapshot.run
    (snapshot : Snapshot)
    (standard : List Derivation)
    (registry : GeneratorRegistry) : Run :=
  snapshot.declarations.foldl
    (fun run declaration => run.add (declaration.derive snapshot standard registry)) .empty

end DataDerive
