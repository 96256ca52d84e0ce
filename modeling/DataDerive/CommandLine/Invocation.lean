import DataDerive.CommandLine.Usage
import DataDerive.Run.Configuration
import DataDerive.Text.Basic

/-!
# Invocations

The arguments of a command: one path, at most one directory that counts, and
settings of the configuration.  A setting is an argument with an equals sign
whose part before the first one names what is set.
-/

namespace DataDerive

/-- A choice for the configuration. -/
inductive Setting where
  | format (format : ReportFormat)
  | color (mode : ColorMode)
  | errorLimit (limit : Nat)
  | derivations (derivations : List Derivation)
  deriving Repr, DecidableEq

namespace Setting

/-- A word looked up, or the fault that it is unknown. -/
def lookUp {α : Type} (found : Option α) (fault : UsageFault) : Except UsageFault α :=
  match found with
  | some value => .ok value
  | none => .error fault

/-- The derivation with a name. -/
def derivation (word : String) : Except UsageFault Derivation :=
  lookUp (Derivation.ofWord? word) (.unknownDerivation word)

/-- The setting with a name and a value; nothing if there is no such setting. -/
def ofNameAndValue (name value : String) : Except UsageFault (Option Setting) :=
  match name with
  | "--format" => do
      return some (.format (← lookUp (ReportFormat.ofWord? value) (.unknownFormat value)))
  | "--color" => do
      return some (.color (← lookUp (ColorMode.ofWord? value) (.unknownColor value)))
  | "--error-limit" => do
      return some (.errorLimit (← lookUp (Text.numberBelow? UInt64.size value) (.notNumber value)))
  | "--derive" => do
      return some (.derivations (← (Text.nonemptyParts ',' value).mapM derivation))
  | _ => .ok none

/-- The setting that an argument spells; nothing if it is no setting. -/
def ofArgument (argument : String) : Except UsageFault (Option Setting) :=
  match Text.splitOnce? '=' argument with
  | some (name, value) => ofNameAndValue name value
  | none => .ok none

end Setting

/-- The configuration after a choice. -/
def Configuration.set (configuration : Configuration) : Setting → Configuration
  | .format format => { configuration with format }
  | .color color => { configuration with color }
  | .errorLimit errors => { configuration with limits := { configuration.limits with errors } }
  | .derivations derivations => { configuration with derivations }

/-- What a command is to do. -/
structure Invocation where
  /-- The path of the snapshot. -/
  snapshot : String
  /-- The directory that the modules are written to. -/
  directory : Option String
  configuration : Configuration
  deriving Repr, DecidableEq

namespace Invocation

/-- What is known after some of the arguments. -/
structure Draft where
  snapshot : Option String
  directory : Option String
  configuration : Configuration

/-- Nothing is known before the first argument. -/
def Draft.start : Draft := ⟨none, none, .standard⟩

/-- Take an argument that is not about the directory. -/
def Draft.take (known : Draft) (argument : String) : Except UsageFault Draft := do
  match ← Setting.ofArgument argument with
  | some setting => return { known with configuration := known.configuration.set setting }
  | none =>
      if argument.toList.head? = some '-' then
        throw (.unknownOption argument)
      else if known.snapshot.isSome then
        throw (.unexpectedArgument argument)
      else
        return { known with snapshot := some argument }

/-- Take the remaining arguments in their order. -/
def Draft.takeAll (known : Draft) : List String → Except UsageFault Draft
  | [] => .ok known
  | ["-o"] => .error .missingDirectory
  | "-o" :: directory :: rest => takeAll { known with directory := some directory } rest
  | argument :: rest => do
      let known ← known.take argument
      known.takeAll rest

/-- The invocation with some arguments.  The first fault is the answer. -/
def ofArguments (arguments : List String) : Except UsageFault Invocation := do
  let known ← Draft.start.takeAll arguments
  match known.snapshot with
  | some snapshot => return ⟨snapshot, known.directory, known.configuration⟩
  | none => throw .missingSnapshot

end Invocation

end DataDerive
