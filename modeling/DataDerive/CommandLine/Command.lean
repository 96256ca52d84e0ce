import DataDerive.CommandLine.FileProgram
import DataDerive.CommandLine.Invocation
import DataDerive.Run.Basic
import DataDerive.Run.Report
import DataDerive.Snapshot.Loading

/-!
# Commands

The first argument chooses a command, and the command decides what the others
mean.  Generating writes the modules before it reports, and modules of other
declarations are written even if some declaration failed.  Checking runs the
same work and writes nothing.
-/

namespace DataDerive

/-- What the program is asked to do. -/
inductive Command where
  /-- Say how the program is used. -/
  | help
  | version
  /-- Explain a code. -/
  | explain (text : String)
  /-- Generate the modules of a snapshot. -/
  | generate (invocation : Invocation)
  /-- Work on a snapshot without writing anything. -/
  | check (invocation : Invocation)
  /-- There are no arguments after the name of a command; `usage` says which it needs. -/
  | incomplete (usage : List String)
  /-- The arguments of a command are refused. -/
  | refused (fault : UsageFault)
  /-- There is no command with this name. -/
  | unknown (word : String)
  deriving DecidableEq

namespace Command

/-- A command that needs an invocation. -/
def invoking
    (command : Invocation → Command)
    (usage : List String)
    (arguments : List String) : Command :=
  if arguments.isEmpty then
    .incomplete usage
  else
    match Invocation.ofArguments arguments with
    | .ok invocation => command invocation
    | .error fault => .refused fault

/-- The command with a name and the arguments after it. -/
def ofWord (word : String) (arguments : List String) : Command :=
  if word ∈ ["generate", "gen"] then
    invoking .generate Usage.generate arguments
  else if word = "check" then
    invoking .check Usage.check arguments
  else if word ∈ ["--explain", "explain"] then
    match arguments with
    | text :: _ => .explain text
    | [] => .incomplete Usage.explain
  else if word ∈ ["help", "--help", "-h"] then
    .help
  else if word ∈ ["version", "--version", "-V"] then
    .version
  else
    .unknown word

/-- The command that a command line asks for; without arguments it is the help. -/
def ofArguments : List String → Command
  | [] => .help
  | word :: arguments => ofWord word arguments

/-- The explanation of a code. -/
def explanation (text : String) : Response :=
  match Code.ofText? text with
  | some code => .printing [s!"{code.id} ({code.severity.word})", "", code.explanation]
  | none => .complaining (Usage.unknownCode text)

end Command

/-- A path inside a directory.  A path from the root stays as it is. -/
def pathInside (directory path : String) : String :=
  if path.startsWith "/" then
    path
  else if directory.isEmpty || directory.endsWith "/" then
    directory ++ path
  else
    directory ++ "/" ++ path

namespace GeneratedModule

/-- The path of the file of a module. -/
def path (module : GeneratedModule) (directory : String) : String :=
  pathInside directory (module.fileStem ++ ".rs")

end GeneratedModule

namespace FileProgram

/-- The end of a command that could not write. -/
def cannotWrite (path : String) (fault : FileFault) : FileProgram :=
  .finish (.fault s!"cannot write `{path}`: {fault.reason}")

/-- Write modules to a directory one after the other, and end with a response. -/
def writeModules (directory : String) (response : Response) : List GeneratedModule → FileProgram
  | [] => .finish response
  | module :: rest =>
      .writeText (module.path directory) module.text fun
        | .ok () => writeModules directory response rest
        | .error fault => cannotWrite (module.path directory) fault

/-- Read the snapshot of an invocation and go on with it. -/
def withSnapshot (invocation : Invocation) (next : Snapshot → FileProgram) : FileProgram :=
  .readText invocation.snapshot fun
    | .error fault =>
        .finish (.fault s!"cannot read `{invocation.snapshot}`: {fault.reason}")
    | .ok text =>
        match Snapshot.load text with
        | .error fault => .finish (.fault fault.message)
        | .ok snapshot => next (snapshot.withPath invocation.snapshot)

end FileProgram

namespace Invocation

/-- Run over a snapshot with every generator that there is. -/
def run (invocation : Invocation) (snapshot : Snapshot) : Run :=
  snapshot.run invocation.configuration.derivations .full

/-- The report on a run over a snapshot. -/
def report
    (invocation : Invocation)
    (terminal : Bool)
    (snapshot : Snapshot)
    (run : Run) : RunReport :=
  .ofMessages invocation.configuration terminal snapshot.sourceText? run.messages

/-- Generate the modules, to files if there is a directory and as the output otherwise. -/
def generate (invocation : Invocation) (terminal : Bool) : FileProgram :=
  .withSnapshot invocation fun snapshot =>
    let run := invocation.run snapshot
    let report := invocation.report terminal snapshot run
    let status := ExitStatus.ofErrors report.counts.errors
    match invocation.directory with
    | none => .finish ⟨status, run.text, report.text⟩
    | some directory =>
        .makeDirectory directory fun
          | .ok () => .writeModules directory ⟨status, "", report.text⟩ run.modules
          | .error fault => .cannotWrite directory fault

/-- The line that says that a snapshot has no errors. -/
def approval (invocation : Invocation) (snapshot : Snapshot) : String :=
  s!"OK: {invocation.snapshot} ({snapshot.declarations.length} declarations)"

/-- Run over a snapshot and write nothing. -/
def check (invocation : Invocation) (terminal : Bool) : FileProgram :=
  .withSnapshot invocation fun snapshot =>
    let report := invocation.report terminal snapshot (invocation.run snapshot)
    let status := ExitStatus.ofErrors report.counts.errors
    let lines := if status = .success then [invocation.approval snapshot] else []
    .finish ⟨status, Response.linesText lines, report.text⟩

end Invocation

/-- What a command does.  `terminal` is whether reports go to a terminal. -/
def Command.program (command : Command) (terminal : Bool) : FileProgram :=
  match command with
  | .help => .finish (.printing Usage.overview)
  | .version => .finish (.printing [Usage.version])
  | .explain text => .finish (explanation text)
  | .generate invocation => invocation.generate terminal
  | .check invocation => invocation.check terminal
  | .incomplete usage => .finish (.complaining usage)
  | .refused fault => .finish (.fault fault.message)
  | .unknown word =>
      .finish ⟨.failure, Response.linesText Usage.overview,
        Response.linesText (Usage.unknownCommand word)⟩

end DataDerive
