import DataDerive.CommandLine.Command

/-!
# The program

Carries out on the disk what a command does, and prints its response.
-/

namespace DataDerive

/-- The fault behind an error of the system. -/
def FileFault.ofError : IO.Error → FileFault
  | .alreadyExists _ number text
  | .invalidArgument _ number text
  | .permissionDenied _ number text
  | .resourceExhausted _ number text
  | .inappropriateType _ number text
  | .noSuchThing _ number text
  | .interrupted _ number text
  | .otherError number text
  | .resourceBusy number text
  | .resourceVanished number text
  | .unsupportedOperation number text
  | .hardwareFault number text
  | .unsatisfiedConstraints number text
  | .illegalOperation number text
  | .protocolError number text
  | .timeExpired number text => ⟨text, some number.toNat⟩
  | .noFileOrDirectory _ _ _ => notFound
  | .unexpectedEof => ⟨"unexpected end of file", none⟩
  | .userError text => ⟨text, none⟩

/-- An access to the disk with its outcome. -/
def FileFault.catching {α : Type} (access : IO α) : IO (FileOutcome α) := do
  return (← access.toBaseIO).mapError ofError

/-- The text of a file on the disk. -/
def readTextFile (path : String) : IO (FileOutcome String) := do
  let bytes ← FileFault.catching (IO.FS.readBinFile path)
  return bytes.bind fun bytes =>
    match String.fromUTF8? bytes with
    | some text => .ok text
    | none => .error .notText

/-- The directories on the way along a path, the path itself last. -/
def directoriesAlong (before : List Char) : List Char → List String
  | [] => if before.isEmpty then [] else [String.ofList before]
  | c :: rest =>
      let cut := c = '/' && !before.isEmpty
      (if cut then [String.ofList before] else []) ++ directoriesAlong (before ++ [c]) rest

/-- Whether there is a directory at a path on the disk. -/
def isDirectoryOnDisk (path : String) : IO Bool := do
  match ← FileFault.catching (IO.FS.realPath path) with
  | .ok place => place.isDir
  | .error _ => return false

/-- Make directories on the disk one after the other, unless they are there. -/
def makeDirectories : List String → IO (FileOutcome Unit)
  | [] => return .ok ()
  | path :: rest => do
      match ← FileFault.catching (IO.FS.createDir path) with
      | .ok () => makeDirectories rest
      | .error fault =>
          if ← isDirectoryOnDisk path then
            makeDirectories rest
          else if fault = .alreadyExists && !rest.isEmpty then
            return .error .notDirectory
          else
            return .error fault

/-- Carry out a program on the disk. -/
def FileProgram.carryOut : FileProgram → IO Response
  | .finish response => return response
  | .readText path next => do
      (next (← readTextFile path)).carryOut
  | .makeDirectory path next => do
      (next (← makeDirectories (directoriesAlong [] path.toList))).carryOut
  | .writeText path text next => do
      let written ← FileFault.catching (IO.FS.writeFile path text)
      (next written).carryOut

end DataDerive

open DataDerive in
/-- Do what the arguments ask for. -/
def main (arguments : List String) : IO UInt32 := do
  let errors ← IO.getStderr
  let program := (Command.ofArguments arguments).program (← errors.isTty)
  let response ← program.carryOut
  IO.print response.output
  errors.putStr response.errors
  return UInt32.ofNat response.status.number
