import DataDerive.CommandLine.Response

/-!
# Programs that access files

What a command does is a tree: each node is one access to a file, and its
branches go on with each outcome of the access.  The tree says nothing about
where the files are, so the same program runs on a disk and on a tree of files
in memory.
-/

namespace DataDerive

/-- Why an access to a file failed, in the words of the system. -/
structure FileFault where
  text : String
  /-- The number of the system for the fault, if the fault is the system's. -/
  number : Option Nat
  deriving Repr, DecidableEq

namespace FileFault

/-- The fault with its number. -/
def reason (fault : FileFault) : String :=
  match fault.number with
  | some number => s!"{fault.text} (os error {number})"
  | none => fault.text

/-- There is no such path. -/
def notFound : FileFault := ⟨"No such file or directory", some 2⟩

/-- There is a file where a directory was to be made. -/
def alreadyExists : FileFault := ⟨"File exists", some 17⟩

/-- A path leads through a file. -/
def notDirectory : FileFault := ⟨"Not a directory", some 20⟩

/-- There is a directory where a file is needed. -/
def isDirectory : FileFault := ⟨"Is a directory", some 21⟩

/-- A name on a path is longer than names can be. -/
def nameTooLong : FileFault := ⟨"File name too long", some 36⟩

/-- A file is no text. -/
def notText : FileFault := ⟨"stream did not contain valid UTF-8", none⟩

end FileFault

/-- The outcome of an access to a file. -/
abbrev FileOutcome : Type → Type := Except FileFault

/-- What a command does. -/
inductive FileProgram where
  /-- End with a response. -/
  | finish (response : Response)
  /-- Read the text of a file. -/
  | readText (path : String) (next : FileOutcome String → FileProgram)
  /-- Make a directory and the directories above it, unless they are there. -/
  | makeDirectory (path : String) (next : FileOutcome Unit → FileProgram)
  /-- Write a text as the whole of a file. -/
  | writeText (path text : String) (next : FileOutcome Unit → FileProgram)

end DataDerive
