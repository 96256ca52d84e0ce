/-!
# Responses

What a command leaves behind when it ends: its status and what it said.
-/

namespace DataDerive

/-- How a command ended. -/
inductive ExitStatus where
  | success
  /-- Something was reported, or the command line was not understood. -/
  | failure
  /-- The work could not be done. -/
  | fault
  deriving Repr, DecidableEq, Inhabited

/-- The number of a status. -/
def ExitStatus.number : ExitStatus → Nat
  | .success => 0
  | .failure => 1
  | .fault => 2

/-- The status of a command that found errors or found none. -/
def ExitStatus.ofErrors (errors : Nat) : ExitStatus :=
  if errors = 0 then .success else .failure

/-- The end of a command. -/
structure Response where
  status : ExitStatus
  /-- What is printed as the result. -/
  output : String
  /-- What is printed about faults and findings. -/
  errors : String
  deriving Repr, DecidableEq, Inhabited

namespace Response

/-- Lines of text, each with its line feed. -/
def linesText (lines : List String) : String :=
  String.join (lines.map (· ++ "\n"))

/-- A success that prints lines. -/
def printing (lines : List String) : Response :=
  ⟨.success, linesText lines, ""⟩

/-- A failure that complains in lines. -/
def complaining (lines : List String) : Response :=
  ⟨.failure, "", linesText lines⟩

/-- The end of a command whose work could not be done. -/
def fault (message : String) : Response :=
  ⟨.fault, "", linesText ["error: " ++ message]⟩

end Response

end DataDerive
