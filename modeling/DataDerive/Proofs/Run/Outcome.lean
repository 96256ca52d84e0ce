import DataDerive.CommandLine.Response
import DataDerive.Proofs.Diagnostic.Queue
import DataDerive.Proofs.Run.Severity
import DataDerive.Run.Report

/-!
# What a run comes to

Each declaration of a snapshot adds its own outcome to the run: a module and
messages that are not fatal, or one message that is.  The report counts an error
exactly if some message is fatal.  So the counts tell whether every declaration
gave its module, whatever the limits of the report are.
-/

namespace DataDerive

namespace Run

/-- The module of an outcome, if there is one. -/
def moduleOf : Derived (GeneratedModule × List Message) → Option GeneratedModule
  | .ok (module, _) => some module
  | .error _ => none

/-- The messages of an outcome. -/
def messagesOf : Derived (GeneratedModule × List Message) → List Message
  | .ok (_, messages) => messages
  | .error message => [message]

/-- An outcome has a module without fatal messages, or it is one fatal message. -/
def Settled (outcome : Derived (GeneratedModule × List Message)) : Prop :=
  (∃ module messages, outcome = .ok (module, messages) ∧
    ∀ message ∈ messages, message.isFatal = false) ∨
  (∃ message, outcome = .error message ∧ message.isFatal = true)

variable {outcome : Derived (GeneratedModule × List Message)}

/-! ## One declaration -/

/-- No message of a settled outcome is fatal exactly if it has a module. -/
theorem Settled.isFatal_eq_false_iff (settled : Settled outcome) :
    (∀ message ∈ messagesOf outcome, message.isFatal = false) ↔ (moduleOf outcome).isSome := by
  rcases settled with ⟨module, messages, rfl, mild⟩ | ⟨message, rfl, fatal⟩
  · exact iff_of_true mild rfl
  · refine iff_of_false (fun mild => ?_) Bool.false_ne_true
    have same := (mild message (List.mem_singleton_self message)).symm.trans fatal
    exact Bool.false_ne_true same

theorem settled_derive
    (declaration : Declaration)
    (snapshot : Snapshot)
    (standard : List Derivation)
    (registry : GeneratorRegistry) :
    Settled (declaration.derive snapshot standard registry) := by
  have fails : EndsFatally (declaration.derive snapshot standard registry) :=
    (declaration.endsFatally_derivations standard).bind fun derivations =>
      (declaration.endsFatally_toDataType snapshot).bind fun data =>
        (data.endsFatally_generate declaration.request.span derivations).bind fun code =>
          (data.endsFatally_deriveInstances declaration snapshot registry).bind fun instances =>
            Derived.failsOnlyWith_ok _
  rcases ends : declaration.derive snapshot standard registry with message | ⟨module, messages⟩
  · exact .inr ⟨message, rfl, fails message ends⟩
  · obtain ⟨derivations, -, data, -, code, generated, instances, derived, same⟩ := by
      simpa only [Declaration.derive, Derived.bind_eq_ok_iff] using ends
    cases same
    have graded := (DataType.graded_of_generate generated).append
      (DataType.graded_of_deriveInstances derived)
    exact .inl ⟨_, _, rfl, fun message => graded.isFatal_eq_false⟩

theorem modules_add (run : Run) (outcome : Derived (GeneratedModule × List Message)) :
    (run.add outcome).modules = run.modules ++ (moduleOf outcome).toList := by
  rcases outcome with message | ⟨module, messages⟩
  · exact (List.append_nil _).symm
  · rfl

theorem messages_add (run : Run) (outcome : Derived (GeneratedModule × List Message)) :
    (run.add outcome).messages = run.messages ++ messagesOf outcome := by
  rcases outcome with message | ⟨module, messages⟩ <;> rfl

/-! ## All declarations -/

section Declarations

variable (outcomeOf : Declaration → Derived (GeneratedModule × List Message))

/-- Add the outcomes of declarations to a run. -/
def addAll (run : Run) (declarations : List Declaration) : Run :=
  declarations.foldl (fun run declaration => run.add (outcomeOf declaration)) run

theorem modules_addAll (run : Run) (declarations : List Declaration) :
    (run.addAll outcomeOf declarations).modules =
      run.modules ++ declarations.filterMap fun declaration =>
        moduleOf (outcomeOf declaration) := by
  induction declarations generalizing run with
  | nil => exact (List.append_nil _).symm
  | cons first rest ih =>
      change ((run.add (outcomeOf first)).addAll outcomeOf rest).modules = _
      rw [ih, modules_add, List.append_assoc, List.filterMap_cons]
      cases moduleOf (outcomeOf first) <;> rfl

theorem messages_addAll (run : Run) (declarations : List Declaration) :
    (run.addAll outcomeOf declarations).messages =
      run.messages ++ declarations.flatMap fun declaration =>
        messagesOf (outcomeOf declaration) := by
  induction declarations generalizing run with
  | nil => exact (List.append_nil _).symm
  | cons first rest ih =>
      change ((run.add (outcomeOf first)).addAll outcomeOf rest).messages = _
      rw [ih, messages_add, List.flatMap_cons, List.append_assoc]

end Declarations

end Run

namespace Snapshot

open Run

variable (snapshot : Snapshot) (standard : List Derivation) (registry : GeneratorRegistry)

theorem run_eq :
    snapshot.run standard registry =
      Run.empty.addAll (fun declaration => declaration.derive snapshot standard registry)
        snapshot.declarations :=
  rfl

theorem modules_run :
    (snapshot.run standard registry).modules =
      snapshot.declarations.filterMap fun declaration =>
        moduleOf (declaration.derive snapshot standard registry) := by
  rw [run_eq, modules_addAll]
  rfl

theorem messages_run :
    (snapshot.run standard registry).messages =
      snapshot.declarations.flatMap fun declaration =>
        messagesOf (declaration.derive snapshot standard registry) := by
  rw [run_eq, messages_addAll]
  rfl

/-- No message of a run is fatal exactly if there are as many modules as declarations. -/
theorem isFatal_eq_false_iff_length_modules :
    (∀ message ∈ (snapshot.run standard registry).messages, message.isFatal = false) ↔
      (snapshot.run standard registry).modules.length = snapshot.declarations.length := by
  rw [messages_run, modules_run, List.forall_mem_flatMap, List.length_filterMap_eq_countP,
    List.countP_eq_length]
  refine forall₂_congr fun declaration _ => ?_
  exact (settled_derive declaration snapshot standard registry).isFatal_eq_false_iff

/--
Each declaration of a run gives its module, with messages that are not fatal, or
one fatal message.  The report counts no errors, and the status says success,
exactly if every declaration gave its module: neither the limit of errors nor
leaving out repetitions hides a failure, and no note or warning makes one.
-/
theorem run_succeeds_iff
    (snapshot : Snapshot)
    (configuration : Configuration)
    (registry : GeneratorRegistry)
    (terminal : Bool)
    (source : Option Source) :
    let outcome (declaration : Declaration) :=
      declaration.derive snapshot configuration.derivations registry
    let run := snapshot.run configuration.derivations registry
    let errors := (RunReport.ofMessages configuration terminal source run.messages).counts.errors
    run.modules = snapshot.declarations.filterMap (fun declaration =>
        moduleOf (outcome declaration)) ∧
      run.messages = snapshot.declarations.flatMap (fun declaration =>
        messagesOf (outcome declaration)) ∧
      (∀ declaration ∈ snapshot.declarations, Settled (outcome declaration)) ∧
      (errors = 0 ↔ run.modules.length = snapshot.declarations.length) ∧
      ((ExitStatus.ofErrors errors).number = 0 ↔
        run.modules.length = snapshot.declarations.length) := by
  intro outcome run errors
  have counted : errors = 0 ↔ run.modules.length = snapshot.declarations.length := by
    change (DiagnosticQueue.addAll _ _).errorCount = 0 ↔ _
    rw [DiagnosticQueue.errorCount_addAll_empty_eq_zero_iff, List.forall_mem_map]
    exact snapshot.isFatal_eq_false_iff_length_modules configuration.derivations registry
  have status : (ExitStatus.ofErrors errors).number = 0 ↔ errors = 0 := by
    rw [ExitStatus.ofErrors]
    split
    next none => exact iff_of_true rfl none
    next some => exact iff_of_false Nat.one_ne_zero some
  exact ⟨snapshot.modules_run _ registry, snapshot.messages_run _ registry,
    fun declaration _ => settled_derive declaration snapshot _ registry, counted,
    status.trans counted⟩

end Snapshot

end DataDerive
