import CaseGraphen.ControlPlaneDelegation

/-!
# Crashes while the state is persisted

The state is written into a temporary file with the process id in its name, a file that must
not exist yet, and renamed over the state file. A crash leaves the state file as it was or as
it should become, and may leave the temporary file, which no later call removes.
-/

namespace CaseGraphen

open Checked Json Text Std OrderedMap Prog

/-! ## Persisting, file by file -/

/-- The directory of the state file, with the temporary file of each process id. -/
structure StateDirectory where
  file : Option Bytes
  temporary : Nat → Option Bytes

def StateDirectory.withTemporary (directory : StateDirectory) (processId : Nat)
    (content : Option Bytes) : StateDirectory :=
  { directory with
    temporary := fun id => if id = processId then content else directory.temporary id }

def StateDirectory.rename (directory : StateDirectory) (processId : Nat) : StateDirectory :=
  { directory.withTemporary processId none with file := directory.temporary processId }

inductive PersistAction where
  | createDirectory
  | createTemporary
  | writeTemporary
  | renameTemporary
  | removeTemporary
  | syncDirectory
deriving DecidableEq

/-- How a file operation goes; a write that fails may have written a part. -/
inductive FileOutcome where
  | done
  | failed (error : String) (written : Nat)

def FileOutcome.result : FileOutcome → Except String Unit
  | done => .ok ()
  | failed error _ => .error error

/-- What an operation does where it does not fail. -/
def FileOutcome.unlessFailed (outcome : FileOutcome) (effect : StateDirectory → StateDirectory)
    (directory : StateDirectory) : StateDirectory :=
  match outcome with
  | done => effect directory
  | failed _ _ => directory

abbrev PersistCall : Type :=
  Task PersistAction FileOutcome StateDirectory String Unit

def fileExists : String := "File exists (os error 17)"

def createTemporary (processId : Nat) : PersistCall :=
  action .createTemporary
    (fun outcome directory =>
      if (directory.temporary processId).isSome then directory
      else outcome.unlessFailed (·.withTemporary processId (some [])) directory)
    fun outcome directory =>
      if (directory.temporary processId).isSome then .error fileExists else outcome.result

def writeTemporary (processId : Nat) (bytes : Bytes) : PersistCall :=
  action .writeTemporary
    (fun outcome directory =>
      match outcome with
      | .done => directory.withTemporary processId (some bytes)
      | .failed _ written => directory.withTemporary processId (some (bytes.take written)))
    fun outcome _ => outcome.result

def renameTemporary (processId : Nat) : PersistCall :=
  action .renameTemporary
    (fun outcome directory => outcome.unlessFailed (·.rename processId) directory)
    fun outcome _ => outcome.result

/-- An error of the removal is passed over. -/
def removeTemporary (processId : Nat) : PersistCall :=
  action .removeTemporary
    (fun outcome directory =>
      outcome.unlessFailed (·.withTemporary processId none) directory)
    fun _ _ => .ok ()

def persistInDirectory (env : Environment) (processId : Nat) (state : ControlPlaneState) :
    PersistCall := do
  action .createDirectory (fun _ directory => directory) fun outcome _ => outcome.result
  createTemporary processId
  rollingBack
    (do
      writeTemporary processId (stateBytes env state)
      renameTemporary processId)
    fun _ => removeTemporary processId
  action .syncDirectory (fun _ directory => directory) fun outcome _ => outcome.result

/-- How a persist call goes where no file operation fails of itself. -/
def persistOutcome (directory : StateDirectory) (processId : Nat) : PersistOutcome :=
  if (directory.temporary processId).isSome then .failed fileExists false else .stored

section Persist

variable {env : Environment} {processId : Nat} {state : ControlPlaneState}

/-- Undisturbed, the call does what it is taken for as one action: it stores the state, and
leaves no temporary file, or it finds one and changes nothing. -/
theorem exec_persistInDirectory (directory : StateDirectory) :
    exec (fun _ => .done) (persistInDirectory env processId state).run directory =
      match persistOutcome directory processId with
      | .failed error _ => (.error error, directory)
      | .stored => (.ok (), ⟨some (stateBytes env state), directory.temporary⟩) := by
  unfold persistInDirectory persistOutcome
  cases htemporary : directory.temporary processId with
  | some bytes => simp [createTemporary, FileOutcome.result, htemporary]
  | none =>
      simp [createTemporary, writeTemporary, renameTemporary, FileOutcome.result,
        FileOutcome.unlessFailed, StateDirectory.rename, StateDirectory.withTemporary, htemporary]
      funext id
      by_cases hid : id = processId
      · rw [if_pos hid, hid, htemporary]
      · simp [hid]

/-- What a call that is stopped leaves of the state file. -/
def LeftBy (env : Environment) (state : ControlPlaneState)
    (before directory : StateDirectory) : Prop :=
  directory.file = before.file ∨ directory.file = some (stateBytes env state)

variable {before directory : StateDirectory}

/-- An action of a persist call, where nothing is asked of its error. -/
theorem LeftBy.action {label : PersistAction}
    {effect : FileOutcome → StateDirectory → StateDirectory}
    {respond : FileOutcome → StateDirectory → Except String Unit}
    {ok : Unit → StateDirectory → Prop} (h : LeftBy env state before directory)
    (heffect : ∀ outcome, LeftBy env state before (effect outcome directory))
    (hok : ∀ outcome, respond outcome directory = .ok () → ok () (effect outcome directory)) :
    SafeTask (fun _ _ => True) (LeftBy env state before) ok (fun _ _ => True)
      (Prog.action label effect respond) directory := by
  refine ⟨h, fun outcome _ => ⟨heffect outcome, ?_⟩⟩
  cases hresult : respond outcome directory with
  | error error => trivial
  | ok a => exact hok outcome hresult

theorem persistInDirectory_safe (before : StateDirectory) :
    SafeTask (fun _ _ => True) (LeftBy env state before) (fun _ _ => True)
      (fun _ _ => True) (persistInDirectory env processId state) before := by
  have hstart : LeftBy env state before before := .inl rfl
  refine SafeTask.bind (fun _ _ => True)
    (hstart.action (fun _ => hstart) fun _ _ => trivial) fun _ directory h _ => ?_
  refine SafeTask.bind (fun _ _ => True) (h.action ?_ fun _ _ => trivial)
    fun _ directory h _ => ?_
  · intro outcome
    split
    · exact h
    · cases outcome <;> exact h
  refine SafeTask.bind (fun _ _ => True) ?_ fun _ directory h _ =>
    h.action (fun _ => h) fun _ _ => trivial
  refine SafeTask.bind (fun _ _ => True)
    (SafeTask.attempt (fun _ _ => True) (fun _ _ => True) ?_ fun _ _ _ _ => trivial)
    fun result directory h _ => ?_
  · refine SafeTask.bind
      (fun _ directory => directory.temporary processId = some (stateBytes env state))
      (h.action ?_ ?_) fun _ directory h hwritten => h.action ?_ fun _ _ => trivial
    · intro outcome
      cases outcome <;> exact h
    · intro outcome hresult
      cases outcome with
      | done => exact if_pos rfl
      | failed error written => cases hresult
    -- what is renamed was written whole
    · intro outcome
      cases outcome with
      | done => exact .inr hwritten
      | failed error written => exact h
  · cases result with
    | ok a => exact .pure h trivial
    | error error =>
        refine SafeTask.bind (fun _ _ => True) (h.action ?_ fun _ _ => trivial)
          fun _ directory h _ => .throw h trivial
        intro outcome
        cases outcome <;> exact h

end Persist

/-! ## The host that is started after the crash -/

section Recovery

variable (env : Environment) (overflowChecks : Bool)

/-- The surroundings of a call of a process while no file operation fails of itself. The
persist calls of one call all find the same temporary files. -/
def undisturbed (directory : StateDirectory) (processId : Nat)
    (answer : Except ControlPlaneRefusal Value) : ControlPlaneAction → ControlPlaneOutcome :=
  fun _ => ⟨persistOutcome directory processId, answer⟩

/-- The request is given to the delegate, and its answer is acknowledged and stored. -/
def Acknowledges (state : ControlPlaneState) (directory : StateDirectory) (processId : Nat)
    (request : ControlPlaneRequest) : Prop :=
  ∀ (delegated : List Delegation) (answer : Except ControlPlaneRefusal Value),
    ∃ (state' : ControlPlaneState) (response : ControlPlaneResponse),
      exec (undisturbed directory processId answer)
          (state.executeDurable env overflowChecks request) ⟨directory.file, delegated⟩ =
        (some (state', .delegated response),
          ⟨some (stateBytes env state'), delegated ++ [⟨request, answer⟩]⟩)

/-- What a crash left is loaded, as the state before the persist call or the one after it, and
the next request is answered. -/
def Recovers (before : StateDirectory) (persisted : ControlPlaneState)
    (directory : StateDirectory) (processId : Nat) (request : ControlPlaneRequest) : Prop :=
  ∃ loaded, loadDurable env directory.file = .ok loaded ∧
    (loadDurable env before.file = .ok loaded ∨
      loadDurable env (some (stateBytes env persisted)) = .ok loaded) ∧
    Acknowledges env overflowChecks loaded directory processId request

variable {env overflowChecks} {state : ControlPlaneState} {directory : StateDirectory}
  {processId : Nat} {request : ControlPlaneRequest}

theorem not_acknowledges_of_leftover (fresh : FreshRequest state request)
    (hleftover : directory.temporary processId ≠ none) :
    ¬ Acknowledges env overflowChecks state directory processId request := by
  intro h
  obtain ⟨state', response, hexec⟩ := h [] (.error (protocolRefusal "" ""))
  have hunwritten : (undisturbed directory processId (.error (protocolRefusal "" ""))
      .writeAhead).persisted = .failed fileExists false :=
    if_pos (Option.isSome_iff_ne_none.mpr hleftover)
  obtain ⟨reply, world', ⟨_, _, _, rfl⟩, hrefused⟩ :=
    exec_executeDurable_unwritten fresh hunwritten
  rw [hrefused] at hexec
  cases hexec

theorem acknowledges_iff (fresh : FreshRequest state request)
    (delegable : undelegable request = none) :
    Acknowledges env overflowChecks state directory processId request ↔
      directory.temporary processId = none ∧
        increment overflowChecks state.nextSequence ≠ none := by
  constructor
  · intro h
    have hnone : directory.temporary processId = none :=
      Classical.byContradiction fun hleftover => not_acknowledges_of_leftover fresh hleftover h
    refine ⟨hnone, fun hoverflow => ?_⟩
    obtain ⟨state', response, hexec⟩ := h [] (.error (protocolRefusal "" ""))
    rw [exec_executeDurable_panicked fresh delegable hoverflow ?_] at hexec
    · cases hexec
    · exact if_neg (by rw [hnone]; decide)
  · rintro ⟨hnone, hnumbered⟩ delegated answer
    obtain ⟨sequence, hsequence⟩ := Option.ne_none_iff_exists'.mp hnumbered
    have hstored : persistOutcome directory processId = .stored :=
      if_neg (by rw [hnone]; decide)
    exact ⟨_, _, exec_executeDurable_acknowledged fresh delegable hsequence hstored hstored⟩

/-- After a crash in a persist call a fresh request is answered exactly when the process id of
the restarted host has no temporary file, the state can be loaded and its counter incremented. -/
theorem crash_recovered_iff (before : StateDirectory) (persisted : ControlPlaneState)
    (plan : PersistAction → FileOutcome) (n : Nat) (crashed restarted : Nat)
    (hbefore : ∃ loaded, loadDurable env before.file = .ok loaded) (hdirectory : directory =
      (after plan n (persistInDirectory env crashed persisted).run before).2)
    (hfresh : ∀ loaded, loadDurable env directory.file = .ok loaded →
      FreshRequest loaded request) (hdelegable : undelegable request = none) :
    Recovers env overflowChecks before persisted directory restarted request ↔
      directory.temporary restarted = none ∧
      (directory.file ≠ before.file →
        ∃ loaded, loadDurable env (some (stateBytes env persisted)) = .ok loaded) ∧
      ∀ loaded, loadDurable env directory.file = .ok loaded →
        increment overflowChecks loaded.nextSequence ≠ none := by
  have hleft : LeftBy env persisted before directory :=
    hdirectory ▸ (Safe.after (persistInDirectory_safe before) (fun _ => trivial) n).holds
  constructor
  · rintro ⟨loaded, hloaded, -, hacknowledges⟩
    obtain ⟨hnone, hnumbered⟩ :=
      (acknowledges_iff (hfresh loaded hloaded) hdelegable).mp hacknowledges
    refine ⟨hnone, fun hchanged => ?_, fun other hother => ?_⟩
    · have hfile := hleft.resolve_left hchanged
      exact ⟨loaded, hfile ▸ hloaded⟩
    · obtain rfl := Except.ok.inj (hloaded.symm.trans hother)
      exact hnumbered
  · rintro ⟨hnone, hreadable, hnumbered⟩
    have hloads : ∃ loaded, loadDurable env directory.file = .ok loaded ∧
        (loadDurable env before.file = .ok loaded ∨
          loadDurable env (some (stateBytes env persisted)) = .ok loaded) := by
      by_cases hsame : directory.file = before.file
      · obtain ⟨loaded, hloaded⟩ := hbefore
        exact ⟨loaded, hsame ▸ hloaded, .inl hloaded⟩
      · obtain ⟨loaded, hloaded⟩ := hreadable hsame
        exact ⟨loaded, hleft.resolve_left hsame ▸ hloaded, .inr hloaded⟩
    obtain ⟨loaded, hloaded, hor⟩ := hloads
    exact ⟨loaded, hloaded, hor, (acknowledges_iff (hfresh loaded hloaded) hdelegable).mpr
      ⟨hnone, hnumbered loaded hloaded⟩⟩

end Recovery

/-! ## A leftover -/

def emptyDirectory : StateDirectory := ⟨none, fun _ => none⟩

/-- The first write-ahead of process 7, stopped when its temporary file exists. -/
def stoppedDirectory : StateDirectory :=
  (after (fun _ => .done) 2 (persistInDirectory .standard 7
    (ControlPlaneState.new.mark .standard (lintRequest "request:1" "key:1"))).run
    emptyDirectory).2

theorem freshRequest_stopped (loaded : ControlPlaneState)
    (h : loadDurable .standard stoppedDirectory.file = .ok loaded) :
    FreshRequest loaded (lintRequest "request:2" "key:2") := by
  obtain rfl : ControlPlaneState.new = loaded := Except.ok.inj h
  exact freshRequest_new _

theorem other_process_recovers :
    Recovers .standard true emptyDirectory
      (ControlPlaneState.new.mark .standard (lintRequest "request:1" "key:1")) stoppedDirectory 8
      (lintRequest "request:2" "key:2") := by
  refine (crash_recovered_iff emptyDirectory _ _ 2 7 8 ⟨.new, rfl⟩ rfl freshRequest_stopped
    (by decide)).mpr ⟨rfl, fun hchanged => absurd rfl hchanged, fun loaded h => ?_⟩
  obtain rfl : ControlPlaneState.new = loaded := Except.ok.inj h
  decide

/-- The process id is given again, and nothing is delegated any more. -/
theorem leftover_temporary_wedges :
    ¬ Recovers .standard true emptyDirectory
      (ControlPlaneState.new.mark .standard (lintRequest "request:1" "key:1")) stoppedDirectory 7
      (lintRequest "request:2" "key:2") := by
  rintro ⟨loaded, hloaded, -, hacknowledges⟩
  exact not_acknowledges_of_leftover (freshRequest_stopped loaded hloaded)
    (Option.some_ne_none []) hacknowledges

end CaseGraphen
