import MediaPipeline.Proofs.Pipeline.Order
import MediaPipeline.Proofs.Text.Utf8
import MediaPipeline.Proofs.Workspace.Runs

/-!
Runs of a pipeline. What executes a command line is a parameter, in any monad, and `logged` notes
the command lines it is given, so that a run can be seen to make one call or none. What the process
printed comes back as bytes, and a failure reports them as text: bytes that encode a text as that
text, and all others as `Utf8.Reads` has it.
-/

namespace MediaPipeline

variable {m : Type → Type} [Monad m]

/-- Notes each command line and executes it. -/
def logged {α : Type} (execute : String → m α) (command : String) : StateT (List String) m α := do
  modify (· ++ [command])
  execute command

theorem run_logged [LawfulMonad m] {α : Type} (execute : String → m α) (command : String)
    (log : List String) :
    (logged execute command).run log = (fun a => (a, log ++ [command])) <$> execute command := by
  simp [logged]

namespace Pipeline

/-- The handle is of an output that is there. -/
def HasOutput (p : Pipeline) (root : Handle) : Prop :=
  ∃ n, p.get? root = some (.output n)

variable {p : Pipeline} {root : Handle} {execute : String → m (Except IoFailure ProcessOutput)}

theorem command_of_hasOutput (h : p.HasOutput root) :
    p.command root = .ok (compile p.nodes p.config.program) :=
  let ⟨_, hn⟩ := h
  command_of_output hn

theorem command_of_not_hasOutput (h : ¬ p.HasOutput root) :
    p.command root = .error .missingOutputRoot := by
  unfold command
  split
  next n hn => exact absurd ⟨n, hn⟩ h
  next => rfl

theorem run_of_not_hasOutput [LawfulMonad m] (h : ¬ p.HasOutput root) (log : List String) :
    (p.run (logged execute) root).run log = pure (.error .missingOutputRoot, log) := by
  rw [Pipeline.run, command_of_not_hasOutput h]
  rfl

theorem run_of_hasOutput [LawfulMonad m] (h : p.HasOutput root) (log : List String) :
    (p.run (logged execute) root).run log =
      (fun ended => (p.outcome ended, log ++ [compile p.nodes p.config.program])) <$>
        execute (compile p.nodes p.config.program) := by
  rw [Pipeline.run, command_of_hasOutput h]
  simp only [StateT.run_map, run_logged, Functor.map_map]

/-- What a failure reports of the bytes that a process printed. -/
theorem outcome_of_failure {o : ProcessOutput} (h : o.success = false)
    {out err : List (Option Char)} (hout : Utf8.Reads o.stdout out)
    (herr : Utf8.Reads o.stderr err) :
    p.outcome (.ok o) = .error
      (.processFailure p.config.program o.code (Utf8.marked out) (Utf8.marked err)) := by
  rw [outcome, h, ProcessOutput.stdoutText, ProcessOutput.stderrText, Utf8.decodeLossy_eq hout,
    Utf8.decodeLossy_eq herr]
  rfl

end Pipeline

/-- A run through anything but an output of the pipeline fails and executes nothing. Through an
output it executes one command line, the same for all outputs, and passes on what comes of that: the
reason why there is no process, what a successful process printed, or a failure with the program,
the code and the two texts that were printed. The texts are what the bytes read as, whatever the
bytes are, and bytes that encode texts read as these. The pipeline stays as it is. -/
theorem run_protocol [LawfulMonad m] (p : Pipeline)
    (execute : String → m (Except IoFailure ProcessOutput)) :
    (∀ root log, ¬ p.HasOutput root →
      (p.run (logged execute) root).run log = pure (.error .missingOutputRoot, log)) ∧
    (∃ command, ∀ root, p.HasOutput root → p.command root = .ok command ∧
      ∀ log, (p.run (logged execute) root).run log =
        (fun ended => (p.outcome ended, log ++ [command])) <$> execute command) ∧
    (∀ failure, p.outcome (.error failure) = .error (.io failure)) ∧
    (∀ o : ProcessOutput, o.success = true → p.outcome (.ok o) = .ok o) ∧
    (∀ o : ProcessOutput, o.success = false →
      ∃ out err, Utf8.Reads o.stdout out ∧ Utf8.Reads o.stderr err ∧
        p.outcome (.ok o) = .error
          (.processFailure p.config.program o.code (Utf8.marked out) (Utf8.marked err))) ∧
    (∀ (o : ProcessOutput) (t u : String), o.stdout = t.toUTF8.data.toList →
      o.stderr = u.toUTF8.data.toList → o.combined = (t ++ u).toUTF8.data.toList ∧
        (o.success = false →
          p.outcome (.ok o) = .error (.processFailure p.config.program o.code t u))) ∧
    ∀ (w : Workspace) (k : Nat) (root : Handle)
      (execute : String → Except IoFailure ProcessOutput), w.pipelines[k]? = some p →
      w.step (.query k (.run root execute)) =
        (.answered (some (.output (Id.run (p.run execute root)))), w) := by
  refine ⟨fun root log h => Pipeline.run_of_not_hasOutput h log,
    ⟨compile p.nodes p.config.program, fun root h => ⟨Pipeline.command_of_hasOutput h,
      fun log => Pipeline.run_of_hasOutput h log⟩⟩,
    fun failure => rfl, fun o h => by rw [Pipeline.outcome, if_pos h], fun o h => ?_,
    fun o t u hout herr => ⟨?_, fun h => ?_⟩, fun w k root execute hp => ?_⟩
  · -- The scanner reads any bytes.
    have hout := (Utf8.reads_scan o.stdout).1
    have herr := (Utf8.reads_scan o.stderr).1
    exact ⟨_, _, hout, herr, Pipeline.outcome_of_failure h hout herr⟩
  · rw [ProcessOutput.combined, hout, herr, String.toUTF8, String.toUTF8, String.toUTF8,
      String.toByteArray_append, ByteArray.data_append, Array.toList_append]
  · rw [Pipeline.outcome_of_failure h (hout ▸ Utf8.reads_toUTF8 t) (herr ▸ Utf8.reads_toUTF8 u),
      Utf8.marked_map_some, Utf8.marked_map_some]
  · simp only [Workspace.step, Workspace.ask, hp, Option.map_some, Query.answer]

/-- What is left of a process that printed in both streams and failed. -/
def failedProcess : ProcessOutput :=
  ⟨"Größe".toUTF8.data.toList, "1 → 0".toUTF8.data.toList, some 69, false⟩

theorem run_protocol_mappedPipeline :
    let execute : String → Id (Except IoFailure ProcessOutput) := fun _ => .ok failedProcess
    (mappedPipeline.run (logged execute) ⟨0, 1, .filter⟩).run [] =
      (.error .missingOutputRoot, []) ∧
    ∃ command, mappedPipeline.command ⟨0, 2, .output⟩ = .ok command ∧
      (mappedPipeline.run (logged execute) ⟨0, 2, .output⟩).run [] =
        (.error (.processFailure "ffmpeg" (some 69) "Größe" "1 → 0"), [command]) := by
  intro execute
  obtain ⟨hother, ⟨command, hcommand⟩, -, -, -, htexts, -⟩ := run_protocol mappedPipeline execute
  have hroot : mappedPipeline.HasOutput ⟨0, 2, .output⟩ :=
    ⟨⟨"out.mp4", [⟨"tbhpd"⟩, ⟨"0:a"⟩]⟩, by decide +kernel⟩
  have hfilter : ¬ mappedPipeline.HasOutput ⟨0, 1, .filter⟩ := by
    rintro ⟨n, hn⟩
    obtain ⟨-, -, hkind⟩ := Pipeline.get?_eq_some_iff.mp hn
    cases hkind
  obtain ⟨hok, hrun⟩ := hcommand _ hroot
  refine ⟨hother _ [] hfilter, command, hok, (hrun []).trans ?_⟩
  exact congrArg (·, [command]) ((htexts failedProcess _ _ rfl rfl).2 rfl)

end MediaPipeline
