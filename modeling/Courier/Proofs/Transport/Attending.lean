import Courier.Interpreter
import Courier.Proofs.Buffer.Reading

/-!
# Children that are read and waited for

* `attended` : the steps made on a child: it is read, its pipe is released, and it is waited for;
* `endingEvents`, `outputEvents` : what is reported of its end and of its output;
* `start_of_ok`, `start_of_error`, `drain_apply`, `wait_apply`, `reportEnding_apply` : the stages of a command;
* `run_of_child`, `run_of_error` : a command that was started, and one that could not be;
* `reply_is_output_and_child_is_reaped` : what a command comes to, and what is left of it.
-/

namespace Courier

variable {σ : Type}

/-- The steps made on a child, by what was read of it. -/
def attended (d : Drained) : List ProcessStep :=
  .started :: (d.reads.map fun r => .read r.1 r.2) ++ [.released, .waited]

/-- What is reported of the end of a command, where it did not succeed. -/
def endingEvents : Except IoFault ExitStatus → List Event
  | .ok (.exited 0) => []
  | .ok status => [.commandFailed status]
  | .error e => [.waitFailed e]

/-- What is reported of the output of a command, where it could be read. -/
def outputEvents : Reply → List Event
  | .ok b => [.commandOutput b.toList.length]
  | .error _ => []

namespace Interpreter

/-! ## The stages of a command -/

theorem note_apply (noted steps : List ProcessStep) (w : σ) :
    note noted (w, steps) = ⟨(w, steps ++ noted), [], some ()⟩ := rfl

section Start
variable {i : Interpreter} {spawn : Spawn σ} {command : String} {w w' : σ} {es : List Event}

theorem start_of_ok {child : Child} (h : spawn i.program [i.flag, command] w = ⟨w', es, some (.ok child)⟩)
    (steps : List ProcessStep) :
    i.start spawn command (w, steps) = ⟨(w', steps ++ [.started]), es, some (.ok child)⟩ := by
  unfold start
  rw [Act.bind_of_eq (Act.focus_beside h steps)]
  dsimp only
  rw [Act.bind_of_eq (note_apply _ _ _)]
  simp

theorem start_of_error {e : IoFault} (h : spawn i.program [i.flag, command] w = ⟨w', es, some (.error e)⟩)
    (steps : List ProcessStep) :
    i.start spawn command (w, steps) = ⟨(w', steps), es, some (.error e)⟩ := by
  unfold start
  rw [Act.bind_of_eq (Act.focus_beside h steps)]
  simp

end Start

theorem drain_apply (grants : Nat → Grant) (child : Child) (w : σ) (steps : List ProcessStep) :
    let d := readAll grants readFailure child.output
    drain grants child (w, steps) =
      ⟨(w, steps ++ (d.reads.map fun r => .read r.1 r.2) ++ [.released]), [], some d.reply⟩ := rfl

theorem wait_apply (child : Child) (w : σ) (steps : List ProcessStep) :
    wait child (w, steps) = ⟨(w, steps ++ [.waited]), [], some child.ending⟩ := rfl

theorem reportEnding_apply (ending : Except IoFault ExitStatus) (w : Attended σ) :
    reportEnding ending w = ⟨w, endingEvents ending, some ()⟩ := by
  unfold reportEnding endingEvents
  cases ending with
  | error e => rfl
  | ok status =>
    by_cases h : status = .exited 0
    · subst h
      rfl
    · have hs : status.success = false := by simp [ExitStatus.success, h]
      simp [hs]

/-! ## A command -/

section Run
variable {i : Interpreter} {spawn : Spawn σ} {command : String} {w w' : σ} {es : List Event}

theorem run_of_error {e : IoFault} (h : spawn i.program [i.flag, command] w = ⟨w', es, some (.error e)⟩)
    (grants : Nat → Grant) (steps : List ProcessStep) :
    i.run grants spawn command (w, steps) =
      ⟨(w', steps), .executing command :: es, some (.error (.subprocess (i.program ++ ": " ++ e.message)))⟩ := by
  unfold run
  rw [Act.bind_of_eq (Act.report_apply _ _), Act.bind_of_eq (start_of_error h steps)]
  simp

/-- A child is waited for on both ways out: where its output was read and where it could not be. -/
theorem run_of_child {child : Child} (h : spawn i.program [i.flag, command] w = ⟨w', es, some (.ok child)⟩)
    (grants : Nat → Grant) (steps : List ProcessStep) :
    let d := readAll grants readFailure child.output
    i.run grants spawn command (w, steps) =
      ⟨(w', steps ++ attended d), .executing command :: (es ++ (endingEvents child.ending ++ outputEvents d.reply)),
        some d.reply⟩ := by
  intro d
  unfold run
  rw [Act.bind_of_eq (Act.report_apply _ _), Act.bind_of_eq (start_of_ok h steps)]
  dsimp only
  rw [Act.bind_of_eq (drain_apply _ _ _ _), Act.bind_of_eq (wait_apply _ _ _),
    Act.bind_of_eq (reportEnding_apply _ _)]
  -- The steps are complete here: what is left looks at the reply.
  have hsteps : steps ++ [.started] ++ (d.reads.map fun r => .read r.1 r.2) ++ [.released] ++ [.waited] =
      steps ++ attended d := by
    simp [attended]
  rw [hsteps]
  cases hd : d.reply with
  | error f => simp [outputEvents, d]
  | ok b => simp [outputEvents, d, Act.bind_apply, Buffer.length_toList]

end Run

end Interpreter

/-- **The reply of a command is its output, and no child is left behind.** A command that cannot be started fails with
the interpreter's name and the fault, and nothing is read or waited for. Of any other the output is read to its end or
to a fault, the pipe is released and the child waited for, once and after the last read; the reply is what the reading
came to, however the child ended. An end that is no success is reported once, and the length of the output where there
is one. A runner does the same, and forgets the steps. -/
theorem reply_is_output_and_child_is_reaped (i : Interpreter) (grants : Nat → Grant) (spawn : Spawn σ)
    (command : String) (w w' : σ) (es : List Event) (steps : List ProcessStep) :
    let classify : IoFault → Failure := fun e => .subprocess ("reading command output: " ++ e.message)
    let r := i.run grants spawn command (w, steps)
    (∀ e, spawn i.program [i.flag, command] w = ⟨w', es, some (.error e)⟩ →
      r = ⟨(w', steps), .executing command :: es, some (.error (.subprocess (i.program ++ ": " ++ e.message)))⟩) ∧
    (∀ child, spawn i.program [i.flag, command] w = ⟨w', es, some (.ok child)⟩ →
      let d := readAll grants classify child.output
      r.value = some d.reply ∧
      r.world = (w', steps ++ (.started :: (d.reads.map fun x => .read x.1 x.2) ++ [.released, .waited])) ∧
      r.events = .executing command :: (es ++ (endingEvents child.ending ++ outputEvents d.reply)) ∧
      (∀ slack : Nat → Nat, grants = (fun n => .granted (slack n)) → d.reply.map Buffer.toList =
        match child.output.ending with
        | none => .ok child.output.delivered
        | some e => .error (classify e)) ∧
      ∀ (other : Spawn σ) ending w₂ es₂,
        other i.program [i.flag, command] w = ⟨w₂, es₂, some (.ok ⟨child.output, ending⟩)⟩ →
          (i.run grants other command (w, steps)).value = r.value) ∧
    i.runner spawn command w =
      let r := i.run plenty spawn command (w, [])
      ⟨r.world.1, r.events, r.value⟩ := by
  intro classify r
  refine ⟨fun e h => Interpreter.run_of_error h grants steps, fun child h => ?_, rfl⟩
  have hr := Interpreter.run_of_child h grants steps
  refine ⟨congrArg Outcome.value hr, congrArg Outcome.world hr, congrArg Outcome.events hr, ?_, ?_⟩
  · rintro slack rfl
    exact reply_readOnto slack classify 0 .empty .blank ⟨child.output, []⟩
  · intro other ending w₂ es₂ ho
    have hother := Interpreter.run_of_child ho grants steps
    exact (congrArg Outcome.value hother).trans (congrArg Outcome.value hr).symm

/-- Output that breaks off under a command that fails, a command that fails without a word, and an interpreter that is
not there. -/
theorem reply_is_output_and_child_is_reaped_broken :
    let broken : Source := [.data [1], .failed (.os 5), .data [2]]
    let spawn : Spawn Unit := fun program args => pure <|
      if program = "sh" then .ok ⟨if args = ["-c", "x"] then broken else [], .ok (.exited 3)⟩ else .error .noEntry
    let sh : Interpreter := ⟨"sh", "-c"⟩
    let r := sh.run plenty spawn "x" ((), [])
    r.value = some (.error (.subprocess "reading command output: Input/output error (os error 5)")) ∧
      r.world.2 = [.started, .read 1024 (.bytes [1]), .read 1024 (.fault (.os 5)), .released, .waited] ∧
      r.events = [.executing "x", .commandFailed (.exited 3)] ∧
      (sh.run plenty (fun _ _ => pure (.ok ⟨broken, .error (.os 10)⟩)) "x" ((), [])).value = r.value ∧
      (∃ b, (sh.runner spawn "y" ()).value = some (.ok b) ∧ b.toList = []) ∧
      (Interpreter.mk "none" "-c").run plenty spawn "x" ((), []) =
        ⟨((), []), [.executing "x"], some (.error (.subprocess "none: No such file or directory (os error 2)"))⟩ := by
  intro broken spawn sh r
  let classify : IoFault → Failure := fun e => .subprocess ("reading command output: " ++ e.message)
  have hstops : StopsAt broken [.data [1]] (.failed (.os 5)) [.data [2]] := ⟨rfl, by decide, rfl⟩
  have hreply := reply_readAll (fun _ => 0) classify hstops
  obtain ⟨hreads, -⟩ := reads_readAll (fun _ => 0) classify hstops (by simp [broken, chunkSize])
  obtain ⟨-, hchild, -⟩ := reply_is_output_and_child_is_reaped sh plenty spawn "x" () () [] []
  obtain ⟨hvalue, hworld, hevents, -, hsame⟩ := hchild ⟨broken, .ok (.exited 3)⟩ rfl
  obtain ⟨-, hsilent, hrunner⟩ := reply_is_output_and_child_is_reaped sh plenty spawn "y" () () [] []
  obtain ⟨hempty, -, -, hcontents, -⟩ := hsilent ⟨[], .ok (.exited 3)⟩ rfl
  obtain ⟨hmissing, -, -⟩ := reply_is_output_and_child_is_reaped ⟨"none", "-c"⟩ plenty spawn "x" () () [] []
  have hbroken : (readAll plenty classify broken).reply = .error (classify (.os 5)) := by
    exact Buffer.map_toList_eq_error_iff.1 hreply
  change (readAll plenty classify broken).reads = _ at hreads
  refine ⟨?_, ?_, ?_, hsame _ _ () [] rfl, ?_, hmissing .noEntry rfl⟩
  · rw [hvalue, hbroken]
    rfl
  · rw [hworld, hreads]
    rfl
  · rw [hevents, hbroken]
    rfl
  · obtain ⟨b, hreply, hb⟩ := Buffer.map_toList_eq_ok_iff.1 (hcontents (fun _ => 0) rfl)
    rw [hrunner]
    dsimp only
    rw [hempty, hreply]
    exact ⟨b, rfl, hb⟩

end Courier
