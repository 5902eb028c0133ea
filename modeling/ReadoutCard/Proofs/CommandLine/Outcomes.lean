import ReadoutCard.Proofs.CommandLine.Runs
import ReadoutCard.Proofs.Sysfs.Frame

/-!
# What a command gives

The outcome of a command tells its exit code and everything that was printed.
`Prints` and `Fails` say of an outcome what a user can see of it, and
`prints_of_run` and `fails_of_run` read them off the run of the command.
-/

namespace ReadoutCard.CommandLine

open Sysfs (Kept Resource)

/-- What the program gives and leaves once its arguments are read. -/
def Command.outcome (c : Command) (h : Host) : Outcome × Host :=
  match Console.run Host.answer c.run h with
  | (.ok _, after) => (⟨0, after.output, ""⟩, after)
  | (.error failure, after) => (⟨1, after.output, failure.report⟩, after)

theorem run_of_parse {arguments : List String} {c : Command}
    (parsed : parse arguments = .ok (.command c)) (h : Host) : run arguments h = c.outcome h := by
  rw [run, parsed]
  rfl

/-- The host after more lines were printed. -/
def Host.printing (h : Host) (lines : List String) : Host :=
  { h with printed := lines.reverse ++ h.printed }

theorem Host.output_printing (h : Host) (lines : List String) :
    (h.printing lines).output = h.output ++ String.join (lines.map (· ++ "\n")) := by
  simp [Host.output, Host.printing]

theorem Host.printed_put (h : Host) (place : Place) (content : ByteArray) :
    (h.put place content).printed = h.printed := by
  unfold put
  split
  · rfl
  · rfl

theorem Host.printed_save (h : Host) (path : Path) (content : ByteArray) :
    (h.save path content).2.printed = h.printed := by
  unfold save
  split
  · exact h.printed_put _ content
  · rfl

/-- What was printed stays: more lines come after it. -/
theorem exists_printed {α : Type} (d : Dialogue (Request FileName Resource) Answer α) (h : Host) :
    ∃ lines : List String,
      (Dialogue.run Host.answer d h).2.printed = lines.reverse ++ h.printed := by
  induction d generalizing h with
  | done a => exact ⟨[], rfl⟩
  | ask q next ih =>
    obtain ⟨first, here⟩ : ∃ lines : List String,
        (Host.answer q h).2.printed = lines.reverse ++ h.printed := by
      cases q with
      | pci q => exact ⟨[], rfl⟩
      | print line => exact ⟨[line], rfl⟩
      | save path content => exact ⟨[], h.printed_save path content⟩
    obtain ⟨lines, later⟩ := ih (Host.answer q h).1 (Host.answer q h).2
    refine ⟨first ++ lines, ?_⟩
    rw [List.reverse_append, List.append_assoc, ← here]
    exact later

theorem exists_printed_of_run {α : Type} {p : Console FileName Resource α} {h after : Host}
    {r : Except Failure α} (ran : Console.run Host.answer p h = (r, after)) :
    ∃ lines : List String, after.printed = lines.reverse ++ h.printed := by
  obtain ⟨lines, printed⟩ := exists_printed (ExceptT.run p) h
  have left : (Dialogue.run Host.answer (ExceptT.run p) h).2 = after := congrArg Prod.snd ran
  rw [left] at printed
  exact ⟨lines, printed⟩

/-- The command succeeds and prints just these lines. -/
structure Prints (c : Command) (h : Host) (lines : List String) : Prop where
  exit : (c.outcome h).1.exitCode = 0
  output : (c.outcome h).1.output = h.output ++ String.join (lines.map (· ++ "\n"))

/-- The command fails; nothing is printed, no file saved, and only searches for cards have changed
the tree. -/
structure Fails (c : Command) (h : Host) : Prop where
  exit : (c.outcome h).1.exitCode = 1
  output : (c.outcome h).1.output = h.output
  saved : (c.outcome h).2.saved = h.saved
  tree : Kept h.tree (c.outcome h).2.tree

section Runs

variable {c : Command} {h after : Host} {lines : List String}

theorem outcome_of_failure {failure : Failure}
    (run : Console.run Host.answer c.run h = (.error failure, after)) :
    c.outcome h = (⟨1, after.output, failure.report⟩, after) := by
  rw [Command.outcome, run]

theorem fails_of_run {failure : Failure} {v : DeviceTree} (kept : Kept h.tree v)
    (run : Console.run Host.answer c.run h = (.error failure, h.withTree v)) : Fails c h := by
  have outcome := outcome_of_failure run
  constructor
  · rw [outcome]
  · rw [outcome]
    rfl
  · rw [outcome]
    rfl
  · rw [outcome]
    exact kept

theorem outcome_of_run (run : Console.run Host.answer c.run h = (.ok (), after)) :
    c.outcome h = (⟨0, after.output, ""⟩, after) := by
  rw [Command.outcome, run]

theorem prints_of_run (run : Console.run Host.answer c.run h = (.ok (), after))
    (printed : after.printed = lines.reverse ++ h.printed) : Prints c h lines := by
  have same : after.output = (h.printing lines).output := by
    rw [Host.output, Host.output, printed, Host.printing]
  constructor
  · rw [outcome_of_run run]
  · rw [outcome_of_run run, ← Host.output_printing, same]

/-- A command that leaves with code 0 has run to its end. -/
theorem exists_run_of_exit (exit : (c.outcome h).1.exitCode = 0) :
    ∃ after, Console.run Host.answer c.run h = (.ok (), after) := by
  rcases ran : Console.run Host.answer c.run h with ⟨failure | _, after⟩
  · rw [Command.outcome, ran] at exit
    cases exit
  · exact ⟨after, rfl⟩

end Runs

end ReadoutCard.CommandLine
