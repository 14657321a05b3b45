import LS8.Command.Log
import LS8.Program
import LS8.Text.Wrap

/-!
# The work of the command

The command loads a program and lists it or runs it. A transcript holds all that comes of it, before
anything is said about how much of it is shown.

* `Outcome`, `Outcome.status`, `Outcome.closing`: how the work ended;
* `Transcript`: outcome, output and notes;
* `listingText`: the text of a listing;
* `load`, `list`, `prepare`, `conclude`, `perform`: the stages of the work;
* **`prepare_of_loaded`**: the memory takes every program that was loaded.
-/

set_option autoImplicit false

namespace LS8.Command

/-- How the work of the command ended. -/
inductive Outcome
  /-- It was done. -/
  | done
  /-- The arguments were refused. -/
  | refused (cause : UsageError)
  /-- The program could not be loaded. -/
  | unloaded (cause : LoadError)
  /-- The listing could not be printed. -/
  | unprinted (cause : IoError)
  /-- The memory did not take the program. -/
  | unfit (cause : MemoryError)
  /-- The run ended in a fault. -/
  | faulted (fault : Fault)
  /-- The run is not over. -/
  | unfinished
deriving DecidableEq

namespace Outcome

/-- The exit status. -/
def status : Outcome → UInt32
  | done | unfinished => 0
  | refused _ | unloaded _ => 2
  | unprinted _ => 101
  | faulted (.stepLimit _) => 3
  | faulted _ | unfit _ => 1

/-- The number of columns that a line of a message about a program fills. -/
def messageColumns : Nat := 74

/-- The first line of a message about a program, which is wrapped. A carriage return at its end
counts as a part of the line end. -/
def headline (message : String) : String :=
  let line := firstLine messageColumns (message.toList.takeWhile (· ≠ '\n'))
  String.ofList (Source.chomp (line ++ ['\n']))

/-- The line that is always shown at the end, if there is one. -/
def closing : Outcome → Option String
  | done | refused _ | unfinished => none
  | unloaded cause => some ("load error: " ++ headline cause.message)
  | unprinted cause => some ("failed printing to stdout: " ++ cause.message)
  | unfit cause => some ("Error: " ++ cause.message)
  | faulted fault =>
    some ("Error: " ++ ": ".intercalate (fault.message :: fault.cause.toList))

end Outcome

/-- Lines as a text. -/
def textOf (lines : List String) : String := String.join (lines.map (· ++ "\n"))

/-- All that came of the work. -/
structure Transcript where
  outcome : Outcome
  /-- The text that was printed. -/
  output : String
  notes : Array Note

/-- A program that is ready to be run. -/
structure Launch where
  computer : Computer
  notes : Array Note

/-- The program in a file whose contents are given, and what is noted about it. -/
def load (path : String) (content : Except IoError ByteArray) :
    Except LoadError Program × Array Note :=
  match Program.ofFile path content with
  | .error e => (.error e, #[.reading path])
  | .ok p => (.ok p, #[.reading path, .parsed p.size, .loaded p.size])

/-- The text of the listing of a program. -/
def listingText (p : Program) : String :=
  textOf ((Listing.disassemble p.bytes).map Listing.Line.text)

/-- Prints the listing of a program. -/
def list (notes : Array Note) (device : TextSink) (p : Program) : Transcript :=
  let written := device.write (listingText p).toList
  { outcome :=
      match written.2 with
      | none => .done
      | some cause => .unprinted cause
    output := written.1.text
    notes := notes ++ (Listing.failures p.bytes).map fun f => Note.undecodable f.1 f.2 }

/-- All the work before the run, or all there is if there is no run. -/
def prepare (task : Task) (content : Except IoError ByteArray) (device : TextSink) :
    Except Transcript Launch :=
  match load task.input content with
  | (.error e, notes) => .error ⟨.unloaded e, "", notes⟩
  | (.ok p, notes) =>
    if task.disassemble then .error (list notes device p)
    else
      match Computer.withProgram p.bytes with
      | .error cause => .error ⟨.unfit cause, "", notes.push (.unfit cause)⟩
      | .ok computer => .ok ⟨computer, notes.push .running⟩

/-- **The memory takes every program that was loaded**, so the work goes on to its run. -/
theorem prepare_of_loaded {task : Task} {content : Except IoError ByteArray} {p : Program}
    {notes : Array Note} (h : load task.input content = (.ok p, notes))
    (hrun : task.disassemble = false) (device : TextSink) :
    prepare task content device = .ok ⟨Computer.ofProgram p, notes.push .running⟩ := by
  rw [prepare, h]
  simp only [hrun, Computer.withProgram_bytes]
  rfl

/-- What is noted about a step of a run. -/
def observe (notes : Array Note) (moment : Moment) : Array Note :=
  notes.push (.traced moment.before) ++ moment.events.map Note.told

/-- The transcript of a run. -/
def conclude (run : Run TextSink (Array Note)) : Transcript :=
  match run.result with
  | none => ⟨.unfinished, run.sink.text, run.notes⟩
  | some (.ok ()) =>
    ⟨.done, run.sink.text, run.notes.push (.ended run.computer.cycles run.computer.registers)⟩
  | some (.error fault) => ⟨.faulted fault, run.sink.text, run.notes.push (.failed fault)⟩

/-- All the work on a file whose contents are given. A run without a limit is left unfinished after
`patience` steps. -/
def perform (task : Task) (content : Except IoError ByteArray) (device : TextSink)
    (patience : Nat) : Transcript :=
  match prepare task content device with
  | .error transcript => transcript
  | .ok launch =>
    conclude (launch.computer.runWith observe patience task.maxSteps launch.notes device)

end LS8.Command
