import LS8.Command.Options
import LS8.Computer.Run
import LS8.Listing
import LS8.Source.Line

/-!
# Log of the command

What the command notes while it works, and which of it is shown. The machine and the command each
have a threshold, and both thresholds rise with the verbosity.

* `Note`: what is noted;
* `Level`, `Origin`, `threshold`, `isShown`;
* `Scope`: the work that a note belongs to;
* `Note.logLines`, `Note.lines`: a note as lines of text;
* **`isShown_mono`**: what one verbosity shows, a higher one shows too.

Not modelled are log messages in JSON, the codes of colours around the parts of a log message, and
filters that are set in the environment instead of by the verbosity.
-/

set_option autoImplicit false

namespace LS8.Command

/-- How important a log message is. -/
inductive Level
  | warn
  | info
  | debug
  | trace
deriving DecidableEq

namespace Level

/-- The levels in order, the most important first. -/
def rank : Level → Nat
  | warn => 0
  | info => 1
  | debug => 2
  | trace => 3

/-- The name of a level, five characters wide. -/
def label : Level → String
  | warn => " WARN"
  | info => " INFO"
  | debug => "DEBUG"
  | trace => "TRACE"

end Level

/-- Who has noted something. -/
inductive Origin
  /-- Loader, listing and machine. -/
  | machine
  /-- The command itself. -/
  | command
deriving DecidableEq

/-- The least important level that is shown. -/
def threshold (verbosity : Nat) : Origin → Level
  | .machine =>
    match verbosity with
    | 0 => .warn
    | 1 => .info
    | 2 => .debug
    | _ => .trace
  | .command =>
    match verbosity with
    | 0 | 1 => .warn
    | 2 => .info
    | 3 => .debug
    | _ => .trace

/-- Whether messages of this origin and level are shown. -/
def isShown (verbosity : Nat) (origin : Origin) (level : Level) : Bool :=
  level.rank ≤ (threshold verbosity origin).rank

theorem rank_threshold (verbosity : Nat) (origin : Origin) :
    (threshold verbosity origin).rank =
      match origin with
      | .machine => min verbosity 3
      | .command => min (verbosity - 1) 3 := by
  match origin, verbosity with
  | .machine, 0 | .machine, 1 | .machine, 2 => rfl
  | .machine, n + 3 => simp [threshold, Level.rank]
  | .command, 0 | .command, 1 | .command, 2 | .command, 3 => rfl
  | .command, n + 4 => simp [threshold, Level.rank]

/-- **What one verbosity shows, a higher one shows too.** -/
theorem isShown_mono {v w : Nat} (h : v ≤ w) {origin : Origin} {level : Level}
    (hs : isShown v origin level = true) : isShown w origin level = true := by
  simp only [isShown, rank_threshold, decide_eq_true_eq] at hs ⊢
  cases origin <;> simp only at hs ⊢ <;> omega

/-! ## Notes -/

/-- Something the command notes. -/
inductive Note
  /-- The program file is about to be read. -/
  | reading (path : String)
  /-- A program of this size was found in it. -/
  | parsed (size : Nat)
  /-- The command has the program. -/
  | loaded (size : Nat)
  /-- No instruction starts at this place of the program. -/
  | undecodable (address : Nat) (error : DecodeError)
  /-- The run begins. -/
  | running
  /-- The computer before a step. -/
  | traced (c : Computer)
  /-- What the machine tells about a step. -/
  | told (event : Event)
  /-- The program has halted. -/
  | ended (cycles : UInt64) (registers : Registers)
  /-- The run was stopped by a fault. -/
  | failed (fault : Fault)
  /-- The memory did not take the program. -/
  | unfit (cause : MemoryError)

/-- A log message. -/
structure Message where
  origin : Origin
  level : Level
  text : String
  fields : List (String × String) := []

/-- The message for something the machine tells. -/
def Message.ofEvent : Event → Message
  | .executing opcode pc =>
    { origin := .machine, level := .debug
      text := "Executing instruction \"" ++ opcode.mnemonic ++ "\""
      fields := [("pc", decimal pc.toNat)] }
  | .loading r value =>
    { origin := .machine, level := .debug, text := r.name ++ " <- " ++ decimal value.toNat }
  | .printing r value =>
    { origin := .machine, level := .debug
      text := "Printing " ++ r.name ++ " = " ++ decimal value.toNat }
  | .compared x y flags =>
    { origin := .machine, level := .debug
      text :=
        "cmp(" ++ decimal x.toNat ++ ", " ++ decimal y.toNat ++ ") => " ++ flags.text }
  | .jumping address =>
    { origin := .machine, level := .debug
      text := "Jumping to address " ++ hexadecimal address.toNat }
  | .halting cycles =>
    { origin := .machine, level := .info, text := "Halting"
      fields := [("cycles", decimal cycles.toNat)] }
  | .settled registers =>
    { origin := .machine, level := .debug, text := "Register state " ++ registers.record }

/-- The log message of a note; a trace line is none. -/
def Note.message? : Note → Option Message
  | .reading path =>
    some
      { origin := .machine, level := .info, text := "Reading program"
        fields := [("path", path)] }
  | .parsed size =>
    some
      { origin := .machine, level := .debug, text := "Parsed program"
        fields := [("size", decimal size)] }
  | .loaded size =>
    some
      { origin := .command, level := .debug, text := "Loaded program"
        fields := [("size", decimal size)] }
  | .undecodable address error =>
    some
      { origin := .machine, level := .trace, text := "Not an instruction"
        fields := [("address", decimal address), ("error", error.message)] }
  | .running => some { origin := .command, level := .info, text := "Running program" }
  | .traced _ => none
  | .told event => some (Message.ofEvent event)
  | .ended cycles registers =>
    some
      { origin := .command, level := .info, text := "End of program"
        fields := [("cycles", decimal cycles.toNat), ("registers", registers.text)] }
  | .failed fault =>
    let cause :=
      match fault.cause with
      | none => ""
      | some cause => "\n\nCaused by:\n    " ++ cause
    some
      { origin := .command, level := .debug, text := "Execution failed"
        fields := [("error", fault.message ++ cause)] }
  | .unfit cause =>
    some
      { origin := .command, level := .debug, text := "Execution failed"
        fields := [("error", cause.message)] }

/-! ## Lines -/

/-- The work during which something is noted. -/
inductive Scope
  /-- A run with or without a limit. -/
  | run (limit : Option UInt64)
  /-- One step. -/
  | step

namespace Scope

/-- How important it is to name the work. -/
def level : Scope → Level
  | run _ => .info
  | step => .trace

/-- The name of the work, with its particulars. -/
def text : Scope → String
  | run none => "run_with\x7bmax_steps=None\x7d:"
  | run (some limit) => "run_with\x7bmax_steps=Some(" ++ decimal limit.toNat ++ ")\x7d:"
  | step => "step:"

end Scope

/-- The work that a note of a run with this limit belongs to, outermost first. -/
def Note.scopes (limit : Option UInt64) : Note → List Scope
  | .told _ => [.run limit, .step]
  | _ => []

/-- The names of the work that is named at this verbosity, with a space after the last. -/
def scopesText (verbosity : Nat) (scopes : List Scope) : String :=
  match scopes.filter fun s => isShown verbosity .machine s.level with
  | [] => ""
  | shown => String.join (shown.map Scope.text) ++ " "

/-- A log message as text, without codes of colours. -/
def Message.line (m : Message) (scopes : String) : String :=
  m.level.label ++ " " ++ scopes ++ m.text
    ++ String.join (m.fields.map fun field => " " ++ field.1 ++ "=" ++ field.2)

/-- Whether a message is shown at a verbosity. -/
def Message.isShown (verbosity : Nat) (m : Message) : Bool :=
  Command.isShown verbosity m.origin m.level

/-- The lines of a text that is written to the log. They end like those of a source text. -/
def written (text : String) : List String :=
  (Source.lineTexts (text.toList ++ ['\n'])).map String.ofList

/-- The lines of a note in the log: none if the note is not important enough. -/
def Note.logLines (o : Options) (note : Note) : List String :=
  match note.message? with
  | none => []
  | some m =>
    if m.isShown o.verbosity then
      written (m.line (scopesText o.verbosity (note.scopes o.maxSteps)))
    else []

/-- The lines of a note: the trace line of a computer if trace lines are asked for, and else those
in the log. Log messages in JSON hold the time, and have no lines here. Those in colour have their
lines without the codes of the colours. -/
def Note.lines (o : Options) : Note → List String
  | .traced c => if o.trace then [c.trace] else []
  | note => if o.format = some .json then [] else note.logLines o

end LS8.Command
