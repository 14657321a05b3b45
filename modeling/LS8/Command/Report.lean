import LS8.Command.Transcript

/-!
# What the command leaves behind

An exit status, the text on the standard output and the lines on the standard error.

* `helpText`, `versionText`;
* `Report`, `Transcript.report`: as much of a transcript as is to be shown;
* `report`: the whole command, from its arguments on.

Not modelled are the wording of what is said about refused arguments, and all but the first line of
what is said about a program that could not be loaded.
-/

set_option autoImplicit false

namespace LS8.Command

/-- The text that explains the command. -/
def helpText : String :=
  textOf
    ["An emulator for the LS-8 byte-code machine",
      "",
      "Usage: ls8 [OPTIONS] <INPUT>",
      "",
      "Arguments:",
      "  <INPUT>  Program file, one 8 digit binary literal per line",
      "",
      "Options:",
      "  -v, --verbose...     Increase the level of verbosity. Can be used multiple times",
      "  -c, --color          Force colored output. Default is to check if the output is a tty",
      "  -C, --no-color       Force non-colored output. Default is to check if the output is a tty",
      "  -j, --json           Use JSON output for log messages",
      "  -t, --trace          Print the machine state on stderr before each instruction",
      "      --max-steps <N>  Stop with an error after this many instructions",
      "  -d, --disassemble    Print the program listing instead of running it",
      "  -h, --help           Print help",
      "  -V, --version        Print version"]

/-- The text that names the version. -/
def versionText : String := textOf ["ls8-cli 0.1.0"]

/-- What the command leaves behind. -/
structure Report where
  outcome : Outcome
  /-- The text on the standard output. -/
  output : String
  /-- The lines on the standard error: trace lines, log messages and the line at the end. Log
messages in JSON are not among them, and those in colour are without the codes of the colours. -/
  errors : List String
deriving DecidableEq

/-- The exit status of the command. -/
def Report.status (r : Report) : UInt32 := r.outcome.status

/-- What is shown of a transcript. The line at its end is, whatever the options say. -/
def Transcript.report (o : Options) (t : Transcript) : Report where
  outcome := t.outcome
  output := t.output
  errors := t.notes.toList.flatMap (Note.lines o) ++ t.outcome.closing.toList

/-- The report of a command that only prints a text. A device that does not take it is ignored. -/
def announce (device : TextSink) (text : String) : Report :=
  ⟨.done, (device.write text.toList).1.text, []⟩

/-- The command with its arguments, when `read` tells what reading a file gives. -/
def report (arguments : List String) (read : String → Except IoError ByteArray)
    (device : TextSink) (patience : Nat) : Report :=
  match Request.ofArguments arguments with
  | .error cause => ⟨.refused cause, "", []⟩
  | .ok .help => announce device helpText
  | .ok .version => announce device versionText
  | .ok (.run o) => (perform o.toTask (read o.input) device patience).report o

end LS8.Command
