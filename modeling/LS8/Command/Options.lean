import LS8.Command.Argument

/-!
# Options of the command

The settings of all arguments together. Some of them say what is to be done and the others only what
is shown of it.

* `Display`, `Task`, `Options`;
* `Options.add`, `Options.ofSettings`: settings checked against each other;
* `Request.ofArguments`: what the arguments ask for.
-/

set_option autoImplicit false

namespace LS8.Command

/-- What is shown of the work. -/
structure Display where
  /-- How often more log messages were asked for. -/
  verbosity : Nat := 0
  format : Option Format := none
  /-- Whether there is a trace line before each instruction. -/
  trace : Bool := false
deriving DecidableEq

/-- What is to be done. -/
structure Task where
  /-- The program file. -/
  input : String
  /-- Whether the program is listed instead of run. -/
  disassemble : Bool := false
  /-- The limit of the run. -/
  maxSteps : Option UInt64 := none
deriving DecidableEq

/-- What the settings ask for together. -/
structure Options extends Display, Task
deriving DecidableEq

/-- What the command is asked to do. -/
inductive Request
  | help
  | version
  | run (options : Options)
deriving DecidableEq

namespace Options

/-- The options with one more setting. Log messages are written in one way only. -/
def add (o : Options) : Setting → Except UsageError Options
  | .verbose => .ok { o with verbosity := o.verbosity + 1 }
  | .format f =>
    if o.format.isSome then .error .conflict else .ok { o with format := some f }
  | .trace => .ok { o with trace := true }
  | .disassemble => .ok { o with disassemble := true }
  | .maxSteps limit => .ok { o with maxSteps := some limit }
  | .input path => .ok { o with input := path }

/-- The file that is named in settings. -/
def input? (settings : List Setting) : Option String :=
  settings.findSome? fun
    | .input path => some path
    | _ => none

/-- What settings ask for together. -/
def ofSettings (settings : List Setting) : Except UsageError Options :=
  match input? settings with
  | none => .error .missingInput
  | some input => settings.foldlM add { input }

end Options

namespace Request

/-- What the arguments of the command ask for. -/
def ofArguments (arguments : List String) : Except UsageError Request :=
  match readArguments [] arguments with
  | .error e => .error e
  | .ok .help => .ok .help
  | .ok .version => .ok .version
  | .ok (.settings settings) => (Options.ofSettings settings).map .run

end Request

end LS8.Command
