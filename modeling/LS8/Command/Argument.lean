/-!
# Arguments of the command

Arguments are read from left to right, each into a setting. A setting that repeats one before it is
refused where it stands. Asking for help or for the version ends the reading, whatever follows.

* `Setting`, `UsageError`: what an argument can say, and why arguments are refused;
* `limit?`: the number of steps in an argument;
* `letter?`, `word?`: options with a single and with a double dash;
* `Setting.repeats`, `accept`: one setting after others;
* `Reading`, `readArguments`: all arguments.
-/

set_option autoImplicit false

namespace LS8.Command

/-- How log messages are written. -/
inductive Format
  /-- In colour. -/
  | color
  /-- Without colour. -/
  | plain
  /-- As JSON. -/
  | json
deriving DecidableEq

/-- What one argument says. -/
inductive Setting
  /-- More log messages. -/
  | verbose
  /-- How log messages are written. -/
  | format (f : Format)
  /-- A trace line before each instruction. -/
  | trace
  /-- A listing instead of a run. -/
  | disassemble
  /-- No more than so many steps. -/
  | maxSteps (limit : UInt64)
  /-- The program file. -/
  | input (path : String)
deriving DecidableEq

/-- Why the arguments were refused. -/
inductive UsageError
  /-- There is no such option. -/
  | unknownOption
  /-- An option that takes no value was given one. -/
  | unexpectedValue
  /-- An option that takes a value was given none. -/
  | missingValue
  /-- The value of an option is no number, or too large. -/
  | invalidValue
  /-- A setting was made twice, or a second file was given. -/
  | repeated
  /-- Two settings exclude each other. -/
  | conflict
  /-- No file was given. -/
  | missingInput
deriving DecidableEq

/-! ## One argument -/

/-- A number of steps: decimal digits, after a plus sign or not, that make no more than 64 bits. -/
def limit? (text : List Char) : Option UInt64 :=
  let digits :=
    match text with
    | '+' :: digits => digits
    | digits => digits
  if digits.isEmpty ∨ ¬ digits.all Char.isDigit then none
  else
    let value := Nat.ofDigitChars 10 digits 0
    if value < UInt64.size then some (UInt64.ofNat value) else none

/-- What a letter after a single dash says. -/
inductive Letter
  | setting (s : Setting)
  | help
  | version

/-- The letters. -/
def letter? : Char → Option Letter
  | 'v' => some (.setting .verbose)
  | 'c' => some (.setting (.format .color))
  | 'C' => some (.setting (.format .plain))
  | 'j' => some (.setting (.format .json))
  | 't' => some (.setting .trace)
  | 'd' => some (.setting .disassemble)
  | 'h' => some .help
  | 'V' => some .version
  | _ => none

/-- What a word after a double dash says, when it takes no value. -/
def word? : String → Option Letter
  | "verbose" => some (.setting .verbose)
  | "color" => some (.setting (.format .color))
  | "no-color" => some (.setting (.format .plain))
  | "json" => some (.setting (.format .json))
  | "trace" => some (.setting .trace)
  | "disassemble" => some (.setting .disassemble)
  | "help" => some .help
  | "version" => some .version
  | _ => none

/-! ## All arguments -/

/-- Whether a setting says again what was said before. Only more log messages can be asked for
twice. -/
def Setting.repeats : Setting → Setting → Bool
  | .verbose, _ => false
  | .maxSteps _, .maxSteps _ => true
  | .input _, .input _ => true
  | s, before => s = before

/-- The settings so far with one more, unless it repeats one of them. -/
def accept (before : List Setting) (s : Setting) : Except UsageError (List Setting) :=
  if before.any s.repeats then .error .repeated else .ok (before ++ [s])

/-- What reading the arguments came to. -/
inductive Reading
  | help
  | version
  | settings (list : List Setting)

/-- The reading after an option that takes no value. -/
def readLetter (before : List Setting) : Letter → Except UsageError Reading
  | .help => .ok .help
  | .version => .ok .version
  | .setting s => (accept before s).map .settings

/-- Reads letters that follow a dash. -/
def readLetters (before : List Setting) : List Char → Except UsageError Reading
  | [] => .ok (.settings before)
  | c :: letters =>
    match letter? c with
    | none => .error .unknownOption
    | some l =>
      match readLetter before l with
      | .ok (.settings before) => readLetters before letters
      | ended => ended

/-- Reads a word that follows a double dash and takes no value. -/
def readWord (before : List Setting) (word : String) : Except UsageError Reading :=
  match word? word with
  | none => .error .unknownOption
  | some l => readLetter before l

/-- Whether an argument can be the value of the option before it. -/
def isValue (argument : String) : Bool := argument = "-" || !argument.startsWith "-"

/-- Reads the value of the limit. -/
def readLimit (before : List Setting) (value : List Char) : Except UsageError Reading :=
  match limit? value with
  | none => .error .invalidValue
  | some limit => (accept before (.maxSteps limit)).map .settings

/-- Reads arguments that are all files. -/
def readFiles (before : List Setting) (paths : List String) : Except UsageError Reading :=
  (paths.foldlM (fun before path => accept before (.input path)) before).map .settings

/-- Reads arguments, with the settings that were read before. -/
def readArguments (before : List Setting) : List String → Except UsageError Reading
  | [] => .ok (.settings before)
  | argument :: rest =>
    match argument.toList with
    | ['-', '-'] => readFiles before rest
    | '-' :: '-' :: word =>
      let name := String.ofList (word.takeWhile (· ≠ '='))
      match word.dropWhile (· ≠ '='), name with
      | _ :: value, "max-steps" =>
        match readLimit before value with
        | .ok (.settings before) => readArguments before rest
        | ended => ended
      | [], "max-steps" =>
        match rest with
        | [] => .error .missingValue
        | value :: rest =>
          if isValue value then
            match readLimit before value.toList with
            | .ok (.settings before) => readArguments before rest
            | ended => ended
          else .error .missingValue
      | _ :: _, name =>
        if (word? name).isSome then .error .unexpectedValue else .error .unknownOption
      | [], name =>
        match readWord before name with
        | .ok (.settings before) => readArguments before rest
        | ended => ended
    | '-' :: c :: letters =>
      match readLetters before (c :: letters) with
      | .ok (.settings before) => readArguments before rest
      | ended => ended
    | _ =>
      match accept before (.input argument) with
      | .ok before => readArguments before rest
      | .error e => .error e

end LS8.Command
