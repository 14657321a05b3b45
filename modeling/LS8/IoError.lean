/-!
# Failures of devices and files

* `IoError`: why reading a file or writing to a device failed;
* `IoError.message`: the wording of each failure, with the number of the system's error if it has
  one.
-/

set_option autoImplicit false

namespace LS8

/-- Why a file could not be read or a device did not take what was written to it. -/
inductive IoError
  /-- There is no such file. -/
  | notFound
  /-- A path goes on below a file that is no directory. -/
  | notDirectory
  /-- The file to be read is a directory. -/
  | isDirectory
  /-- The device is full. -/
  | noSpace
  /-- A path, or a name in it, is longer than the system takes. -/
  | nameTooLong
  /-- A path holds the NUL character. -/
  | nulInPath
  /-- The text is not valid UTF-8. -/
  | notUtf8
  /-- The device takes no more. -/
  | writeZero
  /-- Nobody reads what is written. -/
  | brokenPipe
  /-- Anything else, in the words of the system. -/
  | other (message : String)
deriving DecidableEq

namespace IoError

/-- The wording of a failure. -/
def message : IoError → String
  | notFound => "No such file or directory (os error 2)"
  | notDirectory => "Not a directory (os error 20)"
  | isDirectory => "Is a directory (os error 21)"
  | noSpace => "No space left on device (os error 28)"
  | nameTooLong => "File name too long (os error 36)"
  | nulInPath => "file name contained an unexpected NUL byte"
  | notUtf8 => "stream did not contain valid UTF-8"
  | writeZero => "failed to write whole buffer"
  | brokenPipe => "broken pipe"
  | other message => message

end IoError

end LS8
