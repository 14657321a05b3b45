import LS8.IoError
import LS8.Text.Numeral

/-!
# Sinks

Where the values go that a program prints. A sink that refuses a value says why; it may have taken a
part of the value's text by then.

* `Sink`: the interface, one value at a time;
* `ValueSink`: keeps the values themselves, as many as it has room for;
* `TextSink`: keeps the values as lines of decimal text, as many characters as it has room for;
* **`emit_of_endless`**, **`write_of_room_none`**: a sink without a bound takes every value, and every
  text whole.
-/

set_option autoImplicit false

namespace LS8

/-- A type of sinks for printed values. -/
class Sink (σ : Type) where
  /-- The sink after a value was offered to it, and why it was refused, if it was. -/
  emit : σ → UInt8 → σ × Option IoError

/-- The values that were printed, in order. -/
structure ValueSink where
  values : Array UInt8 := #[]
  /-- How many values the sink holds at most, if there is a bound. -/
  capacity : Option Nat := none

namespace ValueSink

/-- Whether there is room for one more value. -/
def hasRoom (sink : ValueSink) : Bool := sink.capacity.all (sink.values.size < ·)

instance : Sink ValueSink where
  emit sink value :=
    if sink.hasRoom then ({ sink with values := sink.values.push value }, none)
    else (sink, some .brokenPipe)

theorem emit_of_endless {sink : ValueSink} (h : sink.capacity = none) (value : UInt8) :
    Sink.emit sink value = ({ sink with values := sink.values.push value }, none) := by
  simp [Sink.emit, hasRoom, h]

end ValueSink

/-- The text that was printed. -/
structure TextSink where
  text : String := ""
  /-- How many characters the sink takes from now on, if there is a bound. -/
  room : Option Nat := none
  /-- What happens when there is no more room. -/
  refusal : IoError := .writeZero

namespace TextSink

/-- The line of a value: its decimal digits and a line feed. -/
def line (value : UInt8) : List Char := padded 10 1 value.toNat ++ ['\n']

/-- The sink after some characters were written to it, which have to fit. -/
def put (sink : TextSink) (chars : List Char) : TextSink :=
  { sink with
    text := sink.text ++ String.ofList chars
    room := sink.room.map (· - chars.length) }

/-- What fits of a text is written, and the text is refused if that is not all of it. -/
def write (sink : TextSink) (chars : List Char) : TextSink × Option IoError :=
  match sink.room with
  | none => (sink.put chars, none)
  | some n =>
    if chars.length ≤ n then (sink.put chars, none)
    else (sink.put (chars.take n), some sink.refusal)

instance : Sink TextSink where
  emit sink value := sink.write (line value)

theorem write_of_room_none {sink : TextSink} (h : sink.room = none) (chars : List Char) :
    sink.write chars = (sink.put chars, none) := by
  simp [write, h]

end TextSink

end LS8
