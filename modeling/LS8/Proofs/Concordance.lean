import LS8.Proofs.Lifetime
import LS8.Proofs.Observation
import LS8.Proofs.Telling
import LS8.Proofs.TraceLine

/-!
# The log and the trace

The trace lines come from an observer before each step, and the log messages from the machine while
it makes the step. Both are shown in one text, and tell the same run.

* `Message.executing?`, `Message.settled?`, `Message.halting?`: what a log message tells of a step;
* `Reads`: a reader of log messages finds the events of one kind, and nothing else;
* `Chapter`, `chapters`: the log messages between two trace lines;
* `Layout`, **`layout_entries`**: the order of what is shown of a run;
* `Concordant`, **`log_agrees_with_trace`**: the log messages and the trace lines agree.
-/

set_option autoImplicit false

namespace LS8.Command

/-! ## Reading log messages -/

namespace Message

/-- What comes in a message after a mark at its beginning. -/
def after? (m : Message) (mark : String) : Option (List Char) :=
  mark.toList.isPrefixOf? m.text.toList

/-- The number in a field. -/
def number? (m : Message) (name : String) : Option Nat :=
  (m.fields.lookup name).map fun value => readDigits 10 value.toList

/-- The address in a message about an instruction that is executed. -/
def executing? (m : Message) : Option Nat :=
  (m.after? "Executing instruction ").bind fun _ => m.number? "pc"

/-- The text in a message about the registers. -/
def settled? (m : Message) : Option String := (m.after? "Register state ").map String.ofList

/-- The number of instructions in a message about a halt. -/
def halting? (m : Message) : Option Nat := (m.after? "Halting").bind fun _ => m.number? "cycles"

/-- The message is not one from a step of the machine. -/
def Aside (m : Message) : Prop := ∃ note : Note, note.message? = some m ∧ ∀ e, note ≠ .told e

/-- The character with which the message about an event begins. -/
def initial : Event → Char
  | .executing _ _ => 'E'
  | .loading _ _ => 'r'
  | .printing _ _ => 'P'
  | .compared _ _ _ => 'c'
  | .jumping _ => 'J'
  | .halting _ => 'H'
  | .settled _ => 'R'

theorem head?_text_ofEvent (event : Event) :
    (ofEvent event).text.toList.head? = some (initial event) := by
  cases event with
  | executing op pc =>
    rw [ofEvent, String.toList_append, String.toList_append]
    rfl
  | loading r value =>
    rw [ofEvent, Register.name, String.toList_append, String.toList_append, String.toList_append]
    rfl
  | printing r value =>
    rw [ofEvent, String.toList_append, String.toList_append, String.toList_append]
    rfl
  | compared x y flags =>
    rw [ofEvent, String.toList_append, String.toList_append, String.toList_append,
      String.toList_append, String.toList_append]
    rfl
  | jumping address =>
    rw [ofEvent, String.toList_append]
    rfl
  | halting cycles =>
    change "Halting".toList.head? = some 'H'
    rfl
  | settled registers =>
    rw [ofEvent, String.toList_append]
    rfl

/-- A message that begins with another character does not have the mark. -/
theorem after?_ofEvent {event : Event} {mark : String} {a : Char}
    (hmark : mark.toList.head? = some a) (h : a ≠ initial event) :
    (ofEvent event).after? mark = none := by
  have htext := head?_text_ofEvent event
  rw [after?]
  cases hm : mark.toList with
  | nil =>
    rw [hm] at hmark
    cases hmark
  | cons b marks =>
    cases ht : (ofEvent event).text.toList with
    | nil =>
      rw [ht] at htext
      cases htext
    | cons b' text =>
      rw [hm] at hmark
      rw [ht] at htext
      obtain rfl := Option.some.inj hmark
      obtain rfl := Option.some.inj htext
      rw [List.isPrefixOf?, if_neg]
      rw [beq_iff_eq]
      exact h

/-- The marks are those of the steps. -/
theorem Aside.after?_eq_none {m : Message} (h : m.Aside) :
    m.after? "Executing instruction " = none ∧ m.after? "Register state " = none ∧
      m.after? "Halting" = none := by
  obtain ⟨note, hm, hnote⟩ := h
  have htext : m.text ∈ ["Reading program", "Parsed program", "Loaded program",
      "Not an instruction", "Running program", "End of program", "Execution failed"] := by
    cases note with
    | traced c => cases hm
    | told event => exact absurd rfl (hnote event)
    | _ =>
      obtain rfl := Option.some.inj hm
      simp
  have hmarks : ∀ text ∈ ["Reading program", "Parsed program", "Loaded program",
      "Not an instruction", "Running program", "End of program", "Execution failed"],
      "Executing instruction ".toList.isPrefixOf? text.toList = none ∧
        "Register state ".toList.isPrefixOf? text.toList = none ∧
        "Halting".toList.isPrefixOf? text.toList = none := by
    decide
  exact hmarks m.text htext

end Message

/-- The reader of messages finds the events of this kind, and shows them like this. It finds nothing
in a message that is not from a step. -/
structure Reads {α β : Type} (reader : Message → Option β) (kind : Event → Option α)
    (shows : α → β) : Prop where
  event : ∀ event, reader (.ofEvent event) = (kind event).map shows
  aside : ∀ m : Message, m.Aside → reader m = none

theorem reads_executing : Reads Message.executing? Event.executing? UInt8.toNat := by
  refine ⟨fun event => ?_, fun m hm => ?_⟩
  · cases event with
    | executing op pc =>
      have hmark : (Message.ofEvent (.executing op pc)).after? "Executing instruction " =
          some ("\"".toList ++ op.mnemonic.toList ++ "\"".toList) := by
        rw [Message.after?, List.isPrefixOf?_eq_some_iff_append_eq, Message.ofEvent,
          String.toList_append, String.toList_append, ← List.append_assoc, ← List.append_assoc]
        rfl
      have hnumber : (Message.ofEvent (.executing op pc)).number? "pc" = some pc.toNat :=
        congrArg some (readDigits_decimal pc.toNat)
      rw [Message.executing?, hmark, Option.bind_some, hnumber]
      rfl
    | loading | printing | compared | jumping | halting | settled =>
      rw [Message.executing?,
        Message.after?_ofEvent (a := 'E') rfl (by rw [Message.initial]; decide)]
      rfl
  · rw [Message.executing?, hm.after?_eq_none.1]
    rfl

theorem reads_settled : Reads Message.settled? Event.settled? Registers.record := by
  refine ⟨fun event => ?_, fun m hm => ?_⟩
  · cases event with
    | settled registers =>
      have hmark : (Message.ofEvent (.settled registers)).after? "Register state " =
          some registers.record.toList := by
        rw [Message.after?, List.isPrefixOf?_eq_some_iff_append_eq, Message.ofEvent,
          String.toList_append]
      rw [Message.settled?, hmark, Option.map_some, String.ofList_toList]
      rfl
    | executing | loading | printing | compared | jumping | halting =>
      rw [Message.settled?, Message.after?_ofEvent (a := 'R') rfl (by rw [Message.initial]; decide)]
      rfl
  · rw [Message.settled?, hm.after?_eq_none.2.1]
    rfl

theorem reads_halting : Reads Message.halting? Event.halting? UInt64.toNat := by
  refine ⟨fun event => ?_, fun m hm => ?_⟩
  · cases event with
    | halting cycles =>
      have hmark : (Message.ofEvent (.halting cycles)).after? "Halting" = some [] := by
        rw [Message.after?, List.isPrefixOf?_eq_some_iff_append_eq, List.append_nil,
          Message.ofEvent]
      have hnumber : (Message.ofEvent (.halting cycles)).number? "cycles" = some cycles.toNat :=
        congrArg some (readDigits_decimal cycles.toNat)
      rw [Message.halting?, hmark, Option.bind_some, hnumber]
      rfl
    | executing | loading | printing | compared | jumping | settled =>
      rw [Message.halting?, Message.after?_ofEvent (a := 'H') rfl (by rw [Message.initial]; decide)]
      rfl
  · rw [Message.halting?, hm.after?_eq_none.2.2]
    rfl

/-! ## Between two trace lines -/

/-- A trace line with the log messages up to the next one. -/
structure Chapter where
  line : String
  messages : List Message

/-- The log messages before the first trace line. -/
def heading : List Entry → List Message
  | .message m _ :: entries => m :: heading entries
  | _ => []

/-- The trace lines, each with the log messages up to the next one. -/
def chapters : List Entry → List Chapter
  | [] => []
  | .trace c :: entries => ⟨c.trace, heading entries⟩ :: chapters entries
  | .message _ _ :: entries => chapters entries

/-- Log messages with the work that they belong to, as entries. -/
def logged (messages : List (Message × List Scope)) : List Entry :=
  messages.map fun message => .message message.1 message.2

/-- The entries of a step. -/
def block (o : Options) (moment : Moment) : List Entry :=
  .trace moment.before ::
    logged (moment.events.map fun event => (.ofEvent event, [.run o.maxSteps, .step]))

section Chapters

variable {α β : Type} {reader : Message → Option β} {kind : Event → Option α} {shows : α → β}
  {o : Options}

theorem heading_logged (messages : List (Message × List Scope)) (entries : List Entry) :
    heading (logged messages ++ entries) = messages.map Prod.fst ++ heading entries := by
  induction messages with
  | nil => rfl
  | cons message messages ih => exact congrArg (message.1 :: ·) ih

theorem chapters_logged (messages : List (Message × List Scope)) (entries : List Entry) :
    chapters (logged messages ++ entries) = chapters entries := by
  induction messages with
  | nil => rfl
  | cons message messages ih => exact ih

theorem message?_logged (messages : List (Message × List Scope)) :
    (logged messages).filterMap Entry.message? = messages.map Prod.fst := by
  rw [logged, List.filterMap_map, ← List.filterMap_eq_map]
  rfl

theorem traceLine?_logged (messages : List (Message × List Scope)) :
    (logged messages).filterMap Entry.traceLine? = [] := by
  rw [logged, List.filterMap_map, List.filterMap_eq_nil_iff]
  exact fun _ _ => rfl

theorem Reads.filterMap_events (h : Reads reader kind shows) (events : List Event) :
    (events.map Message.ofEvent).filterMap reader = (events.filterMap kind).map shows := by
  rw [List.filterMap_map, List.map_filterMap]
  exact List.filterMap_congr fun event _ => h.event event

theorem Reads.filterMap_aside (h : Reads reader kind shows) {messages : List Message}
    (haside : ∀ m ∈ messages, m.Aside) : messages.filterMap reader = [] :=
  List.filterMap_eq_nil_iff.mpr fun m hm => h.aside m (haside m hm)

end Chapters

/-! ## What is shown of a run -/

/-- The order of what is shown of a run: log messages about the program, then the steps one after
the other, and then a log message about the end. -/
structure Layout (o : Options) (moments : List Moment) (front back : List (Message × List Scope))
    (entries : List Entry) : Prop where
  entries_eq : entries = logged front ++ (moments.flatMap (block o) ++ logged back)
  aside_front : ∀ message ∈ front, message.1.Aside
  aside_back : ∀ message ∈ back, message.1.Aside

section Layouts

variable {α β : Type} {reader : Message → Option β} {kind : Event → Option α} {shows : α → β}
  {o : Options} {moments : List Moment} {front back : List (Message × List Scope)}
  {entries : List Entry}

theorem aside_map_fst {messages : List (Message × List Scope)}
    (h : ∀ message ∈ messages, message.1.Aside) : ∀ m ∈ messages.map Prod.fst, m.Aside := by
  intro m hm
  obtain ⟨message, hmessage, rfl⟩ := List.mem_map.mp hm
  exact h message hmessage

theorem Layout.lines_eq (h : Layout o moments front back entries) :
    entries.filterMap Entry.traceLine? = moments.map fun moment => moment.before.trace := by
  have hblock : ∀ moment, (block o moment).filterMap Entry.traceLine? = [moment.before.trace] := by
    intro moment
    rw [block, List.filterMap_cons, traceLine?_logged]
    rfl
  rw [h.entries_eq, List.filterMap_append, List.filterMap_append, traceLine?_logged,
    traceLine?_logged, List.filterMap_flatMap, List.append_nil, List.nil_append]
  simp only [hblock]
  exact List.map_eq_flatMap.symm

/-- **A reader finds what was told in the steps**, and nothing else. -/
theorem Layout.read_eq (h : Layout o moments front back entries)
    (hreads : Reads reader kind shows) :
    (entries.filterMap Entry.message?).filterMap reader =
      (Computer.toldOf kind moments).map shows := by
  have hblock : ∀ moment, ((block o moment).filterMap Entry.message?).filterMap reader =
      (moment.events.filterMap kind).map shows := by
    intro moment
    rw [block, List.filterMap_cons, message?_logged, List.map_map]
    exact hreads.filterMap_events moment.events
  rw [h.entries_eq]
  simp only [List.filterMap_append, message?_logged, List.filterMap_flatMap, hblock,
    hreads.filterMap_aside (aside_map_fst h.aside_front),
    hreads.filterMap_aside (aside_map_fst h.aside_back), List.append_nil, List.nil_append,
    Computer.toldOf, List.map_flatMap]

/-- No message of a step comes before the next trace line of a run, or before its end. -/
theorem filterMap_heading (hreads : Reads reader kind shows)
    (haside : ∀ message ∈ back, message.1.Aside) (moments : List Moment) :
    (heading (moments.flatMap (block o) ++ logged back)).filterMap reader = [] := by
  cases moments with
  | nil =>
    have hheading : heading (logged back) = back.map Prod.fst := by
      rw [← List.append_nil (logged back), heading_logged]
      exact List.append_nil _
    rw [List.flatMap_nil, List.nil_append, hheading]
    exact hreads.filterMap_aside (aside_map_fst haside)
  | cons moment moments => rfl

/-- **Between two trace lines a reader finds what was told in the one step.** -/
theorem Layout.chapters_eq (h : Layout o moments front back entries)
    (hreads : Reads reader kind shows) :
    (chapters entries).map (fun chapter => (chapter.line, chapter.messages.filterMap reader)) =
      moments.map fun moment =>
        (moment.before.trace, (moment.events.filterMap kind).map shows) := by
  rw [h.entries_eq, chapters_logged]
  have haside := h.aside_back
  clear h
  induction moments with
  | nil =>
    rw [List.flatMap_nil, List.nil_append, ← List.append_nil (logged back), chapters_logged]
    rfl
  | cons moment moments ih =>
    rw [List.flatMap_cons, block, List.append_assoc, List.cons_append, chapters, List.map_cons,
      chapters_logged, ih, heading_logged, List.map_map, List.filterMap_append,
      filterMap_heading hreads haside, List.append_nil, List.map_cons]
    exact congrArg (fun told => (moment.before.trace, told) :: _)
      (hreads.filterMap_events moment.events)

end Layouts

section Shown

variable {o : Options} {content : Except IoError ByteArray} {p : Program}

/-- Whatever the machine tells is important enough for a verbosity of two. -/
theorem isShown_ofEvent (hverbosity : 2 ≤ o.verbosity) (event : Event) :
    (Message.ofEvent event).isShown o.verbosity = true := by
  have hmachine : (Message.ofEvent event).origin = .machine := by
    cases event <;> rfl
  have hrank : (Message.ofEvent event).level.rank ≤ 2 := by
    cases event with
    | halting => exact Nat.le_succ 1
    | executing | loading | printing | compared | jumping | settled => exact Nat.le_refl 2
  rw [Message.isShown, isShown, rank_threshold, hmachine, decide_eq_true_eq]
  exact hrank.trans (Nat.le_min.mpr ⟨hverbosity, by decide⟩)

theorem shown_momentNotes (htrace : o.trace = true) (hverbosity : 2 ≤ o.verbosity)
    (moment : Moment) : shown o (momentNotes moment) = block o moment := by
  have htraced : Note.entry? o (.traced moment.before) = some (.trace moment.before) :=
    if_pos htrace
  have htold : ∀ event, Note.entry? o (.told event) =
      some (.message (.ofEvent event) [.run o.maxSteps, .step]) := by
    intro event
    rw [entry?_of_message o rfl, if_pos (isShown_ofEvent hverbosity event)]
    rfl
  rw [shown, momentNotes, List.filterMap_cons, htraced, List.filterMap_map, block, logged,
    List.map_map]
  refine congrArg (Entry.trace moment.before :: ·) ?_
  rw [← List.filterMap_eq_map]
  exact List.filterMap_congr fun event _ => htold event

theorem shown_moments (htrace : o.trace = true) (hverbosity : 2 ≤ o.verbosity)
    (moments : List Moment) :
    shown o (moments.flatMap momentNotes) = moments.flatMap (block o) := by
  rw [shown, List.filterMap_flatMap]
  exact List.flatMap_congr fun moment _ => shown_momentNotes htrace hverbosity moment

/-- The notes that are not about a step are shown as messages, if they are. -/
theorem shown_aside (o : Options) {notes : List Note}
    (h : ∀ note ∈ notes, (∀ c, note ≠ .traced c) ∧ ∀ event, note ≠ .told event) :
    ∃ messages, shown o notes = logged messages ∧ ∀ message ∈ messages, message.1.Aside := by
  induction notes with
  | nil => exact ⟨[], rfl, nofun⟩
  | cons note notes ih =>
    obtain ⟨hnote, hnotes⟩ := List.forall_mem_cons.mp h
    obtain ⟨messages, hshown, haside⟩ := ih hnotes
    obtain ⟨c, rfl⟩ | ⟨m, hm⟩ := traced_or_message note
    · exact absurd rfl (hnote.1 c)
    · rw [shown, List.filterMap_cons, entry?_of_message o hm]
      by_cases his : m.isShown o.verbosity = true
      · refine ⟨(m, note.scopes o.maxSteps) :: messages, ?_, ?_⟩
        · rw [if_pos his]
          exact congrArg (_ :: ·) hshown
        · exact List.forall_mem_cons.mpr ⟨⟨note, hm, hnote.2⟩, haside⟩
      · rw [if_neg his]
        exact ⟨messages, hshown, haside⟩

/-- **What is shown of a run is in this order.** -/
theorem layout_entries (h : Loads content p) (hrun : o.disassemble = false)
    (htrace : o.trace = true) (hverbosity : 2 ≤ o.verbosity) (device : TextSink) (patience : Nat) :
    ∃ front back, Layout o ((Computer.ofProgram p).moments patience o.maxSteps device) front back
      (entriesOf o content device patience) := by
  have hload : ∀ note ∈ loadNotes o.input p ++ [Note.running],
      (∀ c, note ≠ .traced c) ∧ ∀ event, note ≠ .told event := by
    simp [loadNotes]
  obtain ⟨front, hfront, hasideFront⟩ := shown_aside o hload
  have hend : ∀ note ∈ endNotes (watchedRun o p device patience),
      (∀ c, note ≠ .traced c) ∧ ∀ event, note ≠ .told event := by
    rw [endNotes]
    split <;> simp
  obtain ⟨back, hback, hasideBack⟩ := shown_aside o hend
  refine ⟨front, back, ?_, hasideFront, hasideBack⟩
  have hwatched : (watchedRun o p device patience).notes = _ :=
    runWith_watch o (Computer.ofProgram p) patience o.maxSteps _ device
  rw [(watched h hrun device patience).entries_eq, hwatched, hfront, hback,
    shown_moments htrace hverbosity, List.append_assoc]

end Shown

/-! ## What a trace line shows -/

/-- The program counter in a trace line. -/
def shownPc (line : String) : Nat := readDigits 16 (pairAt line 7)

/-- The registers as a record, with the numbers that a trace line shows. -/
def shownRecord (line : String) (flags : Flags) : String :=
  "Registers \x7b gp: ["
    ++ ", ".intercalate
      (Register.all.map fun r => decimal (readDigits 16 (pairAt line (23 + 3 * r.index))))
    ++ "], pc: " ++ decimal (shownPc line) ++ ", fl: " ++ flags.text ++ " \x7d"

theorem readDigits_capitalPair (b : UInt8) : readDigits 16 (capitalPair b) = b.toNat := by
  rw [← toList_hexPair, readDigits_hexPair]

theorem shownPc_trace (c : Computer) : shownPc c.trace = c.registers.pc.toNat := by
  rw [shownPc, c.columns_trace.pc, readDigits_capitalPair]

theorem shownRecord_trace (c : Computer) :
    shownRecord c.trace c.registers.flags = c.registers.record := by
  have hregister :
      (fun r : Register => decimal (readDigits 16 (pairAt c.trace (23 + 3 * r.index)))) =
        fun r => decimal (c.registers.get r).toNat := by
    funext r
    rw [c.columns_trace.register r, readDigits_capitalPair]
  unfold shownRecord Registers.record
  rw [hregister, shownPc_trace]

/-! ## The agreement -/

/-- An entry as text, where log messages are neither coloured nor in JSON. -/
def Entry.text (verbosity : Nat) : Entry → List String
  | trace c => [c.trace]
  | message m scopes => written (m.line (scopesText verbosity scopes))

/-- The log messages and the trace lines that are shown of a run agree. -/
structure Concordant (o : Options) (r : Report) (entries : List Entry) : Prop where
  /-- They are all that is shown before the line at the end. -/
  errors_eq : r.errors = entries.flatMap (Entry.text o.verbosity) ++ r.outcome.closing.toList
  /-- The instructions that are executed are those at the program counters that are shown. -/
  executing : (∀ byte address, r.outcome ≠ .faulted (.unknownOpcode byte address)) →
    (entries.filterMap Entry.message?).filterMap Message.executing? =
      (entries.filterMap Entry.traceLine?).map shownPc
  /-- If the run ends with a byte that is no opcode, there is none for the last trace line. -/
  missing : ∀ byte address, r.outcome = .faulted (.unknownOpcode byte address) →
    ∃ front last, entries.filterMap Entry.traceLine? = front ++ [last] ∧
      (entries.filterMap Entry.message?).filterMap Message.executing? = front.map shownPc
  chapters_eq : (chapters entries).map Chapter.line = entries.filterMap Entry.traceLine?
  /-- After each trace line, and before the next one, the registers are told exactly once. -/
  settled : ∀ chapter ∈ chapters entries, ∃ state,
    chapter.messages.filterMap Message.settled? = [state]
  /-- They are told as the next trace line shows them. -/
  chain : (chapters entries).IsChain fun chapter next => ∃ flags,
    chapter.messages.filterMap Message.settled? = [shownRecord next.line flags]
  /-- A halt is told if the run is a success, once and with the number of trace lines. -/
  halting : r.outcome ≠ .unfinished →
    (entries.filterMap Entry.message?).filterMap Message.halting? =
      if r.status = 0 then [(entries.filterMap Entry.traceLine?).length] else []
  /-- Only a run without a limit may not be over. Then there has been no halt. -/
  unfinished : r.outcome = .unfinished → o.maxSteps = none ∧
    (entries.filterMap Entry.message?).filterMap Message.halting? = []

section Agreement

variable {o : Options} {content : Except IoError ByteArray} {p : Program}

theorem lines_of_plain (h : o.format = none ∨ o.format = some .plain) :
    Entry.lines o = Entry.text o.verbosity := by
  funext entry
  cases entry with
  | trace c => rfl
  | message m scopes =>
    refine if_neg fun hjson => ?_
    rw [hjson] at h
    simp at h

theorem opcodeRefused_iff (result : Option (Except Fault Unit)) :
    result.any opcodeRefused = true ↔
      ∃ byte address, Outcome.ofResult result = .faulted (.unknownOpcode byte address) := by
  rcases result with _ | fault | ⟨⟩
  · simp [Outcome.ofResult]
  · cases fault <;> simp [Outcome.ofResult, opcodeRefused, Fault.isUnknownOpcode]
  · simp [Outcome.ofResult, opcodeRefused]

theorem ofResult_eq_unfinished {result : Option (Except Fault Unit)} :
    Outcome.ofResult result = .unfinished ↔ result = none := by
  rcases result with _ | fault | ⟨⟩ <;> simp [Outcome.ofResult]

theorem status_eq_zero_iff {result : Option (Except Fault Unit)}
    (h : Outcome.ofResult result ≠ .unfinished) :
    (Outcome.ofResult result).status = 0 ↔ result = some (.ok ()) := by
  cases result with
  | none => exact absurd rfl h
  | some result =>
    rw [(status_ofResult result).1, Option.some_inj]

/-- The number of steps of a program that halts is one that the counter can hold. -/
theorem length_moments_of_halt {α : Type} (observe : α → Moment → α) (notes : α) (p : Program)
    (device : TextSink) (patience : Nat) (limit : Option UInt64)
    (h : ((Computer.ofProgram p).runWith observe patience limit notes device).result =
      some (.ok ())) :
    ((Computer.ofProgram p).moments patience limit device).length < 2 ^ 64 := by
  obtain ⟨-, -, hends⟩ := Computer.runWith_ends patience limit (Computer.ofProgram p) device
  obtain ⟨hsucceeds, hhalted⟩ := (hends α observe notes).ok_iff.mp h
  have hsupplied := Computer.supplied_of_withProgram (Computer.withProgram_bytes p)
  rw [Computer.moments_eq, List.length_map, List.length_range]
  exact Nat.lt_of_le_of_lt (Computer.halt_le hsupplied hsucceeds hhalted) (by decide)

section Told

variable {moments : List Moment} {front back : List (Message × List Scope)} {entries : List Entry}
  {c : Computer} {result : Option (Except Fault Unit)}

theorem map_shownPc (moments : List Moment) :
    (moments.map fun moment => moment.before.trace).map shownPc =
      (moments.map fun moment => moment.before.registers.pc).map UInt8.toNat := by
  simp only [List.map_map, Function.comp_def, shownPc_trace]

theorem Layout.executing_of_known (h : Layout o moments front back entries)
    (htells : c.TellsAll moments result) (hknown : result.any opcodeRefused = false) :
    (entries.filterMap Entry.message?).filterMap Message.executing? =
      (entries.filterMap Entry.traceLine?).map shownPc := by
  rw [h.read_eq reads_executing, htells.executing hknown, h.lines_eq, map_shownPc]

theorem Layout.executing_of_unknown (h : Layout o moments front back entries)
    (htells : c.TellsAll moments result) (hunknown : result.any opcodeRefused = true) :
    ∃ lines last, entries.filterMap Entry.traceLine? = lines ++ [last] ∧
      (entries.filterMap Entry.message?).filterMap Message.executing? = lines.map shownPc := by
  obtain ⟨first, last, hmoments, htold⟩ := htells.missing hunknown
  refine ⟨first.map fun moment => moment.before.trace, last.before.trace, ?_, ?_⟩
  · rw [h.lines_eq, hmoments, List.map_append, List.map_singleton]
  · rw [h.read_eq reads_executing, htold, map_shownPc]

theorem Layout.line_chapters (h : Layout o moments front back entries) :
    (chapters entries).map Chapter.line = entries.filterMap Entry.traceLine? := by
  have hfirst := congrArg (List.map Prod.fst) (h.chapters_eq reads_settled)
  rw [List.map_map, List.map_map] at hfirst
  exact hfirst.trans h.lines_eq.symm

theorem Layout.settled_once (h : Layout o moments front back entries)
    (htells : c.TellsAll moments result) :
    ∀ chapter ∈ chapters entries, ∃ state,
      chapter.messages.filterMap Message.settled? = [state] := by
  intro chapter hchapter
  have hmem := List.mem_map_of_mem (f := fun chapter : Chapter =>
    (chapter.line, chapter.messages.filterMap Message.settled?)) hchapter
  rw [h.chapters_eq reads_settled] at hmem
  obtain ⟨moment, hmoment, heq⟩ := List.mem_map.mp hmem
  obtain ⟨registers, hregisters⟩ := htells.settled moment hmoment
  refine ⟨registers.record, ?_⟩
  rw [← (Prod.mk.inj heq).2, hregisters, List.map_singleton]

theorem Layout.settled_next (h : Layout o moments front back entries)
    (htells : c.TellsAll moments result) :
    (chapters entries).IsChain fun chapter next => ∃ flags,
      chapter.messages.filterMap Message.settled? = [shownRecord next.line flags] := by
  have hchain : (moments.map fun moment =>
      (moment.before.trace, (moment.events.filterMap Event.settled?).map Registers.record)).IsChain
        fun chapter next => ∃ flags, chapter.2 = [shownRecord next.1 flags] := by
    rw [List.isChain_map]
    refine htells.chain.imp fun moment next hnext => ⟨next.before.registers.flags, ?_⟩
    rw [hnext, List.map_singleton, shownRecord_trace]
  rw [← h.chapters_eq reads_settled, List.isChain_map] at hchain
  exact hchain

/-- The number of instructions at a halt is that of the trace lines, if the counter can hold it. -/
theorem Layout.halting_eq (h : Layout o moments front back entries)
    (htells : c.TellsAll moments result) (hcycles : c.cycles = 0)
    (hlength : result = some (.ok ()) → moments.length < 2 ^ 64) :
    (entries.filterMap Entry.message?).filterMap Message.halting? =
      if result = some (.ok ()) then [(entries.filterMap Entry.traceLine?).length] else [] := by
  rw [h.read_eq reads_halting, htells.halting]
  by_cases hok : result = some (.ok ())
  · have hcount : (c.cycles + UInt64.ofNat moments.length).toNat = moments.length := by
      rw [hcycles, UInt64.zero_add, UInt64.toNat_ofNat']
      exact Nat.mod_eq_of_lt (hlength hok)
    rw [if_pos hok, if_pos hok, h.lines_eq, List.map_singleton, hcount, List.length_map]
  · rw [if_neg hok, if_neg hok]
    rfl

/-- **A run whose steps are told in this order agrees with its trace lines.** -/
theorem concordant_of_layout {r : Report} (hlayout : Layout o moments front back entries)
    (htells : c.TellsAll moments result) (houtcome : r.outcome = .ofResult result)
    (herrors : r.errors = entries.flatMap (Entry.text o.verbosity) ++ r.outcome.closing.toList)
    (hlimit : result = none → o.maxSteps = none) (hcycles : c.cycles = 0)
    (hlength : result = some (.ok ()) → moments.length < 2 ^ 64) : Concordant o r entries := by
  have hhalting := hlayout.halting_eq htells hcycles hlength
  refine ⟨herrors, fun hknown => ?_, fun byte address hunknown => ?_, hlayout.line_chapters,
    hlayout.settled_once htells, hlayout.settled_next htells, fun hover => ?_, fun hover => ?_⟩
  · refine hlayout.executing_of_known htells ?_
    rw [Bool.eq_false_iff, Ne, opcodeRefused_iff]
    rintro ⟨byte, address, h⟩
    exact hknown byte address (houtcome.trans h)
  · refine hlayout.executing_of_unknown htells ((opcodeRefused_iff result).mpr ?_)
    exact ⟨byte, address, houtcome.symm.trans hunknown⟩
  · rw [houtcome] at hover
    rw [hhalting, Report.status, houtcome]
    simp only [status_eq_zero_iff hover]
  · obtain rfl := ofResult_eq_unfinished.mp (houtcome.symm.trans hover)
    exact ⟨hlimit rfl, hhalting⟩

end Told

end Agreement

/-- **Log and trace tell the same run.** The command runs a program with trace lines and at least
twice as many log messages asked for, which are neither coloured nor in JSON. Whatever the limit is
and however the run ends, the instructions that the log messages name are those at the program
counters that the trace lines show, but for a byte that is no opcode; the registers are told once
after each trace line, as the next one shows them; and a halt is told if the command is a success,
once and with the number of trace lines. -/
theorem log_agrees_with_trace {arguments : List String} {o : Options}
    (harguments : Request.ofArguments arguments = .ok (.run o)) (hrun : o.disassemble = false)
    (htrace : o.trace = true) (hverbosity : 2 ≤ o.verbosity)
    (hformat : o.format = none ∨ o.format = some .plain)
    (read : String → Except IoError ByteArray) {p : Program} (hload : Loads (read o.input) p)
    (device : TextSink) (patience : Nat) :
    Concordant o (report arguments read device patience)
      (entriesOf o (read o.input) device patience) := by
  have hreport : report arguments read device patience =
      (perform o.toTask (read o.input) device patience).report o := by
    rw [report, harguments]
  have hwatched := watched hload hrun device patience
  have herrors := errors_report o (read o.input) device patience
  rw [← hreport] at hwatched herrors
  rw [lines_of_plain hformat] at herrors
  obtain ⟨front, back, hlayout⟩ := layout_entries hload hrun htrace hverbosity device patience
  have htells : (Computer.ofProgram p).TellsAll
      ((Computer.ofProgram p).moments patience o.maxSteps device)
      (watchedRun o p device patience).result := Computer.runWith_tells rfl patience o.maxSteps _ _
  refine concordant_of_layout hlayout htells hwatched.outcome_eq herrors (fun hnone => ?_) rfl ?_
  · exact ((Computer.runWith_counted _ _ _ _ _ _).none_iff.mp hnone).2.2.1
  · exact length_moments_of_halt _ _ p device patience o.maxSteps

/-- The program that prints 3 is executed in three steps, and the third one is a halt. -/
theorem log_agrees_with_trace_three :
    let read := fun _ : String => Except.ok (ε := IoError) threeSource.utf8Encode
    let loud : Options := { input := "p", trace := true, verbosity := 2, format := some .plain }
    let entries := entriesOf loud (read "p") {} 3
    Request.ofArguments ["p", "-Cvvt"] = .ok (.run loud) ∧ Loads (read "p") three ∧
      Concordant loud (report ["p", "-Cvvt"] read {} 3) entries ∧
      entries.filterMap Entry.traceLine? =
        ["TRACE: 00 | 82 00 03 | 00 00 00 00 00 00 00 00",
          "TRACE: 03 | 47 00 01 | 03 00 00 00 00 00 00 00",
          "TRACE: 05 | 01 00 00 | 03 00 00 00 00 00 00 00"] ∧
      (entries.filterMap Entry.message?).filterMap Message.executing? = [0, 3, 5] ∧
      (entries.filterMap Entry.message?).filterMap Message.halting? = [3] := by
  intro read loud entries
  have harguments : Request.ofArguments ["p", "-Cvvt"] = .ok (.run loud) := by rfl
  have hload : Loads (read loud.input) three := .intro (by rfl)
  have hagree : Concordant loud (report ["p", "-Cvvt"] read {} 3) entries :=
    log_agrees_with_trace harguments rfl rfl (Nat.le_refl 2) (Or.inr rfl) read hload {} 3
  obtain ⟨_, _, hlayout⟩ := layout_entries (o := loud) hload rfl rfl (Nat.le_refl 2) {} 3
  have hlines : entries.filterMap Entry.traceLine? =
      ["TRACE: 00 | 82 00 03 | 00 00 00 00 00 00 00 00",
        "TRACE: 03 | 47 00 01 | 03 00 00 00 00 00 00 00",
        "TRACE: 05 | 01 00 00 | 03 00 00 00 00 00 00 00"] := by
    rw [hlayout.lines_eq]
    rfl
  have hdone : (report ["p", "-Cvvt"] read {} 3).outcome = .done := by
    have hreport : report ["p", "-Cvvt"] read {} 3 =
        (perform loud.toTask (read loud.input) {} 3).report loud := by
      rw [report, harguments]
    have hresult : (watchedRun loud three {} 3).result = some (.ok ()) := by rfl
    rw [hreport, (watched hload rfl {} 3).outcome_eq, hresult]
    rfl
  have hknown : ∀ byte address,
      (report ["p", "-Cvvt"] read {} 3).outcome ≠ .faulted (.unknownOpcode byte address) := by
    intro byte address h
    cases hdone.symm.trans h
  have hover : (report ["p", "-Cvvt"] read {} 3).outcome ≠ .unfinished := by
    intro h
    cases hdone.symm.trans h
  refine ⟨harguments, hload, hagree, hlines, ?_, ?_⟩
  · rw [hagree.executing hknown, hlines]
    decide
  · rw [hagree.halting hover, Report.status, hdone, hlines]
    rfl

end LS8.Command
