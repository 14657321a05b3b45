import LS8.Command.Report
import LS8.Proofs.Lines
import LS8.Proofs.Output

/-!
# The command and the machine

The command loads a program and lists it or runs it, and what it leaves behind is what loading,
listing and running come to by themselves.

* `Loads`, `Unloadable`, **`loads_or_unloadable`**: whether a file holds a program;
* `perform_of_unloadable`, `perform_of_listed`, `perform_of_run`: the stages of the work that are
  gone through;
* `momentNotes`, **`notes_runWith`**: what is noted about a run, moment by moment;
* `Outcome.ofResult`, `endNotes`, **`report_conclude`**: what becomes of the end of a run;
* `lines_of_quiet`: without more verbosity only trace lines are shown;
* **`headline_isPrefix`**: a message about a program begins with its headline;
* `TellsRefusal`, `TellsListing`, `TellsRun`: reports that tell why there is no program, what was
  listed, or how the machine ran;
* **`report_faithful`**: exit status and output of the command are those of the machine.
-/

set_option autoImplicit false

namespace LS8.Command

open Listing (disassemble failures)

/-! ## Loading -/

/-- A file, of which this is what reading it gave, holds the source text of a program. -/
inductive Loads : Except IoError ByteArray → Program → Prop
  | intro {source : List Char} {p : Program} (parsed : Program.parse source = .ok p) :
    Loads (.ok source.utf8Encode) p

/-- A file, of which this is what reading it gave, holds no program. -/
inductive Unloadable : Except IoError ByteArray → Prop
  | unreadable (cause : IoError) : Unloadable (.error cause)
  | notUtf8 {bytes : ByteArray} (invalid : ¬ bytes.IsValidUTF8) : Unloadable (.ok bytes)
  | rejected {source : List Char} {cause : LoadError}
    (rejected : Program.parse source = .error cause) : Unloadable (.ok source.utf8Encode)

section Loading

variable {content : Except IoError ByteArray} {p : Program}

/-- **A file holds a program or it does not.** -/
theorem loads_or_unloadable (content : Except IoError ByteArray) :
    (∃ p, Loads content p) ∨ Unloadable content := by
  cases content with
  | error cause => exact Or.inr (.unreadable cause)
  | ok bytes =>
    by_cases hvalid : bytes.IsValidUTF8
    · obtain ⟨source, rfl⟩ := hvalid
      cases hparse : Program.parse source with
      | ok p => exact Or.inl ⟨p, .intro hparse⟩
      | error cause => exact Or.inr (.rejected hparse)
    · exact Or.inr (.notUtf8 hvalid)

theorem ofFile_utf8Encode (path : String) (source : List Char) :
    Program.ofFile path (.ok source.utf8Encode) = Program.parse source := by
  have htext : String.fromUTF8? source.utf8Encode = some (String.ofList source) := by
    rw [String.fromUTF8?, dif_pos ⟨source, rfl⟩, Option.some_inj, ← String.toByteArray_inj,
      String.toByteArray_ofList]
    rfl
  simp only [Program.ofFile, htext, String.toList_ofList]

theorem ofFile_of_loads (path : String) (h : Loads content p) :
    Program.ofFile path content = .ok p := by
  obtain ⟨hparse⟩ := h
  rw [ofFile_utf8Encode, hparse]

theorem ofFile_of_unloadable (path : String) (h : Unloadable content) :
    ∃ cause, Program.ofFile path content = .error cause := by
  cases h with
  | unreadable cause => exact ⟨.unreadable path cause, rfl⟩
  | notUtf8 invalid =>
    exact ⟨.unreadable path .notUtf8, by simp [Program.ofFile, String.fromUTF8?, invalid]⟩
  | @rejected _ cause rejected => exact ⟨cause, by rw [ofFile_utf8Encode, rejected]⟩

theorem Loads.not_unloadable (h : Loads content p) : ¬ Unloadable content := by
  intro hu
  obtain ⟨cause, hcause⟩ := ofFile_of_unloadable "" hu
  rw [ofFile_of_loads "" h] at hcause
  cases hcause

end Loading

/-! ## The stages of the work -/

section Stages

variable {task : Task} {content : Except IoError ByteArray} {p : Program}

theorem perform_of_unloadable (h : Unloadable content) (task : Task) (device : TextSink)
    (patience : Nat) :
    ∃ cause, perform task content device patience =
      ⟨.unloaded cause, "", #[.reading task.input]⟩ := by
  obtain ⟨cause, hcause⟩ := ofFile_of_unloadable task.input h
  refine ⟨cause, ?_⟩
  rw [perform, prepare, load, hcause]

/-- What is noted about a program that was loaded. -/
def loadNotes (path : String) (p : Program) : List Note :=
  [.reading path, .parsed p.size, .loaded p.size]

theorem load_of_loads (h : Loads content p) (path : String) :
    load path content = (.ok p, (loadNotes path p).toArray) := by
  rw [load, ofFile_of_loads path h]
  rfl

theorem perform_of_listed (h : Loads content p) (hlist : task.disassemble = true)
    (device : TextSink) (patience : Nat) :
    perform task content device patience = list (loadNotes task.input p).toArray device p := by
  rw [perform, prepare, load_of_loads h]
  simp only [hlist, if_true]

theorem perform_of_run (h : Loads content p) (hrun : task.disassemble = false) (device : TextSink)
    (patience : Nat) :
    perform task content device patience =
      conclude ((Computer.ofProgram p).runWith observe patience task.maxSteps
        (loadNotes task.input p ++ [Note.running]).toArray device) := by
  rw [perform, prepare_of_loaded (load_of_loads h task.input) hrun]
  rfl

end Stages

/-! ## Notes about a run -/

/-- What is noted about a step of a run. -/
def momentNotes (moment : Moment) : List Note := .traced moment.before :: moment.events.map .told

theorem toList_foldl_observe (notes : Array Note) (moments : List Moment) :
    (moments.foldl observe notes).toList = notes.toList ++ moments.flatMap momentNotes := by
  induction moments generalizing notes with
  | nil => exact (List.append_nil _).symm
  | cons moment moments ih =>
    rw [List.foldl_cons, ih, List.flatMap_cons, observe, momentNotes]
    simp

/-- **A run is noted moment by moment.** -/
theorem notes_runWith (c : Computer) (patience : Nat) (limit : Option UInt64) (notes : Array Note)
    (device : TextSink) :
    (c.runWith observe patience limit notes device).notes.toList =
      notes.toList ++ (c.moments patience limit device).flatMap momentNotes := by
  obtain ⟨_, _, hends⟩ := Computer.runWith_ends patience limit c device
  rw [(hends _ observe notes).notes_eq, Computer.told, ← Computer.moments_eq, toList_foldl_observe]

section Endings

variable {α : Type}

/-- How the work ends with a run that has come to a result. -/
def Outcome.ofResult : Option (Except Fault Unit) → Outcome
  | none => .unfinished
  | some (.ok ()) => .done
  | some (.error fault) => .faulted fault

/-- What is noted about the end of a run. -/
def endNotes (run : Run TextSink α) : List Note :=
  match run.result with
  | none => []
  | some (.ok ()) => [.ended run.computer.cycles run.computer.registers]
  | some (.error fault) => [.failed fault]

theorem outcome_conclude (run : Run TextSink (Array Note)) :
    (conclude run).outcome = .ofResult run.result := by
  unfold conclude
  rcases run.result with _ | ⟨fault⟩ | ⟨⟩ <;> rfl

theorem output_conclude (run : Run TextSink (Array Note)) :
    (conclude run).output = run.sink.text := by
  unfold conclude
  split <;> rfl

theorem notes_conclude (run : Run TextSink (Array Note)) :
    (conclude run).notes.toList = run.notes.toList ++ endNotes run := by
  unfold conclude endNotes
  rcases run.result with _ | ⟨fault⟩ | ⟨⟩ <;> simp

/-- **The report of a run** holds how it ended, what was printed, and what was noted. -/
theorem report_conclude (o : Options) (run : Run TextSink (Array Note)) :
    (conclude run).report o =
      ⟨.ofResult run.result, run.sink.text,
        (run.notes.toList ++ endNotes run).flatMap (Note.lines o) ++
          (Outcome.ofResult run.result).closing.toList⟩ := by
  rw [Transcript.report, outcome_conclude, output_conclude, notes_conclude]

theorem endNotes_ne_traced (run : Run TextSink α) :
    ∀ note ∈ endNotes run, ∀ c, note ≠ .traced c := by
  rw [endNotes]
  split <;> simp

/-- **The status tells a success, an exceeded limit and any other fault apart.** -/
theorem status_ofResult (result : Except Fault Unit) :
    ((Outcome.ofResult (some result)).status = 0 ↔ result = .ok ()) ∧
      ((Outcome.ofResult (some result)).status = 3 ↔
        ∃ steps, result = .error (.stepLimit steps)) ∧
      ((Outcome.ofResult (some result)).status = 1 ↔
        ∃ fault, result = .error fault ∧ ∀ steps, fault ≠ .stepLimit steps) := by
  rcases result with fault | ⟨⟩
  · cases fault <;> simp [Outcome.ofResult, Outcome.status]
  · simp [Outcome.ofResult, Outcome.status]

theorem status_ofResult_ne_two (result : Option (Except Fault Unit)) :
    (Outcome.ofResult result).status ≠ 2 := by
  rcases result with _ | fault | ⟨⟩
  · decide
  · cases fault <;> simp [Outcome.ofResult, Outcome.status]
  · simp [Outcome.ofResult, Outcome.status]

end Endings

/-! ## Quiet reports -/

section Quiet

variable {o : Options} {note : Note} {m : Message}

theorem level_ne_warn (h : note.message? = some m) : m.level ≠ .warn := by
  cases note with
  | traced c => cases h
  | told event =>
    obtain rfl := Option.some.inj h
    cases event <;> simp [Message.ofEvent]
  | _ =>
    obtain rfl := Option.some.inj h
    simp

/-- Without more verbosity no note is shown but as a trace line. -/
theorem lines_of_quiet (h : o.verbosity = 0) (hnote : ∀ c, note ≠ .traced c) :
    note.lines o = [] := by
  have hlog : note.logLines o = [] := by
    rw [Note.logLines]
    cases hm : note.message? with
    | none => rfl
    | some m =>
      refine if_neg ?_
      rw [h, Message.isShown, isShown, rank_threshold]
      have hlevel := level_ne_warn hm
      cases hl : m.level with
      | warn => exact absurd hl hlevel
      | info | debug | trace => cases m.origin <;> decide
  cases note with
  | traced c => exact absurd rfl (hnote c)
  | _ =>
    simp only [Note.lines, hlog, ite_self]

theorem flatMap_lines_of_quiet (h : o.verbosity = 0) {notes : List Note}
    (hnotes : ∀ note ∈ notes, ∀ c, note ≠ .traced c) : notes.flatMap (Note.lines o) = [] :=
  List.flatMap_eq_nil_iff.mpr fun note hnote => lines_of_quiet h (hnotes note hnote)

theorem momentNotes_of_quiet (h : o.verbosity = 0) (moments : List Moment) :
    (moments.flatMap momentNotes).flatMap (Note.lines o) =
      if o.trace then moments.map fun moment => moment.before.trace else [] := by
  have hmoment : ∀ moment : Moment, (momentNotes moment).flatMap (Note.lines o) =
      if o.trace then [moment.before.trace] else [] := by
    intro moment
    rw [momentNotes, List.flatMap_cons, flatMap_lines_of_quiet h (by simp), List.append_nil]
    rfl
  rw [List.flatMap_assoc]
  simp only [hmoment]
  cases o.trace with
  | true => exact List.map_eq_flatMap.symm
  | false => simp

end Quiet

/-! ## Headlines -/

/-- **A message about a program begins with its headline**, which is a line. -/
theorem headline_isPrefix (message : String) :
    (Outcome.headline message).toList <+: message.toList ∧
      '\n' ∉ (Outcome.headline message).toList := by
  have hline : (Outcome.headline message).toList <+: message.toList.takeWhile (· ≠ '\n') := by
    rw [Outcome.headline, String.toList_ofList]
    exact (Source.chomp_isPrefix _).trans (firstLine_isPrefix _ _)
  refine ⟨hline.trans (List.takeWhile_prefix _), fun hmem => ?_⟩
  have hall := List.all_eq_true.mp List.all_takeWhile _ (hline.subset hmem)
  exact absurd rfl (of_decide_eq_true hall)

/-! ## Reports -/

/-- The report tells why there is no program in the file. -/
structure TellsRefusal (o : Options) (r : Report) : Prop where
  status_eq : r.status = 2
  output_eq : r.output = ""
  errors_eq : r.errors = Note.lines o (.reading o.input) ++ r.outcome.closing.toList
  /-- The line at the end has the wording of the cause, as far as there is room for it. -/
  closing : ∃ cause line, r.outcome = .unloaded cause ∧
    r.outcome.closing = some ("load error: " ++ line) ∧
    line.toList <+: cause.message.toList ∧ '\n' ∉ line.toList

/-- The report tells how the program was listed. -/
structure TellsListing (o : Options) (p : Program) (r : Report) : Prop where
  status_eq : r.status = 0
  output_eq : r.output = String.join ((disassemble p.bytes).map fun line => line.text ++ "\n")
  /-- Nothing is said of an execution. -/
  errors_eq : r.errors =
    (loadNotes o.input p ++
      (failures p.bytes).map fun f => Note.undecodable f.1 f.2).flatMap (Note.lines o)

/-- The report tells how the machine ran with the program. -/
structure TellsRun (o : Options) (p : Program) (c : Computer) (device : TextSink) (patience : Nat)
    (r : Report) : Prop where
  /-- The work ends as the run does, whoever observes it. -/
  outcome_eq : ∀ {α : Type} (observe : α → Moment → α) (notes : α),
    r.outcome = .ofResult (c.runWith observe patience o.maxSteps notes device).result
  status_iff : ∀ {α : Type} (observe : α → Moment → α) (notes : α) (result : Except Fault Unit),
    (c.runWith observe patience o.maxSteps notes device).result = some result →
      (r.status = 0 ↔ result = .ok ()) ∧
      (r.status = 3 ↔ ∃ steps, result = .error (.stepLimit steps)) ∧
      (r.status = 1 ↔ ∃ fault, result = .error fault ∧ ∀ steps, fault ≠ .stepLimit steps)
  /-- Only a run without a limit may not be over. -/
  limit_of_none : ∀ {α : Type} (observe : α → Moment → α) (notes : α),
    (c.runWith observe patience o.maxSteps notes device).result = none → o.maxSteps = none
  /-- What was printed are the values that the standard output has accepted. -/
  output_eq : r.output = valuesText (c.printed patience o.maxSteps device)
  output_of_full : device.room = some 0 → r.output = ""
  /-- If it accepts everything, these are the values that a run puts into a sink for values. -/
  values_eq : device.room = none → ∀ {α : Type} (observe : α → Moment → α) (notes : α),
    let run := c.runWith observe patience o.maxSteps notes ({} : ValueSink)
    r.outcome = .ofResult run.result ∧ r.output = valuesText run.sink.values.toList
  /-- There is a trace line for each computer that was inspected, and for no other. -/
  errors_eq : ∀ {α : Type} (observe : α → Moment → α) (notes : α),
    r.errors =
      (loadNotes o.input p ++ [Note.running] ++
        (c.moments patience o.maxSteps device).flatMap momentNotes ++
        endNotes (c.runWith observe patience o.maxSteps notes device)).flatMap (Note.lines o) ++
      r.outcome.closing.toList
  /-- Without more verbosity the trace is all there is on the standard error before the end. -/
  errors_of_quiet : o.verbosity = 0 → r.errors =
    (if o.trace then (c.moments patience o.maxSteps device).map fun moment => moment.before.trace
      else []) ++ r.outcome.closing.toList

section Reports

variable {o : Options} {content : Except IoError ByteArray} {p : Program} {device : TextSink}

theorem tellsRefusal (h : Unloadable content) (o : Options) (device : TextSink) (patience : Nat) :
    TellsRefusal o ((perform o.toTask content device patience).report o) := by
  obtain ⟨cause, hperform⟩ := perform_of_unloadable h o.toTask device patience
  obtain ⟨hbegins, hline⟩ := headline_isPrefix cause.message
  rw [hperform]
  refine ⟨rfl, rfl, ?_, cause, Outcome.headline cause.message, rfl, rfl, hbegins, hline⟩
  simp [Transcript.report]

theorem tellsListing (h : Loads content p) (hlist : o.disassemble = true)
    (hempty : device.text = "") (hroom : device.room = none) (patience : Nat) :
    TellsListing o p ((perform o.toTask content device patience).report o) := by
  rw [perform_of_listed h hlist, list, TextSink.write_of_room_none hroom]
  refine ⟨rfl, ?_, ?_⟩
  · have htext : device.text ++ String.ofList (listingText p).toList = listingText p := by
      rw [hempty, String.ofList_toList, String.empty_append]
    rw [Transcript.report, TextSink.put, htext, listingText, textOf, List.map_map]
    rfl
  · simp [Transcript.report, Outcome.closing]

theorem tellsRun (o : Options) (p : Program) (c : Computer) (hempty : device.text = "")
    (hroom : device.room = none ∨ device.room = some 0) (patience : Nat) :
    TellsRun o p c device patience
      ((conclude (c.runWith observe patience o.maxSteps
        (loadNotes o.input p ++ [Note.running]).toArray device)).report o) := by
  rw [report_conclude, notes_runWith, TextSink.text_of_room hroom, hempty, String.empty_append]
  -- Another observer is told about the same run.
  have hsame : ∀ {α : Type} (observe' : α → Moment → α) (notes' : α),
      c.runWith observe patience o.maxSteps (loadNotes o.input p ++ [Note.running]).toArray device =
        (c.runWith observe' patience o.maxSteps notes' device).withNotes _ :=
    fun observe' notes' => c.runWith_withNotes observe' observe patience o.maxSteps notes' _ device
  refine ⟨fun observe' notes' => ?_, fun observe' notes' result hr => ?_,
    fun observe' notes' hr => ?_, rfl, fun hfull => ?_, fun hendless α observe' notes' => ?_,
    fun observe' notes' => ?_, fun hquiet => ?_⟩
  · rw [hsame observe' notes']
    rfl
  · rw [hsame observe' notes']
    simp only [Run.withNotes, hr]
    exact status_ofResult result
  · exact ((c.runWith_counted device patience o.maxSteps observe' notes').none_iff.mp hr).2.2.1
  · have hprinted := (TextSink.text_of_full hfull observe patience o.maxSteps #[] c).2
    simp only [hprinted]
    rfl
  · have hvalues : SameValues device {} := ⟨hendless, rfl, hempty⟩
    obtain ⟨t, ht, hrun⟩ := runWith_values hvalues observe' patience o.maxSteps notes' c
    have htext := TextSink.text_of_endless hendless observe' patience o.maxSteps notes' c
    rw [hempty, String.empty_append, ht.text_eq] at htext
    rw [hsame observe' notes']
    simp only [hrun]
    exact ⟨rfl, htext.symm⟩
  · rw [hsame observe' notes']
    rfl
  · have hload : ∀ note ∈ loadNotes o.input p ++ [Note.running], ∀ c, note ≠ .traced c := by
      simp [loadNotes]
    simp only [List.flatMap_append, momentNotes_of_quiet hquiet]
    rw [← List.flatMap_append, flatMap_lines_of_quiet hquiet hload,
      flatMap_lines_of_quiet hquiet (endNotes_ne_traced _), List.nil_append, List.append_nil]

theorem report_of_run (h : Loads content p) (hrun : o.disassemble = false)
    (hempty : device.text = "") (hroom : device.room = none ∨ device.room = some 0)
    (patience : Nat) :
    ((perform o.toTask content device patience).report o).status ≠ 2 ∧
      TellsRun o p (Computer.ofProgram p) device patience
        ((perform o.toTask content device patience).report o) := by
  rw [perform_of_run h hrun]
  refine ⟨?_, tellsRun o p _ hempty hroom patience⟩
  rw [report_conclude]
  exact status_ofResult_ne_two _

end Reports

/-- **Exit status and output of the command are those of the machine.** The standard output takes
everything, or in a run nothing. Then the status is 2 exactly if there is no program in the file,
and nothing is printed. Otherwise the program is listed and nothing else is done, or it fits into
the memory, is run, and the status is that of the run. -/
theorem report_faithful {arguments : List String} {o : Options}
    (harguments : Request.ofArguments arguments = .ok (.run o))
    (read : String → Except IoError ByteArray) {device : TextSink} (hempty : device.text = "")
    (hroom : device.room = none ∨ o.disassemble = false ∧ device.room = some 0) (patience : Nat) :
    let r := report arguments read device patience
    (r.status = 2 ↔ Unloadable (read o.input)) ∧
      (Unloadable (read o.input) → r.output = "") ∧
      (¬ Unloadable (read o.input) ↔ ∃ p, Loads (read o.input) p) ∧
      ∀ p, Loads (read o.input) p →
        (o.disassemble = true → TellsListing o p r) ∧
        (o.disassemble = false → ∃ c, Computer.withProgram p.bytes = .ok c ∧
          c.memory.bytes = p.bytes ++ List.replicate (256 - p.bytes.length) 0 ∧
          TellsRun o p c device patience r) := by
  have hr : report arguments read device patience =
      (perform o.toTask (read o.input) device patience).report o := by
    rw [report, harguments]
  rw [hr]
  intro r
  have hlist : ∀ p, Loads (read o.input) p → o.disassemble = true → TellsListing o p r :=
    fun p hp hlist => tellsListing hp hlist hempty (hroom.resolve_right (by simp [hlist])) patience
  have hrun : ∀ p, Loads (read o.input) p → o.disassemble = false →
      r.status ≠ 2 ∧ TellsRun o p (Computer.ofProgram p) device patience r :=
    fun p hp hrun => report_of_run hp hrun hempty (hroom.imp_right And.right) patience
  refine ⟨⟨fun hstatus => ?_, fun hu => (tellsRefusal hu o device patience).status_eq⟩,
    fun hu => (tellsRefusal hu o device patience).output_eq,
    ⟨(loads_or_unloadable _).resolve_right, fun ⟨_, hp⟩ => hp.not_unloadable⟩,
    fun p hp => ⟨hlist p hp, fun hfalse => ?_⟩⟩
  · obtain ⟨p, hp⟩ | hu := loads_or_unloadable (read o.input)
    · cases hd : o.disassemble with
      | true => exact absurd ((hlist p hp hd).status_eq.symm.trans hstatus) (by decide)
      | false => exact absurd hstatus (hrun p hp hd).1
    · exact hu
  · exact ⟨Computer.ofProgram p, Computer.withProgram_bytes p, Computer.bytes_ofProgram p,
      (hrun p hp hfalse).2⟩

/-- A source text: put 3 into `r0`, print it, halt. -/
def threeSource : List Char :=
  "10000010 # ldi\n00000000\n00000011\n01000111 # prn\n00000000\n00000001 # hlt\n".toList

/-- The bytes of the source text. -/
def three : Program where
  bytes := [0x82, 0, 3, 0x47, 0, 1]
  fits := by decide

/-- The value is printed, and there are three trace lines. -/
theorem report_three :
    Request.ofArguments ["-t", "p"] = .ok (.run { input := "p", trace := true }) ∧
      let r := report ["-t", "p"] (fun _ => .ok threeSource.utf8Encode) {} 3
      r.status = 0 ∧ r.output = "3\n" ∧
        r.errors =
          ["TRACE: 00 | 82 00 03 | 00 00 00 00 00 00 00 00",
            "TRACE: 03 | 47 00 01 | 03 00 00 00 00 00 00 00",
            "TRACE: 05 | 01 00 00 | 03 00 00 00 00 00 00 00"] := by
  have harguments : Request.ofArguments ["-t", "p"] =
      .ok (.run { input := "p", trace := true }) := by rfl
  have hempty : ({} : TextSink).text = "" := rfl
  obtain ⟨_, _, _, hloads⟩ :=
    report_faithful harguments (fun _ => .ok threeSource.utf8Encode) hempty (Or.inl rfl) 3
  obtain ⟨c, hc, _, htells⟩ := (hloads three (.intro (by rfl))).2 rfl
  rw [Computer.withProgram_bytes] at hc
  obtain rfl := Except.ok.inj hc
  have hresult : ((Computer.ofProgram three).runWith (fun n _ => n + 1) 3 none 0
      ({} : TextSink)).result = some (.ok ()) := by rfl
  have hprinted : (Computer.ofProgram three).printed 3 none ({} : TextSink) = [3] := by rfl
  have htrace : ((Computer.ofProgram three).moments 3 none ({} : TextSink)).map
      (fun moment => moment.before.trace) =
        ["TRACE: 00 | 82 00 03 | 00 00 00 00 00 00 00 00",
          "TRACE: 03 | 47 00 01 | 03 00 00 00 00 00 00 00",
          "TRACE: 05 | 01 00 00 | 03 00 00 00 00 00 00 00"] := by rfl
  have houtcome := htells.outcome_eq (fun n _ => n + 1) 0
  refine ⟨harguments, ((htells.status_iff _ _ _ hresult).1).mpr rfl, ?_, ?_⟩
  · rw [htells.output_eq, hprinted]
    rfl
  · rw [htells.errors_of_quiet rfl, houtcome]
    simp only [if_true, htrace, hresult]
    rfl

end LS8.Command
