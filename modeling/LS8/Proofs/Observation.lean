import LS8.Proofs.Status
import Mathlib.Data.List.Basic

/-!
# Watching the work

How much is shown of the work has no part in it.

* `Setting.isDisplay`, `work`: the settings that say what is to be done;
* `Accepted`: arguments, the settings they make and what these ask for together;
* **`toTask_of_work`**: the task is made by the settings that say what is to be done;
* `Entry`, `shown`, `flatMap_lines`: what is shown of notes, before it is written out;
* `traceLines_shown`, `messages_shown`, **`messages_sublist`**: the trace lines and the log messages
  among them;
* `watch`, **`runWith_watch`**: the machine under an observer that shows no more than is asked for;
* **`report_unobserved`**: reports of the same work differ in what is shown of it only, and a higher
  verbosity shows more of the same messages.
-/

set_option autoImplicit false

namespace LS8.Command

/-! ## Settings -/

/-- Whether a setting only says what is shown. -/
def Setting.isDisplay : Setting → Bool
  | .verbose | .format _ | .trace => true
  | .disassemble | .maxSteps _ | .input _ => false

/-- The settings that say what is to be done. -/
def work (settings : List Setting) : List Setting := settings.filter (!·.isDisplay)

/-- The task with one more setting. -/
def Task.add (task : Task) : Setting → Task
  | .disassemble => { task with disassemble := true }
  | .maxSteps limit => { task with maxSteps := some limit }
  | .input path => { task with input := path }
  | .verbose | .format _ | .trace => task

/-- Arguments that are accepted make these settings, which ask for these options. -/
structure Accepted (arguments : List String) (settings : List Setting) (o : Options) : Prop where
  read_eq : readArguments [] arguments = .ok (.settings settings)
  options_eq : Options.ofSettings settings = .ok o

section Settings

variable {settings settings' : List Setting} {o o' : Options}

theorem Accepted.request_eq {arguments : List String} (h : Accepted arguments settings o) :
    Request.ofArguments arguments = .ok (.run o) := by
  rw [Request.ofArguments, h.read_eq]
  simp only [h.options_eq, Except.map]

theorem Accepted.report_eq {arguments : List String} (h : Accepted arguments settings o)
    (read : String → Except IoError ByteArray) (device : TextSink) (patience : Nat) :
    report arguments read device patience =
      (perform o.toTask (read o.input) device patience).report o := by
  rw [report, h.request_eq]

theorem add_eq_ok {s : Setting} (h : o.add s = .ok o') :
    o'.toTask = o.toTask.add s ∧ o'.verbosity = o.verbosity + [s].count .verbose ∧
      (o'.trace = true ↔ o.trace = true ∨ .trace = s) := by
  cases s with
  | format f =>
    rw [Options.add] at h
    split at h
    · cases h
    · cases h
      simp [Task.add]
  | verbose | trace | disassemble | maxSteps | input =>
    cases h
    simp [Task.add]

theorem foldlM_add (h : settings.foldlM Options.add o = .ok o') :
    o'.toTask = settings.foldl Task.add o.toTask ∧
      o'.verbosity = o.verbosity + settings.count .verbose ∧
      (o'.trace = true ↔ o.trace = true ∨ .trace ∈ settings) := by
  induction settings generalizing o with
  | nil =>
    cases h
    simp
  | cons s settings ih =>
    rw [List.foldlM_cons] at h
    cases hs : o.add s with
    | error e =>
      rw [hs] at h
      cases h
    | ok next =>
      rw [hs] at h
      obtain ⟨htask, hverbosity, htrace⟩ := add_eq_ok hs
      obtain ⟨htask', hverbosity', htrace'⟩ := ih h
      refine ⟨?_, ?_, ?_⟩
      · rw [htask', htask, List.foldl_cons]
      · rw [hverbosity', hverbosity, ← List.singleton_append (l := settings), List.count_append]
        omega
      · rw [htrace', htrace, List.mem_cons, or_assoc]

theorem input?_work (settings : List Setting) :
    Options.input? (work settings) = Options.input? settings := by
  rw [Options.input?, work, ← List.head?_filterMap, List.filterMap_filter, List.head?_filterMap,
    Options.input?]
  congr 1
  funext s
  cases s <;> rfl

theorem foldl_work (task : Task) (settings : List Setting) :
    (work settings).foldl Task.add task = settings.foldl Task.add task := by
  rw [work, List.foldl_filter]
  congr 1
  funext task s
  cases s <;> rfl

theorem exists_input (h : Options.ofSettings settings = .ok o) :
    ∃ input, Options.input? settings = some input ∧
      settings.foldlM Options.add { input } = .ok o := by
  rw [Options.ofSettings] at h
  split at h
  · cases h
  · next input hinput => exact ⟨input, hinput, h⟩

/-- **The task is made by the settings that say what is to be done**, whatever else there is. -/
theorem toTask_of_work (h : Options.ofSettings settings = .ok o)
    (h' : Options.ofSettings settings' = .ok o') (hwork : work settings = work settings') :
    o.toTask = o'.toTask := by
  obtain ⟨input, hinput, hfold⟩ := exists_input h
  obtain ⟨input', hinput', hfold'⟩ := exists_input h'
  rw [← input?_work, hwork, input?_work, hinput', Option.some_inj] at hinput
  subst hinput
  rw [(foldlM_add hfold).1, (foldlM_add hfold').1, ← foldl_work, hwork, foldl_work]

theorem verbosity_eq (h : Options.ofSettings settings = .ok o) :
    o.verbosity = settings.count .verbose := by
  obtain ⟨input, -, hfold⟩ := exists_input h
  simpa using (foldlM_add hfold).2.1

theorem trace_iff (h : Options.ofSettings settings = .ok o) :
    o.trace = true ↔ .trace ∈ settings := by
  obtain ⟨input, -, hfold⟩ := exists_input h
  simpa using (foldlM_add hfold).2.2

end Settings

/-! ## What is shown of notes -/

/-- What is shown on the standard error, before it is written out. -/
inductive Entry
  /-- The trace line of a computer. -/
  | trace (c : Computer)
  /-- A log message and the work it belongs to. -/
  | message (m : Message) (scopes : List Scope)

namespace Entry

/-- The lines of an entry. Log messages in JSON have none, and those in colour are without the codes
of the colours. -/
def lines (o : Options) : Entry → List String
  | trace c => [c.trace]
  | message m scopes =>
    if o.format = some .json then [] else written (m.line (scopesText o.verbosity scopes))

/-- The entry as a trace line. -/
def traceLine? : Entry → Option String
  | trace c => some c.trace
  | message _ _ => none

/-- The entry as a log message, without the work it belongs to. -/
def message? : Entry → Option Message
  | trace _ => none
  | message m _ => some m

end Entry

/-- The trace line of a note. -/
def Note.traceLine? : Note → Option String
  | .traced c => some c.trace
  | _ => none

/-- What is shown of a note. -/
def Note.entry? (o : Options) (note : Note) : Option Entry :=
  match note with
  | .traced c => if o.trace then some (.trace c) else none
  | note =>
    note.message?.bind fun m =>
      if m.isShown o.verbosity then some (.message m (note.scopes o.maxSteps)) else none

/-- What is shown of notes, in their order. -/
def shown (o : Options) (notes : List Note) : List Entry := notes.filterMap (Note.entry? o)

section Shown

variable {o o' : Options} {note : Note} {m : Message}

theorem traced_or_message (note : Note) :
    (∃ c, note = .traced c) ∨ ∃ m, note.message? = some m := by
  cases note with
  | traced c => exact Or.inl ⟨c, rfl⟩
  | _ =>
    exact Or.inr ⟨_, rfl⟩

theorem entry?_of_message (o : Options) (h : note.message? = some m) :
    note.entry? o =
      if m.isShown o.verbosity then some (.message m (note.scopes o.maxSteps)) else none := by
  cases note with
  | traced c => cases h
  | _ =>
    simp only [Note.entry?, h, Option.bind_some]

theorem lines_of_message (o : Options) (h : note.message? = some m) :
    note.lines o = if o.format = some .json then [] else note.logLines o := by
  cases note with
  | traced c => cases h
  | _ => rfl

theorem traceLine?_of_message (h : note.message? = some m) : note.traceLine? = none := by
  cases note with
  | traced c => cases h
  | _ => rfl

theorem lines_eq_entry (o : Options) (note : Note) :
    note.lines o = (note.entry? o).toList.flatMap (Entry.lines o) := by
  obtain ⟨c, rfl⟩ | ⟨m, hm⟩ := traced_or_message note
  · by_cases ht : o.trace = true
    · simp [Note.lines, Note.entry?, Entry.lines, ht]
    · simp [Note.lines, Note.entry?, ht]
  · rw [lines_of_message o hm, entry?_of_message o hm, Note.logLines, hm]
    by_cases hshown : m.isShown o.verbosity = true
    · simp [Entry.lines, hshown]
    · simp [hshown]

theorem flatMap_lines (o : Options) (notes : List Note) :
    notes.flatMap (Note.lines o) = (shown o notes).flatMap (Entry.lines o) := by
  induction notes with
  | nil => rfl
  | cons note notes ih =>
    rw [List.flatMap_cons, ih, lines_eq_entry, shown, shown, List.filterMap_cons]
    cases note.entry? o <;> simp

theorem shown_append (o : Options) (notes more : List Note) :
    shown o (notes ++ more) = shown o notes ++ shown o more :=
  List.filterMap_append

theorem traceLines_shown (h : o.trace = true) (notes : List Note) :
    (shown o notes).filterMap Entry.traceLine? = notes.filterMap Note.traceLine? := by
  have hnote : ∀ note : Note, (note.entry? o).bind Entry.traceLine? = note.traceLine? := by
    intro note
    obtain ⟨c, rfl⟩ | ⟨m, hm⟩ := traced_or_message note
    · simp [Note.entry?, Entry.traceLine?, Note.traceLine?, h]
    · rw [entry?_of_message o hm, traceLine?_of_message hm]
      split <;> rfl
  simp only [shown, List.filterMap_filterMap, hnote]

theorem messages_shown (o : Options) (notes : List Note) :
    (shown o notes).filterMap Entry.message? =
      (notes.filterMap Note.message?).filter (Message.isShown o.verbosity) := by
  have hnote : ∀ note : Note, (note.entry? o).bind Entry.message? =
      note.message?.filter (Message.isShown o.verbosity) := by
    intro note
    obtain ⟨c, rfl⟩ | ⟨m, hm⟩ := traced_or_message note
    · rw [Note.entry?]
      split <;> rfl
    · rw [entry?_of_message o hm, hm, Option.filter_some]
      split <;> rfl
  simp only [shown, List.filterMap_filterMap, List.filter_filterMap, hnote]

/-- **A higher verbosity shows more of the same messages**, in the same order. -/
theorem messages_sublist (h : o.verbosity ≤ o'.verbosity) (notes : List Note) :
    ((shown o notes).filterMap Entry.message?).Sublist
      ((shown o' notes).filterMap Entry.message?) := by
  rw [messages_shown, messages_shown]
  exact List.monotone_filter_right _ fun m hm => isShown_mono h hm

end Shown

/-! ## Watching a run -/

/-- What is noted by an observer that shows no more than the options ask for. -/
def watch (o : Options) (entries : List Entry) (moment : Moment) : List Entry :=
  entries ++ shown o (momentNotes moment)

theorem foldl_watch (o : Options) (entries : List Entry) (moments : List Moment) :
    moments.foldl (watch o) entries = entries ++ shown o (moments.flatMap momentNotes) := by
  induction moments generalizing entries with
  | nil => exact (List.append_nil _).symm
  | cons moment moments ih =>
    rw [List.foldl_cons, ih, List.flatMap_cons, watch, shown_append, List.append_assoc]

/-- **The machine may be watched while it runs**, or be shown to afterwards. -/
theorem runWith_watch (o : Options) (c : Computer) (patience : Nat) (limit : Option UInt64)
    (entries : List Entry) (device : TextSink) :
    (c.runWith (watch o) patience limit entries device).notes =
      entries ++ shown o ((c.moments patience limit device).flatMap momentNotes) := by
  obtain ⟨_, _, hends⟩ := Computer.runWith_ends patience limit c device
  rw [(hends _ (watch o) entries).notes_eq, Computer.told, ← Computer.moments_eq, foldl_watch]

/-! ## Reports -/

/-- What the command shows before the line at the end. -/
def entriesOf (o : Options) (content : Except IoError ByteArray) (device : TextSink)
    (patience : Nat) : List Entry :=
  shown o (perform o.toTask content device patience).notes.toList

/-- The run of a program under an observer that shows no more than the options ask for. -/
def watchedRun (o : Options) (p : Program) (device : TextSink) (patience : Nat) :
    Run TextSink (List Entry) :=
  (Computer.ofProgram p).runWith (watch o) patience o.maxSteps
    (shown o (loadNotes o.input p ++ [.running])) device

/-- The report of a run and what it shows are those of the machine that is watched. -/
structure Watched (o : Options) (p : Program) (device : TextSink) (patience : Nat) (r : Report)
    (entries : List Entry) : Prop where
  outcome_eq : r.outcome = .ofResult (watchedRun o p device patience).result
  output_eq : r.output = (watchedRun o p device patience).sink.text
  entries_eq : entries = (watchedRun o p device patience).notes ++
    shown o (endNotes (watchedRun o p device patience))

section Reports

variable {o : Options} {content : Except IoError ByteArray} {p : Program}

theorem errors_report (o : Options) (content : Except IoError ByteArray) (device : TextSink)
    (patience : Nat) :
    let r := (perform o.toTask content device patience).report o
    r.errors = (entriesOf o content device patience).flatMap (Entry.lines o) ++
      r.outcome.closing.toList := by
  rw [entriesOf, ← flatMap_lines]
  rfl

theorem watched (h : Loads content p) (hrun : o.disassemble = false) (device : TextSink)
    (patience : Nat) :
    Watched o p device patience ((perform o.toTask content device patience).report o)
      (entriesOf o content device patience) := by
  -- The notes that are kept for later and the entries that are shown at once tell the same run.
  have hsame := (Computer.ofProgram p).runWith_withNotes (watch o) observe patience o.maxSteps
    (shown o (loadNotes o.input p ++ [.running]))
    (loadNotes o.input p ++ [Note.running]).toArray device
  have hnotes : (watchedRun o p device patience).notes = _ :=
    runWith_watch o (Computer.ofProgram p) patience o.maxSteps _ device
  refine ⟨?_, ?_, ?_⟩
  · rw [perform_of_run h hrun, report_conclude, hsame]
    rfl
  · rw [perform_of_run h hrun, report_conclude, hsame]
    rfl
  · rw [entriesOf, perform_of_run h hrun, notes_conclude, notes_runWith, hnotes, ← shown_append,
      ← shown_append, hsame]
    rfl

end Reports

/-- **How much is shown of the work has no part in it.** Two invocations have the same settings but
for those of what is shown. They end in the same way, with the same status, output and line at the
end, each as its machine does that is watched, and show the same trace lines if both show any. The
one with the higher verbosity shows the log messages of the other one, in the same order and with
others among them. -/
theorem report_unobserved {arguments arguments' : List String} {settings settings' : List Setting}
    {o o' : Options} (h : Accepted arguments settings o) (h' : Accepted arguments' settings' o')
    (hwork : work settings = work settings') (read : String → Except IoError ByteArray)
    (device : TextSink) (patience : Nat) :
    let r := report arguments read device patience
    let r' := report arguments' read device patience
    let entries := entriesOf o (read o.input) device patience
    let entries' := entriesOf o' (read o'.input) device patience
    r.outcome = r'.outcome ∧ r.status = r'.status ∧ r.output = r'.output ∧
      r.errors = entries.flatMap (Entry.lines o) ++ r.outcome.closing.toList ∧
      r'.errors = entries'.flatMap (Entry.lines o') ++ r.outcome.closing.toList ∧
      (∀ p, Loads (read o.input) p → o.disassemble = false →
        Watched o p device patience r entries ∧ Watched o' p device patience r' entries') ∧
      (.trace ∈ settings → .trace ∈ settings' →
        entries.filterMap Entry.traceLine? = entries'.filterMap Entry.traceLine?) ∧
      (settings.count .verbose ≤ settings'.count .verbose →
        (entries.filterMap Entry.message?).Sublist (entries'.filterMap Entry.message?)) := by
  have htask : o.toTask = o'.toTask := toTask_of_work h.options_eq h'.options_eq hwork
  have hinput : o.input = o'.input := congrArg Task.input htask
  have hdisassemble : o.disassemble = o'.disassemble := congrArg Task.disassemble htask
  have hr := h.report_eq read device patience
  have hr' := h'.report_eq read device patience
  have houtcome : (report arguments read device patience).outcome =
      (report arguments' read device patience).outcome := by
    rw [hr, hr', htask]
    rfl
  refine ⟨houtcome, congrArg Outcome.status houtcome, ?_, ?_, ?_, fun p hp hrun => ⟨?_, ?_⟩,
    fun ht ht' => ?_, fun hle => ?_⟩
  · rw [hr, hr', htask]
    rfl
  · rw [hr]
    exact errors_report o (read o.input) device patience
  · rw [houtcome, hr']
    exact errors_report o' (read o'.input) device patience
  · rw [hr]
    exact watched hp hrun device patience
  · rw [hr']
    exact watched (hinput ▸ hp) (hdisassemble ▸ hrun) device patience
  · rw [entriesOf, entriesOf, traceLines_shown ((trace_iff h.options_eq).mpr ht),
      traceLines_shown ((trace_iff h'.options_eq).mpr ht'), htask]
  · rw [← verbosity_eq h.options_eq, ← verbosity_eq h'.options_eq] at hle
    rw [entriesOf, entriesOf, htask]
    exact messages_sublist hle _

/-- The program prints 3 and halts, whether or not the log is shown beside the trace lines. -/
theorem report_unobserved_three :
    let read := fun _ : String => Except.ok (ε := IoError) threeSource.utf8Encode
    let quiet : Options := { input := "p", trace := true }
    let loud : Options := { input := "p", trace := true, verbosity := 2, format := some .plain }
    Accepted ["-t", "p"] [.trace, .input "p"] quiet ∧
      Accepted ["p", "-Cvvt"] [.input "p", .format .plain, .verbose, .verbose, .trace] loud ∧
      (report ["-t", "p"] read {} 3).output = "3\n" ∧
      (report ["p", "-Cvvt"] read {} 3).output = "3\n" ∧
      (report ["p", "-Cvvt"] read {} 3).status = 0 ∧
      (entriesOf quiet (read "p") {} 3).filterMap Entry.traceLine? =
        (entriesOf loud (read "p") {} 3).filterMap Entry.traceLine? ∧
      ((entriesOf quiet (read "p") {} 3).filterMap Entry.message?).Sublist
        ((entriesOf loud (read "p") {} 3).filterMap Entry.message?) := by
  intro read quiet loud
  have hquiet : Accepted ["-t", "p"] [.trace, .input "p"] quiet := ⟨by rfl, by rfl⟩
  have hloud : Accepted ["p", "-Cvvt"] [.input "p", .format .plain, .verbose, .verbose, .trace]
      loud := ⟨by rfl, by rfl⟩
  have hloads : Loads (read quiet.input) three := .intro (by rfl)
  obtain ⟨-, hs, ho, -, -, hwatched, htrace, hmessages⟩ :=
    report_unobserved hquiet hloud (by rfl) read {} 3
  obtain ⟨hw, -⟩ := hwatched three hloads rfl
  have houtput : (report ["-t", "p"] read {} 3).output = "3\n" := by
    rw [hw.output_eq]
    rfl
  have hstatus : (report ["-t", "p"] read {} 3).status = 0 := by
    have hresult : (watchedRun quiet three {} 3).result = some (.ok ()) := by rfl
    rw [Report.status, hw.outcome_eq, hresult]
    rfl
  exact ⟨hquiet, hloud, houtput, ho ▸ houtput, hs ▸ hstatus, htrace (by simp) (by simp),
    hmessages (by simp)⟩

end LS8.Command
