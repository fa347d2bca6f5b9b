import Overseer.Proofs.Json.Reading
import Overseer.Proofs.Log.Keeping
import Overseer.Proofs.Web.EventStream

/-!
# Reading Back a Structured Log

A structured log has one record on each line.  Whoever reads it takes the file apart at its newlines
and each line as a JSON value, and finds there the event again with its severity and the text of its
timestamp, whatever strings the event carries: a newline inside a string is written by a letter, so
that it never ends a record.

- `Log.Record.read?`: reading one line
- `Json.oneLine_print`: a printed value stands on one line
- `Log.Record.ofJson?_recordEntry`: the record of an event holds the event
- `Observer.recorded_turns`: what a structured log holds after any events
-/

namespace Overseer

open Web.EventStream (OneLine)

/-! ## Section 1: Reading a record

The reader of a record is written from what a record is said to hold, not from the way it is
printed: it looks up fields by their names and turns words back into what they stand for. -/

/-- The text in a field of an object. -/
def Json.text? (v : Json) (name : String) : Option String := (v.field? name).bind asString?

/-- The severity with a word. -/
def Severity.ofWord? : String → Option Severity
  | "info" => some .info
  | "warn" => some .warn
  | "error" => some .error
  | _ => none

/-- The time limit with a word. -/
def TimeoutCause.ofWord? : String → Option TimeoutCause
  | "execution" => some .execution
  | "prompt" => some .prompt
  | _ => none

/-- The outcome that a record holds. -/
def Outcome.ofRecord? (v : Json) : Option Outcome := do
  match ← v.text? "status" with
  | "completed" => some (.completed (← (v.field? "code").bind Json.asInt?))
  | "timed_out" => some (.timedOut (← (v.text? "cause").bind TimeoutCause.ofWord?))
  | "terminated" => some .terminated
  | "failed" => some (.failed (← v.text? "error"))
  | _ => none

/-- The event with a name and data. -/
def Event.ofData? (name : String) (data : Json) : Option Event := do
  match name with
  | "started" =>
    some (.started (← (data.field? "pid").bind Json.asInt?).toNat (← data.text? "command"))
  | "output" => some (.output (← data.text? "line"))
  | "prompt_detected" => some (.promptDetected (← data.text? "text"))
  | "answer_sent" =>
    some (.answerSent (← (data.text? "answer").bind fun text => (Answer.ofText text).toOption))
  | "warning" => some (.warning (← data.text? "message"))
  | "error" => some (.error (← data.text? "message"))
  | "finished" => some (.finished (← (data.field? "outcome").bind Outcome.ofRecord?))
  | _ => none

namespace Log

/-- What a record of a structured log tells. -/
structure Record where
  timestamp : String
  severity : Severity
  event : Event
deriving DecidableEq

namespace Record

/-- What the fields of a record tell.  Those of the event stand beside the others. -/
def ofJson? (v : Json) : Option Record := do
  some
    { timestamp := ← v.text? "timestamp"
      severity := ← (v.text? "severity").bind Severity.ofWord?
      event := ← Event.ofData? (← v.text? "event") (← v.field? "data") }

/-- The value that stands on a line of a log. -/
def value? (line : List UInt8) : Option Json :=
  (Text.decode? line).bind fun text => Json.parse? (String.ofList text)

/-- What a line of a log tells. -/
def read? (line : List UInt8) : Option Record := (value? line).bind ofJson?

end Record

/-! ## Section 2: The record of an event -/

theorem Outcome.ofRecord?_toRecord (outcome : Outcome) :
    Outcome.ofRecord? outcome.toRecord = some outcome := by
  cases outcome with
  | timedOut cause => cases cause <;> rfl
  | _ => rfl

theorem Event.ofData?_data (e : Event) : Event.ofData? e.name e.data = some e := by
  cases e with
  | answerSent answer => cases answer <;> rfl
  | finished outcome =>
    change (Outcome.ofRecord? outcome.toRecord).bind _ = _
    rw [Outcome.ofRecord?_toRecord]
    rfl
  | _ => rfl

/-- **The record of an event** holds the event, its severity and the text of the timestamp. -/
theorem Record.ofJson?_recordEntry (time : Timestamp) (e : Event) :
    Record.ofJson? (recordEntry time e) = some ⟨time.recordText, e.severity, e⟩ := by
  have hseverity : Severity.ofWord? e.severity.word = some e.severity := by
    cases e.severity <;> rfl
  change (Severity.ofWord? e.severity.word).bind
    (fun severity => (Event.ofData? e.name e.data).bind fun event =>
      some (⟨time.recordText, severity, event⟩ : Record)) = _
  rw [hseverity, Event.ofData?_data]
  rfl

theorem fits_recordEntry (time : Timestamp) (e : Event) :
    (recordEntry time e).fits Json.depthLimit = true := by
  cases e with
  | finished outcome => cases outcome <;> rfl
  | _ => rfl

end Log

/-! ## Section 3: Records are lines

A string is printed with its control characters escaped, and what stands between the strings is
digits and marks.  So no byte of a printed value is a newline. -/

namespace Json

theorem oneLine_separator (first : Bool) : OneLine (if first then [] else [',']) := by
  cases first <;> decide

mutual

/-- **A printed value stands on one line.** The recursion is that of the printer, with strings as
the case that matters: their newlines are written by a letter. -/
theorem oneLine_print : (v : Json) → {depth : Nat} → v.fits depth = true → OneLine v.print
  | .null, _, _ => by decide
  | .bool true, _, _ | .bool false, _, _ => by decide
  | .int n, _, _ => OneLine.integer n
  | .string s, _, _ => OneLine.printString s
  | .array items, depth + 1, h =>
    have hopen : OneLine ['['] := by decide
    hopen.append (oneLine_printItems true items h)
  | .object fields, depth + 1, h =>
    have hopen : OneLine ['\x7b'] := by decide
    hopen.append (oneLine_printFields true fields h)

theorem oneLine_printItems : (first : Bool) → (items : List Json) → {depth : Nat} →
    fitsItems items depth = true → OneLine (printItems first items)
  | true, [], _, _ | false, [], _, _ => by decide
  | first, v :: vs, depth, h => by
    rw [fitsItems, Bool.and_eq_true] at h
    rw [printItems]
    exact ((oneLine_separator first).append (oneLine_print v h.1)).append
      (oneLine_printItems false vs h.2)

theorem oneLine_printFields : (first : Bool) → (fields : List (String × Json)) → {depth : Nat} →
    fitsFields fields depth = true → OneLine (printFields first fields)
  | true, [], _, _ | false, [], _, _ => by decide
  | first, (name, v) :: fs, depth, h => by
    have hcolon : OneLine [':'] := by decide
    rw [fitsFields, Bool.and_eq_true] at h
    rw [printFields]
    exact (((oneLine_separator first).append (OneLine.printString name)).append
      (hcolon.append (oneLine_print v h.1))).append (oneLine_printFields false fs h.2)

end

end Json

/-- The bytes of a text are well formed. -/
theorem Text.decode?_encode (s : String) : decode? (encode s) = some s.toList := by
  have hback : ((String.ofList (decodeLossy (encode s))).toUTF8.toList == encode s) = true := by
    rw [decodeLossy_encode, String.ofList_toList]
    exact beq_self_eq_true _
  simp only [decode?]
  rw [if_pos hback, decodeLossy_encode]

namespace Log

/-- What a record of an event tells. -/
def Dated.record (d : Dated) : Record :=
  ⟨(Timestamp.ofMoment d.moment).recordText, d.event.severity, d.event⟩

theorem Dated.newline_not_mem (d : Dated) : Reader.newline ∉ d.bytes .json := by
  rw [bytes, Reader.newline_mem_encode_iff, LogFormat.entry, Json.render, String.toList_ofList]
  exact (Json.oneLine_print _ (fits_recordEntry _ _)).1

theorem Record.value?_encode {v : Json} (h : v.fits Json.depthLimit = true) :
    value? (Text.encode v.render) = some v := by
  rw [value?, Text.decode?_encode, Option.bind_some, String.ofList_toList, Json.parse?_render h]

theorem Dated.read?_bytes (d : Dated) : Record.read? (d.bytes .json) = some d.record := by
  rw [Record.read?, bytes, LogFormat.entry, Record.value?_encode (fits_recordEntry _ _),
    Option.bind_some, Record.ofJson?_recordEntry]
  rfl

/-! ## Section 4: What a structured log holds

The file is taken apart into what it held and one line for each event; each of these lines is one
record, which is read by itself. -/

/-- What a structured log holds when events were published to it. -/
structure Recorded (old : List UInt8) (published : List Dated) (content : List UInt8)
    (added : List (List UInt8)) : Prop where
  /-- Behind the old content stand the lines that were added, each with its newline. -/
  appended : content = old ++ added.flatMap (· ++ [Reader.newline])
  /-- Taken apart at its newlines, the content is the old lines and then these, and nothing stands
  behind the last newline. -/
  lines : Reader.completeSegments content = ((Reader.completeSegments old).1 ++ added, [])
  /-- Each of them is a JSON object in which no name is used twice, -/
  objects : ∀ line ∈ added, ∃ fields,
    Record.value? line = some (.object fields) ∧ (fields.map (·.1)).Nodup
  /-- and there is one for each event, in order, which tells the event, its severity and its
  timestamp. -/
  records : added.map Record.read? = published.map fun d => some d.record

theorem recorded_append {old : List UInt8} (hwhole : Reader.WholeLines old)
    (published : List Dated) :
    Recorded old published (old ++ published.flatMap (Dated.line .json))
      (published.map (Dated.bytes .json)) where
  appended := by
    rw [List.flatMap_map]
    rfl
  lines := by
    have hadded : Reader.completeSegments (published.flatMap (Dated.line .json)) =
        (published.map (Dated.bytes .json), []) := by
      have hnone : ∀ line ∈ published.map (Dated.bytes .json), Reader.newline ∉ line := by
        intro line hline
        obtain ⟨d, -, rfl⟩ := List.mem_map.mp hline
        exact d.newline_not_mem
      rw [← Reader.completeSegments_lines hnone, List.flatMap_map]
      rfl
    rw [Reader.completeSegments_append hwhole.completeSegments, hadded]
  objects := by
    intro line hline
    obtain ⟨d, -, rfl⟩ := List.mem_map.mp hline
    refine ⟨_, Record.value?_encode (fits_recordEntry _ _), ?_⟩
    -- the names are the same for all events
    change ["timestamp", "severity", "event", "data"].Nodup
    decide
  records := by
    rw [List.map_map]
    exact List.map_congr_left fun d _ => d.read?_bytes

end Log

open Log

/-- **A structured log records every event**: when a log was opened and events were published to it,
its file holds what it held before and one record for each of them.  The events may come in any
number of turns, behind each of which the log is put into its file. -/
theorem Observer.recorded_turns {tree opened : FileTree} {directory : Place} {opening : Moment}
    {path : String} {log : LogFile} {old : List UInt8}
    (hopen : LogFile.openAt tree directory opening path .json = .ok (log, opened))
    (hold : opened.contentAt? log.place = some old) (hwhole : Reader.WholeLines old)
    (batches : List (List Dated)) :
    tree.contentAt? log.place = some old ∧ ∃ content added,
      (Observer.turns (.log log, opened) batches).2.contentAt? log.place = some content ∧
        Recorded old batches.flatten content added :=
  ⟨LogFile.contentAt?_openAt hopen hold, _, _, ((atRest_openAt hopen hold).turns batches).held,
    recorded_append hwhole batches.flatten⟩

/-- A log that holds a line takes one with a newline and a quote in it, and an outcome; the clock is
set forward by an hour in between. -/
theorem Observer.recorded_turns_brokenLine :
    let tree : FileTree := .withLog [0x61, 0x0A]
    let log : LogFile := ⟨"run.log", ["run.log"], .json, ⟨5, 3600⟩, []⟩
    let opened := tree.write 5 ["run.log"] id
    let line : Dated := ⟨⟨6, 3600⟩, .output "a\"\nb"⟩
    let outcome : Dated := ⟨⟨7, 7200⟩, .finished .terminated⟩
    LogFile.openAt tree [] ⟨5, 3600⟩ "run.log" .json = .ok (log, opened) ∧
      opened.contentAt? log.place = some [0x61, 0x0A] ∧ Reader.WholeLines [0x61, 0x0A] ∧
      tree.contentAt? log.place = some [0x61, 0x0A] ∧ ∃ content added,
        (Observer.turns (.log log, opened) [[line], [outcome]]).2.contentAt? log.place =
            some content ∧
          Recorded [0x61, 0x0A] [line, outcome] content added := by
  intro tree log opened line outcome
  -- the log and what it held are computed, and the rest is the general theorem
  have hopen : LogFile.openAt tree [] ⟨5, 3600⟩ "run.log" .json = .ok (log, opened) :=
    LogFile.openAt_withLog [0x61, 0x0A] ⟨5, 3600⟩ .json
  have hold : opened.contentAt? log.place = some [0x61, 0x0A] := by decide
  have hwhole : Reader.WholeLines [0x61, 0x0A] := .inr rfl
  exact ⟨hopen, hold, hwhole, Observer.recorded_turns hopen hold hwhole [[line], [outcome]]⟩

end Overseer
