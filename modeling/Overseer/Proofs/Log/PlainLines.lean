import Mathlib.Data.List.Forall2
import Overseer.Proofs.Command.Words
import Overseer.Proofs.Log.Keeping
import Overseer.Proofs.Web.EventStream

/-!
# The Lines of a Log for People

In a log for people the entry of an event is a stamp, which holds its moment and its severity, and a
sentence.  Texts from outside stand in the sentence as they are.  A newline in such a text ends a
line of the log, and what follows it there is a line without a stamp, or with any stamp that the
text brings along.  So the log has one line for each event exactly if no text holds a newline.

- `Event.count_newline_summary`: the newlines of a sentence are those of its text
- `Command.newline_mem_display_iff`: a shown command has those of its words
- `Log.Dated.textLines_eq`: only the first line of an entry has its stamp
- `Observer.plainlyKept_turns`: what a log for people holds after any events
-/

namespace Overseer

open Web.EventStream (OneLine)

/-! ## Section 1: Texts from outside

Each kind of event has a sentence of its own, with at most one text from outside in it.  The
sentence is fixed words around that text, so the newlines in it are counted in the text alone. -/

namespace Event

/-- The text from outside that the sentence of an event holds. -/
def quotedText : Event → String
  | .started _ command => command
  | .output line => line
  | .promptDetected text => text
  | .answerSent _ => ""
  | .warning message => message
  | .error message => message
  | .finished (.failed reason) => reason
  | .finished _ => ""

/-- A text from outside stands in the sentence as it is, between words that have no line end. -/
theorem summary_eq (e : Event) : ∃ front back : String,
    e.summary = front ++ e.quotedText ++ back ∧ OneLine front.toList ∧ OneLine back.toList := by
  -- around a text from outside stand a few fixed words and some digits
  have hempty : OneLine "".toList := by decide
  have hclose : OneLine ")".toList := by decide
  have halone : ∀ text : String, text = "" ++ text ++ "" := by simp
  have hbehind : ∀ front text : String, front ++ text = front ++ text ++ "" := by simp
  have hwithout : ∀ sentence : String, sentence = sentence ++ "" ++ "" := by simp
  cases e with
  -- the command and the number of the process, in this order
  | started pid command =>
    have hopen : OneLine " (pid ".toList := by decide
    have hdigits : OneLine (toString pid).toList := OneLine.natural pid
    have hassoc : ∀ digits : String, "started " ++ command ++ " (pid " ++ digits ++ ")" =
        "started " ++ command ++ (" (pid " ++ digits ++ ")") := by
      intro digits
      simp only [String.append_assoc]
    exact ⟨"started ", " (pid " ++ toString pid ++ ")", hassoc (toString pid),
      by decide, (hopen.text_append hdigits).text_append hclose⟩
  | output line => exact ⟨"", "", halone line, hempty, hempty⟩
  | promptDetected text =>
    exact ⟨"waiting for answer: ", "", hbehind _ text, by decide, hempty⟩
  | answerSent answer =>
    refine ⟨"answer sent: " ++ answer.letter, "", hwithout _, ?_, hempty⟩
    cases answer <;> decide
  | warning message => exact ⟨"", "", halone message, hempty, hempty⟩
  | error message => exact ⟨"", "", halone message, hempty, hempty⟩
  | finished outcome =>
    cases outcome with
    | completed code =>
      have hopen : OneLine "completed (exit code ".toList := by decide
      exact ⟨"completed (exit code " ++ toString code ++ ")", "", hwithout _,
        (hopen.text_append (OneLine.integer code)).text_append hclose, hempty⟩
    | timedOut cause =>
      refine ⟨(Outcome.timedOut cause).describe, "", hwithout _, ?_, hempty⟩
      cases cause <;> decide
    | terminated =>
      exact ⟨"terminated on request", "", hwithout _, by decide, hempty⟩
    | failed reason => exact ⟨"failed: ", "", hbehind _ reason, by decide, hempty⟩

/-- **The newlines of a sentence** are those of its text. -/
theorem count_newline_summary (e : Event) :
    e.summary.toList.count '\n' = e.quotedText.toList.count '\n' := by
  obtain ⟨front, back, hsummary, hfront, hback⟩ := summary_eq e
  rw [hsummary, String.toList_append, String.toList_append, List.count_append, List.count_append,
    List.count_eq_zero_of_not_mem hfront.1, List.count_eq_zero_of_not_mem hback.1, Nat.zero_add,
    Nat.add_zero]

end Event

namespace Command

theorem newline_mem_showWord_iff (word : List Char) : '\n' ∈ showWord word ↔ '\n' ∈ word := by
  have hchar : ∀ c, '\n' ∈ quoteChar c ↔ c = '\n' := by
    intro c
    by_cases hquote : c = '\''
    · subst hquote
      decide
    · simp [quoteChar, hquote, eq_comm]
  rw [showWord]
  split
  · rfl
  · simp [hchar]

theorem newline_mem_intercalate_iff (words : List (List Char)) :
    '\n' ∈ [' '].intercalate (words.map showWord) ↔ ∃ word ∈ words, '\n' ∈ word := by
  induction words with
  | nil => simp
  | cons word words ih =>
    cases words with
    | nil => simp [newline_mem_showWord_iff]
    | cons next words =>
      rw [List.map_cons] at ih
      rw [List.map_cons, List.map_cons, List.intercalate_cons_cons, List.mem_append, List.mem_append,
        ih, newline_mem_showWord_iff]
      simp

/-- **A shown command has a newline** exactly if one of its words has.  Quoting keeps a newline as
it is, as a shell would have it. -/
theorem newline_mem_display_iff (command : Command) :
    '\n' ∈ command.display.toList ↔ ∃ word ∈ command.words, '\n' ∈ word.toList := by
  rw [toList_display, newline_mem_intercalate_iff]
  simp

end Command

/-! ## Section 2: Stamps

A stamp is made of digits, some marks and a word, and none of them is a line end, whatever the
moment is. -/

namespace Log

theorem oneLine_padded (width n : Nat) : OneLine (Timestamp.padded width n).toList := by
  have hzeros : ∀ k : Nat, OneLine (List.replicate k '0') := by
    intro k
    exact ⟨fun h => absurd (List.eq_of_mem_replicate h) (by decide),
      fun h => absurd (List.eq_of_mem_replicate h) (by decide)⟩
  rw [Timestamp.padded, String.toList_ofList]
  exact (hzeros _).append (OneLine.natural n)

/-- A stamp is one line. -/
theorem oneLine_plainText (t : Timestamp) : OneLine t.plainText.toList := by
  -- years, dates and times are digits with fixed marks between them
  have hyear : OneLine t.yearText.toList := by
    rw [Timestamp.yearText]
    split
    · exact OneLine.text_append (by decide) (oneLine_padded 4 _)
    · split
      · exact oneLine_padded 4 _
      · exact OneLine.text_append (by decide) (oneLine_padded 4 _)
  have hdash : OneLine "-".toList := by decide
  have hcolon : OneLine ":".toList := by decide
  have hblank : OneLine " ".toList := by decide
  have hdot : OneLine ".".toList := by decide
  have hdate : OneLine (t.dateText "-").toList :=
    (((hyear.text_append hdash).text_append (oneLine_padded 2 _)).text_append
      hdash).text_append (oneLine_padded 2 _)
  have htime : OneLine (t.timeText ":").toList :=
    ((((oneLine_padded 2 _).text_append hcolon).text_append (oneLine_padded 2 _)).text_append
      hcolon).text_append (oneLine_padded 2 _)
  exact (((hdate.text_append hblank).text_append htime).text_append hdot).text_append
    (oneLine_padded 3 _)

namespace Dated

/-- What stands in front of the sentence of an event: its moment and its severity. -/
def stamp (d : Dated) : String :=
  (Timestamp.ofMoment d.moment).plainText ++ " [" ++ d.event.severity.label ++ "] "

theorem oneLine_stamp (d : Dated) : OneLine d.stamp.toList := by
  have hopen : OneLine " [".toList := by decide
  have hclose : OneLine "] ".toList := by decide
  have hlabel : OneLine d.event.severity.label.toList := by
    cases d.event.severity <;> decide
  exact (((oneLine_plainText _).text_append hopen).text_append hlabel).text_append hclose

theorem bytes_text (d : Dated) : d.bytes .text = Text.encode (d.stamp ++ d.event.summary) := rfl

end Dated

end Log

/-! ## Section 3: The lines of an entry

An entry with a newline in its text takes several lines.  Nothing tells a later line of it from the
first line of another entry, since the text may bring a stamp along. -/

namespace Text

/-- The lines of a text, in bytes. -/
def byteLines (s : String) : List (List UInt8) :=
  (splitAtMarks (· == '\n') s.toList).map fun part => encode (String.ofList part)

/-- With a newline behind each of them the lines are the text with a newline. -/
theorem flatMap_byteLines (s : String) :
    (byteLines s).flatMap (· ++ [Reader.newline]) = encode s ++ [Reader.newline] := by
  -- the mark between two lines is the newline itself
  have hmark : ∀ c : Char, (if (c == '\n') = true then '\n' else c) = c := by
    intro c
    by_cases hc : c = '\n'
    · simp [hc]
    · simp [hc]
  have hparts := flatMap_splitAtMarks (· == '\n') '\n' s.toList
  simp only [hmark, List.map_id'] at hparts
  have hline : ∀ part : List Char, encode (String.ofList part) ++ [Reader.newline] =
      (part ++ ['\n']).flatMap String.utf8EncodeChar := by
    intro part
    rw [encode_ofList, List.flatMap_append]
    rfl
  rw [byteLines, List.flatMap_map]
  simp only [hline]
  rw [← List.flatMap_assoc, hparts, ← hline, String.ofList_toList]

theorem newline_not_mem_byteLines {s : String} {line : List UInt8} (h : line ∈ byteLines s) :
    Reader.newline ∉ line := by
  obtain ⟨part, hpart, rfl⟩ := List.mem_map.mp h
  rw [Reader.newline_mem_encode_iff, String.toList_ofList]
  intro hmem
  exact absurd (of_mem_splitAtMarks _ hpart hmem) (by decide)

theorem length_byteLines (s : String) : (byteLines s).length = s.toList.count '\n' + 1 := by
  rw [byteLines, List.length_map, length_splitAtMarks, List.count]

/-- What stands in front without a mark belongs to the first part. -/
theorem splitAtMarks_append {α : Type} (isMark : α → Bool) {front : List α}
    (h : ∀ a ∈ front, isMark a = false) (s : List α) : ∃ first others,
      splitAtMarks isMark s = first :: others ∧
        splitAtMarks isMark (front ++ s) = (front ++ first) :: others := by
  induction front with
  | nil => exact ⟨_, _, rfl, rfl⟩
  | cons a front ih =>
    -- the first character is no mark, so it belongs to the first part
    obtain ⟨ha, hfront⟩ := List.forall_mem_cons.mp h
    obtain ⟨first, others, hs, happend⟩ := ih hfront
    obtain ⟨first', others', hsplit, hcons⟩ := splitAtMarks_cons isMark ha (front ++ s)
    rw [happend, List.cons.injEq] at hsplit
    exact ⟨first, others, hs, by rw [List.cons_append, hcons, ← hsplit.1, ← hsplit.2,
      List.cons_append]⟩

/-- **Words without a line end** in front of a text stand in front of its first line only.  So a
stamp belongs to one line, however many an entry has. -/
theorem byteLines_append {front : String} (h : OneLine front.toList) (s : String) :
    ∃ first rest, byteLines s = first :: rest ∧
      byteLines (front ++ s) = (encode front ++ first) :: rest := by
  have hmark : ∀ c ∈ front.toList, (c == '\n') = false := by
    intro c hc
    exact beq_false_of_ne fun heq => h.1 (heq ▸ hc)
  obtain ⟨first, others, hs, happend⟩ := splitAtMarks_append (· == '\n') hmark s.toList
  refine ⟨encode (String.ofList first), others.map fun part => encode (String.ofList part), ?_, ?_⟩
  · rw [byteLines, hs, List.map_cons]
  · rw [byteLines, String.toList_append, happend, List.map_cons, String.ofList_append,
      String.ofList_toList, encode_string_append]

end Text

namespace Log

namespace Dated

/-- The lines of the entry of an event. -/
def textLines (d : Dated) : List (List UInt8) := Text.byteLines (d.stamp ++ d.event.summary)

theorem flatMap_textLines (d : Dated) :
    d.textLines.flatMap (· ++ [Reader.newline]) = d.line .text :=
  Text.flatMap_byteLines _

/-- **Only the first line of an entry has its stamp.**  The others are what the sentence says there,
whatever it is. -/
theorem textLines_eq (d : Dated) : ∃ first rest, Text.byteLines d.event.summary = first :: rest ∧
    d.textLines = (Text.encode d.stamp ++ first) :: rest :=
  Text.byteLines_append d.oneLine_stamp d.event.summary

/-- **A shown command can forge an entry**: with a newline and an error that was never told in it, it
leaves just what a line of output and that error would leave. -/
theorem line_started_forged (moment other : Moment) (pid : Nat) (front reason : String) :
    let forged : Dated := ⟨other, .error reason⟩
    line .text ⟨moment, .started pid (front ++ "\n" ++ (forged.stamp ++ reason))⟩ =
      line .text ⟨moment, .output ("started " ++ front)⟩ ++
        line .text ⟨other, .error (reason ++ " (pid " ++ toString pid ++ ")")⟩ := by
  intro forged
  -- the bytes are the same, whatever the stamps and the digits are
  have hparts : ∀ stamp forgedStamp digits : String,
      Text.encode (stamp ++ ("started " ++ (front ++ "\n" ++ (forgedStamp ++ reason)) ++ " (pid " ++
          digits ++ ")")) ++ [Reader.newline] =
        Text.encode (stamp ++ ("started " ++ front)) ++ [Reader.newline] ++
          (Text.encode (forgedStamp ++ (reason ++ " (pid " ++ digits ++ ")")) ++
            [Reader.newline]) := by
    intro stamp forgedStamp digits
    simp only [Text.encode_string_append, Text.encode_newline, List.append_assoc]
  exact hparts (stamp ⟨moment, .output front⟩) forged.stamp (toString pid)

/-- An entry has one line, and one more for each newline in the text of its event. -/
theorem length_textLines (d : Dated) :
    d.textLines.length = 1 + d.event.quotedText.toList.count '\n' := by
  rw [textLines, Text.length_byteLines, String.toList_append, List.count_append,
    List.count_eq_zero_of_not_mem d.oneLine_stamp.1, Event.count_newline_summary, Nat.zero_add,
    Nat.add_comm]

theorem textLines_of_not_mem {d : Dated} (h : '\n' ∉ d.event.quotedText.toList) :
    d.textLines = [d.bytes .text] := by
  have hlength := d.length_textLines
  -- there is one line, and with its newline it is the whole entry
  rw [List.count_eq_zero_of_not_mem h] at hlength
  obtain ⟨line, hline⟩ := List.length_eq_one_iff.mp hlength
  have hbytes := d.flatMap_textLines
  rw [hline, List.flatMap_singleton] at hbytes
  rw [hline, List.append_cancel_right hbytes]

end Dated

theorem length_flatMap_textLines (published : List Dated) :
    (published.flatMap Dated.textLines).length =
      published.length + (published.map fun d => d.event.quotedText.toList.count '\n').sum := by
  induction published with
  | nil => rfl
  | cons d published ih =>
    rw [List.flatMap_cons, List.length_append, d.length_textLines, ih, List.length_cons,
      List.map_cons, List.sum_cons]
    omega

theorem length_flatMap_textLines_eq_iff (published : List Dated) :
    (published.flatMap Dated.textLines).length = published.length ↔
      ∀ d ∈ published, '\n' ∉ d.event.quotedText.toList := by
  rw [length_flatMap_textLines, Nat.add_eq_left, List.sum_eq_zero_iff_forall_eq_nat,
    List.forall_mem_map]
  exact forall₂_congr fun d _ => List.count_eq_zero

/-! ## Section 4: What a log for people holds

What a log for people still has in any case is stated first, and then when it has what its readers
count on: one line for each event. -/

/-- The log has one line more for each event that was published, in order, and each of them begins
with the stamp of its event. -/
def OnePerEvent (old : List UInt8) (published : List Dated) (content : List UInt8) : Prop :=
  ∃ added, Reader.completeSegments content = ((Reader.completeSegments old).1 ++ added, []) ∧
    List.Forall₂ (fun d line => Text.encode d.stamp <+: line) published added

/-- What a log for people holds when events were published to it. -/
structure PlainlyKept (old : List UInt8) (published : List Dated) (content : List UInt8) : Prop where
  /-- Behind the old content stand the entries of the events, in order. -/
  appended : content = old ++ published.flatMap (Dated.line .text)
  /-- Taken apart at its newlines, the content is the old lines and then those of the entries, and
  nothing stands behind the last newline. -/
  lines : Reader.completeSegments content =
    ((Reader.completeSegments old).1 ++ published.flatMap Dated.textLines, [])
  /-- Only the first line of an entry has its stamp; the others are those of the sentence. -/
  stamped : ∀ d ∈ published, ∃ first rest, Text.byteLines d.event.summary = first :: rest ∧
    d.textLines = (Text.encode d.stamp ++ first) :: rest
  /-- Every event is one line exactly if no event has a newline in its text. -/
  onePerEvent_iff : OnePerEvent old published content ↔
    ∀ d ∈ published, '\n' ∉ d.event.quotedText.toList

theorem completeSegments_append_entries {old : List UInt8} (hwhole : Reader.WholeLines old)
    (published : List Dated) :
    Reader.completeSegments (old ++ published.flatMap (Dated.line .text)) =
      ((Reader.completeSegments old).1 ++ published.flatMap Dated.textLines, []) := by
  have hnone : ∀ line ∈ published.flatMap Dated.textLines, Reader.newline ∉ line := by
    intro line hline
    obtain ⟨d, -, hline⟩ := List.mem_flatMap.mp hline
    exact Text.newline_not_mem_byteLines hline
  have hlines := Reader.completeSegments_lines hnone
  simp only [List.flatMap_assoc, Dated.flatMap_textLines] at hlines
  rw [Reader.completeSegments_append hwhole.completeSegments, hlines]

theorem onePerEvent_append_iff {old : List UInt8} (hwhole : Reader.WholeLines old)
    (published : List Dated) :
    OnePerEvent old published (old ++ published.flatMap (Dated.line .text)) ↔
      ∀ d ∈ published, '\n' ∉ d.event.quotedText.toList := by
  -- one line for each event leaves no room for another line, so that the lines can be counted
  rw [← length_flatMap_textLines_eq_iff]
  constructor
  · rintro ⟨added, hadded, hstamps⟩
    rw [completeSegments_append_entries hwhole, Prod.mk.injEq] at hadded
    rw [List.append_cancel_left hadded.1]
    exact hstamps.length_eq.symm
  · intro h
    rw [length_flatMap_textLines_eq_iff] at h
    refine ⟨_, completeSegments_append_entries hwhole published, ?_⟩
    have hone : published.flatMap Dated.textLines = published.map (Dated.bytes .text) := by
      rw [← List.flatMap_singleton' (published.map (Dated.bytes .text)), List.flatMap_map]
      exact List.flatMap_congr fun d hd => Dated.textLines_of_not_mem (h d hd)
    rw [hone, List.forall₂_map_right_iff, List.forall₂_same]
    intro d _
    rw [d.bytes_text, Text.encode_string_append]
    exact List.prefix_append _ _

end Log

open Log

/-- **A log for people keeps what its events say**: when a log was opened and events were published
to it, its file holds what it held before and the entries of the events.  Each is one line exactly
if no event has a newline in its text. -/
theorem Observer.plainlyKept_turns {tree opened : FileTree} {directory : Place} {opening : Moment}
    {path : String} {log : LogFile} {old : List UInt8}
    (hopen : LogFile.openAt tree directory opening path .text = .ok (log, opened))
    (hold : opened.contentAt? log.place = some old) (hwhole : Reader.WholeLines old)
    (batches : List (List Dated)) :
    tree.contentAt? log.place = some old ∧ ∃ content,
      (Observer.turns (.log log, opened) batches).2.contentAt? log.place = some content ∧
        PlainlyKept old batches.flatten content := by
  refine ⟨LogFile.contentAt?_openAt hopen hold, _, ((atRest_openAt hopen hold).turns batches).held,
    -- the entries stand behind what was there, in their order
    ?_⟩
  exact
    { appended := rfl
      lines := completeSegments_append_entries hwhole batches.flatten
      stamped := fun d _ => d.textLines_eq
      onePerEvent_iff := onePerEvent_append_iff hwhole batches.flatten }

/-- A log that holds a line takes the start of a program with a broken word, and a line. -/
theorem Observer.plainlyKept_turns_brokenWord :
    let tree : FileTree := .withLog [0x61, 0x0A]
    let log : LogFile := ⟨"run.log", ["run.log"], .text, ⟨5, 3600⟩, []⟩
    let opened := tree.write 5 ["run.log"] id
    let started : Dated := ⟨⟨6, 3600⟩, .started 7 (Command.new "echo" ["one\ntwo"]).display⟩
    let line : Dated := ⟨⟨7, 3600⟩, .output "one"⟩
    LogFile.openAt tree [] ⟨5, 3600⟩ "run.log" .text = .ok (log, opened) ∧
      opened.contentAt? log.place = some [0x61, 0x0A] ∧ Reader.WholeLines [0x61, 0x0A] ∧
      tree.contentAt? log.place = some [0x61, 0x0A] ∧ ∃ content,
        (Observer.turns (.log log, opened) [[started], [line]]).2.contentAt? log.place =
            some content ∧
          PlainlyKept [0x61, 0x0A] [started, line] content := by
  intro tree log opened started line
  have hopen : LogFile.openAt tree [] ⟨5, 3600⟩ "run.log" .text = .ok (log, opened) :=
    LogFile.openAt_withLog [0x61, 0x0A] ⟨5, 3600⟩ .text
  have hold : opened.contentAt? log.place = some [0x61, 0x0A] := by decide
  have hwhole : Reader.WholeLines [0x61, 0x0A] := .inr rfl
  exact ⟨hopen, hold, hwhole, Observer.plainlyKept_turns hopen hold hwhole [[started], [line]]⟩

/-- **A word with a newline breaks an entry**: an empty log takes the start and the outcome of a run,
and then it has a line that looks like an error and belongs to no event. -/
theorem Observer.not_onePerEvent_forgedError :
    let log : LogFile := ⟨"run.log", ["run.log"], .text, ⟨5, 3600⟩, []⟩
    let opened := (FileTree.withLog []).write 5 ["run.log"] id
    let command := Command.new "true" ["x\n2025-01-01 00:00:00.000 [ERROR] disk full"]
    let published : List Dated :=
      [⟨⟨6, 3600⟩, .started 7 command.display⟩, ⟨⟨7, 3600⟩, .finished (.completed 0)⟩]
    LogFile.openAt (.withLog []) [] ⟨5, 3600⟩ "run.log" .text = .ok (log, opened) ∧ ∃ content,
      (Observer.turns (.log log, opened) [published]).2.contentAt? log.place = some content ∧
        ¬OnePerEvent [] published content := by
  intro log opened command published
  have hopen : LogFile.openAt (.withLog []) [] ⟨5, 3600⟩ "run.log" .text = .ok (log, opened) :=
    LogFile.openAt_withLog [] ⟨5, 3600⟩ .text
  have hold : opened.contentAt? log.place = some [] := by decide
  -- a word of the command has a newline, and showing the command keeps it
  have hnewline : '\n' ∈ command.display.toList :=
    (Command.newline_mem_display_iff command).mpr
      ⟨_, List.mem_cons_of_mem _ List.mem_cons_self, by decide⟩
  refine ⟨hopen, _, ((atRest_openAt hopen hold).turns [published]).held, fun hone => ?_⟩
  -- an entry of each event would be one line, and that of the start is not
  exact (onePerEvent_append_iff (.inl rfl) published).mp hone _ List.mem_cons_self hnewline

end Overseer
