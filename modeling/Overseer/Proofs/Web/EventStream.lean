import Mathlib.Data.List.Basic
import Overseer.Json.Printer
import Overseer.Proofs.Text.Encoding
import Overseer.Text.Digits
import Overseer.Web.EventWriter

/-!
# Reading an Event Stream

A page reads the bytes of a stream by the rules for event streams, which know nothing of what a
server meant by them: the bytes are a text, the text is lines, a line sets a field or is a comment,
and an empty line ends a message.

Which characters are sent for an event is up to the writer of the stream.  Of the writer it is
assumed that it writes an event line by line and refuses what no field can carry; an event that is
written so is one message for the page, whatever its text is.

- `EventStream.read`: the rules for event streams
- `EventStream.ReadAs`: texts that a page reads as whole messages, one behind the other
- `EventWriter.WritesLines`: what is assumed of a writer
- `StreamEvent.Tellable.readAs_byLines`: an event by lines is one message
-/

namespace Overseer.Web

namespace EventStream

/-! ## Section 1: The rules for event streams

These are the rules that a page follows, from the bytes to the messages.  They are written down
without regard to any server, so that a stream can be judged by what is read of it. -/

/-- A message as the page receives it. -/
structure Message where
  kind : List Char
  data : List Char
  lastId : List Char
deriving DecidableEq

/-- How far a stream was read: the fields of the message that is still open, what outlives a
message, and the messages received. -/
structure Reading where
  kind : List Char
  data : List Char
  lastId : List Char
  retry : Option Nat
  messages : List Message
deriving DecidableEq

/-- A message that names no kind is of this one. -/
def defaultKind : List Char := "message".toList

/-- The kind of the message that tells how a run ended. -/
def statusKind : List Char := "status".toList

/-- The lines that are ended: by a carriage return with a newline, a newline or a carriage return.
What follows the last line end is dropped.  `line` holds the line so far, backwards. -/
def endedLines (line : List Char) : List Char → List (List Char)
  | [] => []
  | '\r' :: '\n' :: s => line.reverse :: endedLines [] s
  | '\r' :: s => line.reverse :: endedLines [] s
  | '\n' :: s => line.reverse :: endedLines [] s
  | c :: s => endedLines (c :: line) s

/-- The value that follows a field name: one space behind the colon does not belong to it. -/
def valueBehind : List Char → List Char
  | ':' :: ' ' :: value => value
  | ':' :: value => value
  | _ => []

namespace Reading

/-- Before the first line. -/
def start : Reading := ⟨[], [], [], none, []⟩

/-- Ends a message.  One without data is dropped; otherwise the last line end of the data goes. -/
def dispatch (r : Reading) : Reading :=
  if r.data.isEmpty then { r with kind := [] }
  else
    let kind := if r.kind.isEmpty then defaultKind else r.kind
    { r with kind := [], data := [], messages := r.messages ++ [⟨kind, r.data.dropLast, r.lastId⟩] }

/-- Takes a field.  Fields with other names mean nothing. -/
def take (r : Reading) (name value : List Char) : Reading :=
  if name = "event".toList then { r with kind := value }
  else if name = "data".toList then { r with data := r.data ++ value ++ ['\n'] }
  else if name = "id".toList then
    if '\x00' ∈ value then r else { r with lastId := value }
  else if name = "retry".toList then
    match Text.decimal? value with
    | some time => { r with retry := some time }
    | none => r
  else r

/-- Reads a line.  One that begins with a colon is a comment. -/
def readLine (r : Reading) (line : List Char) : Reading :=
  if line.isEmpty then r.dispatch
  else if line.head? = some ':' then r
  else r.take (line.takeWhile (· != ':')) (valueBehind (line.dropWhile (· != ':')))

end Reading

/-- The text without a byte order mark at its start. -/
def dropOrderMark : List Char → List Char
  | '\uFEFF' :: s => s
  | s => s

/-- What a page makes of bytes. -/
def read (bytes : List UInt8) : Reading :=
  (endedLines [] (dropOrderMark (Text.decodeLossy bytes))).foldl Reading.readLine .start

/-! ## Section 2: Lines

Three line ends count as one each, and a carriage return with a newline behind it as one.  What is
sent uses the newline only, and no other line end stands in what is sent. -/

/-- Whether a line can be sent: no line end stands in it. -/
def OneLine (line : List Char) : Prop := '\n' ∉ line ∧ '\r' ∉ line

instance (line : List Char) : Decidable (OneLine line) := inferInstanceAs (Decidable (_ ∧ _))

/-- A line with its end. -/
def withEnd (line : List Char) : List Char := line ++ ['\n']

theorem OneLine.append {line more : List Char} (h : OneLine line) (hmore : OneLine more) :
    OneLine (line ++ more) := by
  constructor
  · rw [List.mem_append]
    exact not_or.mpr ⟨h.1, hmore.1⟩
  · rw [List.mem_append]
    exact not_or.mpr ⟨h.2, hmore.2⟩

theorem OneLine.text_append {front back : String} (hfront : OneLine front.toList)
    (hback : OneLine back.toList) : OneLine (front ++ back).toList := by
  rw [String.toList_append]
  exact hfront.append hback

theorem endedLines_withEnd {line : List Char} (h : OneLine line) (sofar rest : List Char) :
    endedLines sofar (withEnd line ++ rest) = (sofar.reverse ++ line) :: endedLines [] rest := by
  induction line generalizing sofar with
  | nil => simp [withEnd, endedLines]
  | cons c line ih =>
    obtain ⟨hnewline, hreturn⟩ := h
    rw [List.mem_cons, not_or] at hnewline hreturn
    -- a character that ends no line is put to what was gathered of the line
    have hstep : endedLines sofar (withEnd (c :: line) ++ rest) =
        endedLines (c :: sofar) (withEnd line ++ rest) := by
      change endedLines sofar (c :: (withEnd line ++ rest)) = _
      rw [endedLines]
      · exact fun s hs => absurd hs.symm hreturn.1
      · exact fun hc => absurd hc.symm hreturn.1
      · exact fun hc => absurd hc.symm hnewline.1
    rw [hstep, ih ⟨hnewline.2, hreturn.2⟩, List.reverse_cons, List.append_assoc,
      List.singleton_append]

/-- **Lines are read back** as they were sent. -/
theorem endedLines_flatMap {lines : List (List Char)} (h : ∀ line ∈ lines, OneLine line) :
    endedLines [] (lines.flatMap withEnd) = lines := by
  induction lines with
  | nil => rfl
  | cons line lines ih =>
    obtain ⟨hline, hlines⟩ := List.forall_mem_cons.mp h
    rw [List.flatMap_cons, endedLines_withEnd hline, ih hlines, List.reverse_nil, List.nil_append]

/-! ## Section 3: Texts of one line

A record is sent in place of a text for the status of a run.  It is a printed value, and printing
puts a line end nowhere. -/

namespace OneLine

theorem natural (n : Nat) : OneLine (Nat.repr n).toList := by
  have hdigit : ∀ c ∈ (Nat.repr n).toList, c.isDigit = true := by
    intro c hc
    rw [Nat.repr, String.toList_ofList] at hc
    exact Nat.isDigit_of_mem_toDigits (by decide) (by decide) hc
  exact ⟨fun hmem => absurd (hdigit _ hmem) (by decide),
    fun hmem => absurd (hdigit _ hmem) (by decide)⟩

theorem integer (n : Int) : OneLine (toString n).toList := by
  cases n with
  | ofNat n => exact natural n
  | negSucc n =>
    have hminus : OneLine "-".toList := by decide
    exact hminus.text_append (natural (n + 1))

theorem escapeChar (c : Char) : OneLine (Json.escapeChar c) := by
  -- a hexadecimal digit is no line end
  have hdigit : ∀ k < 16, '\n' ≠ Nat.digitChar k ∧ '\r' ≠ Nat.digitChar k := by decide
  have hlow : ∀ n, '\n' ≠ Json.lowHexDigit n ∧ '\r' ≠ Json.lowHexDigit n :=
    fun n => hdigit (n % 16) (Nat.mod_lt n (by decide))
  by_cases hends : c = '\n' ∨ c = '\r'
  · -- a line end is written by a letter
    rcases hends with rfl | rfl
    · decide
    · decide
  · obtain ⟨hnewline, hreturn⟩ := not_or.mp hends
    simp only [Json.escapeChar, OneLine]
    repeat' split
    all_goals simp [(hlow _).1, (hlow _).2, Ne.symm hnewline, Ne.symm hreturn]

theorem printString (s : String) : OneLine (Json.printString s) := by
  -- character by character, between two quotes
  have hchars : OneLine (s.toList.flatMap Json.escapeChar) := by
    constructor
    · intro hmem
      obtain ⟨c, -, hc⟩ := List.mem_flatMap.mp hmem
      exact (escapeChar c).1 hc
    · intro hmem
      obtain ⟨c, -, hc⟩ := List.mem_flatMap.mp hmem
      exact (escapeChar c).2 hc
  have hquote : OneLine ['"'] := by decide
  exact (hquote.append hchars).append hquote

end OneLine

end EventStream

/-! ## Section 4: Texts that are read as messages

A text that is read as messages leaves the reader as it found it, with nothing open.  Such texts can
be put one behind the other, and what is read of them is put one behind the other too. -/

namespace EventStream

/-- A line that sets a field. -/
def fieldLine (name : String) (value : List Char) : List Char := name.toList ++ ": ".toList ++ value

theorem oneLine_fieldLine {name : String} (hname : OneLine name.toList) {value : List Char}
    (hvalue : OneLine value) : OneLine (fieldLine name value) :=
  (hname.append (by decide)).append hvalue

/-- A stream that was read between two messages, when nothing but texts and statuses were sent. -/
def Reading.between (messages : List Message) : Reading := ⟨[], [], [], none, messages⟩

namespace Reading

variable (r : Reading)

theorem readLine_empty : r.readLine [] = r.dispatch := rfl

/-- A line that names a field sets it. -/
theorem readLine_fieldLine {name : String} (hfilled : name.toList ≠ [])
    (hcolon : ':' ∉ name.toList) (value : List Char) :
    r.readLine (fieldLine name value) = r.take name.toList value := by
  have hline : fieldLine name value = name.toList ++ ':' :: ' ' :: value := by
    rw [fieldLine, List.append_assoc]
    rfl
  have hpass : ∀ c ∈ name.toList, (c != ':') = true := by
    intro c hc
    rw [bne_iff_ne]
    exact fun heq => hcolon (heq ▸ hc)
  -- the name is what stands in front of the first colon, which is the one that was put there
  have hname : (fieldLine name value).takeWhile (· != ':') = name.toList := by
    rw [hline, List.takeWhile_append_of_pos hpass, List.takeWhile_cons_of_neg (by decide),
      List.append_nil]
  have hrest : (fieldLine name value).dropWhile (· != ':') = ':' :: ' ' :: value := by
    rw [hline, List.dropWhile_append_of_pos hpass, List.dropWhile_cons_of_neg (by decide)]
  have hcomment : (fieldLine name value).head? ≠ some ':' := by
    rw [hline, List.head?_append_of_ne_nil _ hfilled]
    exact fun hhead => hcolon (List.mem_of_head? hhead)
  have hempty : (fieldLine name value).isEmpty = false := by
    rw [hline]
    simp [hfilled]
  rw [readLine, hempty, if_neg Bool.false_ne_true, if_neg hcomment, hname, hrest]
  rfl

theorem readLine_data (value : List Char) :
    r.readLine (fieldLine "data" value) = { r with data := r.data ++ withEnd value } := by
  rw [readLine_fieldLine r (by decide) (by decide), take, if_neg (by decide), if_pos rfl,
    List.append_assoc]
  rfl

theorem readLine_event (value : List Char) :
    r.readLine (fieldLine "event" value) = { r with kind := value } := by
  rw [readLine_fieldLine r (by decide) (by decide), take, if_pos rfl]

theorem foldl_readLine_data (values : List (List Char)) :
    (values.map (fieldLine "data")).foldl readLine r =
      { r with data := r.data ++ values.flatMap withEnd } := by
  induction values generalizing r with
  | nil => simp
  | cons value values ih => simp [readLine_data, ih]

theorem dispatch_of_data {data : List Char} (h : r.data = withEnd data) :
    r.dispatch = { r with
      kind := []
      data := []
      messages := r.messages ++
        [⟨if r.kind.isEmpty then defaultKind else r.kind, data, r.lastId⟩] } := by
  simp [dispatch, h, withEnd]

/-- A comment means nothing, whatever stands in it. -/
theorem readLine_comment (comment : List Char) : r.readLine (':' :: comment) = r := rfl

end Reading

/-- A text is read as messages: it consists of whole lines, and a page that reads them between two
messages receives just these messages and is between two messages again.  No byte order mark stands
at its start, where a page would drop it. -/
structure ReadAs (text : String) (received : List Message) : Prop where
  exists_lines : ∃ lines : List (List Char), text.toList = lines.flatMap withEnd ∧
    (∀ line ∈ lines, OneLine line) ∧
    ∀ messages, lines.foldl Reading.readLine (.between messages) = .between (messages ++ received)
  unmarked : text.toList.head? ≠ some '\uFEFF'

namespace ReadAs

theorem empty : ReadAs "" [] where
  exists_lines := ⟨[], rfl, nofun, fun messages => by rw [List.append_nil]; rfl⟩
  unmarked := nofun

/-- A text behind a text that is read as messages is read as its own messages, behind theirs. -/
theorem append {text more : String} {received receivedMore : List Message}
    (h : ReadAs text received) (hmore : ReadAs more receivedMore) :
    ReadAs (text ++ more) (received ++ receivedMore) := by
  -- the lines of one text stand in front of those of the other, so they are read first
  obtain ⟨⟨lines, htext, hlines, hread⟩, hmark⟩ := h
  obtain ⟨⟨linesMore, htextMore, hlinesMore, hreadMore⟩, hmarkMore⟩ := hmore
  constructor
  · refine ⟨lines ++ linesMore, ?_, ?_, fun messages => ?_⟩
    · rw [String.toList_append, htext, htextMore, List.flatMap_append]
    · exact List.forall_mem_append.mpr ⟨hlines, hlinesMore⟩
    · rw [List.foldl_append, hread, hreadMore, List.append_assoc]
  · rw [String.toList_append]
    cases hfront : text.toList with
    | nil => exact hmarkMore
    | cons c s => rwa [hfront] at hmark

theorem dropOrderMark_eq {s : List Char} (h : s.head? ≠ some '\uFEFF') : dropOrderMark s = s := by
  unfold dropOrderMark
  split
  · exact absurd rfl h
  · rfl

/-- **What a page makes of such a text**: the messages, and nothing is left open. -/
theorem read_encode {text : String} {received : List Message} (h : ReadAs text received) :
    read (Text.encode text) = .between received := by
  obtain ⟨⟨lines, htext, hlines, hread⟩, hmark⟩ := h
  rw [read, Text.decodeLossy_encode, dropOrderMark_eq hmark, htext, endedLines_flatMap hlines]
  exact hread []

/-- Texts that are read as messages, one behind the other.  By induction on the texts. -/
theorem join {α : Type} {write : α → String} {receive : α → List Message} {members : List α}
    (h : ∀ a ∈ members, ReadAs (write a) (receive a)) :
    ReadAs (String.join (members.map write)) (members.flatMap receive) := by
  -- the first text is read, and behind it all the others
  induction members with
  | nil => exact empty
  | cons a members ih =>
    obtain ⟨ha, hmembers⟩ := List.forall_mem_cons.mp h
    have hjoin : String.join ((a :: members).map write) =
        write a ++ String.join (members.map write) := by
      rw [← String.toList_inj, String.toList_append, String.toList_join, String.toList_join,
        List.map_cons, List.flatMap_cons]
    rw [hjoin, List.flatMap_cons]
    exact ha.append (ih hmembers)

/-- A comment and an empty line are no message. -/
theorem comment {text : String} {comment : List Char} (hline : OneLine comment)
    (htext : text.toList = withEnd (':' :: comment) ++ ['\n']) : ReadAs text [] where
  exists_lines := by
    -- a line with a colon in front is a comment, and the empty line finds nothing gathered
    refine ⟨[':' :: comment, []], ?_, ?_, fun messages => ?_⟩
    · simpa [withEnd] using htext
    · have hcolon : OneLine [':'] := by decide
      simp only [List.forall_mem_cons]
      exact ⟨hcolon.append hline, by decide, nofun⟩
    · rw [List.append_nil, List.foldl_cons, Reading.readLine_comment]
      rfl
  unmarked := by
    rw [htext]
    exact fun h => absurd (Option.some.inj h) (by decide)

end ReadAs

end EventStream

/-! ## Section 5: Events line by line

A writer of event streams is a part of the server that comes from elsewhere.  What it writes for an
event whose text has several lines, and for an empty one, is the whole of the assumption; everything
else follows from the rules for reading. -/

/-- What is assumed of a writer.  A kind on one line is written as `event: <kind>`, each part of the
text between newlines as `data: <part>`, and an empty line ends the event.  No event whose text has
a carriage return is written at all.  With nothing to tell, a comment is sent. -/
structure EventWriter.WritesLines (w : EventWriter) : Prop where
  accepts : ∀ e : StreamEvent, (∀ kind, e.kind? = some kind → EventStream.OneLine kind.toList) →
    e.hasReturn = false → w.write? e = some e.byLines
  refuses : ∀ e : StreamEvent, e.hasReturn = true → w.write? e = none
  heartbeat : ∃ comment, EventStream.OneLine comment ∧
    w.heartbeat.toList = EventStream.withEnd (':' :: comment) ++ ['\n']

/-- Such a writer exists. -/
theorem EventWriter.writesLines_byLines : EventWriter.byLines.WritesLines where
  accepts _ _ h := if_neg (Bool.eq_false_iff.mp h)
  refuses _ h := if_pos h
  heartbeat := ⟨[], by decide, by decide⟩

namespace StreamEvent

open EventStream

/-- The message that an event stands for.  An event without a kind is a message of the default
kind. -/
def message (e : StreamEvent) : Message :=
  ⟨match e.kind? with
    | some kind => kind.toList
    | none => defaultKind, e.text.toList, []⟩

/-- The lines in front of the text of an event. -/
def kindLines (e : StreamEvent) : List (List Char) :=
  match e.kind? with
  | some kind => [fieldLine "event" kind.toList]
  | none => []

/-- Whether an event can be told: its kind is a line that is not empty, and no carriage return
stands in its text. -/
structure Tellable (e : StreamEvent) : Prop where
  kind : ∀ kind, e.kind? = some kind → OneLine kind.toList ∧ kind.toList ≠ []
  text : e.hasReturn = false

variable {e : StreamEvent}

theorem kindField_eq : e.kindField = e.kindLines.flatMap withEnd := by
  unfold kindField kindLines
  cases e.kind? with
  | none => rfl
  | some kind => exact (List.flatMap_singleton _ _).symm

/-- The lines of a text are the text again. -/
theorem flatMap_textLines (text : List Char) : (textLines text).flatMap withEnd = withEnd text := by
  -- a newline is the only mark, and it is written again as it was
  have hsame : (text.map fun c => if (c == '\n') = true then '\n' else c) = text := by
    refine List.map_id'' (fun c => ?_) text
    split
    · next hc => exact (beq_iff_eq.mp hc).symm
    · rfl
  have hparts := Text.flatMap_splitAtMarks (· == '\n') '\n' text
  rw [hsame] at hparts
  exact hparts

theorem Tellable.oneLine_textLines (h : e.Tellable) :
    ∀ line ∈ textLines e.text.toList, OneLine line := by
  intro line hline
  constructor
  · -- the parts between newlines hold none
    exact fun hc => absurd (Text.of_mem_splitAtMarks _ hline hc) (by decide)
  · intro hc
    have hmem : '\r' ∈ withEnd e.text.toList := by
      rw [← flatMap_textLines, List.mem_flatMap]
      exact ⟨line, hline, List.mem_append_left _ hc⟩
    have hmem : '\r' ∈ e.text.toList := (List.mem_append.mp hmem).resolve_right (by decide)
    exact absurd h.text (by rw [hasReturn, List.contains_iff_mem.mpr hmem]; decide)

theorem Tellable.oneLine_kindLines (h : e.Tellable) : ∀ line ∈ e.kindLines, OneLine line := by
  unfold kindLines
  cases hkind : e.kind? with
  | none => exact nofun
  | some kind =>
    exact List.forall_mem_singleton.mpr (oneLine_fieldLine (by decide) (h.kind kind hkind).1)

/-- The kind is open when the text of the event is read. -/
theorem foldl_readLine_kindLines (messages : List Message) :
    e.kindLines.foldl Reading.readLine (.between messages) =
      { Reading.between messages with kind := (e.kind?.map String.toList).getD [] } := by
  unfold kindLines
  cases e.kind? with
  | none => rfl
  | some kind => rw [List.foldl_cons, List.foldl_nil, Reading.readLine_event]; rfl

theorem head?_kindField_append {rest : List Char} (h : rest.head? ≠ some '\uFEFF') :
    (e.kindField ++ rest).head? ≠ some '\uFEFF' := by
  unfold kindField
  cases e.kind? with
  | none => exact h
  | some kind => exact fun h => absurd (Option.some.inj h) (by decide)

/-- **An event by lines is one message.** Its text is put together again from its fields, with
newlines between them. -/
theorem Tellable.readAs_byLines (h : e.Tellable) : ReadAs e.byLines [e.message] where
  exists_lines := by
    refine ⟨e.kindLines ++ (textLines e.text.toList).map (fieldLine "data") ++ [[]], ?_, ?_,
      fun messages => ?_⟩
    · -- the lines are those of the kind, of the text, and an empty one
      rw [byLines, String.toList_ofList, List.flatMap_append, List.flatMap_append, kindField_eq,
        List.flatMap_map]
      rfl
    · refine List.forall_mem_append.mpr ⟨List.forall_mem_append.mpr ⟨h.oneLine_kindLines, ?_⟩,
        List.forall_mem_singleton.mpr (by decide)⟩
      intro line hline
      obtain ⟨part, hpart, rfl⟩ := List.mem_map.mp hline
      exact oneLine_fieldLine (by decide) (h.oneLine_textLines part hpart)
    · -- the kind is set, the text is gathered line by line, and the empty line ends the message
      rw [List.foldl_append, List.foldl_append, foldl_readLine_kindLines,
        Reading.foldl_readLine_data, flatMap_textLines, List.foldl_cons, List.foldl_nil,
        Reading.readLine_empty, Reading.dispatch_of_data _ (List.nil_append _)]
      cases hkind : e.kind? with
      | none => simp [Reading.between, message, hkind]
      | some kind => simp [Reading.between, message, hkind, (h.kind kind hkind).2]
  unmarked := by
    -- neither a kind nor the name of a field begins with a byte order mark
    rw [byLines, String.toList_ofList, List.append_assoc]
    apply head?_kindField_append
    obtain ⟨first, others, hparts⟩ : ∃ first others,
        textLines e.text.toList = first :: others := ⟨_, _, rfl⟩
    rw [hparts]
    exact fun h => absurd (Option.some.inj h) (by decide)

/-- An event without a line for its text is no message: the empty line drops it. -/
theorem Tellable.readAs_kindAlone (h : e.Tellable) :
    ReadAs (String.ofList (e.kindField ++ ['\n'])) [] where
  exists_lines := by
    -- the lines of the kind gather no text, so there is nothing to hand out at the empty line
    refine ⟨e.kindLines ++ [[]], ?_, ?_, fun messages => ?_⟩
    · rw [String.toList_ofList, List.flatMap_append, kindField_eq]
      rfl
    · exact List.forall_mem_append.mpr ⟨h.oneLine_kindLines,
        List.forall_mem_singleton.mpr (by decide)⟩
    · rw [List.foldl_append, foldl_readLine_kindLines, List.append_nil]
      rfl
  unmarked := by
    rw [String.toList_ofList]
    exact head?_kindField_append (by decide)

end StreamEvent

end Overseer.Web
