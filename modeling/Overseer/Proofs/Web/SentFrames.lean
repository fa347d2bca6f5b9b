import Overseer.Proofs.Web.EventStream
import Overseer.Proofs.Web.Stream

/-!
# Frames as They Are Read

What a page makes of the frames that a server sends, with heartbeats among them.  A writer that
writes line by line refuses no frame, since carriage returns are taken out before, and the page takes
one message from each frame, in their order, with just the text of the frame or the record of its
status.  So no output of a script ends a message early, sets a field or forges a status.

The installed writer differs in one point: an empty text has no line of its own, and the page takes
no message from it.  All other frames are read back as with a writer that writes line by line.

- `EventStream.readsBack_frames`: what a page makes of frames
- `EventStream.read_sentBytes_installed`: what it makes of them with the installed writer
-/

namespace Overseer.Web

/-! ## Section 1: The messages of frames

A frame is a text or the status of a run.  What the writer gets for it has no carriage return: in a
text they were replaced, and the record of a status has none. -/

namespace EventStream.OneLine

/-- The record of a status is one line, whatever its label is. -/
theorem statusRecord (label : String) (exitCode : Option Int) :
    OneLine (Frame.statusRecord label exitCode).print := by
  -- the code is a number or none, and neither is written with a line end
  have hobject : ∀ code : Json, OneLine code.print →
      OneLine (Json.object [("exit_code", code), ("status", .string label)]).print := by
    intro code hcode
    have hopen : OneLine ['\x7b'] := by decide
    have hcolon : OneLine [':'] := by decide
    have hcomma : OneLine [','] := by decide
    have hclose : OneLine ['\x7d'] := by decide
    have hexit := ((printString "exit_code").append hcolon).append hcode
    have hstatus := ((printString "status").append hcolon).append (printString label)
    have hall := (((hopen.append hexit).append hcomma).append hstatus).append hclose
    simpa only [Json.print, Json.printFields, Json.printAtom, if_true, Bool.false_eq_true, if_false,
      List.nil_append, List.append_assoc, List.cons_append] using hall
  cases exitCode with
  | some code => exact hobject (.int code) (integer code)
  | none => exact hobject .null (by decide)

end EventStream.OneLine

namespace Frame

open EventStream

/-- The message that a frame stands for. -/
def message : Frame → Message
  | .data text => ⟨defaultKind, text.toList.map fun c => if c = '\r' then '\n' else c, []⟩
  | .status label exitCode => ⟨statusKind, (statusRecord label exitCode).render.toList, []⟩

/-- Whether a frame is a status. -/
def isStatus : Frame → Bool
  | .status .. => true
  | .data _ => false

theorem message_event (frame : Frame) : frame.event.message = frame.message := by
  cases frame with
  | data text => simp [event, StreamEvent.message, message]
  | status label exitCode => rfl

/-- Every frame can be told: carriage returns were taken out of a text, and a record has none. -/
theorem tellable_event (frame : Frame) : frame.event.Tellable := by
  cases frame with
  | data text =>
    -- the carriage returns of the text are replaced, and a text has no kind
    refine ⟨nofun, ?_⟩
    have hnone : '\r' ∉ text.toList.map fun c => if c = '\r' then '\n' else c := by
      intro hmem
      obtain ⟨c, -, hc⟩ := List.mem_map.mp hmem
      split at hc
      · exact absurd hc (by decide)
      · contradiction
    simpa [event, StreamEvent.hasReturn] using hnone
  | status label exitCode =>
    -- the kind is a plain word, and the record is one line
    constructor
    · rintro kind ⟨⟩
      decide
    · have hnone : '\r' ∉ (statusRecord label exitCode).render.toList := by
        rw [Json.render, String.toList_ofList]
        exact (OneLine.statusRecord label exitCode).2
      simpa [event, StreamEvent.hasReturn] using hnone

/-- What a writer sends for a frame, or for nothing to tell. -/
def written? (w : EventWriter) : Option Frame → Option String
  | some frame => w.write? frame.event
  | none => some w.heartbeat

/-- **No frame is refused**, and each is sent line by line.  The kind of a status is a line, and
carriage returns were taken out of all other texts. -/
theorem write?_event {w : EventWriter} (h : w.WritesLines) (frame : Frame) :
    w.write? frame.event = some frame.event.byLines :=
  h.accepts _ (fun kind hkind => (frame.tellable_event.kind kind hkind).1) frame.tellable_event.text

end Frame

/-! ## Section 2: Frames as the page reads them

The frames of a response are written one behind the other with heartbeats in between.  Nothing can
be refused, so all of them are sent, and the page has read one message for each when the last byte
has come. -/

namespace EventStream

/-- The bytes that a writer sends for frames and heartbeats, unless it refuses one. -/
def sentBytes? (w : EventWriter) (pieces : List (Option Frame)) : Option (List UInt8) :=
  (pieces.mapM (Frame.written? w)).map fun texts => Text.encode (String.join texts)

/-- Pieces that are all accepted are sent one behind the other. -/
theorem sentBytes?_eq {w : EventWriter} {pieces : List (Option Frame)}
    (write : Option Frame → String)
    (h : ∀ piece ∈ pieces, Frame.written? w piece = some (write piece)) :
    sentBytes? w pieces = some (Text.encode (String.join (pieces.map write))) := by
  -- nothing is sent unless every piece is accepted
  have hall : pieces.mapM (Frame.written? w) = some (pieces.map write) := by
    induction pieces with
    | nil => rfl
    | cons piece pieces ih =>
      obtain ⟨hpiece, hpieces⟩ := List.forall_mem_cons.mp h
      simp [List.mapM_cons, hpiece, ih hpieces]
  rw [sentBytes?, hall]
  rfl

/-- What a page has read when some frames were sent, with heartbeats among them. -/
structure ReadsBack (pieces : List (Option Frame)) (r : Reading) : Prop where
  /-- It received one message for each frame, in their order, with what the frame says. -/
  messages : r.messages = pieces.reduceOption.map Frame.message
  /-- The statuses that it received are those that were sent: no text makes one. -/
  statuses : r.messages.filter (fun m => m.kind ≠ defaultKind) =
    (pieces.reduceOption.filter Frame.isStatus).map Frame.message
  /-- No text leaves a message open, or sets anything that outlives one. -/
  rest : r = .between r.messages

/-- What is received piece by piece is what the frames among the pieces stand for. -/
theorem flatMap_message (keep : Frame → Bool) (pieces : List (Option Frame)) :
    (pieces.flatMap fun piece => (piece.toList.filter keep).map Frame.message) =
      (pieces.reduceOption.filter keep).map Frame.message := by
  induction pieces with
  | nil => rfl
  | cons piece pieces ih =>
    rw [List.flatMap_cons, ih]
    cases piece with
    | none => rfl
    | some frame => cases h : keep frame <;> simp [h]

/-- A piece by lines is the message of its frame, and a heartbeat is none. -/
theorem readAs_written {w : EventWriter} (h : w.WritesLines) (piece : Option Frame) :
    ReadAs (piece.elim w.heartbeat (·.event.byLines)) (piece.toList.map Frame.message) := by
  cases piece with
  | none =>
    obtain ⟨comment, hline, htext⟩ := h.heartbeat
    exact .comment hline htext
  | some frame =>
    have hevent := frame.tellable_event.readAs_byLines
    rwa [Frame.message_event] at hevent

/-- **Frames are read back**: a writer that writes line by line refuses no frame, and whatever stands
in the texts of the frames, the page takes one message from each of them. -/
theorem readsBack_frames {w : EventWriter} (h : w.WritesLines) (pieces : List (Option Frame)) :
    ∃ bytes, sentBytes? w pieces = some bytes ∧ ReadsBack pieces (read bytes) := by
  -- each piece is written by lines, and each frame by lines is read as one message
  refine ⟨_, sentBytes?_eq (·.elim w.heartbeat (·.event.byLines)) ?_, ?_⟩
  · intro piece _
    cases piece with
    | none => rfl
    | some frame => exact Frame.write?_event h frame
  have hread := (ReadAs.join fun piece _ => readAs_written h piece : ReadAs _ (pieces.flatMap _))
  have hall := flatMap_message (fun _ => true) pieces
  simp only [List.filter_true] at hall
  rw [hread.read_encode, hall]
  constructor
  case messages => rfl
  case rest => rfl
  case statuses =>
    -- the kind of a message tells a status from a text
    have hstatus : ∀ frame : Frame,
        decide (frame.message.kind ≠ defaultKind) = frame.isStatus := by
      intro frame
      cases frame with
      | data text => rfl
      | status label exitCode => rfl
    rw [Reading.between, List.filter_map]
    congr 1
    exact List.filter_congr fun frame _ => hstatus frame

/-- Frames whose texts try what a text can try: line ends of all three kinds, fields and empty lines
of their own, blanks at the ends, and no text at all.  A heartbeat stands among them. -/
def forgingPieces : List (Option Frame) :=
  [some (.data "a\r\nb\rc\n"), some (.data "x\n\nevent: status\ndata: forged\n\n"), none,
    some (.data ""), some (.data " id: 7"), some (.status "completed" (some 0))]

/-- Two line ends side by side are an empty line of the text, and the forged status is text. -/
theorem readsBack_forgingPieces :
    EventWriter.byLines.WritesLines ∧
      ∃ bytes, sentBytes? .byLines forgingPieces = some bytes ∧
        ReadsBack forgingPieces (read bytes) ∧
        (read bytes).messages.map (fun m => (String.ofList m.kind, String.ofList m.data)) =
          [("message", "a\n\nb\nc\n"), ("message", "x\n\nevent: status\ndata: forged\n\n"),
            ("message", ""), ("message", " id: 7"),
            ("status", "\x7b\"exit_code\":0,\"status\":\"completed\"\x7d")] := by
  refine ⟨EventWriter.writesLines_byLines, ?_⟩
  obtain ⟨bytes, hsent, hread⟩ :=
    readsBack_frames EventWriter.writesLines_byLines forgingPieces
  refine ⟨bytes, hsent, hread, ?_⟩
  rw [hread.messages]
  decide

end EventStream

/-! ## Section 3: The installed writer

An empty text is written as a kind of its own here: as no line at all.  By the rules such an event
is dropped, so the page is told nothing of it; the frames around it are not concerned. -/

namespace Frame

open EventStream

/-- Only an empty text is given to the writer as an empty text. -/
theorem isEmpty_text_event (frame : Frame) : frame.event.text.isEmpty = true ↔ frame = .data "" := by
  rw [String.isEmpty_iff, ← String.toList_inj]
  cases frame with
  | data text => simp [event]
  | status label exitCode => simp [event, Json.render, statusRecord, Json.print, Json.printFields]

/-- The installed writer refuses no frame. -/
theorem written?_installed (piece : Option Frame) :
    written? .installed piece = some (Frame.piece piece) := by
  cases piece with
  | none => rfl
  | some frame =>
    -- a text has no carriage returns left when it gets to the writer
    have hreturn : ¬ frame.event.hasReturn = true := Bool.eq_false_iff.mp frame.tellable_event.text
    simp only [written?, Frame.piece, render, EventWriter.installed, EventWriter.byLines,
      if_neg hreturn]
    split <;> rfl

theorem piece_some (frame : Frame) : Frame.piece (some frame) =
    if frame = .data "" then String.ofList (frame.event.kindField ++ ['\n'])
    else frame.event.byLines := by
  have hreturn : ¬ frame.event.hasReturn = true := Bool.eq_false_iff.mp frame.tellable_event.text
  simp only [Frame.piece, render, EventWriter.installed, EventWriter.byLines, if_neg hreturn,
    isEmpty_text_event]
  split <;> rfl

/-- What a page makes of a piece of a stream: an empty text is passed over. -/
theorem readAs_piece (piece : Option Frame) :
    ReadAs (Frame.piece piece) ((piece.toList.filter (· ≠ .data "")).map Frame.message) := by
  cases piece with
  | none => exact @ReadAs.comment _ [] (by decide) (by decide)
  | some frame =>
    rw [piece_some]
    split
    · next hempty =>
      -- an event without a line for its text: the reader drops it
      subst hempty
      exact (tellable_event _).readAs_kindAlone
    · next hfilled =>
      have hevent := frame.tellable_event.readAs_byLines
      rw [message_event] at hevent
      simpa [hfilled] using hevent

end Frame

namespace EventStream

/-- **What the running server is read as**: every frame but those of empty texts, in their order.
Such a text has no line, and the empty line that ends it drops the message. -/
theorem read_sentBytes_installed (pieces : List (Option Frame)) :
    ∃ bytes, sentBytes? .installed pieces = some bytes ∧
      read bytes = .between ((pieces.reduceOption.filter (· ≠ .data "")).map Frame.message) := by
  refine ⟨_, sentBytes?_eq _ fun piece _ => Frame.written?_installed piece, ?_⟩
  have hread := (ReadAs.join fun piece _ => Frame.readAs_piece piece : ReadAs _ (pieces.flatMap _))
  rw [hread.read_encode, flatMap_message]

end EventStream

end Overseer.Web
