import Overseer.Proofs.Reader.Characters
import Overseer.Sink.Observer

/-!
# What a Log File Holds

A log is opened, takes events and in between puts what it wrote into its file.  Opening it changes
nothing in the file, every event adds one entry at its end, and nothing that stands in the file is
changed again: at any time the content of the file and what was written and not put there yet are
what the file held at first and the entries of the events, in order.

- `FileTree.contentAt?_write`: what a file holds when it was written
- `LogFile.contentAt?_openAt`: opening a log changes nothing in its file
- `Observer.Carries.publishAt`, `Observer.Carries.save`: what the log and its file carry together
- `Observer.AtRest.turns`: what the file holds after any turns
- `Reader.completeSegments_append`: the lines of a content with more behind it
-/

namespace Overseer

/-! ## Section 1: The content of a file

A file has content and a directory has none; a place where nothing is counts as a file that holds
nothing, since that is what opening it makes of it. -/

/-- The content of an entry, if it is a file. -/
def Entry.content? : Entry → Option (List UInt8)
  | .file content => some content
  | _ => none

namespace FileTree

variable {tree : FileTree} {place other : Place}

/-- The content of the file at a place.  A file that is missing holds nothing; what is no file has no
content. -/
def contentAt? (tree : FileTree) (place : Place) : Option (List UInt8) :=
  ((tree.at? place).map fun node => node.entry).elim (some []) Entry.content?

theorem at?_put_self (node : FileNode) : (tree.put place node).at? place = some node := by
  simp [put, at?]

theorem at?_put_of_ne (node : FileNode) (h : other ≠ place) :
    (tree.put place node).at? other = tree.at? other := by
  -- what is taken out stood at the place itself, where nobody looks
  have hkept : ∀ entry : Place × FileNode,
      decide ((entry.1 != place) = true ∧ (entry.1 == other) = true) = (entry.1 == other) := by
    intro entry
    by_cases hentry : entry.1 = other
    · simp [hentry, h]
    · simp [hentry]
  have hfirst : (place == other) = false := beq_false_of_ne (Ne.symm h)
  simp only [put, at?, List.find?_cons, hfirst, List.find?_filter, hkept]

/-- Noting that a directory has changed changes no entry. -/
theorem entry_touchParent (now : Int) :
    ((tree.touchParent place now).at? other).map (fun node => node.entry) =
      (tree.at? other).map fun node => node.entry := by
  rw [touchParent]
  split
  · next node hnode =>
    by_cases hother : other = place.dropLast
    · rw [hother, at?_put_self, hnode]
      rfl
    · rw [at?_put_of_ne _ hother]
  · rfl

/-- **What a file holds when it was written** is the change of what it held.  A file that is missing
held nothing, and one is made for it. -/
theorem contentAt?_write (now : Int) (change : List UInt8 → List UInt8) :
    (tree.write now place change).contentAt? place = (tree.contentAt? place).map change := by
  rw [write]
  cases hnode : tree.at? place with
  | none => simp [contentAt?, add, at?_put_self, hnode, Entry.content?]
  | some node =>
    obtain ⟨entry, mode, modified⟩ := node
    cases entry with
    | file content => simp [contentAt?, at?_put_self, hnode, Entry.content?]
    | _ => simp [contentAt?, hnode, Entry.content?]

/-- A new directory takes the content of no file away, and no file gets another. -/
theorem contentAt?_of_add_directory {now : Int} {mode : Nat} {content : List UInt8}
    (h : (tree.add place ⟨.directory, mode, now⟩ now).contentAt? other = some content) :
    tree.contentAt? other = some content := by
  by_cases hother : other = place
  · rw [hother, contentAt?, add, at?_put_self] at h
    exact absurd h nofun
  · rw [contentAt?, add, at?_put_of_ne _ hother, entry_touchParent] at h
    exact h

/-- Making directories makes no file, so what a file holds then it held before. -/
theorem contentAt?_of_makeDirectoriesFrom {now : Int} {start : Place} {todo : List String}
    {made : FileTree} {content : List UInt8}
    (hmade : tree.makeDirectoriesFrom now start todo = .ok made)
    (h : made.contentAt? other = some content) : tree.contentAt? other = some content := by
  induction todo generalizing tree start with
  | nil =>
    -- the last directory is there, or there is nothing to make
    rw [makeDirectoriesFrom] at hmade
    split at hmade
    · cases hmade
      exact h
    · cases hmade
  | cons step rest ih =>
    rw [makeDirectoriesFrom] at hmade
    split at hmade
    · split at hmade
      · exact ih hmade
      · cases hmade
    · split at hmade
      · cases hmade
      · split at hmade
        · -- only here is something made
          exact contentAt?_of_add_directory (ih hmade)
        · cases hmade
    · cases hmade

end FileTree

namespace Log

/-! ## Section 2: Opening

Opening makes the directories that are missing, one after the other, and each of them is an entry
that was not there.  So all contents stay as they are, until the file itself is made, which is empty
then. -/

namespace LogFile

variable {tree opened : FileTree} {directory : Place} {moment : Moment} {path : String}
  {format : LogFormat} {log : LogFile}

/-- What opening a log does: the directories it lies in are made, and then the file itself. -/
theorem openAt_cases (hopen : LogFile.openAt tree directory moment path format = .ok (log, opened)) :
    ∃ (made : FileTree) (place : Place),
      (made = tree ∨ ∃ up, tree.makeDirectories moment.sinceEpoch directory up = .ok made) ∧
        log = ⟨path, place, format, moment, []⟩ ∧ opened = made.write moment.sinceEpoch place id := by
  -- a log without a directory in its path makes none
  cases hparent : Path.parent? path with
  | none =>
    simp only [LogFile.openAt, hparent, Bind.bind, Except.bind] at hopen
    split at hopen
    · cases hopen
    · cases hopen
      exact ⟨tree, _, .inl rfl, rfl, rfl⟩
  | some up =>
    cases hmade : tree.makeDirectories moment.sinceEpoch directory up with
    | error e => simp [LogFile.openAt, hparent, hmade, Bind.bind, Except.bind] at hopen
    | ok made =>
      simp only [LogFile.openAt, hparent, hmade, Bind.bind, Except.bind] at hopen
      split at hopen
      · cases hopen
      · cases hopen
        exact ⟨made, _, .inr ⟨up, hmade⟩, rfl, rfl⟩

/-- **Opening a log changes nothing in its file**: what it holds then it held before.  That is so
also where the file is made by the opening. -/
theorem contentAt?_openAt {content : List UInt8}
    (hopen : LogFile.openAt tree directory moment path format = .ok (log, opened))
    (h : opened.contentAt? log.place = some content) :
    tree.contentAt? log.place = some content := by
  obtain ⟨made, place, hmade, rfl, rfl⟩ := openAt_cases hopen
  -- the file is written with what it holds, and only directories were made before
  rw [FileTree.contentAt?_write, Option.map_id_fun] at h
  rcases hmade with rfl | ⟨up, hmade⟩
  · exact h
  · exact FileTree.contentAt?_of_makeDirectoriesFrom hmade h

end LogFile

end Log

/-- A tree with nothing but a log in it. -/
def FileTree.withLog (content : List UInt8) : FileTree :=
  ⟨[(["run.log"], ⟨.file content, 0o644, 0⟩)]⟩

namespace Log

theorem LogFile.openAt_withLog (content : List UInt8) (moment : Moment) (format : LogFormat) :
    LogFile.openAt (.withLog content) [] moment "run.log" format =
      .ok (⟨"run.log", ["run.log"], format, moment, []⟩,
        (FileTree.withLog content).write moment.sinceEpoch ["run.log"] id) := by
  have hat : (FileTree.withLog content).at? ["run.log"] = some ⟨.file content, 0o644, 0⟩ := rfl
  have hparent : Path.parent? "run.log" = some "" := by decide
  have hmade : (FileTree.withLog content).makeDirectories moment.sinceEpoch [] "" =
      .ok (.withLog content) := rfl
  have hresolve : (FileTree.withLog content).resolve [] "run.log" true = .ok ["run.log"] := by
    have hsteps : FileTree.steps "run.log" = ["run.log"] := by decide
    have hshort : ¬FileTree.nameLimit < "run.log".utf8ByteSize := by decide
    have habsolute : Path.isAbsolute "run.log" = false := by decide
    simp [FileTree.resolve, hsteps, FileTree.walk, habsolute, hat, hshort]
  have htarget : (FileTree.withLog content).target [] "run.log" = .ok ["run.log"] := by
    have hdirectory : (FileTree.withLog content).isDirectoryAt ["run.log"] = false := by
      simp [FileTree.isDirectoryAt, hat]
    have hwritable : ((FileTree.withLog content).at? ["run.log"]).all FileNode.isWritable = true := by
      -- the permissions are the same whatever stands there
      have hmode : FileNode.isWritable ⟨.directory, 0o644, 0⟩ = true := by decide
      rw [hat, Option.all_some]
      exact hmode
    simp only [FileTree.target, hresolve, hdirectory, hwritable, if_true, Bool.false_eq_true,
      if_false]
  simp only [LogFile.openAt, hparent, hmade, htarget, Bind.bind, Except.bind]

/-! ## Section 3: Entries

An event has no time of its own.  It gets the moment at which it is published, and with it the
difference between the clocks at the place of the log, which may change from one event to the next.
-/

/-- An event and the moment at which it is published, at the place where the log is kept. -/
structure Dated where
  moment : Moment
  event : Event
deriving DecidableEq

namespace Dated

/-- The entry of an event as it is written. -/
def bytes (format : LogFormat) (d : Dated) : List UInt8 :=
  Text.encode (format.entry (.ofMoment d.moment) d.event)

/-- The entry with the end of its line. -/
def line (format : LogFormat) (d : Dated) : List UInt8 := d.bytes format ++ [Reader.newline]

end Dated

end Log

namespace Text

theorem encode_string_append (s t : String) : encode (s ++ t) = encode s ++ encode t := by
  rw [encode_eq_flatMap, encode_eq_flatMap, encode_eq_flatMap, String.toList_append,
    List.flatMap_append]

theorem encode_newline : encode "\n" = [Reader.newline] :=
  (encode_eq_flatMap "\n").trans (by decide)

end Text

/-! ## Section 4: Publishing and saving

A log keeps what it has rendered until a turn is over.  The invariant is about both halves, so that
it holds in the middle of a turn; when the turn is over, all of it is in the file. -/

open Log

namespace Observer

/-- Publishes an event at its moment. -/
def publishAt (observer : Observer) (d : Dated) : Observer :=
  ((observer.setMoment d.moment).publish d.event).2

/-- One turn: events are published, and then what was written is put where it belongs. -/
def turn (kept : Observer × FileTree) (batch : List Dated) : Observer × FileTree :=
  let observer := batch.foldl publishAt kept.1
  (observer.saved, observer.saveTo kept.2)

/-- One turn after the other. -/
def turns (kept : Observer × FileTree) (batches : List (List Dated)) : Observer × FileTree :=
  batches.foldl turn kept

/-- A log at a place: its file holds the content, up to what the log has yet to put there. -/
def Carries (format : LogFormat) (place : Place) (content : List UInt8)
    (observer : Observer) (tree : FileTree) : Prop :=
  ∃ log held, observer = .log log ∧ log.format = format ∧ log.place = place ∧
    tree.contentAt? place = some held ∧ held ++ log.written = content

section Carrying

variable {format : LogFormat} {place : Place} {content : List UInt8} {observer : Observer}
  {tree : FileTree}

/-- **Publishing an event** adds its line.  The line is with the log only, until the log is saved.
-/
theorem Carries.publishAt (h : Carries format place content observer tree) (d : Dated) :
    Carries format place (content ++ d.line format) (observer.publishAt d) tree := by
  obtain ⟨log, held, rfl, rfl, rfl, hheld, rfl⟩ := h
  refine ⟨_, held, rfl, rfl, rfl, hheld, ?_⟩
  change held ++ (log.written ++ Text.encode (_ ++ "\n")) = _
  rw [Text.encode_string_append, Text.encode_newline, List.append_assoc]
  rfl

theorem Carries.publishAll (h : Carries format place content observer tree) (batch : List Dated) :
    Carries format place (content ++ batch.flatMap (Dated.line format))
      (batch.foldl Observer.publishAt observer) tree := by
  induction batch generalizing content observer with
  | nil => simpa using h
  | cons d batch ih => simpa using ih (h.publishAt d)

/-- **Saving** leaves nothing that is not in the file.  Behind it the log and the file can go on
apart. -/
theorem Carries.save (h : Carries format place content observer tree) :
    Carries format place content observer.saved (observer.saveTo tree) ∧
      (observer.saveTo tree).contentAt? place = some content := by
  obtain ⟨log, held, rfl, rfl, rfl, hheld, rfl⟩ := h
  have hsaved : ((Observer.log log).saveTo tree).contentAt? log.place = some (held ++ log.written) := by
    rw [Observer.saveTo]
    -- nothing was written, or what was written is put behind what the file holds
    split
    · next hempty =>
      rw [List.isEmpty_iff.mp hempty, List.append_nil]
      exact hheld
    · rw [LogFile.save, FileTree.contentAt?_write, hheld]
      rfl
  exact ⟨⟨_, _, rfl, rfl, rfl, hsaved, List.append_nil _⟩, hsaved⟩

end Carrying

/-- A log at a place whose file holds the content and that has nothing left to put there. -/
structure AtRest (format : LogFormat) (place : Place) (content : List UInt8)
    (kept : Observer × FileTree) : Prop where
  carries : Carries format place content kept.1 kept.2
  held : kept.2.contentAt? place = some content

section Turns

variable {format : LogFormat} {place : Place} {content : List UInt8} {kept : Observer × FileTree}

/-- A log that was just opened is at rest. -/
theorem atRest_openAt {tree opened : FileTree} {directory : Place} {moment : Moment} {path : String}
    {log : LogFile} (hopen : LogFile.openAt tree directory moment path format = .ok (log, opened))
    (hold : opened.contentAt? log.place = some content) :
    AtRest format log.place content (.log log, opened) := by
  obtain ⟨made, place, -, rfl, -⟩ := LogFile.openAt_cases hopen
  exact ⟨⟨_, content, rfl, rfl, rfl, hold, List.append_nil _⟩, hold⟩

theorem AtRest.turn (h : AtRest format place content kept) (batch : List Dated) :
    AtRest format place (content ++ batch.flatMap (Dated.line format)) (Observer.turn kept batch) :=
  let ⟨hcarries, hheld⟩ := (h.carries.publishAll batch).save
  ⟨hcarries, hheld⟩

/-- **What the file holds after any turns** is what it held before and the lines of all events that
were published, in order. -/
theorem AtRest.turns (h : AtRest format place content kept) (batches : List (List Dated)) :
    AtRest format place (content ++ batches.flatten.flatMap (Dated.line format))
      (Observer.turns kept batches) := by
  induction batches generalizing content kept with
  | nil => simpa [Observer.turns] using h
  | cons batch batches ih => simpa [Observer.turns] using ih (h.turn batch)

end Turns

end Observer

/-! ## Section 5: Lines

A reader of a log takes it apart at its newlines.  A log that held whole lines before still does, so
that its old lines stay as they were whatever is added. -/

namespace Reader

/-- Bytes that are whole lines: nothing stands behind the last newline. -/
def WholeLines (bytes : List UInt8) : Prop := bytes = [] ∨ bytes.getLast? = some newline

/-- Whole lines leave no fragment behind. -/
theorem WholeLines.completeSegments {bytes : List UInt8} (h : WholeLines bytes) :
    (completeSegments bytes).2 = [] := by
  induction bytes using line_induction with
  -- no newline: nothing at all, since anything would end with one
  | fragment bytes hbytes =>
    rw [completeSegments_of_not_mem hbytes]
    rcases h with rfl | h
    · rfl
    · exact absurd (List.mem_of_getLast? h) hbytes
  | line segment bytes hsegment ih =>
    rw [completeSegments_append_newline hsegment]
    -- what stands behind the first line is whole as well
    refine ih ?_
    rcases h with h | h
    · simp at h
    · cases bytes with
      | nil => exact .inl rfl
      | cons b bytes => exact .inr (by simpa using h)

/-- What stands behind whole lines is taken apart on its own. -/
theorem completeSegments_append {bytes : List UInt8} (h : (completeSegments bytes).2 = [])
    (later : List UInt8) :
    completeSegments (bytes ++ later) =
      ((completeSegments bytes).1 ++ (completeSegments later).1, (completeSegments later).2) := by
  induction bytes using line_induction with
  -- without a newline, the rest is all there is
  | fragment bytes hbytes =>
    rw [completeSegments_of_not_mem hbytes] at h ⊢
    rw [show bytes = [] from h, List.nil_append]
    rfl
  | line segment bytes hsegment ih =>
    rw [completeSegments_append_newline hsegment] at h ⊢
    rw [List.append_assoc, List.cons_append, completeSegments_append_newline hsegment, ih h]
    rfl

/-- **Lines with their newlines** are taken apart into these lines. -/
theorem completeSegments_lines {lines : List (List UInt8)} (h : ∀ line ∈ lines, newline ∉ line) :
    completeSegments (lines.flatMap (· ++ [newline])) = (lines, []) := by
  induction lines with
  | nil => rfl
  | cons line lines ih =>
    obtain ⟨hline, hlines⟩ := List.forall_mem_cons.mp h
    rw [List.flatMap_cons, List.append_assoc, List.singleton_append,
      completeSegments_append_newline hline, ih hlines]

/-- A newline stands in the bytes of a text only where it stands in the text. -/
theorem newline_mem_encode_iff (s : String) : newline ∈ Text.encode s ↔ '\n' ∈ s.toList := by
  constructor
  · intro h
    obtain ⟨front, rest, hparts, -⟩ := List.eq_append_cons_of_mem h
    have hread := Text.decodeLossy_encode s
    rw [hparts, decodeLossy_append_newline] at hread
    rw [← hread]
    exact List.mem_append_right _ List.mem_cons_self
  · intro h
    rw [Text.encode_eq_flatMap]
    exact List.mem_flatMap.mpr ⟨'\n', h, by decide⟩

end Reader

end Overseer
