import Overseer.Proofs.Log.PlainLines
import Overseer.Proofs.Prompt.NormalForm
import Overseer.Proofs.Supervisor.Received
import Overseer.Proofs.Supervisor.Story

/-!
# Where Newlines Come From

The texts that a run tells come from different sources.  A line of output was cut out of the output
at its newlines and a prompt is a line without some of its characters, so that neither has a newline,
whatever the process prints.  The command stands in the first event as it is shown, with all
newlines of its words; and an error or a failure quotes a reason that was given.

- `Reader.newline_not_mem_streamLines`: the lines of a stream
- `lasting_unbroken`: the lines of a run
- `Chronicle.breaking_after`: the events of a run that have a newline in their text
-/

namespace Overseer

/-! ## Section 1: The lines of a stream

A stream is cut at its newline bytes, and a newline is read only from such a byte.  The other bytes
of a line may be anything. -/

/-- A newline is read only where its byte stands. -/
theorem Text.newline_mem_of_decodeLossy {bytes : List UInt8} (h : '\n' ∈ decodeLossy bytes) :
    Reader.newline ∈ bytes := by
  obtain ⟨parts, hparts⟩ := exists_takenApart bytes
  rw [← hparts.chars_eq] at h
  obtain ⟨p, hp, hnewline⟩ := List.mem_map.mp h
  -- what is no character is read as a replacement character
  have hwhole : p.1 = String.utf8EncodeChar p.2 := by
    have hpart := hparts.sound p hp
    have hne : p.2 ≠ replacement := by
      rw [hnewline]
      decide
    generalize p.1 = part at hpart
    generalize p.2 = c at hpart hne
    cases hpart with
    | whole => rfl
    | broken => exact absurd rfl hne
    | stray => exact absurd rfl hne
  rw [hnewline] at hwhole
  rw [← hparts.bytes_eq]
  refine List.mem_flatMap.mpr ⟨p, hp, ?_⟩
  rw [hwhole]
  decide

namespace Reader

/-- **No line of a stream has a newline.** -/
theorem newline_not_mem_streamLines {stream : List UInt8} {text : String}
    (h : text ∈ streamLines stream) : '\n' ∉ text.toList := by
  -- a text is a piece of a line, and a line has no newline in it
  obtain ⟨piece, hpiece, rfl⟩ := List.mem_map.mp h
  obtain ⟨line, hline, hpiece⟩ := List.mem_flatMap.mp hpiece
  rw [pieceText, String.toList_ofList]
  intro hmem
  have hdropped := Text.newline_mem_of_decodeLossy hmem
  -- reading bytes makes no newline of its own, and neither does the return that is dropped
  have hinside : newline ∈ piece := by
    rw [dropReturn] at hdropped
    split at hdropped
    · exact List.mem_of_mem_dropLast hdropped
    · exact hdropped
  exact (infix_of_mem_segments hline).2 ((infix_of_mem_greedyPieces hpiece).subset hinside)

end Reader

/-! ## Section 2: The lines of a run

The lines of a run are those of its reader, also where a fragment is taken; a fragment is what
stands behind the last newline. -/

open Agenda

variable {σ : Type} [Sink σ]

/-- No line that was told or is still to be told has a newline. -/
def Unbroken (w : Worker σ) (log : List (Deed σ)) : Prop :=
  ∀ line ∈ Event.lines (Chronicle.told log) ++ Agenda.lines w.agenda, '\n' ∉ line.toList

omit [Sink σ] in
theorem Reader.OutputReader.Digests.unbroken {r : OutputReader} {bytes : List UInt8}
    {texts : List String} (h : r.Digests bytes texts) : ∀ text ∈ texts, '\n' ∉ text.toList := by
  intro text htext
  have hmem : text ∈ streamLines bytes := by
    rw [← h.account]
    exact List.mem_append_left _ htext
  exact newline_not_mem_streamLines hmem

/-- **One step** tells nothing but lines that were handed out. -/
theorem Unbroken.step {s : Supervisor} {w : Worker σ} {log : List (Deed σ)} {seen : Observation}
    (h : Unbroken w log) (hphase : Phase w.agenda)
    (hdigests : w.reader.Digests (Chronicle.marked log) (Chronicle.handed log)) :
    Unbroken (w.step s seen).worker (log ++ [.worked s w seen]) := by
  -- the lines of this step were handed out, and so have no newline
  have hhanded : ∀ line ∈ w.handed s.tuning, '\n' ∉ line.toList := fun line hline =>
    (Worker.digests_step hdigests seen).unbroken line (List.mem_append_right _ hline)
  obtain ⟨htold, hagenda⟩ := List.forall_mem_append.mp h
  rw [Unbroken, Chronicle.told_concat, Event.lines_append, List.append_assoc]
  refine List.forall_mem_append.mpr ⟨htold, ?_⟩
  by_cases hrep : (Deed.worked s w seen).IsRepresentable
  · rw [Deed.told, Worker.lines_step hphase hrep]
    exact List.forall_mem_append.mpr ⟨hagenda, hhanded⟩
  · -- a run that gives up tells nothing more
    obtain ⟨-, hgivenUp, hsilent⟩ := Worker.givenUp_of_not_representable hrep
    rw [Deed.told, hsilent]
    intro line hline
    have hnone : Agenda.lines (w.step s seen).worker.agenda = [] := by
      generalize (w.step s seen).worker.agenda = agenda at hgivenUp
      cases hgivenUp <;> rfl
    rw [hnone] at hline
    exact absurd hline List.not_mem_nil

theorem lasting_unbroken (tuning : Tuning) :
    Lasting (σ := σ) tuning fun _ w log =>
      w.reader.Digests (Chronicle.marked log) (Chronicle.handed log) ∧ Unbroken w log := by
  refine (lasting_digested tuning).beside ?_ ?_ ?_ ?_
  · intro w hfresh
    rw [Unbroken, hfresh.agenda]
    exact fun line hline => absurd hline List.not_mem_nil
  · exact fun s w log seen ha hdigests h => h.step ha.phase hdigests
  · exact fun w log arrival h => h
  · intro relay w log answer replies h
    rw [Unbroken, Chronicle.told_answered]
    exact h

/-! ## Section 3: The events of a run

A prompt is found in the cleaned line and is a part of it.  Cleaning takes characters away and puts
none in. -/

namespace Prompt

theorem cleanLine_subset (raw : List Char) : cleanLine raw ⊆ raw := by
  have hdecorations : (stripDecorations (stripEscapes raw)).Sublist (stripEscapes raw) :=
    recognizes_decorationWidth.deletePieces_sublist _
  have hescapes : (stripEscapes raw).Sublist raw := recognizes_escapeWidth.deletePieces_sublist raw
  exact (((Text.trim_sublist _).trans hdecorations).trans hescapes).subset

theorem line_of_findIn {cleaned : List Char} {patterns : PromptPatterns} {prompt : DetectedPrompt}
    (h : patterns.findIn cleaned = some prompt) : prompt.line = String.ofList cleaned := by
  induction patterns with
  | nil => cases h
  | cons p patterns ih =>
    rw [PromptPatterns.findIn] at h
    split at h
    · cases h
      rfl
    · exact ih h

/-- A prompt has no character that its line has not. -/
theorem subset_of_detect {patterns : PromptPatterns} {raw : String} {prompt : DetectedPrompt}
    (h : patterns.detect raw = some prompt) : prompt.line.toList ⊆ raw.toList := by
  rw [PromptPatterns.detect, Option.ite_none_left_eq_some] at h
  rw [line_of_findIn h.2, String.toList_ofList]
  exact cleanLine_subset raw.toList

end Prompt

namespace Chronicle

/-- **The events of a run that have a newline in their text**: the start, if a word of the command
has one, and what quotes a reason.  No line of output, prompt or answer has one, whatever the
process prints. -/
theorem breaking_after (tuning : Tuning) (actions : List (Crew.Action σ)) :
    (after tuning actions).Every fun _ w log => ∀ e ∈ told log, '\n' ∈ e.quotedText.toList →
      (e = .started w.pid w.command.display ∧ ∃ word ∈ w.command.words, '\n' ∈ word.toList) ∨
        (∃ reason, e = .error reason) ∨ ∃ reason, e = .finished (.failed reason) := by
  intro t w hstage e he hnewline
  have hunbroken := (lasting_after (lasting_unbroken tuning) actions t w hstage).2
  have hworkers := lasting_after (lasting_oneWorker tuning) actions t w hstage
  have hstory := story_after tuning actions t w hstage
  have hlines : ∀ line, .output line ∈ told ((after tuning actions).log t) →
      '\n' ∉ line.toList := by
    intro line hline
    exact hunbroken line (List.mem_append_left _ (List.mem_filterMap.mpr ⟨_, hline, rfl⟩))
  -- the event was told by a task of the run
  obtain ⟨deed, hdeed, hpublished⟩ := List.mem_flatMap.mp he
  cases deed with
  | answered relay answer replies => exact absurd hpublished List.not_mem_nil
  | worked s w' seen =>
    obtain ⟨rest, task, htells⟩ : ∃ rest task,
        Worker.Tells s { w' with agenda := rest } seen task e := by
      cases hagenda : w'.agenda with
      | nil =>
        rw [Deed.told, Worker.published, hagenda] at hpublished
        exact absurd hpublished List.not_mem_nil
      | cons task rest =>
        rw [Deed.told, Worker.published_cons hagenda] at hpublished
        exact ⟨rest, task, Worker.tells_of_mem hpublished⟩
    cases htells with
    | started =>
      have hsame := hworkers s w' seen hdeed
      have hcommand : w'.command = w.command := hsame.command
      have hpid : w'.pid = w.pid := hsame.pid
      refine .inl ⟨by rw [hcommand, hpid], ?_⟩
      rw [← hcommand]
      exact (Command.newline_mem_display_iff w'.command).mp hnewline
    | line line => exact absurd hnewline (hlines line he)
    | lateLine line => exact absurd hnewline (hlines line he)
    | prompt text =>
      -- a prompt is told behind the line that it was found in
      obtain ⟨earlier, later, htold⟩ := List.append_of_mem he
      obtain ⟨before, line, prompt, hbefore, hdetect, rfl⟩ := hstory.prompted earlier text later htold
      refine absurd (Prompt.subset_of_detect hdetect hnewline) (hlines line ?_)
      rw [htold, hbefore]
      simp
    | notice notice _ =>
      cases notice with
      | sent answer => exact absurd hnewline List.not_mem_nil
      | failed answer reason => exact .inr (.inl ⟨_, rfl⟩)
    | expired wait => exact .inr (.inl ⟨_, rfl⟩)
    | tooLate => exact .inr (.inl ⟨_, rfl⟩)
    | lost reason => exact .inr (.inl ⟨_, rfl⟩)
    | held => exact absurd hnewline (by decide)
    | finished outcome =>
      cases outcome with
      | failed reason => exact .inr (.inr ⟨reason, rfl⟩)
      | _ => exact absurd hnewline List.not_mem_nil

end Chronicle

end Overseer
