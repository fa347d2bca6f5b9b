import Overseer.Proofs.Prompt.Decorated
import Overseer.Web.Response

/-!
# The Marker of a Prompt

The page is asked for an answer by a frame with a fixed text, among the frames that show what the
script has written.  Page text that holds no entity is the text that was to be shown, so the marker
is sent for a prompt, and else only for what repeats it word by word.

- `escapeHtml_eq_self`: page text without an entity
- `Repeats`: the events that repeat the marker
- `ofEvent_eq_marker_iff`: the events that the marker is sent for
-/

namespace Overseer

/-! ## Section 1: Page text

Entities begin with an ampersand, and the marker has none.  So page text can only be the marker if
nothing was escaped in it. -/

namespace Text

theorem htmlEntity_cases (c : Char) : htmlEntity c = [c] ∨ '&' ∈ htmlEntity c := by
  unfold htmlEntity
  repeat' split
  all_goals first | exact .inl rfl | exact .inr (by decide)

/-- Page text that holds no entity is the text itself. -/
theorem escapeHtml_eq_self {s : List Char} (h : '&' ∉ escapeHtml s) : escapeHtml s = s := by
  induction s with
  | nil => rfl
  | cons c s ih =>
    rw [escapeHtml, List.flatMap_cons, List.mem_append, not_or] at h
    rw [escapeHtml, List.flatMap_cons, (htmlEntity_cases c).resolve_right h.1]
    exact congrArg (c :: ·) (ih h.2)

end Text

namespace Web.Frame

open Prompt (IsEscape stripEscapes_eq_iff)

/-- No character of the marker is written as an entity. -/
theorem escapeHtml_eq_marker_iff (s : List Char) :
    Text.escapeHtml s = promptMarker.toList ↔ s = promptMarker.toList := by
  constructor
  · intro h
    rw [← h]
    exact (Text.escapeHtml_eq_self (h ▸ by decide)).symm
  · rintro rfl
    decide

theorem pageText_eq_marker_iff (s : String) : pageText s = promptMarker ↔ s = promptMarker := by
  rw [pageText, ← String.toList_inj, String.toList_ofList, escapeHtml_eq_marker_iff,
    String.toList_inj]

/-! ## Section 2: The events that the marker is sent for

A frame with text tells nothing of the event that it comes from.  The marker is a text like any
other, so a script that writes it cannot be told from one that asks. -/

/-- An event that repeats the marker: a line that is the marker, with terminal escapes put in
anywhere, or a message that is the marker. -/
def Repeats : Event → Prop
  | .output line => Text.Interleaved IsEscape promptMarker.toList line.toList
  | .warning message => message = promptMarker
  | .error message => message = promptMarker
  | _ => False

/-- A sentence that begins with other words is no marker. -/
theorem append_ne_marker {front : String} (h : ¬ front.toList <+: promptMarker.toList)
    (s : String) : front ++ s ≠ promptMarker := by
  intro heq
  rw [← heq, String.toList_append] at h
  exact h (List.prefix_append ..)

theorem data_pageText_eq_iff (s : String) :
    Frame.data (pageText s) = .data promptMarker ↔ s = promptMarker := by
  rw [Frame.data.injEq, pageText_eq_marker_iff]

/-- **The marker** is sent for a prompt, and for the events that repeat the marker.  Among these are
lines of output, so that a page cannot tell a prompt from a script that writes the marker. -/
theorem ofEvent_eq_marker_iff (e : Event) :
    ofEvent e = .data promptMarker ↔ (∃ text, e = .promptDetected text) ∨ Repeats e := by
  -- only one of the two grounds is open to an event that is no prompt
  have hother : (∀ text, e ≠ .promptDetected text) →
      ((∃ text, e = .promptDetected text) ∨ Repeats e ↔ Repeats e) :=
    fun h => or_iff_right fun ⟨text, htext⟩ => h text htext
  cases e with
  | promptDetected text => exact iff_of_true rfl (.inl ⟨text, rfl⟩)
  -- of an output line, the escapes are taken out before the markup
  | output line =>
    rw [hother nofun, ofEvent, Frame.data.injEq, ← String.toList_inj, String.toList_ofList,
      escapeHtml_eq_marker_iff]
    exact stripEscapes_eq_iff (by decide)
  | warning message =>
    rw [hother nofun]
    exact data_pageText_eq_iff message
  | error message =>
    rw [hother nofun]
    exact data_pageText_eq_iff message
  | started pid command =>
    rw [hother nofun]
    -- the summary begins with a word that the marker does not begin with
    refine (data_pageText_eq_iff _).trans (iff_of_false ?_ id)
    have hsummary : Event.summary (.started pid command) =
        "started " ++ command ++ " (pid " ++ toString pid ++ ")" := rfl
    rw [hsummary, String.append_assoc, String.append_assoc, String.append_assoc]
    exact append_ne_marker (by decide) _
  | answerSent answer =>
    rw [hother nofun]
    refine (data_pageText_eq_iff _).trans (iff_of_false ?_ id)
    have hsummary : Event.summary (.answerSent answer) = "answer sent: " ++ answer.letter := rfl
    rw [hsummary]
    exact append_ne_marker (by decide) _
  | finished outcome =>
    rw [hother nofun]
    exact iff_of_false nofun id

/-- A script may write the marker, and no prompt was found then. -/
theorem marker_without_prompt : ¬ ∀ e : Event,
    ofEvent e = .data promptMarker ↔ ∃ text, e = .promptDetected text := by
  intro h
  obtain ⟨_, hprompt⟩ := (h (.output "BACKUP_PROMPT")).mp (by decide)
  cases hprompt

end Web.Frame

end Overseer
