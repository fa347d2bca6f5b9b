import Mathlib.Data.List.DropRight
import Overseer.Proofs.Prompt.Grammar

/-!
# What Is Left of a Cleaned Line

A line is cleaned in one pass over its escapes and one over its decorations.  Neither pass goes back
to what it has put together, so cleaning a line again may find more in it: `\x1b[\x1b[0m31m` is
cleaned to the escape `\x1b[31m`.  Nothing is left over but what was put together so.

- `Text.trimmed_trim`, `Text.trim_eq_self_iff`: no white space at the ends
- `cleanLine_eq_self_iff`: the lines that cleaning leaves alone
- `cleaned_cleanLine`: what is left of a line that was cleaned
-/

namespace Overseer.Text

/-! ## Section 1: Trimmed texts -/

/-- No white space stands at the ends of the text. -/
structure Trimmed (t : List Char) : Prop where
  head : ∀ c ∈ t.head?, isBlank c = false
  last : ∀ c ∈ t.getLast?, isBlank c = false

theorem trimEnd_isPrefix (s : List Char) : trimEnd s <+: s := List.rdropWhile_prefix isBlank s

/-- A text is what is trimmed from its start, what is left and what is trimmed from its end. -/
theorem append_trim_append (s : List Char) :
    s.takeWhile isBlank ++ trim s ++ (trimStart s).rtakeWhile isBlank = s := by
  have hback : trim s ++ (trimStart s).rtakeWhile isBlank = trimStart s :=
    List.rdropWhile_append_rtakeWhile
  rw [List.append_assoc, hback]
  exact List.takeWhile_append_dropWhile

theorem trim_sublist (s : List Char) : (trim s).Sublist s :=
  (trimEnd_isPrefix _).sublist.trans (List.dropWhile_sublist _)

/-- **A text that was trimmed** has no white space at its ends. -/
theorem trimmed_trim (s : List Char) : Trimmed (trim s) where
  head c hc := by
    have hnot := List.head?_dropWhile_not isBlank s
    obtain ⟨rest, hrest⟩ := trimEnd_isPrefix (trimStart s)
    rw [show s.dropWhile isBlank = trim s ++ rest from hrest.symm, List.head?_append, hc] at hnot
    exact hnot
  last c hc := by
    obtain ⟨hne, rfl⟩ := List.mem_getLast?_eq_getLast hc
    exact Bool.eq_false_iff.mpr (List.rdropWhile_last_not isBlank _ hne)

/-- **Trimming changes nothing** exactly where no white space stands at the ends. -/
theorem trim_eq_self_iff (t : List Char) : trim t = t ↔ Trimmed t := by
  refine ⟨fun h => h ▸ trimmed_trim t, fun h => ?_⟩
  have hstart : trimStart t = t := by
    cases t with
    | nil => rfl
    | cons c t => rw [trimStart, List.dropWhile_cons, h.head c rfl, if_neg Bool.false_ne_true]
  -- `trimEnd` is `rdropWhile`, which leaves a text alone that ends with another character
  have hend : trimEnd t = t := List.rdropWhile_eq_self_iff.mpr fun hne =>
    Bool.eq_false_iff.mp (h.last _ (List.getLast?_eq_some_getLast hne))
  rw [trim, hstart, hend]

end Overseer.Text

namespace Overseer.Prompt

open Text

/-! ## Section 2: Lines that are not changed

The lines that need no cleaning are those in which there is nothing to find.  This is one condition
for both passes, since a text without escapes is left as it is by the first one. -/

/-- Nothing in the text is an escape or a decoration. -/
def Plain (t : List Char) : Prop := ∀ part, part <:+: t → ¬IsEscape part ∧ ¬IsDecoration part

/-- **Cleaning changes nothing** exactly where there is nothing to remove and nothing to trim. -/
theorem cleanLine_eq_self_iff (t : List Char) : cleanLine t = t ↔ Trimmed t ∧ Plain t := by
  have hescapes := recognizes_escapeWidth.deletePieces_eq_self_iff t
  have hdecorations := recognizes_decorationWidth.deletePieces_eq_self_iff t
  constructor
  · intro h
    -- no pass adds anything, so none of them may remove anything
    have hstripped : (stripEscapes t).Sublist t := recognizes_escapeWidth.deletePieces_sublist t
    have hundecorated : (stripDecorations (stripEscapes t)).Sublist (stripEscapes t) :=
      recognizes_decorationWidth.deletePieces_sublist _
    have htrimmed := trim_sublist (stripDecorations (stripEscapes t))
    have hlength : (trim (stripDecorations (stripEscapes t))).length = t.length :=
      congrArg List.length h
    have hescape : stripEscapes t = t := hstripped.eq_of_length_le
      (hlength ▸ (htrimmed.trans hundecorated).length_le)
    rw [hescape] at hundecorated htrimmed hlength
    have hdecoration : stripDecorations t = t := hundecorated.eq_of_length_le
      (hlength ▸ htrimmed.length_le)
    have htrim : trim t = t := by
      rw [cleanLine, hescape, hdecoration] at h
      exact h
    exact ⟨(trim_eq_self_iff t).mp htrim, fun part hpart =>
      ⟨hescapes.mp hescape part hpart, hdecorations.mp hdecoration part hpart⟩⟩
  · rintro ⟨htrimmed, hplain⟩
    have hescape : stripEscapes t = t := hescapes.mpr fun part hpart => (hplain part hpart).1
    have hdecoration : stripDecorations t = t :=
      hdecorations.mpr fun part hpart => (hplain part hpart).2
    rw [cleanLine, hescape, hdecoration, (trim_eq_self_iff t).mpr htrimmed]

/-! ## Section 3: Where a cleaned line has stood

The two passes and the trimming each keep characters at places, and the places are carried through:
what is left can be pointed at in the line that was read. -/

/-- The places of the cleaned line in the line without its escapes. -/
def strippedPlaces (raw : List Char) : List Nat :=
  let lead := (stripDecorations (stripEscapes raw)).takeWhile isBlank
  ((keptPlaces decorationWidth (stripEscapes raw)).drop lead.length).take (cleanLine raw).length

/-- The places of the cleaned line in the line. -/
def rawPlaces (raw : List Char) : List Nat :=
  (strippedPlaces raw).map ((keptPlaces escapeWidth raw).getD · 0)

theorem standsAt_strippedPlaces (raw : List Char) :
    StandsAt (stripEscapes raw) (strippedPlaces raw) (cleanLine raw) := by
  -- the cleaned line is what is between the two ends that are trimmed
  have h : StandsAt (stripEscapes raw) (keptPlaces decorationWidth (stripEscapes raw))
      (deletePieces decorationWidth (stripEscapes raw)) := standsAt_keptPlaces _
  rw [← append_trim_append (deletePieces decorationWidth (stripEscapes raw))] at h
  exact h.part

theorem standsAt_rawPlaces (raw : List Char) :
    StandsAt raw (rawPlaces raw) (cleanLine raw) :=
  (standsAt_keptPlaces raw).comp (standsAt_strippedPlaces raw)

theorem decorationWidth_of_mem_strippedPlaces {raw : List Char} {i : Nat}
    (h : i ∈ strippedPlaces raw) : decorationWidth ((stripEscapes raw).drop i) = 0 :=
  width_of_mem_keptPlaces (List.mem_of_mem_drop (List.mem_of_mem_take h))

theorem escapeWidth_of_mem_rawPlaces {raw : List Char} {i : Nat} (h : i ∈ rawPlaces raw) :
    escapeWidth (raw.drop i) = 0 := by
  obtain ⟨j, hj, rfl⟩ := List.mem_map.mp h
  -- `getD` finds a place there is, as `j` is one of the line without its escapes
  have hlt : j < (keptPlaces escapeWidth raw).length := by
    rw [(standsAt_keptPlaces raw).length_eq]
    exact (standsAt_strippedPlaces raw).lt_length hj
  rw [List.getD_eq_getElem _ _ hlt]
  exact width_of_mem_keptPlaces (List.getElem_mem hlt)

/-! ## Section 4: What is left over

What looks like an escape or a decoration in the cleaned line did not stand side by side when the
pass that looks for it went over the line.  No more can be said, since one pass does not look again.
-/

/-- A line that was cleaned. -/
structure Cleaned (raw : List Char) : Prop where
  /-- No white space is left at its ends. -/
  trimmed : Trimmed (cleanLine raw)
  /-- Its characters have stood in the line. -/
  standsAt : StandsAt raw (rawPlaces raw) (cleanLine raw)
  /-- They have stood in the line without its escapes. -/
  standsAt_stripped : StandsAt (stripEscapes raw) (strippedPlaces raw) (cleanLine raw)
  /-- Of an escape that is left over, the characters did not stand side by side in the line. -/
  escape_parted : ∀ {front part rest}, cleanLine raw = front ++ part ++ rest → IsEscape part →
    Parted (rawPlaces raw) front part
  /-- Of a decoration that is left over, they did not stand side by side without the escapes. -/
  decoration_parted : ∀ {front part rest}, cleanLine raw = front ++ part ++ rest →
    IsDecoration part → Parted (strippedPlaces raw) front part
  /-- Cleaning the line again changes something exactly where something is left over. -/
  fixed_iff : cleanLine (cleanLine raw) = cleanLine raw ↔ Plain (cleanLine raw)

/-- **Nothing is left over of a cleaned line** but what the cleaning put together itself.  Each
character of the result has its place in the line, and places that do not stand side by side show
where something was taken out. -/
theorem cleaned_cleanLine (raw : List Char) : Cleaned raw where
  trimmed := trimmed_trim _
  standsAt := standsAt_rawPlaces raw
  standsAt_stripped := standsAt_strippedPlaces raw
  escape_parted heq := recognizes_escapeWidth.parted (heq ▸ standsAt_rawPlaces raw)
    fun _ => escapeWidth_of_mem_rawPlaces
  decoration_parted heq := recognizes_decorationWidth.parted (heq ▸ standsAt_strippedPlaces raw)
    fun _ => decorationWidth_of_mem_strippedPlaces
  fixed_iff := (cleanLine_eq_self_iff _).trans (and_iff_right (trimmed_trim _))

/-- The mis-decoded warning sign is left over where a glyph stood inside of it, and is removed when
the line is cleaned again. -/
theorem not_plain_partedWarning :
    ¬Plain (cleanLine "\u00e2⚠\u0161 Backup? [Y/n]".toList) ∧
      cleanLine (cleanLine "\u00e2⚠\u0161 Backup? [Y/n]".toList) ≠
        cleanLine "\u00e2⚠\u0161 Backup? [Y/n]".toList := by
  have hagain : cleanLine (cleanLine "\u00e2⚠\u0161 Backup? [Y/n]".toList) ≠
      cleanLine "\u00e2⚠\u0161 Backup? [Y/n]".toList := by decide
  exact ⟨fun h => hagain ((cleanLine_eq_self_iff _).mpr ⟨trimmed_trim _, h⟩), hagain⟩

end Overseer.Prompt
