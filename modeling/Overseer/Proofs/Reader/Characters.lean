import Overseer.Proofs.Reader.Buffer
import Overseer.Proofs.Text.Replacement

/-!
# Characters That Come in Two Chunks

A character whose bytes come in two chunks is handed out whole, wherever the lines of its stream are
cut.  But a fragment can be taken while a character of it is still open.  Then the bytes in front of
the cut are read as a replacement character, and so is each byte behind it.

- `mem_decodeLossy_iff`: the characters of a stream are those of its lines
- `not_mem_of_withBreaks`, `not_mem_withBreaks`: newlines put into a text
- `Reading.atBoundary_of_not_mem`: texts without a replacement character were taken between two
  characters
- `Reading.unmangled_after`: what is handed out of a text
-/

namespace Overseer.Reader

open Text

/-! ## Section 1: The characters of a stream

A newline is a byte that occurs in no other character, so nothing is open in front of it and nothing
behind it goes on with what was.  The replacement characters of a stream are therefore those of its
lines. -/

theorem decodeLossy_append_newline (front rest : List UInt8) :
    decodeLossy (front ++ newline :: rest) = decodeLossy front ++ '\n' :: decodeLossy rest := by
  have hnewline : ¬IsInner newline := by decide
  rw [decodeLossy_append_cons hnewline, decodeLossy_newline_cons]
  rfl

/-- The characters of a line are those of its texts, but for carriage returns. -/
theorem mem_lineTexts_iff {c : Char} (hc : c ≠ '\r') (line : List UInt8) :
    c ∈ decodeLossy line ↔ ∃ text ∈ lineTexts line, c ∈ text.toList := by
  have hreturn : ∀ piece, c ∉ returnBehind piece := by
    intro piece hmem
    rw [returnBehind] at hmem
    split at hmem
    · exact hc (List.mem_singleton.mp hmem)
    · exact absurd hmem List.not_mem_nil
  simp only [decodeLossy_eq_flatMap_pieces line, lineTexts, List.mem_flatMap, List.mem_append,
    hreturn, or_false, List.mem_map, exists_exists_and_eq_and]

/-- **The characters of a stream** are those of its texts, but for newlines and carriage returns. -/
theorem mem_decodeLossy_iff {c : Char} (hc : c ≠ '\n' ∧ c ≠ '\r') (stream : List UInt8) :
    c ∈ decodeLossy stream ↔ ∃ text ∈ streamLines stream, c ∈ text.toList := by
  induction stream using line_induction with
  | fragment bytes h =>
    rw [streamLines_eq_flatMap, segments_of_not_mem h]
    -- a stream without a newline is one line, or none if it is empty
    by_cases hnil : bytes = []
    · subst hnil
      exact ⟨fun h => absurd h List.not_mem_nil, fun ⟨_, h, _⟩ => absurd h List.not_mem_nil⟩
    · rw [if_neg hnil, List.flatMap_singleton, mem_lineTexts_iff hc.2]
  | line line bytes h ih =>
    rw [streamLines_eq_flatMap] at ih ⊢
    -- the newline belongs to no text, and what is behind it is read by itself
    simp only [segments_append_cons h, List.flatMap_cons, decodeLossy_append_newline,
      List.mem_append, List.mem_cons, hc.1, false_or, ih, mem_lineTexts_iff hc.2, or_and_right,
      exists_or]

/-! ## Section 2: Newlines put into a text

A fragment that is taken is decoded by itself, just as if a newline had come behind it.  Between two
characters a newline does no harm; inside of one it breaks the character into replacement
characters. -/

theorem replacement_ne : replacement ≠ '\n' ∧ replacement ≠ '\r' := by decide

/-- Bytes that are read without a replacement character behind newlines put into them were read so
before. -/
theorem not_mem_of_withBreaks {stream : List UInt8} {offsets : List Nat}
    (h : replacement ∉ decodeLossy (withBreaks stream offsets)) :
    replacement ∉ decodeLossy stream := by
  induction offsets with
  | nil => exact h
  | cons offset offsets ih =>
    refine ih ?_
    rw [withBreaks, List.foldr_cons, ← withBreaks] at h
    generalize withBreaks stream offsets = bytes at h
    by_cases hoffset : offset ≤ bytes.length
    · obtain ⟨front, rest, rfl, rfl⟩ : ∃ front rest, bytes = front ++ rest ∧
          front.length = offset :=
        ⟨_, _, (List.take_append_drop offset bytes).symm, List.length_take_of_le hoffset⟩
      rw [insertIdx_append_of_le (Nat.le_refl _), List.insertIdx_length_self, List.append_assoc,
        List.singleton_append, decodeLossy_append_newline, List.mem_append, List.mem_cons,
        not_or, not_or] at h
      -- both sides are texts, and so are the two together
      rw [eq_encode_of_not_mem h.1, decodeLossy_encode_append]
      exact List.not_mem_append h.1 h.2.2
    · rwa [List.insertIdx_of_length_lt (Nat.lt_of_not_le hoffset)] at h

/-- Newlines that are put between the characters of a text leave it a text. -/
theorem not_mem_withBreaks {s : String} (hs : replacement ∉ s.toList) {offsets : List Nat}
    (hsorted : offsets.Pairwise (· ≤ ·)) (h : ∀ offset ∈ offsets, AtBoundary s offset) :
    replacement ∉ decodeLossy (withBreaks (encode s) offsets) := by
  induction offsets using List.reverseRecOn with
  | nil => rwa [withBreaks, List.foldr_nil, decodeLossy_encode]
  | append_singleton offsets offset ih =>
    obtain ⟨hfront, -, hle⟩ := List.pairwise_append.mp hsorted
    obtain ⟨front, rest, hencode, rfl⟩ :=
      (h offset (List.mem_append_right _ List.mem_cons_self)).exists_append
    have hbreaks : ∀ o ∈ offsets, o ≤ (encode (String.ofList front)).length := fun o ho =>
      hle o ho _ List.mem_cons_self
    have hmem := ih hfront fun o ho => h o (List.mem_append_left _ ho)
    rw [hencode, withBreaks_append hbreaks, decodeLossy_append_encode, List.mem_append,
      not_or] at hmem
    -- the newlines are put in from the last one on, so the others stand in front of it
    have hlast : ∀ o ∈ offsets ++ [(encode (String.ofList front)).length],
        o ≤ (encode (String.ofList front)).length := by
      intro o ho
      rcases List.mem_append.mp ho with ho | ho
      · exact hbreaks o ho
      · exact Nat.le_of_eq (List.mem_singleton.mp ho)
    have hnewline : replacement ∉ '\n' :: rest :=
      List.not_mem_cons_of_ne_of_not_mem replacement_ne.1 hmem.2
    rw [hencode, withBreaks_append hlast, withBreaks_concat hbreaks, List.append_assoc,
      List.singleton_append, decodeLossy_append_newline, decodeLossy_encode_ofList]
    exact List.not_mem_append hmem.1 hnewline

/-! ## Section 3: What a reader hands out

The two directions need each other's opposite: a text without a replacement character was cut
between characters, and a text that was cut between characters has none. -/

namespace Reading

open OutputReader

/-- Fragments are taken one behind the other. -/
theorem pairwise_breaks (moves : List Move) : (after moves).breaks.Pairwise (· ≤ ·) := by
  induction moves using List.reverseRecOn with
  | nil => exact List.Pairwise.nil
  | append_singleton moves move ih =>
    rw [after_concat]
    cases move with
    -- only the taking of a fragment adds a break, behind everything that was taken
    | arrive a => exact ih
    | poll => exact ih
    | takeFragment =>
      obtain ⟨taken, chunks, htracks⟩ := tracks_after moves
      simp only [step]
      -- the earlier breaks are within what was taken so far, where the new one is put
      split
      · refine List.pairwise_append.mpr ⟨ih, List.pairwise_singleton _ _, ?_⟩
        intro offset hoffset last hlast
        rw [List.mem_singleton.mp hlast, received_eq htracks]
        exact htracks.breaks_le offset hoffset
      · exact ih

/-- What was handed out and the fragment that is left are the lines of what was taken. -/
theorem texts_append_lastText {r : Reading} {taken : List UInt8} {chunks : List (List UInt8)}
    (h : r.Tracks taken chunks) :
    r.texts ++ lastText r.reader.pending = streamLines (withBreaks taken r.breaks) :=
  Digests.account ⟨r, taken, chunks, h, rfl, rfl, rfl⟩

/-- **Where no text has a replacement character**, each fragment was taken between two characters. -/
theorem atBoundary_of_not_mem {s : String} {moves : List Move}
    (hstream : (after moves).stream <+: encode s)
    (h : ∀ text ∈ (after moves).texts, replacement ∉ text.toList) :
    ∀ offset ∈ (after moves).breaks, AtBoundary s offset := by
  induction moves using List.reverseRecOn with
  | nil => exact nofun
  | append_singleton moves move ih =>
    rw [after_concat] at hstream h ⊢
    cases move with
    | arrive a =>
      -- what has arrived before is a part of the text as well
      refine ih (List.IsPrefix.trans ?_ hstream) h
      simp only [step]
      split
      · exact List.prefix_rfl
      · exact List.prefix_append ..
    | poll => exact ih hstream fun text htext => h text (List.mem_append_left _ htext)
    | takeFragment =>
      have hbefore := ih hstream fun text htext => h text (List.mem_append_left _ htext)
      obtain ⟨taken, chunks, htracks⟩ := tracks_after moves
      intro offset hoffset
      simp only [step] at hoffset
      split at hoffset
      · rcases List.mem_append.mp hoffset with hoffset | hoffset
        · exact hbefore offset hoffset
        · -- all that the reader has taken is in its texts now
          have htexts := texts_append_lastText (tracks_takeFragment htracks)
          have hlast : lastText ((after moves).step .takeFragment).reader.pending = [] := rfl
          rw [hlast, List.append_nil] at htexts
          have hmem : replacement ∉ decodeLossy taken := not_mem_of_withBreaks fun hmem => by
            obtain ⟨text, htext, hreplacement⟩ := (mem_decodeLossy_iff replacement_ne _).mp hmem
            exact h text (htexts ▸ htext) hreplacement
          -- so it is a text, and ends between two characters of `s`
          have htaken : taken <+: encode s :=
            (htracks.stream_eq ▸ List.prefix_append ..).trans hstream
          rw [List.mem_singleton.mp hoffset, received_eq htracks]
          exact atBoundary_of_prefix htaken hmem
      · exact hbefore offset hoffset

/-- Where each fragment was taken between two characters, no text has a replacement character. -/
theorem not_mem_of_atBoundary {s : String} (hs : replacement ∉ s.toList) {moves : List Move}
    (hstream : (after moves).stream = encode s)
    (h : ∀ offset ∈ (after moves).breaks, AtBoundary s offset) :
    ∀ text ∈ (after moves).texts, replacement ∉ text.toList := by
  intro text htext hmem
  have hnone := not_mem_withBreaks hs (pairwise_breaks moves) h
  rw [← hstream] at hnone
  exact hnone ((mem_decodeLossy_iff replacement_ne _).mpr
    ⟨text, (texts_prefix_streamLines moves).mem htext, hmem⟩)

/-- What a reader hands out of a text that has no replacement character. -/
structure Unmangled (r : Reading) (s : String) : Prop where
  /-- No character is mangled exactly when each fragment was taken between two characters. -/
  texts_iff : (∀ text ∈ r.texts, replacement ∉ text.toList) ↔
    ∀ offset ∈ r.breaks, AtBoundary s offset
  /-- Then the fragment that is shown has none that is mangled exactly when no character in it is
  open. -/
  fragment_iff : (∀ offset ∈ r.breaks, AtBoundary s offset) →
    ∀ text, r.reader.fragment? = some text →
      (replacement ∉ text.toList ↔ AtBoundary s r.received)

/-- **What is handed out of a text**, in whatever chunks it arrives, however often the reader is
polled, and wherever fragments are taken.  Only a fragment that is taken inside of a character can
mangle it. -/
theorem unmangled_after (s : String) (hs : replacement ∉ s.toList) (moves : List Move)
    (hstream : streamOf moves = encode s) : (after moves).Unmangled s := by
  have hexact : ∀ moves, (after moves).stream = encode s →
      ((∀ text ∈ (after moves).texts, replacement ∉ text.toList) ↔
        ∀ offset ∈ (after moves).breaks, AtBoundary s offset) := fun moves hstream =>
    ⟨atBoundary_of_not_mem (hstream ▸ List.prefix_rfl), not_mem_of_atBoundary hs hstream⟩
  rw [← stream_after] at hstream
  refine ⟨hexact moves hstream, fun hbreaks text htext => ?_⟩
  -- what is shown would be handed out if the fragment were taken
  have htaken := hexact (moves ++ [.takeFragment])
  rw [after_concat] at htaken
  have htexts : ((after moves).step .takeFragment).texts = (after moves).texts ++ [text] := by
    simp only [step, takeFragment, htext, Option.toList_some]
  have hoffsets : ((after moves).step .takeFragment).breaks =
      (after moves).breaks ++ [(after moves).received] := by
    simp only [step, takeFragment, htext, Option.isSome_some, if_true]
  have hiff := htaken hstream
  rw [htexts, hoffsets, List.forall_mem_append, List.forall_mem_append,
    List.forall_mem_singleton, List.forall_mem_singleton] at hiff
  have hbefore := (hexact moves hstream).mpr hbreaks
  rwa [and_iff_right hbefore, and_iff_right hbreaks] at hiff

/-- A schedule in which a fragment is taken between two characters that come in two chunks each. -/
def takenBetween : List Move :=
  [.arrive (.bytes [0xC3]), .poll, .arrive (.bytes [0xA9]), .poll, .takeFragment,
    .arrive (.bytes [0xE2, 0x9A]), .poll, .arrive (.bytes [0xA0, 0x0A]), .arrive .ended, .poll,
    .poll]

theorem unmangled_after_takenBetween :
    replacement ∉ "é⚠\n".toList ∧ streamOf takenBetween = encode "é⚠\n" ∧
      (after takenBetween).texts = ["é", "⚠"] ∧ (after takenBetween).Unmangled "é⚠\n" :=
  ⟨by decide +kernel, by decide +kernel, by decide +kernel,
    unmangled_after "é⚠\n" (by decide +kernel) takenBetween (by decide +kernel)⟩

/-- A schedule in which a fragment is taken while a character is open. -/
def takenInside : List Move :=
  [.arrive (.bytes [0x5D, 0xE2, 0x9A]), .poll, .takeFragment, .arrive (.bytes [0xA0, 0x0A]),
    .arrive .ended, .poll, .poll]

/-- **A character that is mangled**: its bytes come in two chunks, and the fragment is taken between
them. -/
theorem not_unmangled_takenInside :
    replacement ∉ "]⚠\n".toList ∧ streamOf takenInside = encode "]⚠\n" ∧
      (after takenInside).texts = ["]\uFFFD", "\uFFFD"] ∧
      ¬∀ text ∈ (after takenInside).texts, replacement ∉ text.toList := by
  have htexts : (after takenInside).texts = ["]\uFFFD", "\uFFFD"] := by decide +kernel
  refine ⟨by decide +kernel, by decide +kernel, htexts, ?_⟩
  rw [htexts]
  decide +kernel

end Reading

end Overseer.Reader
