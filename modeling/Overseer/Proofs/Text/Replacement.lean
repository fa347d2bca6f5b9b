import Overseer.Proofs.Text.Lossy

/-!
# Where the Replacement Character Comes From

A replacement character that no text holds comes from bytes that are no text, and from nothing else:
bytes that are read without one are the bytes of what is read.  So a text may be cut only between its
characters.

- `eq_encode_of_not_mem`: bytes that are read without a replacement character
- `AtBoundary`: the places between the characters of a text
- `atBoundary_of_prefix`: what is read of a text without a replacement character ends at one
- `decodeLossy_append_encode`: a text is read on its own, whatever is in front of it
-/

namespace Overseer.Text

/-! ## Section 1: Bytes that are a text

Nothing is asked of the bytes but that they are read without a replacement character, and a text
that holds one itself is left out; else it could not be told where the character came from. -/

/-- **Bytes that are read without a replacement character** are the bytes of what is read.  For
every character is read from its own bytes, or it is a replacement. -/
theorem eq_encode_of_not_mem {bytes : List UInt8} (h : replacement ∉ decodeLossy bytes) :
    bytes = encode (String.ofList (decodeLossy bytes)) := by
  obtain ⟨parts, hparts⟩ := exists_takenApart bytes
  -- a part that is no character is read as a replacement character, so there is none
  have hwhole : ∀ p ∈ parts, p.1 = String.utf8EncodeChar p.2 := by
    intro p hp
    have hne : p.2 ≠ replacement := fun heq => h (by
      rw [← hparts.chars_eq, ← heq]
      exact List.mem_map_of_mem hp)
    have hpart := hparts.sound p hp
    generalize p.1 = part at hpart
    generalize p.2 = c at hpart hne
    cases hpart with
    | whole => rfl
    | broken => exact absurd rfl hne
    | stray => exact absurd rfl hne
  rw [encode_ofList, ← hparts.chars_eq, List.flatMap_map]
  conv => lhs; rw [← hparts.bytes_eq]
  rw [List.flatMap_def, List.flatMap_def, List.map_congr_left hwhole]

theorem encode_append (front rest : List Char) :
    encode (String.ofList (front ++ rest)) =
      encode (String.ofList front) ++ encode (String.ofList rest) := by
  rw [encode_ofList, encode_ofList, encode_ofList, List.flatMap_append]

/-- What stands behind a text is read on its own. -/
theorem decodeLossy_encode_append (front : List Char) (rest : List UInt8) :
    decodeLossy (encode (String.ofList front) ++ rest) = front ++ decodeLossy rest := by
  rw [decodeLossy, List.foldl_append, Utf8Reader.empty, Utf8Reader.foldl_step_encode,
    List.append_nil, finish_foldl_step, List.reverse_reverse]

/-- **A text is read on its own**, whatever stands in front of it: its first byte closes a character
that is open. -/
theorem decodeLossy_append_encode (bytes : List UInt8) (rest : List Char) :
    decodeLossy (bytes ++ encode (String.ofList rest)) = decodeLossy bytes ++ rest := by
  cases rest with
  | nil => rw [encode_ofList, List.flatMap_nil, List.append_nil, List.append_nil]
  | cons c rest =>
    have hread := decodeLossy_encode_ofList (c :: rest)
    have hne : String.utf8EncodeChar c ≠ [] := by
      rw [ne_eq, ← List.length_eq_zero_iff, String.length_utf8EncodeChar]
      exact Nat.ne_of_gt c.utf8Size_pos
    obtain ⟨b, tail, hb⟩ := List.exists_cons_of_ne_nil hne
    rw [encode_ofList, List.flatMap_cons, hb, List.cons_append] at hread ⊢
    rw [decodeLossy_append_cons (not_inner_encodeChar hb), hread]

/-! ## Section 2: Places between characters

A place between two characters is told by the bytes in front of it: they are the bytes of the first
characters of the text. -/

/-- A place in the bytes of a text that is inside of no character. -/
def AtBoundary (s : String) (offset : Nat) : Prop :=
  ∃ front rest, front ++ rest = s.toList ∧ (encode (String.ofList front)).length = offset

/-- What is read of a text without a replacement character ends between two characters. -/
theorem atBoundary_of_prefix {s : String} {bytes : List UInt8} (hbytes : bytes <+: encode s)
    (h : replacement ∉ decodeLossy bytes) : AtBoundary s bytes.length := by
  obtain ⟨rest, hrest⟩ := hbytes
  have hbytes := eq_encode_of_not_mem h
  refine ⟨decodeLossy bytes, decodeLossy rest, ?_, congrArg List.length hbytes.symm⟩
  rw [← decodeLossy_encode_append, ← hbytes, hrest, decodeLossy_encode]

/-- A text is cut in two at a place between its characters. -/
theorem AtBoundary.exists_append {s : String} {offset : Nat} (h : AtBoundary s offset) :
    ∃ front rest, encode s = encode (String.ofList front) ++ encode (String.ofList rest) ∧
      (encode (String.ofList front)).length = offset := by
  obtain ⟨front, rest, hs, hoffset⟩ := h
  refine ⟨front, rest, ?_, hoffset⟩
  rw [← encode_append, hs, String.ofList_toList]

end Overseer.Text
