import Mathlib.Algebra.GroupWithZero.Nat
import Overseer.Proofs.Text.Encoding

/-!
# Reading Bytes That Are No Text

Any bytes are read part by part, and each part gives one character.  A part is a character that was
written, or the beginning of one that does not go on, or a byte that begins none; the last two are
read as the replacement character.

- `Utf8Partial.Begun`: what the machine has of a character that is open
- `TakenApart`, `exists_takenApart`: the parts of any bytes
- `TakenApart.lossyLength_eq`: how long the text of any bytes is
- `decodeLossy_append_cons`, `decodeLossy_append_of_inner`: reading in two goes
- `Kept`: bytes of which none is replaced
-/

namespace Overseer.Text

/-! ## Section 1: A character that is open

The machine keeps the bits that it has read, the number of the bytes that are owed, and between
which bounds the next one must be.  The bounds of the second byte are narrower, and they are what
rules out the forms that are too long, the surrogates, and the numbers past the last character. -/

/-- The bytes inside a character, behind its first one. -/
def IsInner (b : UInt8) : Prop := 0x80 ≤ b.toNat ∧ b.toNat ≤ 0xBF

instance (b : UInt8) : Decidable (IsInner b) := inferInstanceAs (Decidable (_ ∧ _))

/-- The code point of a character whose first bits are known, with its other bytes. -/
def codePoint (bits : Nat) (tail : List UInt8) : Nat :=
  tail.foldl (fun v b => v * 64 + (b.toNat - 0x80)) bits

theorem codePoint_cons (bits : Nat) (b : UInt8) (tail : List UInt8) :
    codePoint bits (b :: tail) = codePoint (bits * 64 + (b.toNat - 0x80)) tail := by
  simp only [codePoint, List.foldl_cons]

namespace Utf8Partial

/-- The bytes that complete a character. -/
structure Admits (p : Utf8Partial) (b : UInt8) (rest : List UInt8) : Prop where
  low_le : p.low ≤ b.toNat
  le_high : b.toNat ≤ p.high
  length_eq : rest.length + 1 = p.owed
  inner : ∀ c ∈ rest, IsInner c

/-- The bytes read so far begin a character, and all bytes that are admitted complete one. -/
structure Begun (p : Utf8Partial) (held : List UInt8) : Prop where
  held_ne : held ≠ []
  owed_pos : 0 < p.owed
  owed_le : p.owed ≤ 3
  le_low : 0x80 ≤ p.low
  low_le : p.low ≤ p.high
  high_le : p.high ≤ 0xBF
  completes : ∀ b rest, p.Admits b rest →
    String.utf8EncodeChar (Char.ofNat (codePoint p.bits (b :: rest))) = held ++ b :: rest

end Utf8Partial

section Written

variable {v : Nat} {b₁ b₂ b₃ b₄ : UInt8}

/-- The number of a character that there is. -/
theorem val_ofNat (h : v < 0xD800 ∨ 0xDFFF < v ∧ v < 0x110000) :
    (Char.ofNat v).val.toNat = v := by
  have hvalid : v.isValidChar := h
  rw [Char.ofNat, dif_pos hvalid]
  rfl

theorem ofNat_eq_of_toNat {b : UInt8} {n : Nat} (h : n = b.toNat) : UInt8.ofNat n = b := by
  rw [h, UInt8.ofNat_toNat]

/-! The bytes of a character with two, three and four of them -/

theorem encodeChar_two (h₁ : b₁.toNat = v / 64 + 0xC0) (h₂ : b₂.toNat = v % 64 + 0x80)
    (hlow : 0x80 ≤ v) (hhigh : v < 0x800) :
    String.utf8EncodeChar (Char.ofNat v) = [b₁, b₂] := by
  simp only [String.utf8EncodeChar, val_ofNat (.inl (by omega : v < 0xD800))]
  rw [if_neg (by omega), if_pos (by omega), ofNat_eq_of_toNat (b := b₁) (by omega),
    ofNat_eq_of_toNat h₂.symm]

theorem encodeChar_three (h₁ : b₁.toNat = v / 4096 + 0xE0) (h₂ : b₂.toNat = v / 64 % 64 + 0x80)
    (h₃ : b₃.toNat = v % 64 + 0x80) (hlow : 0x800 ≤ v) (hhigh : v < 0x10000)
    (hvalid : v < 0xD800 ∨ 0xDFFF < v) :
    String.utf8EncodeChar (Char.ofNat v) = [b₁, b₂, b₃] := by
  simp only [String.utf8EncodeChar, val_ofNat (hvalid.imp_right fun h => ⟨h, by omega⟩)]
  rw [if_neg (by omega), if_neg (by omega), if_pos (by omega),
    ofNat_eq_of_toNat (b := b₁) (by omega), ofNat_eq_of_toNat h₂.symm, ofNat_eq_of_toNat h₃.symm]

theorem encodeChar_four (h₁ : b₁.toNat = v / 262144 + 0xF0)
    (h₂ : b₂.toNat = v / 4096 % 64 + 0x80) (h₃ : b₃.toNat = v / 64 % 64 + 0x80)
    (h₄ : b₄.toNat = v % 64 + 0x80) (hlow : 0x10000 ≤ v) (hhigh : v < 0x110000) :
    String.utf8EncodeChar (Char.ofNat v) = [b₁, b₂, b₃, b₄] := by
  simp only [String.utf8EncodeChar, val_ofNat (.inr ⟨(by omega : 0xDFFF < v), hhigh⟩)]
  rw [if_neg (by omega), if_neg (by omega), if_neg (by omega),
    ofNat_eq_of_toNat (b := b₁) (by omega), ofNat_eq_of_toNat h₂.symm, ofNat_eq_of_toNat h₃.symm,
    ofNat_eq_of_toNat h₄.symm]

end Written

/-! ## Section 2: What the first byte says

There are as many cases here as rows in the table of well-formed bytes, and nowhere else: what
follows knows of the three things that a byte can say. -/

namespace Utf8Partial.Begun

variable {b : UInt8} {bits low high : Nat}

theorem two (hb : b.toNat = bits + 0xC0) (hshort : 2 ≤ bits) (hbits : bits < 0x20) :
    Begun ⟨bits, 1, 0x80, 0xBF⟩ [b] := by
  refine ⟨List.cons_ne_nil _ _, by simp, by simp, by simp, by simp, by simp, ?_⟩
  rintro b₂ rest ⟨hb₂, hb₂', hrest, -⟩
  obtain rfl : rest = [] := by simpa using hrest
  simp only at hb₂ hb₂'
  simp only [codePoint, List.foldl_cons, List.foldl_nil]
  exact encodeChar_two (by omega) (by omega) (by omega) (by omega)

theorem three (hb : b.toNat = bits + 0xE0) (hbits : bits < 0x10) (hlow : 0x80 ≤ low)
    (hle : low ≤ high) (hhigh : high ≤ 0xBF) (hshort : bits = 0 → 0xA0 ≤ low)
    (hvalid : bits = 0xD → high ≤ 0x9F) : Begun ⟨bits, 2, low, high⟩ [b] := by
  refine ⟨List.cons_ne_nil _ _, by simp, by simp, hlow, hle, hhigh, ?_⟩
  rintro b₂ rest ⟨hb₂, hb₂', hrest, hinner⟩
  obtain ⟨b₃, rfl⟩ := List.length_eq_one_iff.mp (Nat.succ.inj hrest)
  obtain ⟨hb₃, hb₃'⟩ := hinner b₃ (List.mem_singleton.mpr rfl)
  -- the bytes that complete the character are its second and the two digits behind it
  simp only at hb₂ hb₂'
  simp only [codePoint, List.foldl_cons, List.foldl_nil]
  exact encodeChar_three (by omega) (by omega) (by omega) (by omega) (by omega) (by omega)

theorem four (hb : b.toNat = bits + 0xF0) (hbits : bits ≤ 4) (hlow : 0x80 ≤ low)
    (hle : low ≤ high) (hhigh : high ≤ 0xBF) (hshort : bits = 0 → 0x90 ≤ low)
    (hvalid : bits = 4 → high ≤ 0x8F) : Begun ⟨bits, 3, low, high⟩ [b] := by
  refine ⟨List.cons_ne_nil _ _, by simp, by simp, hlow, hle, hhigh, ?_⟩
  rintro b₂ rest ⟨hb₂, hb₂', hrest, hinner⟩
  obtain ⟨b₃, tail, rfl⟩ := List.exists_cons_of_length_eq_add_one (Nat.succ.inj hrest)
  obtain ⟨b₄, rfl⟩ := List.length_eq_one_iff.mp (Nat.succ.inj (Nat.succ.inj hrest))
  obtain ⟨hb₃, hb₃'⟩ := hinner b₃ List.mem_cons_self
  obtain ⟨hb₄, hb₄'⟩ := hinner b₄ (List.mem_cons_of_mem _ (List.mem_singleton.mpr rfl))
  -- the bytes that complete the character are its second and the digits behind it
  simp only at hb₂ hb₂'
  simp only [codePoint, List.foldl_cons, List.foldl_nil]
  exact encodeChar_four (by omega) (by omega) (by omega) (by omega) (by omega) (by omega)

end Utf8Partial.Begun

/-- The first bytes of characters. -/
theorem first_encodeChar {c : Char} {b : UInt8} {rest : List UInt8}
    (h : String.utf8EncodeChar c = b :: rest) :
    b.toNat < 0x80 ∨ 0xC2 ≤ b.toNat ∧ b.toNat < 0xF5 := by
  obtain ⟨v, hv⟩ : ∃ v, c.val.toNat = v := ⟨_, rfl⟩
  have hvalid : v < 0xD800 ∨ 0xDFFF < v ∧ v < 0x110000 := hv ▸ c.valid
  have hbyte : ∀ n < 256, UInt8.ofNat n = b → b.toNat = n := by
    rintro n hn rfl
    rw [UInt8.toNat_ofNat', Nat.mod_eq_of_lt hn]
  simp only [String.utf8EncodeChar, hv] at h
  -- the ranges of code points by the number of their bytes
  split at h
  · have := hbyte _ (by omega) (List.cons.inj h).1
    omega
  · split at h
    · have := hbyte _ (by omega) (List.cons.inj h).1
      omega
    · split at h
      · have := hbyte _ (by omega) (List.cons.inj h).1
        omega
      · have := hbyte _ (by omega) (List.cons.inj h).1
        omega

/-- The other bytes of characters. -/
theorem inner_encodeChar {c : Char} {b : UInt8} {tail : List UInt8}
    (h : String.utf8EncodeChar c = b :: tail) : ∀ d ∈ tail, IsInner d := by
  have hbyte : ∀ n : Nat, IsInner (UInt8.ofNat (n % 64 + 128)) := by
    intro n
    have hvalue : (UInt8.ofNat (n % 64 + 128)).toNat = n % 64 + 128 := by
      rw [UInt8.toNat_ofNat', Nat.mod_eq_of_lt (by omega)]
    rw [IsInner, hvalue]
    omega
  have hnone : ∀ d ∈ ([] : List UInt8), IsInner d := nofun
  simp only [String.utf8EncodeChar] at h
  -- a character has up to three of them
  split at h
  · obtain ⟨-, rfl⟩ := List.cons.inj h
    exact hnone
  · split at h
    · obtain ⟨-, rfl⟩ := List.cons.inj h
      exact List.forall_mem_cons.mpr ⟨hbyte _, hnone⟩
    · split at h
      · obtain ⟨-, rfl⟩ := List.cons.inj h
        exact List.forall_mem_cons.mpr ⟨hbyte _, List.forall_mem_cons.mpr ⟨hbyte _, hnone⟩⟩
      · obtain ⟨-, rfl⟩ := List.cons.inj h
        exact List.forall_mem_cons.mpr ⟨hbyte _, List.forall_mem_cons.mpr
          ⟨hbyte _, List.forall_mem_cons.mpr ⟨hbyte _, hnone⟩⟩⟩

/-- A character does not begin with a byte that goes on with another one. -/
theorem not_inner_encodeChar {c : Char} {b : UInt8} {tail : List UInt8}
    (h : String.utf8EncodeChar c = b :: tail) : ¬IsInner b := by
  rintro ⟨hlow, hhigh⟩
  have := first_encodeChar h
  omega

namespace Utf8Lead

/-- A byte is a character, begins one, or begins none. -/
inductive Says (b : UInt8) : Utf8Lead → Prop where
  | whole (c : Char) : String.utf8EncodeChar c = [b] → Says b (.whole c)
  | opens (p : Utf8Partial) : p.Begun [b] → Says b (.opens p)
  | bad : (∀ c rest, String.utf8EncodeChar c ≠ b :: rest) → Says b .bad

theorem says_ofByte (b : UInt8) : Says b (ofByte b.toNat) := by
  simp only [ofByte, beq_iff_eq]
  -- one case for each row of the table
  split
  · refine .whole _ ?_
    simp only [String.utf8EncodeChar, val_ofNat (.inl (by omega : b.toNat < 0xD800))]
    rw [if_pos (by omega), UInt8.ofNat_toNat]
  split
  · exact .bad fun c rest h => by
      have := first_encodeChar h
      omega
  split
  · exact .opens _ (.two (by omega) (by omega) (by omega))
  split
  · exact .opens _ (.three (by omega) (by omega) (by omega) (by omega) (by omega) (by omega)
      (by omega))
  split
  · exact .opens _ (.three (by omega) (by omega) (by omega) (by omega) (by omega) (by omega)
      (by omega))
  split
  · exact .opens _ (.three (by omega) (by omega) (by omega) (by omega) (by omega) (by omega)
      (by omega))
  split
  · exact .opens _ (.four (by omega) (by omega) (by omega) (by omega) (by omega) (by omega)
      (by omega))
  split
  · exact .opens _ (.four (by omega) (by omega) (by omega) (by omega) (by omega) (by omega)
      (by omega))
  split
  · exact .opens _ (.four (by omega) (by omega) (by omega) (by omega) (by omega) (by omega)
      (by omega))
  · exact .bad fun c rest h => by
      have := first_encodeChar h
      omega

end Utf8Lead

/-! ## Section 3: Parts

A part is as long as it can be: a character that does not go on ends at the first byte that does not
belong to it.  So it is one replacement character for the whole of it, and one more for each byte
that begins nothing. -/

/-- A part of some bytes, and the character that it is read as. -/
inductive Part : List UInt8 → Char → Prop where
  /-- The bytes of a character. -/
  | whole (c : Char) : Part (String.utf8EncodeChar c) c
  /-- The beginning of a character that does not go on. -/
  | broken {part rest : List UInt8} {c : Char} :
      part ≠ [] → rest ≠ [] → String.utf8EncodeChar c = part ++ rest → Part part replacement
  /-- A byte that begins no character. -/
  | stray {b : UInt8} : (∀ c rest, String.utf8EncodeChar c ≠ b :: rest) → Part [b] replacement

/-- The character of a part is at least as long as the part, and not more than three times. -/
theorem Part.length_le {part : List UInt8} {c : Char} (h : Part part c) :
    part.length ≤ c.utf8Size ∧ c.utf8Size ≤ 3 * part.length := by
  have hreplacement : replacement.utf8Size = 3 := rfl
  cases h with
  | whole =>
    have hpos := c.utf8Size_pos
    rw [String.length_utf8EncodeChar]
    omega
  | @broken _ rest c hpart hrest hc =>
    -- a rest is missing of the character, so the part has three bytes at most
    have hsum := congrArg List.length hc
    rw [String.length_utf8EncodeChar, List.length_append] at hsum
    have hfour := c.utf8Size_le_four
    have hpos := List.length_pos_iff.mpr hpart
    have hpos' := List.length_pos_iff.mpr hrest
    omega
  | stray =>
    rw [List.length_singleton]
    omega

/-- Bytes taken apart as they are read, one part for each character. -/
structure TakenApart (bytes : List UInt8) (parts : List (List UInt8 × Char)) : Prop where
  bytes_eq : parts.flatMap Prod.fst = bytes
  chars_eq : parts.map Prod.snd = decodeLossy bytes
  sound : ∀ p ∈ parts, Part p.1 p.2

/-- By how much the characters of some parts are longer than the parts. -/
def growth (parts : List (List UInt8 × Char)) : Nat :=
  (parts.map fun p => p.2.utf8Size - p.1.length).sum

/-- How long the text of some bytes is. -/
def lossyLength (bytes : List UInt8) : Nat := ((decodeLossy bytes).map Char.utf8Size).sum

theorem utf8ByteSize_ofList (s : List Char) :
    (String.ofList s).utf8ByteSize = (s.map Char.utf8Size).sum := by
  have hsize : (String.ofList s).utf8ByteSize = (encode (String.ofList s)).length := by
    rw [encode, byteArray_toList]
    rfl
  rw [hsize, encode_ofList, List.length_flatMap]
  simp only [String.length_utf8EncodeChar]

/-- **How long the text of any bytes is**: as long as the bytes, and what replacing them adds. -/
theorem TakenApart.lossyLength_eq {bytes : List UInt8} {parts : List (List UInt8 × Char)}
    (h : TakenApart bytes parts) : lossyLength bytes = bytes.length + growth parts := by
  rw [lossyLength, ← h.chars_eq, ← h.bytes_eq, List.map_map, List.length_flatMap, growth]
  have hsound := h.sound
  clear h
  -- part by part: a part is at most as long as what stands for it
  induction parts with
  | nil => rfl
  | cons p parts ih =>
    obtain ⟨hp, hparts⟩ := List.forall_mem_cons.mp hsound
    have := hp.length_le
    simp only [List.map_cons, List.sum_cons, Function.comp_apply] at ih ⊢
    rw [ih hparts]
    omega

/-- Replacing adds two bytes at most for each one. -/
theorem TakenApart.growth_le {bytes : List UInt8} {parts : List (List UInt8 × Char)}
    (h : TakenApart bytes parts) : growth parts ≤ 2 * bytes.length := by
  rw [← h.bytes_eq, List.length_flatMap, growth]
  have hsound := h.sound
  clear h
  -- a replacement is two bytes longer than the shortest part that it stands for
  induction parts with
  | nil => exact Nat.zero_le _
  | cons p parts ih =>
    obtain ⟨hp, hparts⟩ := List.forall_mem_cons.mp hsound
    have := hp.length_le
    have := ih hparts
    simp only [List.map_cons, List.sum_cons]
    omega

/-! ## Section 4: What the machine has read

The machine is followed byte by byte.  It holds the bytes of the open character back; when they turn
out to be broken, they become a part, and the byte is read again as the first one. -/

namespace Utf8Partial.Begun

variable {p : Utf8Partial} {held : List UInt8}

/-- One more byte of the character. -/
theorem next (h : p.Begun held) {b : UInt8} (hlow : p.low ≤ b.toNat) (hhigh : b.toNat ≤ p.high)
    (howed : ¬p.owed ≤ 1) :
    Begun ⟨p.bits * 64 + (b.toNat - 0x80), p.owed - 1, 0x80, 0xBF⟩ (held ++ [b]) := by
  refine ⟨by simp, by simp; omega, ?_, by simp, by simp, by simp, ?_⟩
  · have := h.owed_le
    simp only
    omega
  · -- what completes the character behind the byte completes it together with the byte before
    rintro c rest ⟨hc, hc', hrest, hinner⟩
    have hadmits : p.Admits b (c :: rest) := by
      refine ⟨hlow, hhigh, ?_, List.forall_mem_cons.mpr ⟨⟨hc, hc'⟩, hinner⟩⟩
      simp only at hrest
      rw [List.length_cons]
      omega
    -- the code point is gathered digit by digit, so the byte can be counted to either side
    have hchar := h.completes b (c :: rest) hadmits
    rw [codePoint_cons] at hchar
    rw [List.append_assoc]
    exact hchar

/-- The last byte of the character. -/
theorem last (h : p.Begun held) {b : UInt8} (hlow : p.low ≤ b.toNat) (hhigh : b.toNat ≤ p.high)
    (howed : p.owed ≤ 1) :
    String.utf8EncodeChar (Char.ofNat (p.bits * 64 + (b.toNat - 0x80))) = held ++ [b] := by
  -- the character owes no byte any more, so nothing has to follow this one
  have hadmits : p.Admits b [] := by
    refine ⟨hlow, hhigh, ?_, fun c hc => absurd hc List.not_mem_nil⟩
    have := h.owed_pos
    rw [List.length_nil]
    omega
  have hchar := h.completes b [] hadmits
  rw [codePoint_cons] at hchar
  exact hchar

/-- A character that does not go on is a broken part. -/
theorem broken (h : p.Begun held) : Part held replacement := by
  -- the lowest bytes that are admitted would complete a character
  have hlow : (UInt8.ofNat p.low).toNat = p.low := by
    rw [UInt8.toNat_ofNat', Nat.mod_eq_of_lt]
    have := h.low_le
    have := h.high_le
    omega
  refine .broken h.held_ne (List.cons_ne_nil _ _)
    (h.completes (UInt8.ofNat p.low) (List.replicate (p.owed - 1) 0x80) ?_)
  refine ⟨Nat.le_of_eq hlow.symm, by rw [hlow]; exact h.low_le, ?_, fun c hc => ?_⟩
  · have := h.owed_pos
    rw [List.length_replicate]
    omega
  · rw [List.eq_of_mem_replicate hc]
    decide

end Utf8Partial.Begun

namespace Utf8Reader

/-- The machine has read some bytes: parts of them, and the beginning of a character. -/
structure Follows (r : Utf8Reader) (bytes : List UInt8) (parts : List (List UInt8 × Char))
    (held : List UInt8) : Prop where
  bytes_eq : bytes = parts.flatMap Prod.fst ++ held
  read_eq : r.read.reverse = parts.map Prod.snd
  sound : ∀ p ∈ parts, Part p.1 p.2
  held_eq : r.part = none → held = []
  begun : ∀ p, r.part = some p → p.Begun held

theorem follows_empty : Follows .empty [] [] [] :=
  ⟨rfl, rfl, fun _ hp => absurd hp List.not_mem_nil, fun _ => rfl, nofun⟩

variable {r : Utf8Reader} {bytes held : List UInt8} {parts : List (List UInt8 × Char)}

/-- A part that is complete. -/
theorem Follows.add (h : r.Follows bytes parts held) {part : List UInt8} {c : Char}
    (hpart : Part part c) {b : List UInt8} (hb : held ++ b = part) :
    Follows ⟨c :: r.read, none⟩ (bytes ++ b) (parts ++ [(part, c)]) [] where
  bytes_eq := by
    rw [h.bytes_eq, List.append_assoc, hb, List.flatMap_append, List.flatMap_singleton,
      List.append_nil]
  read_eq := by rw [List.reverse_cons, h.read_eq, List.map_append, List.map_singleton]
  -- the parts that were there are sound, and the one that is new is
  sound := by
    intro p hp
    rcases List.mem_append.mp hp with hp | hp
    · exact h.sound p hp
    · cases List.mem_singleton.mp hp
      exact hpart
  held_eq _ := rfl
  begun := nofun

/-- A byte behind a whole part. -/
theorem Follows.start {read : List Char} (h : Follows ⟨read, none⟩ bytes parts []) (b : UInt8) :
    ∃ parts held, Follows (start read b.toNat) (bytes ++ [b]) parts held := by
  have hsays := Utf8Lead.says_ofByte b
  -- what the byte says decides: a character, the first byte of one, or no place in any
  simp only [Utf8Reader.start]
  cases hlead : Utf8Lead.ofByte b.toNat with
  | whole c =>
    rw [hlead] at hsays
    cases hsays with
    | whole _ hc => exact ⟨_, _, h.add (.whole c) hc.symm⟩
  | opens p =>
    rw [hlead] at hsays
    cases hsays with
    | opens _ hp =>
      refine ⟨parts, [b], ?_, h.read_eq, h.sound, fun hnone => ?_, ?_⟩
      · rw [h.bytes_eq, List.append_nil]
      · cases hnone
      · rintro _ ⟨⟩
        exact hp
  | bad =>
    rw [hlead] at hsays
    cases hsays with
    | bad hb => exact ⟨_, _, h.add (.stray hb) rfl⟩

/-- **One byte more.** -/
theorem Follows.step (h : r.Follows bytes parts held) (b : UInt8) :
    ∃ parts held, (r.step b).Follows (bytes ++ [b]) parts held := by
  obtain ⟨read, part⟩ := r
  cases part with
  | none =>
    obtain rfl := h.held_eq rfl
    exact h.start b
  | some p =>
    have hbegun := h.begun p rfl
    simp only [Utf8Reader.step, Bool.and_eq_true, decide_eq_true_eq]
    split
    · next hfits =>
      -- the byte goes on with the character, and completes it or does not
      split
      · next howed =>
        have hpart := Part.whole (Char.ofNat (p.bits * 64 + (b.toNat - 0x80)))
        rw [hbegun.last hfits.1 hfits.2 howed] at hpart
        exact ⟨_, _, h.add hpart rfl⟩
      · next howed =>
        refine ⟨parts, held ++ [b], ?_, h.read_eq, h.sound, fun hnone => ?_, ?_⟩
        · rw [h.bytes_eq, List.append_assoc]
        · cases hnone
        · intro q hq
          have hnext := hbegun.next hfits.1 hfits.2 howed
          rwa [Option.some.inj hq] at hnext
    · -- else what is held is broken, and the byte is read behind it
      have hbroken := h.add hbegun.broken (List.append_nil held)
      rw [List.append_nil] at hbroken
      exact hbroken.start b

/-- **All bytes.** -/
theorem follows_foldl (bytes : List UInt8) :
    ∃ parts held, (bytes.foldl Utf8Reader.step .empty).Follows bytes parts held := by
  -- every byte is one step, from whatever was read before
  suffices hfold : ∀ (r : Utf8Reader) (seen : List UInt8),
      (∃ parts held, r.Follows seen parts held) →
        ∃ parts held, (bytes.foldl Utf8Reader.step r).Follows (seen ++ bytes) parts held from
    hfold .empty [] ⟨[], [], follows_empty⟩
  induction bytes with
  | nil =>
    intro r seen h
    rwa [List.append_nil]
  | cons b bytes ih =>
    rintro r seen ⟨parts, held, h⟩
    have hnext := ih (r.step b) (seen ++ [b]) (h.step b)
    rwa [List.append_assoc] at hnext

end Utf8Reader

/-- **The parts of any bytes.** They are found by reading the bytes one after the other. -/
theorem exists_takenApart (bytes : List UInt8) : ∃ parts, TakenApart bytes parts := by
  obtain ⟨parts, held, h⟩ := Utf8Reader.follows_foldl bytes
  cases hpart : (bytes.foldl Utf8Reader.step .empty).part with
  | none =>
    refine ⟨parts, ?_, ?_, h.sound⟩
    · rw [h.bytes_eq, h.held_eq hpart, List.append_nil]
    · rw [decodeLossy, Utf8Reader.finish, hpart]
      exact h.read_eq.symm
  | some p =>
    -- a character that is open at the end does not go on
    have hbroken := h.add (h.begun p hpart).broken (List.append_nil held)
    rw [List.append_nil] at hbroken
    refine ⟨_, ?_, ?_, hbroken.sound⟩
    · rw [hbroken.bytes_eq, List.append_nil]
    · rw [decodeLossy, Utf8Reader.finish, hpart]
      exact hbroken.read_eq.symm

/-! ## Section 5: Reading in two goes

Where no character is open, what is read next does not depend on what was read before.  A byte that
begins a character closes the open one, and so do three bytes from inside of characters, since no
more are ever owed. -/

namespace Utf8Reader

/-- The characters that were read before play no part in what is read. -/
theorem step_read (seen read : List Char) (part : Option Utf8Partial) (b : UInt8) :
    step ⟨seen ++ read, part⟩ b =
      ⟨(step ⟨seen, part⟩ b).read ++ read, (step ⟨seen, part⟩ b).part⟩ := by
  -- the bytes are judged by the open character alone
  have hstart : ∀ (seen : List Char) (n : Nat),
      start (seen ++ read) n = ⟨(start seen n).read ++ read, (start seen n).part⟩ := by
    intro seen n
    simp only [start]
    cases Utf8Lead.ofByte n <;> rfl
  cases part with
  | none => exact hstart seen b.toNat
  | some p =>
    simp only [step]
    split
    · split <;> rfl
    · exact hstart (replacement :: seen) b.toNat

theorem foldl_step_read (bytes : List UInt8) (seen read : List Char) (part : Option Utf8Partial) :
    bytes.foldl step ⟨seen ++ read, part⟩ =
      ⟨(bytes.foldl step ⟨seen, part⟩).read ++ read, (bytes.foldl step ⟨seen, part⟩).part⟩ := by
  induction bytes generalizing seen part with
  | nil => rfl
  | cons b bytes ih => rw [List.foldl_cons, List.foldl_cons, step_read, ih]

theorem finish_read (seen read : List Char) (part : Option Utf8Partial) :
    finish ⟨seen ++ read, part⟩ = read.reverse ++ finish ⟨seen, part⟩ := by
  cases part <;> simp [finish]

/-- How many bytes the open character is owed. -/
def owed (r : Utf8Reader) : Nat := (r.part.map Utf8Partial.owed).getD 0

/-- A byte from inside a character begins none. -/
theorem start_of_inner {b : UInt8} (h : IsInner b) (read : List Char) :
    start read b.toNat = ⟨replacement :: read, none⟩ := by
  obtain ⟨hlow, hhigh⟩ := h
  have hlead : Utf8Lead.ofByte b.toNat = .bad := by
    rw [Utf8Lead.ofByte, if_neg (by omega), if_pos (by omega)]
  rw [start, hlead]

/-- A byte from inside a character pays one, or closes the character. -/
theorem owed_step_le (r : Utf8Reader) {b : UInt8} (h : IsInner b) :
    (r.step b).owed ≤ r.owed - 1 := by
  obtain ⟨read, part⟩ := r
  cases part with
  | none =>
    rw [step, start_of_inner h]
    exact Nat.zero_le _
  | some p =>
    simp only [step]
    split
    · split
      · exact Nat.zero_le _
      · exact Nat.le_refl _
    · rw [start_of_inner h]
      exact Nat.zero_le _

theorem Follows.owed_le {r : Utf8Reader} {bytes held : List UInt8} {parts : List (List UInt8 × Char)}
    (h : r.Follows bytes parts held) : r.owed ≤ 3 := by
  cases hpart : r.part with
  | none => simp [owed, hpart]
  | some p => simpa [owed, hpart] using (h.begun p hpart).owed_le

theorem Follows.part_eq_none {r : Utf8Reader} {bytes held : List UInt8}
    {parts : List (List UInt8 × Char)} (h : r.Follows bytes parts held) (howed : r.owed = 0) :
    r.part = none := by
  cases hpart : r.part with
  | none => rfl
  | some p =>
    have hpos := (h.begun p hpart).owed_pos
    simp only [owed, hpart, Option.map_some, Option.getD_some] at howed
    omega

theorem owed_foldl_step_le {tail : List UInt8} (h : ∀ c ∈ tail, IsInner c) (r : Utf8Reader) :
    (tail.foldl step r).owed ≤ r.owed - tail.length := by
  induction tail generalizing r with
  | nil => exact Nat.le_refl _
  | cons c tail ih =>
    -- each byte pays one of those that are owed, or they are all forgotten
    obtain ⟨hc, htail⟩ := List.forall_mem_cons.mp h
    have hstep := r.owed_step_le hc
    have hrest := ih htail (r.step c)
    rw [List.foldl_cons, List.length_cons]
    omega

end Utf8Reader

/-- Bytes that are read from between two characters. -/
theorem finish_foldl_step (bytes : List UInt8) (read : List Char) :
    (bytes.foldl Utf8Reader.step ⟨read, none⟩).finish = read.reverse ++ decodeLossy bytes := by
  rw [← List.nil_append read, Utf8Reader.foldl_step_read, Utf8Reader.finish_read]
  rfl

/-- A byte that is not inside a character closes the one that is open. -/
theorem decodeLossy_append_cons {b : UInt8} (h : ¬IsInner b) (bytes rest : List UInt8) :
    decodeLossy (bytes ++ b :: rest) = decodeLossy bytes ++ decodeLossy (b :: rest) := by
  obtain ⟨parts, held, hfollows⟩ := Utf8Reader.follows_foldl bytes
  simp only [decodeLossy, List.foldl_append]
  generalize bytes.foldl Utf8Reader.step .empty = r at hfollows
  -- the open character is replaced before the byte is read
  have hclose : r.step b = Utf8Reader.step ⟨r.finish.reverse, none⟩ b := by
    obtain ⟨read, part⟩ := r
    cases part with
    | none => simp [Utf8Reader.finish]
    | some p =>
      have hbegun := hfollows.begun p rfl
      have hrefused : ¬(p.low ≤ b.toNat ∧ b.toNat ≤ p.high) := fun hfits =>
        h ⟨Nat.le_trans hbegun.le_low hfits.1, Nat.le_trans hfits.2 hbegun.high_le⟩
      simp only [Utf8Reader.step, Bool.and_eq_true, decide_eq_true_eq, hrefused, if_false,
        Utf8Reader.finish, List.reverse_reverse]
  rw [List.foldl_cons, hclose, ← List.foldl_cons, finish_foldl_step, List.reverse_reverse]
  rfl

/-- Behind three bytes from inside a character no character is open. -/
theorem decodeLossy_append_of_inner {tail : List UInt8} (hlength : tail.length = 3)
    (hinner : ∀ c ∈ tail, IsInner c) (bytes rest : List UInt8) :
    decodeLossy (bytes ++ tail ++ rest) = decodeLossy (bytes ++ tail) ++ decodeLossy rest := by
  obtain ⟨_, _, hbefore⟩ := Utf8Reader.follows_foldl bytes
  obtain ⟨_, _, hafter⟩ := Utf8Reader.follows_foldl (bytes ++ tail)
  have hthree := hbefore.owed_le
  have howed := Utf8Reader.owed_foldl_step_le hinner (bytes.foldl Utf8Reader.step .empty)
  rw [← List.foldl_append] at howed
  -- the three bytes have paid whatever was owed
  have hclosed := hafter.part_eq_none (by omega)
  rw [decodeLossy, List.foldl_append (l := bytes ++ tail)]
  generalize hr : (bytes ++ tail).foldl Utf8Reader.step .empty = r at hclosed
  obtain ⟨read, part⟩ := r
  obtain rfl : part = none := hclosed
  have hread : decodeLossy (bytes ++ tail) = read.reverse := by
    rw [decodeLossy, hr]
    rfl
  rw [finish_foldl_step, hread]

/-! ## Section 6: Bytes of which none is replaced

A replacement character is longer than the part that it stands for, so no part is replaced exactly
when nothing has grown. -/

/-- The text of some bytes is no longer than the bytes. -/
def Kept (bytes : List UInt8) : Prop := lossyLength bytes = bytes.length

theorem length_le_lossyLength (bytes : List UInt8) : bytes.length ≤ lossyLength bytes := by
  obtain ⟨parts, hparts⟩ := exists_takenApart bytes
  rw [hparts.lossyLength_eq]
  exact Nat.le_add_right _ _

theorem lossyLength_append {front rest : List UInt8}
    (h : decodeLossy (front ++ rest) = decodeLossy front ++ decodeLossy rest) :
    lossyLength (front ++ rest) = lossyLength front + lossyLength rest := by
  rw [lossyLength, h, List.map_append, List.sum_append]
  rfl

/-- What is written is read back as it is. -/
theorem kept_encode (s : String) : Kept (encode s) := by
  rw [Kept, lossyLength, decodeLossy_encode, encode_eq_flatMap, List.length_flatMap]
  simp only [String.length_utf8EncodeChar]

/-- Bytes that are read in two goes are kept in both. -/
theorem Kept.of_append {front rest : List UInt8} (h : Kept (front ++ rest))
    (happend : decodeLossy (front ++ rest) = decodeLossy front ++ decodeLossy rest) :
    Kept front ∧ Kept rest := by
  have hfront := length_le_lossyLength front
  have hrest := length_le_lossyLength rest
  rw [Kept, lossyLength_append happend, List.length_append] at h
  exact ⟨by rw [Kept]; omega, by rw [Kept]; omega⟩

end Overseer.Text
