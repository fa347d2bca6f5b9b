import Mathlib.Data.String.Basic
import Overseer.Proofs.Text.Encoding

/-!
# The Order of Texts by Their Bytes

Texts are in the order of their bytes as they are in the order of their characters.  The bytes of a
character hold its digits from the highest down, and the first byte says how many there are; so
where two texts differ first, their bytes differ the same way.

- `Text.digits_append_lt`: a greater number with as many digits
- `Text.charBytes_append_lt`: a greater character
- `Text.encode_le_encode_iff`: the order of texts
-/

namespace Overseer.Text

/-! ## Section 1: Digits

The mark is added to the first digit alone and is the same for two numbers with as many digits, so
it plays no part in their order. -/

/-- The digits of a number to the base 64, so many behind the first one.  What marks the first byte
of a character is added to the first digit. -/
def digits (mark : Nat) : Nat → Nat → List Nat
  | 0, v => [v + mark]
  | followers + 1, v => digits mark followers (v / 64) ++ [v % 64 + 0x80]

theorem digits_eq_cons (mark followers v : Nat) :
    ∃ rest, digits mark followers v = (v / 64 ^ followers + mark) :: rest := by
  induction followers generalizing v with
  | zero => exact ⟨[], by rw [Nat.pow_zero, Nat.div_one]; rfl⟩
  | succ followers ih =>
    obtain ⟨rest, hrest⟩ := ih (v / 64)
    refine ⟨rest ++ [v % 64 + 0x80], ?_⟩
    rw [digits, hrest, Nat.div_div_eq_div_mul, ← Nat.pow_succ', List.cons_append]

/-- **A greater number** has greater digits, whatever follows. -/
theorem digits_append_lt (mark followers : Nat) {v w : Nat} (h : v < w) (s t : List Nat) :
    digits mark followers v ++ s < digits mark followers w ++ t := by
  induction followers generalizing v w s t with
  | zero => exact List.cons_lt_cons_iff.mpr (.inl (Nat.add_lt_add_right h mark))
  | succ followers ih =>
    rw [digits, digits, List.append_assoc, List.append_assoc]
    -- a higher digit is greater, or all of them are the same and the last one is greater
    rcases Nat.lt_or_ge (v / 64) (w / 64) with hhigher | hsame
    · exact ih hhigher _ _
    · have hle : v / 64 ≤ w / 64 := Nat.div_le_div_right (Nat.le_of_lt h)
      have hhigher : v / 64 = w / 64 := Nat.le_antisymm hle hsame
      have hlast : v % 64 + 0x80 < w % 64 + 0x80 := by omega
      rw [hhigher]
      exact List.append_left_lt (List.cons_lt_cons_iff.mpr (.inl hlast))

/-! ## Section 2: Characters

There are four ranges of characters, by the number of their bytes.  Within one of them the digits
decide, and between two of them the first byte does. -/

/-- How many bytes follow the first one of the character with a number. -/
def followers (v : Nat) : Nat :=
  if v ≤ 0x7F then 0 else if v ≤ 0x7FF then 1 else if v ≤ 0xFFFF then 2 else 3

/-- What marks the first byte of a character by the number of those that follow. -/
def leadMark (followers : Nat) : Nat :=
  if followers = 0 then 0 else if followers = 1 then 0xC0 else if followers = 2 then 0xE0 else 0xF0

/-- The bytes of the character with a number, as numbers. -/
def charBytes (v : Nat) : List Nat := digits (leadMark (followers v)) (followers v) v

theorem followers_cases (v : Nat) :
    (followers v = 0 ∧ v ≤ 0x7F) ∨ (followers v = 1 ∧ 0x7F < v ∧ v ≤ 0x7FF) ∨
      (followers v = 2 ∧ 0x7FF < v ∧ v ≤ 0xFFFF) ∨ (followers v = 3 ∧ 0xFFFF < v) := by
  -- the bounds follow the tests of the definition
  unfold followers
  split
  · omega
  · split
    · omega
    · split <;> omega

theorem followers_mono {v w : Nat} (h : v ≤ w) : followers v ≤ followers w := by
  have hv := followers_cases v
  have hw := followers_cases w
  omega

/-- What the first byte of a character can be, by the number of the bytes that follow it. -/
theorem first_lt_leadMark {v : Nat} (h : followers v < 3) :
    v / 64 ^ followers v + leadMark (followers v) < leadMark (followers v + 1) := by
  -- at most 5, 4 and 3 bits of the code point stand in the first of two, three and four bytes
  rcases followers_cases v with ⟨hv, hhigh⟩ | ⟨hv, -, hhigh⟩ | ⟨hv, -, hhigh⟩ | ⟨hv, -⟩
  · rw [hv]
    show v / 1 + 0 < 0xC0
    omega
  · rw [hv]
    show v / 64 + 0xC0 < 0xE0
    omega
  · rw [hv]
    show v / 4096 + 0xE0 < 0xF0
    omega
  · omega

theorem leadMark_mono {m n : Nat} (h : m ≤ n) : leadMark m ≤ leadMark n := by
  unfold leadMark
  repeat' split
  all_goals omega

/-- **The bytes of a greater character** are greater, whatever follows. -/
theorem charBytes_append_lt {v w : Nat} (h : v < w) (s t : List Nat) :
    charBytes v ++ s < charBytes w ++ t := by
  unfold charBytes
  -- a character with more bytes begins with a greater byte; of two with as many bytes the digits
  -- decide
  rcases Nat.lt_or_eq_of_le (followers_mono (Nat.le_of_lt h)) with hmore | hsame
  · obtain ⟨rest, hrest⟩ := digits_eq_cons (leadMark (followers v)) (followers v) v
    obtain ⟨rest', hrest'⟩ := digits_eq_cons (leadMark (followers w)) (followers w) w
    rw [hrest, hrest']
    have hw := followers_cases w
    refine List.cons_lt_cons_iff.mpr (.inl ?_)
    calc v / 64 ^ followers v + leadMark (followers v)
        < leadMark (followers v + 1) := first_lt_leadMark (by omega)
      _ ≤ leadMark (followers w) := leadMark_mono hmore
      _ ≤ w / 64 ^ followers w + leadMark (followers w) := Nat.le_add_left ..
  · rw [hsame]
    exact digits_append_lt _ _ h s t

theorem map_toNat_encodeChar (c : Char) :
    (String.utf8EncodeChar c).map UInt8.toNat = charBytes c.val.toNat := by
  obtain ⟨v, hv⟩ : ∃ v, c.val.toNat = v := ⟨_, rfl⟩
  have hvalid : v < 0xD800 ∨ 0xDFFF < v ∧ v < 0x110000 := hv ▸ c.valid
  have hbyte : ∀ n m, n = m → m < 256 → (UInt8.ofNat n).toNat = m := by
    intro n m h hm
    rw [h, UInt8.toNat_ofNat', Nat.mod_eq_of_lt hm]
  simp only [String.utf8EncodeChar, charBytes, followers, hv]
  -- the ranges of code points by the number of their bytes
  split
  · simp only [List.map_cons, List.map_nil]
    rw [hbyte _ v rfl (by omega)]
    rfl
  · split
    · simp only [List.map_cons, List.map_nil]
      rw [hbyte _ (v / 64 + 0xC0) (by omega) (by omega), hbyte _ (v % 64 + 0x80) rfl (by omega)]
      rfl
    · split
      · simp only [List.map_cons, List.map_nil]
        rw [hbyte _ (v / 64 / 64 + 0xE0) (by omega) (by omega),
          hbyte _ (v / 64 % 64 + 0x80) rfl (by omega), hbyte _ (v % 64 + 0x80) rfl (by omega)]
        rfl
      · simp only [List.map_cons, List.map_nil]
        rw [hbyte _ (v / 64 / 64 / 64 + 0xF0) (by omega) (by omega),
          hbyte _ (v / 64 / 64 % 64 + 0x80) (by omega) (by omega),
          hbyte _ (v / 64 % 64 + 0x80) rfl (by omega), hbyte _ (v % 64 + 0x80) rfl (by omega)]
        rfl

/-! ## Section 3: Texts

Texts are compared at the first character in which they differ; one that ends there comes first.
Bytes are compared in the same way, so the lemma about characters is all that is needed. -/

theorem lt_of_map_toNat_lt {s t : List UInt8} (h : s.map UInt8.toNat < t.map UInt8.toNat) :
    s < t := by
  -- byte by byte: a number and its byte are in the same order
  induction s generalizing t with
  | nil =>
    cases t with
    | nil => exact absurd h (List.lt_irrefl [])
    | cons b t => exact List.nil_lt_cons b t
  | cons a s ih =>
    cases t with
    | nil => exact absurd h (List.not_lt_nil _)
    | cons b t =>
      rw [List.map_cons, List.map_cons, List.cons_lt_cons_iff] at h
      refine List.cons_lt_cons_iff.mpr (h.imp UInt8.lt_iff_toNat_lt.mpr fun ⟨hfirst, hrest⟩ => ?_)
      exact ⟨UInt8.toNat_inj.mp hfirst, ih hrest⟩

/-- The bytes of a greater character are greater, whatever follows. -/
theorem encodeChar_append_lt {c d : Char} (h : c < d) (s t : List UInt8) :
    String.utf8EncodeChar c ++ s < String.utf8EncodeChar d ++ t := by
  apply lt_of_map_toNat_lt
  rw [List.map_append, List.map_append, map_toNat_encodeChar, map_toNat_encodeChar]
  have hnumber : c.val.toNat < d.val.toNat := h
  exact charBytes_append_lt hnumber _ _

theorem flatMap_encodeChar_lt {s t : List Char} (h : s < t) :
    s.flatMap String.utf8EncodeChar < t.flatMap String.utf8EncodeChar := by
  -- the first character that differs decides, by its bytes, before what follows is looked at
  induction s generalizing t with
  | nil =>
    cases t with
    | nil => exact absurd h (List.lt_irrefl [])
    | cons d t =>
      have hpos : 0 < (String.utf8EncodeChar d).length := by
        rw [String.length_utf8EncodeChar]
        exact Char.utf8Size_pos d
      obtain ⟨b, rest, hbytes⟩ := List.exists_cons_of_length_pos hpos
      rw [List.flatMap_nil, List.flatMap_cons, hbytes]
      exact List.nil_lt_cons b _
  | cons c s ih =>
    cases t with
    | nil => exact absurd h (List.not_lt_nil _)
    | cons d t =>
      rw [List.flatMap_cons, List.flatMap_cons]
      rcases List.cons_lt_cons_iff.mp h with hfirst | ⟨rfl, hrest⟩
      · exact encodeChar_append_lt hfirst _ _
      · exact List.append_left_lt (ih hrest)

theorem encode_lt_encode {a b : String} (h : a < b) : encode a < encode b := by
  rw [encode_eq_flatMap, encode_eq_flatMap]
  exact flatMap_encodeChar_lt (String.lt_iff_toList_lt.mp h)

/-- **Texts are in the order of their bytes.** So names can be sorted as texts where the system
sorts bytes. -/
theorem encode_le_encode_iff {a b : String} : encode a ≤ encode b ↔ a ≤ b := by
  constructor
  · intro hbytes hlt
    exact hbytes (encode_lt_encode hlt)
  · intro htexts
    rcases lt_or_eq_of_le htexts with hlt | rfl
    · exact List.lt_asymm (encode_lt_encode hlt)
    · exact List.lt_irrefl _

end Overseer.Text
