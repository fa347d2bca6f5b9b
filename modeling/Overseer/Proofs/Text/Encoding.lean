import Overseer.Text.Utf8

/-!
# Reading What Was Written

The bytes of a text are read as the text again: the machine that reads UTF-8 is between characters
whenever a character was read whole, and no byte of one is taken for the end of it.

- `Text.Utf8Reader.foldl_step_encodeChar`: a character is read whole
- `Text.Utf8Reader.foldl_step_encode`: the characters of a text, one after the other
- `Text.decodeLossy_encode`: reading the bytes of a text gives the text
-/

namespace Overseer.Text

/-! ## Section 1: The bytes of a text -/

theorem byteArray_toList (bytes : ByteArray) : bytes.toList = bytes.data.toList := by
  -- the loop goes over the bytes from a place on, and gathers them the other way round
  have hloop : ∀ (i : Nat) (seen : List UInt8),
      ByteArray.toList.loop bytes i seen = seen.reverse ++ bytes.data.toList.drop i := by
    intro i seen
    fun_induction ByteArray.toList.loop bytes i seen with
    | case1 i seen h ih =>
      have hi : i < bytes.data.toList.length := h
      rw [ih, List.drop_eq_getElem_cons hi, List.reverse_cons, List.append_assoc]
      have hget : bytes.get! i = bytes.data.toList[i] := getElem!_pos bytes.data i h
      rw [hget]
      rfl
    | case2 i seen h =>
      have hi : bytes.data.toList.length ≤ i := Nat.le_of_not_lt h
      rw [List.drop_eq_nil_of_le hi, List.append_nil]
  simp only [ByteArray.toList, hloop, List.reverse_nil, List.nil_append, List.drop_zero]

/-- A text is written character by character. -/
theorem encode_ofList (s : List Char) : encode (String.ofList s) = s.flatMap String.utf8EncodeChar := by
  rw [encode, String.toUTF8_eq_toByteArray, String.toByteArray_ofList, byteArray_toList,
    List.utf8Encode, List.toList_data_toByteArray]

theorem encode_eq_flatMap (s : String) : encode s = s.toList.flatMap String.utf8EncodeChar := by
  rw [← encode_ofList, String.ofList_toList]

/-! ## Section 2: Reading one character

The bytes of a character are its digits to the base 64, each with a mark.  The machine takes the
marks off again and gathers the digits, so it is at the code point when it has read the last of
them. -/

namespace Utf8Reader

variable (read : List Char) {v : Nat}

theorem step_start {b : UInt8} {n : Nat} (h : b.toNat = n) :
    step ⟨read, none⟩ b = start read n := by
  rw [step, h]

theorem step_inside {bits owed low high n : Nat} {b : UInt8} (h : b.toNat = n + 0x80)
    (hlow : low ≤ n + 0x80) (hhigh : n + 0x80 ≤ high) :
    step ⟨read, some ⟨bits, owed + 2, low, high⟩⟩ b =
      ⟨read, some ⟨bits * 64 + n, owed + 1, 0x80, 0xBF⟩⟩ := by
  simp [step, h, hlow, hhigh]

theorem step_end {bits low high n : Nat} {b : UInt8} (h : b.toNat = n + 0x80)
    (hlow : low ≤ n + 0x80) (hhigh : n + 0x80 ≤ high) :
    step ⟨read, some ⟨bits, 1, low, high⟩⟩ b = ⟨Char.ofNat (bits * 64 + n) :: read, none⟩ := by
  simp [step, h, hlow, hhigh]

/-- The first of three bytes admits the second: it is bounded only where a shorter form or a
surrogate would come of it. -/
theorem start_three (hlow : 0x800 ≤ v) (hhigh : v < 0x10000) (hvalid : v < 0xD800 ∨ 0xDFFF < v) :
    ∃ low high, start read (v / 4096 + 0xE0) = ⟨read, some ⟨v / 4096, 2, low, high⟩⟩ ∧
      low ≤ v / 64 % 64 + 0x80 ∧ v / 64 % 64 + 0x80 ≤ high := by
  suffices hlead : ∃ low high,
      Utf8Lead.ofByte (v / 4096 + 0xE0) = .opens ⟨v / 4096, 2, low, high⟩ ∧
        low ≤ v / 64 % 64 + 0x80 ∧ v / 64 % 64 + 0x80 ≤ high by
    obtain ⟨low, high, hlead, hbounds⟩ := hlead
    exact ⟨low, high, by simp only [start, hlead], hbounds⟩
  -- the first byte is none of those that stand for one byte or open two
  unfold Utf8Lead.ofByte
  rw [if_neg (by omega), if_neg (by omega), if_neg (by omega)]
  -- a shorter form below, the surrogates above; all other first bytes admit every inner byte
  by_cases hfirst : v / 4096 = 0
  · exact ⟨0xA0, 0xBF, by simp [hfirst], by omega, by omega⟩
  · by_cases hsurrogates : v / 4096 = 0xD
    · exact ⟨0x80, 0x9F, by simp [hsurrogates], by omega, by omega⟩
    · refine ⟨0x80, 0xBF, ?_, by omega, by omega⟩
      rw [if_neg (by simpa using hfirst), if_neg (by simpa using hsurrogates), if_pos (by omega),
        Nat.add_sub_cancel]

/-- The first of four bytes admits the second: it is bounded only where a shorter form or a number
past the last character would come of it. -/
theorem start_four (hlow : 0x10000 ≤ v) (hhigh : v < 0x110000) :
    ∃ low high, start read (v / 262144 + 0xF0) = ⟨read, some ⟨v / 262144, 3, low, high⟩⟩ ∧
      low ≤ v / 4096 % 64 + 0x80 ∧ v / 4096 % 64 + 0x80 ≤ high := by
  suffices hlead : ∃ low high,
      Utf8Lead.ofByte (v / 262144 + 0xF0) = .opens ⟨v / 262144, 3, low, high⟩ ∧
        low ≤ v / 4096 % 64 + 0x80 ∧ v / 4096 % 64 + 0x80 ≤ high by
    obtain ⟨low, high, hlead, hbounds⟩ := hlead
    exact ⟨low, high, by simp only [start, hlead], hbounds⟩
  unfold Utf8Lead.ofByte
  -- the first byte is none of those that stand for fewer bytes
  rw [if_neg (by omega), if_neg (by omega), if_neg (by omega), if_neg (by simp),
    if_neg (by simp), if_neg (by omega)]
  -- a shorter form below, the last character above; between them every inner byte is admitted
  by_cases hfirst : v / 262144 = 0
  · exact ⟨0x90, 0xBF, by simp [hfirst], by omega, by omega⟩
  · by_cases hlast : v / 262144 = 4
    · exact ⟨0x80, 0x8F, by simp [hlast], by omega, by omega⟩
    · refine ⟨0x80, 0xBF, ?_, by omega, by omega⟩
      rw [if_neg (by simpa using hfirst), if_pos (by omega), Nat.add_sub_cancel]

/-! The characters of one, two, three and four bytes -/

theorem foldl_one {b : UInt8} (h : b.toNat = v) (hhigh : v < 0x80) :
    [b].foldl step ⟨read, none⟩ = ⟨Char.ofNat v :: read, none⟩ := by
  rw [List.foldl_cons, step_start read h]
  simp [start, Utf8Lead.ofByte, hhigh]

theorem foldl_two {b₁ b₂ : UInt8} (h₁ : b₁.toNat = v / 64 + 0xC0) (h₂ : b₂.toNat = v % 64 + 0x80)
    (hlow : 0x80 ≤ v) (hhigh : v < 0x800) :
    [b₁, b₂].foldl step ⟨read, none⟩ = ⟨Char.ofNat v :: read, none⟩ := by
  have hlead : start read (v / 64 + 0xC0) = ⟨read, some ⟨v / 64, 1, 0x80, 0xBF⟩⟩ := by
    simp only [start, Utf8Lead.ofByte]
    rw [if_neg (by omega), if_neg (by omega), if_pos (by omega), Nat.add_sub_cancel]
  -- two digits to the base 64
  have hbits : v / 64 * 64 + v % 64 = v := by omega
  rw [List.foldl_cons, step_start read h₁, hlead, List.foldl_cons,
    step_end read h₂ (by omega) (by omega), hbits, List.foldl_nil]

theorem foldl_three {b₁ b₂ b₃ : UInt8} (h₁ : b₁.toNat = v / 4096 + 0xE0)
    (h₂ : b₂.toNat = v / 64 % 64 + 0x80) (h₃ : b₃.toNat = v % 64 + 0x80) (hlow : 0x800 ≤ v)
    (hhigh : v < 0x10000) (hvalid : v < 0xD800 ∨ 0xDFFF < v) :
    [b₁, b₂, b₃].foldl step ⟨read, none⟩ = ⟨Char.ofNat v :: read, none⟩ := by
  obtain ⟨low, high, hlead, hadmits⟩ := start_three read hlow hhigh hvalid
  -- three digits to the base 64, and only the first inner byte may be bounded
  have hbits : (v / 4096 * 64 + v / 64 % 64) * 64 + v % 64 = v := by omega
  rw [List.foldl_cons, step_start read h₁, hlead, List.foldl_cons,
    step_inside read h₂ hadmits.1 hadmits.2, List.foldl_cons,
    step_end read h₃ (by omega) (by omega), hbits, List.foldl_nil]

theorem foldl_four {b₁ b₂ b₃ b₄ : UInt8} (h₁ : b₁.toNat = v / 262144 + 0xF0)
    (h₂ : b₂.toNat = v / 4096 % 64 + 0x80) (h₃ : b₃.toNat = v / 64 % 64 + 0x80)
    (h₄ : b₄.toNat = v % 64 + 0x80) (hlow : 0x10000 ≤ v) (hhigh : v < 0x110000) :
    [b₁, b₂, b₃, b₄].foldl step ⟨read, none⟩ = ⟨Char.ofNat v :: read, none⟩ := by
  obtain ⟨low, high, hlead, hadmits⟩ := start_four read hlow hhigh
  -- four digits to the base 64, and only the first inner byte may be bounded
  have hbits : ((v / 262144 * 64 + v / 4096 % 64) * 64 + v / 64 % 64) * 64 + v % 64 = v := by
    omega
  rw [List.foldl_cons, step_start read h₁, hlead, List.foldl_cons,
    step_inside read h₂ hadmits.1 hadmits.2, List.foldl_cons,
    step_inside read h₃ (by omega) (by omega), List.foldl_cons,
    step_end read h₄ (by omega) (by omega), hbits, List.foldl_nil]

/-- **A character is read whole** from its bytes. -/
theorem foldl_step_encodeChar (c : Char) :
    (String.utf8EncodeChar c).foldl step ⟨read, none⟩ = ⟨c :: read, none⟩ := by
  obtain ⟨v, hv⟩ : ∃ v, c.val.toNat = v := ⟨_, rfl⟩
  have hchar : Char.ofNat v = c := by
    rw [← hv]
    exact Char.ofNat_toNat c
  have hvalid : v < 0xD800 ∨ 0xDFFF < v ∧ v < 0x110000 := hv ▸ c.valid
  have hbyte : ∀ n m, n = m → m < 256 → (UInt8.ofNat n).toNat = m := by
    intro n m h hm
    rw [h, UInt8.toNat_ofNat', Nat.mod_eq_of_lt hm]
  simp only [String.utf8EncodeChar, hv]
  rw [← hchar]
  -- the ranges of code points by the number of their bytes
  split
  · exact foldl_one read (hbyte _ _ rfl (by omega)) (by omega)
  · split
    · exact foldl_two read (hbyte _ _ (by omega) (by omega)) (hbyte _ _ rfl (by omega)) (by omega)
        (by omega)
    · split
      · exact foldl_three read (hbyte _ _ (by omega) (by omega)) (hbyte _ _ rfl (by omega))
          (hbyte _ _ rfl (by omega)) (by omega) (by omega) (by omega)
      · exact foldl_four read (hbyte _ _ (by omega) (by omega)) (hbyte _ _ rfl (by omega))
          (hbyte _ _ rfl (by omega)) (hbyte _ _ rfl (by omega)) (by omega) (by omega)

end Utf8Reader

/-! ## Section 3: Reading a text

Behind each character the machine is where it was before the first one, with one character more. -/

/-- The characters of a text are read one after the other, and none is open behind them. -/
theorem Utf8Reader.foldl_step_encode (s read : List Char) :
    (encode (String.ofList s)).foldl Utf8Reader.step ⟨read, none⟩ = ⟨s.reverse ++ read, none⟩ := by
  rw [encode_ofList]
  -- a character is read to its end before the next one begins
  induction s generalizing read with
  | nil => rfl
  | cons c s ih =>
    rw [List.flatMap_cons, List.foldl_append, Utf8Reader.foldl_step_encodeChar, ih,
      List.reverse_cons, List.append_assoc]
    rfl

theorem decodeLossy_encode_ofList (s : List Char) : decodeLossy (encode (String.ofList s)) = s := by
  rw [decodeLossy, Utf8Reader.empty, Utf8Reader.foldl_step_encode, List.append_nil]
  exact List.reverse_reverse s

/-- **Reading the bytes of a text** gives the text. -/
theorem decodeLossy_encode (s : String) : decodeLossy (encode s) = s.toList := by
  rw [← decodeLossy_encode_ofList s.toList, String.ofList_toList]

end Overseer.Text
