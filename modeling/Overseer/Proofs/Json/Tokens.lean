import Mathlib.Data.List.Basic
import Overseer.Json.Parser
import Overseer.Json.Printer

/-!
# Reading Back Strings and Numbers

A string is written with an escape for every character that must not stand in it, and each escape is
read back as its character.  A number is written in decimal digits without a zero in front, and its
end is where something stands that goes on with no number.

- `Json.readString_print`: a string is read back
- `Json.readNumber_print`: an integer is read back
-/

namespace Overseer.Json

/-! ## Section 1: Strings

A character is written as itself, by a letter behind a backslash, or as four digits.  Whichever it
is, the reader takes as much as was written and goes on behind it. -/

/-- The four digits of a control character are read as its number. -/
theorem readUnit_control {n : Nat} (h : n < 0x20) (s : List Char) :
    readUnit ('0' :: '0' :: lowHexDigit (n / 16) :: lowHexDigit n :: s) = some (n, s) := by
  have hdigits : ∀ n < 0x20,
      ['0', '0', lowHexDigit (n / 16), lowHexDigit n].all (Text.isDigitIn 16) = true ∧
        Text.numberIn 16 ['0', '0', lowHexDigit (n / 16), lowHexDigit n] = n := by decide
  rw [readUnit, (hdigits n h).1, (hdigits n h).2, if_pos rfl]

theorem readEscape_control {n : Nat} (h : n < 0x20) (s : List Char) :
    readEscape ('u' :: '0' :: '0' :: lowHexDigit (n / 16) :: lowHexDigit n :: s) =
      some (Char.ofNat n, s) := by
  have hhigh : ¬ (0xD800 ≤ n && n < 0xDC00) = true := by simp; omega
  have hlow : ¬ (0xDC00 ≤ n && n < 0xE000) = true := by simp; omega
  simp only [readEscape, readUnit_control h, Option.bind_eq_bind, Option.bind_some, if_neg hhigh,
    if_neg hlow]

/-- A character inside a string is written as itself, or as an escape that is read back. -/
theorem escapeChar_cases (c : Char) :
    (escapeChar c = [c] ∧ c ≠ '"' ∧ c ≠ '\\' ∧ ¬ c.toNat < 0x20) ∨
      ∃ escape, escapeChar c = '\\' :: escape ∧ ∀ s, readEscape (escape ++ s) = some (c, s) := by
  by_cases hnamed : c ∈ ['"', '\\', '\n', '\r', '\t', '\x08', '\x0c']
  · -- an escape with a letter of its own
    simp only [List.mem_cons, List.not_mem_nil, or_false] at hnamed
    rcases hnamed with rfl | rfl | rfl | rfl | rfl | rfl | rfl <;>
      exact .inr ⟨_, rfl, fun s => rfl⟩
  · simp only [List.mem_cons, List.not_mem_nil, or_false, not_or] at hnamed
    -- a control character is written by its number, and any other one as it is
    by_cases hcontrol : c.toNat < 0x20
    · have hescape : escapeChar c =
          '\\' :: ['u', '0', '0', lowHexDigit (c.toNat / 16), lowHexDigit c.toNat] := by
        simp [escapeChar, hnamed, hcontrol]
      refine .inr ⟨_, hescape, fun s => (readEscape_control hcontrol s).trans ?_⟩
      rw [Char.ofNat_toNat]
    · exact .inl ⟨by simp [escapeChar, hnamed, hcontrol], hnamed.1, hnamed.2.1, hcontrol⟩

theorem escapeChar_ne_nil (c : Char) : escapeChar c ≠ [] := by
  rcases escapeChar_cases c with ⟨h, -⟩ | ⟨escape, h, -⟩ <;> simp [h]

theorem length_le_length_escape (s : List Char) : s.length ≤ (s.flatMap escapeChar).length := by
  induction s with
  | nil => exact Nat.le_refl 0
  | cons c s ih =>
    have hc := List.length_pos_iff.mpr (escapeChar_ne_nil c)
    rw [List.flatMap_cons, List.length_append, List.length_cons]
    omega

theorem readStringFrom_escapeChar (fuel : Nat) (read : List Char) (c : Char) (s : List Char) :
    readStringFrom (fuel + 1) read (escapeChar c ++ s) = readStringFrom fuel (c :: read) s := by
  rcases escapeChar_cases c with ⟨hplain, hquote, hbackslash, hcontrol⟩ | ⟨escape, hescape, hread⟩
  · rw [hplain, List.singleton_append, readStringFrom, if_neg hcontrol]
    · exact fun h => hquote h
    · exact fun h => hbackslash h
  · rw [hescape, List.cons_append, readStringFrom, hread]
    rfl

/-- **A string is read back** behind its opening quote. -/
theorem readString_print (s : List Char) (rest : List Char) :
    readString (s.flatMap escapeChar ++ '"' :: rest) = some (String.ofList s, rest) := by
  -- every character takes one step at most, and what was read so far stands in front
  have hfrom : ∀ (s read : List Char) (fuel : Nat), s.length < fuel →
      readStringFrom fuel read (s.flatMap escapeChar ++ '"' :: rest) =
        some (String.ofList (read.reverse ++ s), rest) := by
    intro s
    induction s with
    | nil =>
      intro read fuel hfuel
      obtain ⟨fuel, rfl⟩ := Nat.exists_eq_succ_of_ne_zero (Nat.ne_zero_of_lt hfuel)
      simp [readStringFrom]
    | cons c s ih =>
      intro read fuel hfuel
      obtain ⟨fuel, rfl⟩ := Nat.exists_eq_succ_of_ne_zero (Nat.ne_zero_of_lt hfuel)
      rw [List.flatMap_cons, List.append_assoc, readStringFrom_escapeChar,
        ih _ _ (Nat.lt_of_succ_lt_succ hfuel), List.reverse_cons, List.append_assoc,
        List.singleton_append]
  have hlength := length_le_length_escape s
  refine hfrom s [] _ ?_
  rw [List.length_append]
  omega

/-! ## Section 2: Numbers

A number has no end of its own: it goes on as long as digits come.  So what stands behind it has to
be known, and in a printed value that is a comma, a bracket or nothing. -/

/-- What stands behind a number does not go on with it. -/
def EndsNumber (rest : List Char) : Prop :=
  ∀ c ∈ rest.head?, c.isDigit = false ∧ c ≠ '.' ∧ c ≠ 'e' ∧ c ≠ 'E'

theorem digitValue_digitChar {d : Nat} (h : d < 10) : Text.digitValue (Nat.digitChar d) = d := by
  have hall : ∀ d < 10, Text.digitValue (Nat.digitChar d) = d := by decide
  exact hall d h

/-- The digits of a number, by its last digit. -/
theorem toDigits_cases (n : Nat) :
    n < 10 ∧ Nat.toDigits 10 n = [Nat.digitChar n] ∨
      10 ≤ n ∧ Nat.toDigits 10 n = Nat.toDigits 10 (n / 10) ++ [Nat.digitChar (n % 10)] := by
  rcases Nat.lt_or_ge n 10 with h | h
  · exact .inl ⟨h, Nat.toDigits_of_lt_base h⟩
  · exact .inr ⟨h, Nat.toDigits_of_base_le (by decide) h⟩

/-- The digits of a number are read as the number. -/
theorem numberIn_toDigits (n : Nat) : Text.numberIn 10 (Nat.toDigits 10 n) = n := by
  induction n using Nat.strongRecOn with
  | ind n ih =>
    rcases toDigits_cases n with ⟨h, hdigits⟩ | ⟨h, hdigits⟩
    · rw [hdigits, ← List.nil_append [_], Text.numberIn_append_singleton, digitValue_digitChar h]
      exact Nat.zero_add n
    · rw [hdigits, Text.numberIn_append_singleton, ih (n / 10) (by omega),
        digitValue_digitChar (Nat.mod_lt n (by decide))]
      exact Nat.div_add_mod' n 10

/-- No number but zero is written with a zero in front. -/
theorem head?_toDigits {n : Nat} (h : (Nat.toDigits 10 n).head? = some '0') : n = 0 := by
  induction n using Nat.strongRecOn with
  | ind n ih =>
    rcases toDigits_cases n with ⟨hn, hdigits⟩ | ⟨hn, hdigits⟩
    · have hall : ∀ d < 10, Nat.digitChar d = '0' → d = 0 := by decide
      rw [hdigits, List.head?_cons, Option.some_inj] at h
      exact hall n hn h
    · rw [hdigits, List.head?_append_of_ne_nil _ Nat.toDigits_ne_nil] at h
      have := ih (n / 10) (by omega) h
      omega

theorem readDigits_toDigits (n : Nat) {rest : List Char} (hrest : EndsNumber rest) :
    readDigits (Nat.toDigits 10 n ++ rest) = some (Nat.toDigits 10 n, rest) := by
  have hdigits : ∀ c ∈ Nat.toDigits 10 n, c.isDigit = true :=
    fun c hc => Nat.isDigit_of_mem_toDigits (by decide) (by decide) hc
  have hstop : rest.takeWhile Char.isDigit = [] := by
    cases rest with
    | nil => rfl
    | cons c rest => exact List.takeWhile_cons_of_neg (by simp [(hrest c rfl).1])
  have htake : (Nat.toDigits 10 n ++ rest).takeWhile Char.isDigit = Nat.toDigits 10 n := by
    rw [List.takeWhile_append_of_pos hdigits, hstop, List.append_nil]
  simp [readDigits, htake, Nat.toDigits_ne_nil]

theorem readFraction_of_ends {rest : List Char} (hrest : EndsNumber rest) :
    readFraction rest = some ([], rest) := by
  rw [readFraction]
  rintro s rfl
  exact (hrest '.' rfl).2.1 rfl

theorem readExponent_of_ends {rest : List Char} (hrest : EndsNumber rest) :
    readExponent rest = some ([], rest) := by
  cases rest with
  | nil => rfl
  | cons c rest =>
    obtain ⟨-, -, he, hE⟩ := hrest c rfl
    simp [readExponent, he, hE]

/-- A number is read back behind its sign. -/
theorem readMagnitude_toDigits {negative : Bool} {n : Nat} (hsign : negative = true → n ≠ 0)
    {rest : List Char} (hrest : EndsNumber rest) :
    readMagnitude negative (Nat.toDigits 10 n ++ rest) =
      some (.int (if negative then -n else n), rest) := by
  -- no digits begin with a zero but that of the number zero
  have hlead : ((Nat.toDigits 10 n).head? == some '0' && (Nat.toDigits 10 n).length > 1) = false := by
    rw [Bool.and_eq_false_iff, beq_eq_false_iff_ne, decide_eq_false_iff_not]
    by_cases hhead : (Nat.toDigits 10 n).head? = some '0'
    · rw [head?_toDigits hhead]
      exact .inr (by decide)
    · exact .inl hhead
  -- and zero has no sign
  have hzero : (negative && Nat.toDigits 10 n == ['0']) = false := by
    cases negative with
    | false => rfl
    | true =>
      rw [Bool.true_and, beq_eq_false_iff_ne]
      exact fun hdigits => hsign rfl (head?_toDigits (hdigits ▸ rfl))
  simp only [readMagnitude, readDigits_toDigits n hrest, Option.bind_eq_bind, Option.bind_some,
    hlead, readFraction_of_ends hrest, readExponent_of_ends hrest, hzero, numberIn_toDigits]
  rfl

theorem toList_ofNat (n : Nat) : (toString (Int.ofNat n)).toList = Nat.toDigits 10 n := by
  change (Nat.repr n).toList = _
  rw [Nat.repr, String.toList_ofList]

theorem toList_negSucc (n : Nat) :
    (toString (Int.negSucc n)).toList = '-' :: Nat.toDigits 10 (n + 1) := by
  change ("-" ++ Nat.repr (n + 1)).toList = _
  simp only [String.toList_append, Nat.repr, String.toList_ofList]
  rfl

/-- **An integer is read back.** -/
theorem readNumber_print (n : Int) {rest : List Char} (hrest : EndsNumber rest) :
    readNumber ((toString n).toList ++ rest) = some (.int n, rest) := by
  cases n with
  -- the sign is read first, and the digits behind it
  | negSucc n =>
    rw [toList_negSucc, List.cons_append, readNumber,
      readMagnitude_toDigits (fun _ => Nat.succ_ne_zero n) hrest]
    rfl
  | ofNat n =>
    rw [toList_ofNat, readNumber,
      readMagnitude_toDigits (fun h => absurd h Bool.false_ne_true) hrest]
    · rfl
    · -- no digit is a sign
      intro s hs
      obtain ⟨c, digits, hdigits⟩ := List.exists_cons_of_ne_nil (Nat.toDigits_ne_nil (n := n) (b := 10))
      have hc : c.isDigit = true :=
        Nat.isDigit_of_mem_toDigits (by decide) (by decide) (hdigits ▸ List.mem_cons_self)
      rw [hdigits, List.cons_append, List.cons.injEq] at hs
      rw [hs.1] at hc
      exact absurd hc (by decide)

end Overseer.Json
