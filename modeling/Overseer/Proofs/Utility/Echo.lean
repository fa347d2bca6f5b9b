import Overseer.Utility.Basic

/-!
# What `echo` Writes

Shells do not agree on `echo`: one of them knows the option `-n` only and reads escapes in every
word, others know more options and read escapes when they are told to.  A script is safe with any of
them as long as its first word is no option and no word has a backslash.

- `unescape_of_plain`: a text without a backslash stands for itself
- `echo_of_plain`: plain words are written with blanks between them and a newline behind
-/

namespace Overseer.Utility

variable {flavour : Flavour} {s : List Char} {words : List String}

/-! ## Section 1: Escapes

An escape begins with a backslash, and there is one that ends the output.  Without a backslash
neither can be met. -/

/-- A text without a backslash stands for itself, and does not end the output. -/
theorem unescape_of_plain {fuel : Nat} (hfuel : s.length < fuel) (hplain : '\\' ∉ s) :
    unescape flavour fuel s = (s, false) := by
  induction s generalizing fuel with
  | nil => cases fuel <;> rfl
  | cons c s ih =>
    cases fuel with
    | zero => exact absurd hfuel (Nat.not_lt_zero _)
    | succ fuel =>
      rw [List.mem_cons, not_or] at hplain
      have hlater := ih (Nat.lt_of_succ_lt_succ hfuel) hplain.2
      -- the character is no backslash, so the last rule is the one that applies
      have hstep : unescape flavour (fuel + 1) (c :: s) =
          (c :: (unescape flavour fuel s).1, (unescape flavour fuel s).2) := by
        rw [unescape] <;> intros <;> simp_all
      rw [hstep, hlater]

/-! ## Section 2: Words

What is written is the words with one space between each two.  Options are looked for among the
first words only, so the first one decides. -/

/-- Words without a backslash make a text without one. -/
theorem backslash_not_mem_joined (h : ∀ w ∈ words, '\\' ∉ w.toList) : '\\' ∉ joined words := by
  unfold joined
  induction words with
  | nil => exact List.not_mem_nil
  | cons w words ih =>
    have hw := h w List.mem_cons_self
    have hlater := ih fun v hv => h v (List.mem_cons_of_mem w hv)
    -- the last word has no space behind it, all others have one
    cases words with
    | nil => simpa using hw
    | cons v words =>
      rw [List.map_cons, List.map_cons, List.intercalate_cons_cons, List.mem_append,
        List.mem_append]
      rintro ((hmem | hmem) | hmem)
      · exact hw hmem
      · exact absurd (List.mem_singleton.mp hmem) (by decide)
      · exact hlater hmem

/-- Words of which the first is no option have no options in front. -/
theorem takeWhile_isEchoOption (h : ∀ w ∈ words.head?, isEchoOption w.toList = false) :
    (words.takeWhile fun w => isEchoOption w.toList) = [] := by
  cases words with
  | nil => rfl
  | cons w words => rw [List.takeWhile_cons, h w rfl, if_neg Bool.false_ne_true]

/-- **Plain words are written as they are**, whichever `echo` it is: with blanks between them, a
newline behind, and nothing else. -/
theorem echo_of_plain (flavour : Flavour) (hplain : ∀ w ∈ words, '\\' ∉ w.toList)
    (hoption : ∀ w ∈ words.head?, isEchoOption w.toList = false) :
    echo flavour words = .say (joined words ++ ['\n']) 0 := by
  have hnone := takeWhile_isEchoOption hoption
  cases flavour with
  | dash =>
    -- this one reads escapes in any case
    have htext : unescape .dash ((joined words).length + 1) (joined words) =
        (joined words, false) :=
      unescape_of_plain (Nat.lt_succ_self _) (backslash_not_mem_joined hplain)
    unfold echo
    dsimp only
    split
    · exact absurd (hoption "-n" rfl) (by decide)
    · simp only [if_true, htext, Bool.not_false, Bool.and_true]
  | _ =>
    simp only [echo, hnone, List.flatMap_nil, List.filter_nil, List.getLast?_nil, List.length_nil,
      List.drop_zero]
    rfl

end Overseer.Utility
