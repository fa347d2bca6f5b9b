import Overseer.Proofs.Text.Lossy

/-!
# Where Bytes May Be Cut in Two

Bytes may be cut at a seam: what is in front of it and what is behind it are read on their own, and
give together what the whole gives.  A part that lay on both sides of a cut would be read as one
character more on either side, so a seam is inside of no part, be it a character or one that is
replaced.

- `length_decodeLossy_append_le`: reading in two goes gives no fewer characters
- `Seam.eq_nil_of_part`: a seam is inside of no part
- `Seam.takenApart`: the parts of the whole are those of the two sides
-/

namespace Overseer.Text

/-! ## Section 1: How many characters are read

Characters are counted instead of compared.  Reading in two goes can only give more of them, and
gives as many exactly where the cut does no harm. -/

namespace Utf8Reader

theorem length_finish_start (read : List Char) (n : Nat) :
    (start read n).finish.length = read.length + 1 := by
  rw [start]
  cases Utf8Lead.ofByte n <;> simp [finish]

/-- A byte adds one character at most, and takes none away. -/
theorem length_finish_step (r : Utf8Reader) (b : UInt8) :
    r.finish.length ≤ (r.step b).finish.length ∧
      (r.step b).finish.length ≤ r.finish.length + 1 := by
  obtain ⟨read, part⟩ := r
  -- with a character open the byte goes on with it, or closes it and begins anew
  cases part with
  | none =>
    rw [step, length_finish_start]
    simp [finish]
  | some p =>
    simp only [step]
    split
    · -- the byte belongs to the character that is open
      split <;> simp [finish]
    · rw [length_finish_start]
      simp [finish]

end Utf8Reader

theorem length_decodeLossy_concat (bytes : List UInt8) (b : UInt8) :
    (decodeLossy bytes).length ≤ (decodeLossy (bytes ++ [b])).length ∧
      (decodeLossy (bytes ++ [b])).length ≤ (decodeLossy bytes).length + 1 := by
  rw [decodeLossy, decodeLossy, List.foldl_append]
  exact Utf8Reader.length_finish_step _ b

/-- A byte from inside a character is replaced where none is open. -/
theorem decodeLossy_cons_of_inner {b : UInt8} (h : IsInner b) (rest : List UInt8) :
    decodeLossy (b :: rest) = replacement :: decodeLossy rest := by
  have hstep : Utf8Reader.empty.step b = ⟨[replacement], none⟩ := Utf8Reader.start_of_inner h []
  rw [decodeLossy, List.foldl_cons, hstep, finish_foldl_step]
  rfl

theorem length_decodeLossy_append_of_inner {tail : List UInt8} (h : ∀ b ∈ tail, IsInner b)
    (rest : List UInt8) :
    (decodeLossy (tail ++ rest)).length = tail.length + (decodeLossy rest).length := by
  -- each byte stands for itself, since no character is open when it comes
  induction tail with
  | nil => rw [List.nil_append, List.length_nil, Nat.zero_add]
  | cons b tail ih =>
    obtain ⟨hb, htail⟩ := List.forall_mem_cons.mp h
    rw [List.cons_append, decodeLossy_cons_of_inner hb, List.length_cons, ih htail,
      List.length_cons]
    omega

theorem length_decodeLossy_le_append (bytes rest : List UInt8) :
    (decodeLossy bytes).length ≤ (decodeLossy (bytes ++ rest)).length := by
  induction rest generalizing bytes with
  | nil => exact Nat.le_of_eq (by rw [List.append_nil])
  | cons b rest ih =>
    have hwhole := ih (bytes ++ [b])
    rw [List.append_assoc, List.singleton_append] at hwhole
    exact Nat.le_trans (length_decodeLossy_concat bytes b).1 hwhole

/-- **Reading in two goes** gives no fewer characters than reading at once.  What is read in between
can only be broken by the pause, never put together. -/
theorem length_decodeLossy_append_le (bytes rest : List UInt8) :
    (decodeLossy (bytes ++ rest)).length ≤
      (decodeLossy bytes).length + (decodeLossy rest).length := by
  induction rest generalizing bytes with
  | nil =>
    rw [List.append_nil]
    exact Nat.le_add_right _ _
  | cons b rest ih =>
    by_cases hb : IsInner b
    · -- it may go on with the character that is open, and is one more when it stands alone
      have hwhole := ih (bytes ++ [b])
      have hone := (length_decodeLossy_concat bytes b).2
      rw [List.append_assoc, List.singleton_append] at hwhole
      rw [decodeLossy_cons_of_inner hb, List.length_cons]
      omega
    · exact Nat.le_of_eq (by rw [decodeLossy_append_cons hb, List.length_append])

theorem length_decodeLossy_pos {bytes : List UInt8} (h : bytes ≠ []) :
    0 < (decodeLossy bytes).length := by
  obtain ⟨b, rest, rfl⟩ := List.exists_cons_of_ne_nil h
  have hone : (decodeLossy [b]).length = 1 := Utf8Reader.length_finish_start [] b.toNat
  have hwhole := length_decodeLossy_le_append [b] rest
  rw [List.singleton_append] at hwhole
  omega

/-! ## Section 2: The bytes of a part

Cutting inside of a part leaves its first bytes on one side, which are read as a character, and its
other bytes on the other, which are read as one at least. -/

/-- A part of more than one byte begins as a character does, and its other bytes go on with it. -/
theorem Part.inner {b : UInt8} {tail : List UInt8} {c : Char} (h : Part (b :: tail) c)
    (htail : tail ≠ []) : ¬IsInner b ∧ ∀ d ∈ tail, IsInner d := by
  -- how the part begins and goes on does not depend on which of the shapes it has
  generalize hpart : b :: tail = part at h
  cases h with
  | whole => exact ⟨not_inner_encodeChar hpart.symm, inner_encodeChar hpart.symm⟩
  | broken _ _ hchar =>
    rw [← hpart, List.cons_append] at hchar
    exact ⟨not_inner_encodeChar hchar,
      fun d hd => inner_encodeChar hchar d (List.mem_append_left _ hd)⟩
  | stray => exact absurd (List.cons.inj hpart).2 htail

theorem decodeLossy_encodeChar (c : Char) : decodeLossy (String.utf8EncodeChar c) = [c] := by
  have hread := decodeLossy_encode_ofList [c]
  rwa [encode_ofList, List.flatMap_singleton] at hread

/-- A part is read as one character. -/
theorem Part.length_decodeLossy_le {part : List UInt8} {c : Char} (h : Part part c) :
    (decodeLossy part).length ≤ 1 := by
  cases h with
  | whole => exact Nat.le_of_eq (by rw [decodeLossy_encodeChar, List.length_singleton])
  | @broken _ rest c _ _ hchar =>
    have hwhole := length_decodeLossy_le_append part rest
    rwa [← hchar, decodeLossy_encodeChar, List.length_singleton] at hwhole
  | stray => exact (length_decodeLossy_concat [] _).2

theorem length_decodeLossy_flatMap_le {parts : List (List UInt8 × Char)}
    (h : ∀ p ∈ parts, Part p.1 p.2) :
    (decodeLossy (parts.flatMap Prod.fst)).length ≤ parts.length := by
  -- one character for each part, and putting the parts together adds none
  induction parts with
  | nil => exact Nat.le_refl _
  | cons p parts ih =>
    obtain ⟨hp, hparts⟩ := List.forall_mem_cons.mp h
    have hwhole := length_decodeLossy_append_le p.1 (parts.flatMap Prod.fst)
    have hone := hp.length_decodeLossy_le
    have hrest := ih hparts
    rw [List.flatMap_cons, List.length_cons]
    omega

/-! ## Section 3: Seams

So a seam inside of a part would give one character too many.  It follows that the parts of the
whole can be dealt out to the two sides. -/

/-- A place at which bytes may be cut: both sides are read on their own. -/
def Seam (front rest : List UInt8) : Prop :=
  decodeLossy (front ++ rest) = decodeLossy front ++ decodeLossy rest

namespace Seam

variable {front rest : List UInt8}

/-- **A seam is inside of no part.** -/
theorem eq_nil_of_part {first later : List UInt8} {c : Char}
    (h : Seam (front ++ first) (later ++ rest)) (hpart : Part (first ++ later) c) :
    first = [] ∨ later = [] := by
  by_cases hfirst : first = []
  case pos => exact .inl hfirst
  by_cases hlater : later = []
  case pos => exact .inr hlater
  exfalso
  obtain ⟨b, tail, rfl⟩ := List.exists_cons_of_ne_nil hfirst
  have htail : tail ++ later ≠ [] := List.append_ne_nil_of_right_ne_nil _ hlater
  obtain ⟨hb, hinner⟩ := Part.inner hpart htail
  -- at once the part is one character
  have hwhole : (decodeLossy (front ++ (b :: tail ++ later) ++ rest)).length ≤
      (decodeLossy front).length + 1 + (decodeLossy rest).length := by
    have hone := hpart.length_decodeLossy_le
    have hthere := length_decodeLossy_append_le front (b :: tail ++ later)
    have hall := length_decodeLossy_append_le (front ++ (b :: tail ++ later)) rest
    omega
  -- in two goes there is one on either side
  have hleft : (decodeLossy front).length + 1 ≤ (decodeLossy (front ++ b :: tail)).length := by
    rw [decodeLossy_append_cons hb, List.length_append]
    exact Nat.add_le_add_left (length_decodeLossy_pos (List.cons_ne_nil _ _)) _
  have hright : 1 + (decodeLossy rest).length ≤ (decodeLossy (later ++ rest)).length := by
    rw [length_decodeLossy_append_of_inner fun d hd => hinner d (List.mem_append_right _ hd)]
    exact Nat.add_le_add_right (List.length_pos_iff.mpr hlater) _
  have hseam := congrArg List.length h
  rw [List.length_append, ← List.append_assoc, List.append_assoc front] at hseam
  omega

/-- A part lies in front of a seam or behind it. -/
theorem le_or_le_of_part {bytes part : List UInt8} {cut : Nat} {c : Char}
    (h : Seam (bytes.take cut) (bytes.drop cut)) (hbytes : bytes = front ++ part ++ rest)
    (hpart : Part part c) : cut ≤ front.length ∨ front.length + part.length ≤ cut := by
  by_cases hbegun : front.length < cut
  case neg => exact .inl (Nat.le_of_not_lt hbegun)
  refine .inr (Nat.le_of_not_lt fun hinside => ?_)
  obtain ⟨size, rfl⟩ := Nat.exists_eq_add_of_lt hbegun
  have hsize : size + 1 < part.length := by omega
  -- the part is split behind its first bytes
  have htake : bytes.take (front.length + size + 1) = front ++ part.take (size + 1) := by
    rw [hbytes, List.append_assoc, Nat.add_assoc, List.take_length_add_append,
      List.take_append_of_le_length (Nat.le_of_lt hsize)]
  have hdrop : bytes.drop (front.length + size + 1) = part.drop (size + 1) ++ rest := by
    rw [hbytes, List.append_assoc, Nat.add_assoc, List.drop_length_add_append,
      List.drop_append_of_le_length (Nat.le_of_lt hsize)]
  rw [htake, hdrop] at h
  have hsplit := h.eq_nil_of_part (c := c) (by rwa [List.take_append_drop])
  rw [List.take_eq_nil_iff, List.drop_eq_nil_iff] at hsplit
  rcases hsplit with (hzero | hnil) | hend
  · exact absurd hzero (Nat.succ_ne_zero _)
  · rw [hnil] at hsize
    exact absurd hsize (Nat.not_lt_zero _)
  · omega

/-- Parts that lie on one side each. -/
theorem takenApart_of_append (h : Seam front rest) {before behind : List (List UInt8 × Char)}
    (hparts : TakenApart (front ++ rest) (before ++ behind))
    (hfront : before.flatMap Prod.fst = front) (hrest : behind.flatMap Prod.fst = rest) :
    TakenApart front before ∧ TakenApart rest behind := by
  obtain ⟨hbefore, hbehind⟩ := List.forall_mem_append.mp hparts.sound
  have hchars := hparts.chars_eq
  rw [h, List.map_append] at hchars
  -- no side has more characters than parts, and together they have as many
  have hleft := length_decodeLossy_flatMap_le hbefore
  have hright := length_decodeLossy_flatMap_le hbehind
  have hlengths := congrArg List.length hchars
  rw [hfront] at hleft
  rw [hrest] at hright
  rw [List.length_append, List.length_append, List.length_map, List.length_map] at hlengths
  obtain ⟨hreadfront, hreadrest⟩ := List.append_inj hchars (by rw [List.length_map]; omega)
  exact ⟨⟨hfront, hreadfront, hbefore⟩, ⟨hrest, hreadrest, hbehind⟩⟩

/-- **The parts of the whole** are those in front of the seam and those behind it.  So replacement
characters can be counted on both sides by themselves. -/
theorem takenApart (h : Seam front rest) {parts : List (List UInt8 × Char)}
    (hparts : TakenApart (front ++ rest) parts) :
    ∃ before behind, parts = before ++ behind ∧ TakenApart front before ∧
      TakenApart rest behind := by
  have hbytes := hparts.bytes_eq
  rw [List.flatMap_def, List.flatten_eq_append_iff] at hbytes
  rcases hbytes with ⟨_, _, hsplit, hfront, hrest⟩ | ⟨_, first, d, later, _, hsplit, hfront, hrest⟩
  · obtain ⟨before, behind, rfl, rfl, rfl⟩ := List.map_eq_append_iff.mp hsplit
    exact ⟨before, behind, rfl, h.takenApart_of_append hparts hfront.symm hrest.symm⟩
  · obtain ⟨before, _, rfl, rfl, hbehind⟩ := List.map_eq_append_iff.mp hsplit
    obtain ⟨⟨_, c⟩, behind, rfl, rfl, rfl⟩ := List.map_eq_cons_iff.mp hbehind
    -- the part in the middle is on one side as well
    have hpart := hparts.sound _ (List.mem_append_right _ List.mem_cons_self)
    rw [hfront, hrest] at h
    obtain rfl : first = [] :=
      (h.eq_nil_of_part hpart).resolve_right (List.cons_ne_nil _ _)
    rw [← hfront, ← hrest] at h
    rw [List.append_nil] at hfront
    exact ⟨before, _, rfl, h.takenApart_of_append hparts hfront.symm hrest.symm⟩

end Seam

end Overseer.Text
