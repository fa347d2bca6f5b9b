import Mathlib.Data.List.GetD
import Mathlib.Data.List.Infix
import Overseer.Text.Deletion

/-!
# What Deleting Pieces Leaves

Pieces are deleted in one go from the front to the end.  So no piece is found in what was kept side by
side, but the two sides of a piece that is deleted may be a piece together.

- `Recognizes`: a width that finds the pieces of a kind
- `Recognizes.induction`: a text is taken apart into what is kept and what is deleted
- `Recognizes.deletePieces_eq_self_iff`: where nothing is deleted
- `Interleaved`: a text with pieces put in anywhere
- `Recognizes.interleaved_deletePieces`: the pieces are put back in
- `keptPlaces`, `standsAt_keptPlaces`: where what is kept has stood
- `Recognizes.parted`: a piece that is left over was put together by the deleting
-/

namespace Overseer.Text

/-! ## Section 1: Pieces of a kind

A width says how long a piece is that begins a text, and is zero where none begins; it is a search
for one piece with its answer in one number.  Deleting passes over the text once and asks the width
at each character that it does not skip. -/

/-- `width` finds the pieces of a kind: one where a piece begins, and none elsewhere. -/
structure Recognizes (width : List Char → Nat) (Piece : List Char → Prop) : Prop where
  finds : ∀ {piece}, Piece piece → ∀ rest, width (piece ++ rest) ≠ 0
  sound : ∀ {s}, width s ≠ 0 →
    ∃ piece rest, s = piece ++ rest ∧ Piece piece ∧ width (piece ++ rest) = piece.length

variable {width : List Char → Nat} {Piece : List Char → Prop}

theorem deletePieces_cons {c : Char} {s : List Char} (h : width (c :: s) = 0) :
    deletePieces width (c :: s) = c :: deletePieces width s := by
  simp only [deletePieces, deletePiecesFrom, h]
  rw [deletePiecesFrom_eq_append]
  rfl

/-- The rest of a piece is passed over. -/
theorem deletePiecesFrom_eq_drop (skip : Nat) (s : List Char) :
    deletePiecesFrom width skip [] s = deletePieces width (s.drop skip) := by
  induction s generalizing skip with
  | nil => cases skip <;> rfl
  | cons c s ih =>
    cases skip with
    | zero => rfl
    | succ skip => exact ih skip

theorem deletePieces_append {piece rest : List Char} (hne : piece ≠ [])
    (h : width (piece ++ rest) = piece.length) :
    deletePieces width (piece ++ rest) = deletePieces width rest := by
  obtain ⟨c, tail, rfl⟩ := List.exists_cons_of_ne_nil hne
  simp only [List.cons_append, List.length_cons] at h ⊢
  simp only [deletePieces, deletePiecesFrom, h]
  rw [deletePiecesFrom_eq_drop, List.drop_left]
  rfl

namespace Recognizes

variable (h : Recognizes width Piece)

include h

theorem ne_nil {piece : List Char} (hpiece : Piece piece) : piece ≠ [] := by
  rintro rfl
  obtain ⟨found, rest, hnil, -, hwidth⟩ := h.sound (h.finds hpiece [])
  obtain ⟨rfl, rfl⟩ := List.append_eq_nil_iff.mp hnil.symm
  exact h.finds hpiece [] hwidth

/-- **A text is taken apart** into characters that are kept and pieces that are deleted.  This is
the induction that follows the deletion, with a case for each way that it goes on. -/
theorem induction {motive : List Char → Prop} (nil : motive [])
    (keep : ∀ c s, width (c :: s) = 0 → motive s → motive (c :: s))
    (delete : ∀ piece rest, Piece piece → width (piece ++ rest) = piece.length → motive rest →
      motive (piece ++ rest)) (s : List Char) : motive s := by
  -- a piece has more than one character in general, so the induction is on the length
  induction hn : s.length using Nat.strongRecOn generalizing s with
  | ind n ih =>
    cases s with
    | nil => exact nil
    | cons c s =>
      by_cases hwidth : width (c :: s) = 0
      · exact keep c s hwidth (ih s.length (by rw [← hn]; exact Nat.lt_succ_self _) s rfl)
      · obtain ⟨piece, rest, hs, hpiece, hlength⟩ := h.sound hwidth
        have hne := List.length_pos_iff.mpr (h.ne_nil hpiece)
        rw [hs] at hn ⊢
        refine delete piece rest hpiece hlength (ih rest.length ?_ rest rfl)
        rw [← hn, List.length_append]
        omega

/-- What is kept are characters of the text. -/
theorem deletePieces_sublist (s : List Char) : (deletePieces width s).Sublist s := by
  -- along the deletion: a character is kept, or a piece is passed over
  induction s using h.induction with
  | nil => exact List.Sublist.refl _
  | keep c s hwidth ih =>
    rw [deletePieces_cons hwidth]
    exact ih.cons_cons c
  | delete piece rest hpiece hwidth ih =>
    rw [deletePieces_append (h.ne_nil hpiece) hwidth]
    exact ih.trans (List.sublist_append_right ..)

/-- A text that holds a piece becomes shorter. -/
theorem length_deletePieces_lt {s part : List Char} (hpart : part <:+: s) (hpiece : Piece part) :
    (deletePieces width s).length < s.length := by
  induction s using h.induction with
  | nil => exact absurd (List.infix_nil.mp hpart) (h.ne_nil hpiece)
  | keep c s hwidth ih =>
    rw [deletePieces_cons hwidth, List.length_cons, List.length_cons, Nat.succ_lt_succ_iff]
    rcases List.infix_cons_iff.mp hpart with hbegins | hpart
    · -- a piece that begins with a character would be found there
      obtain ⟨rest, hrest⟩ := hbegins
      exact absurd (hrest ▸ hwidth) (h.finds hpiece rest)
    · exact ih hpart
  -- a piece that is deleted is not empty, and what is behind it does not grow
  | delete piece rest hdeleted hwidth ih =>
    have hne := List.length_pos_iff.mpr (h.ne_nil hdeleted)
    have hle := (h.deletePieces_sublist rest).length_le
    rw [deletePieces_append (h.ne_nil hdeleted) hwidth, List.length_append]
    omega

/-- **Nothing is deleted** exactly where no part of the text is a piece. -/
theorem deletePieces_eq_self_iff (s : List Char) :
    deletePieces width s = s ↔ ∀ part, part <:+: s → ¬Piece part := by
  constructor
  · intro heq part hpart hpiece
    exact Nat.ne_of_lt (h.length_deletePieces_lt hpart hpiece) (congrArg List.length heq)
  · intro hnone
    -- if no part is a piece, nothing is ever deleted on the way
    induction s using h.induction with
    | nil => rfl
    | keep c s hwidth ih =>
      rw [deletePieces_cons hwidth,
        ih fun part hpart => hnone part (hpart.trans (List.suffix_cons ..).isInfix)]
    | delete piece rest hpiece hwidth ih =>
      exact absurd hpiece (hnone piece (List.prefix_append ..).isInfix)

end Recognizes

/-! ## Section 2: Pieces that are put in

The other way round: from a text and pieces to a text with the pieces in it.  Pieces may stand side
by side, and at both ends. -/

/-- The second text is the first one with pieces put in, in front of it, behind it and between its
characters. -/
inductive Interleaved (Piece : List Char → Prop) : List Char → List Char → Prop where
  | nil : Interleaved Piece [] []
  | keep (c : Char) {t s : List Char} : Interleaved Piece t s → Interleaved Piece (c :: t) (c :: s)
  | insert {piece t s : List Char} :
      Piece piece → Interleaved Piece t s → Interleaved Piece t (piece ++ s)

namespace Interleaved

theorem refl (t : List Char) : Interleaved Piece t t := by
  induction t with
  | nil => exact .nil
  | cons c t ih => exact .keep c ih

/-- A text in which none of the characters that were put in is found was there before. -/
theorem prefix_of_none {p : Char → Prop} {t s part : List Char}
    (h : Interleaved (fun piece => ∃ c, p c ∧ piece = [c]) t s) (hpart : part <+: s)
    (hnone : ∀ c ∈ part, ¬p c) : part <+: t := by
  -- what was put in is one of the characters that are asked for, so the part cannot pass it
  induction h generalizing part with
  | nil => exact hpart
  | @keep c t s _ ih =>
    rcases List.prefix_cons_iff.mp hpart with rfl | ⟨rest, rfl, hrest⟩
    · exact List.nil_prefix
    · exact (List.prefix_cons_inj c).mpr (ih hrest fun d hd => hnone d (List.mem_cons_of_mem c hd))
  | @insert piece t s hpiece _ ih =>
    obtain ⟨c, hc, rfl⟩ := hpiece
    rcases List.prefix_cons_iff.mp hpart with rfl | ⟨rest, rfl, -⟩
    · exact List.nil_prefix
    · exact absurd hc (hnone c List.mem_cons_self)

end Interleaved

/-- A text is what is kept of it, with the pieces that were deleted put in. -/
theorem Recognizes.interleaved_deletePieces (h : Recognizes width Piece) (s : List Char) :
    Interleaved Piece (deletePieces width s) s := by
  -- the pieces that deletion passes over are those that are put back
  induction s using h.induction with
  | nil => exact .nil
  | keep c s hwidth ih =>
    rw [deletePieces_cons hwidth]
    exact .keep c ih
  | delete piece rest hpiece hwidth ih =>
    rw [deletePieces_append (h.ne_nil hpiece) hwidth]
    exact .insert hpiece ih

/-! ## Section 3: Where what is kept has stood

A piece may be there when deleting is over: the two sides of a deleted one have come together.  To
say so, the characters that were kept need the places at which they stood. -/

/-- The places of the characters that are kept, as `deletePiecesFrom` reads the text; `place` counts
the characters in front of it. -/
def keptPlacesFrom (width : List Char → Nat) : Nat → Nat → List Char → List Nat
  | _, _, [] => []
  | skip + 1, place, _ :: s => keptPlacesFrom width skip (place + 1) s
  | 0, place, c :: s =>
    match width (c :: s) with
    | 0 => place :: keptPlacesFrom width 0 (place + 1) s
    | n + 1 => keptPlacesFrom width n (place + 1) s

/-- The places of the characters that deleting keeps. -/
def keptPlaces (width : List Char → Nat) (s : List Char) : List Nat := keptPlacesFrom width 0 0 s

/-- The characters `t` stand in `s` at the places, one behind the other. -/
structure StandsAt (s : List Char) (places : List Nat) (t : List Char) : Prop where
  increasing : places.Pairwise (· < ·)
  chars_eq : places.map (s[·]?) = t.map some

theorem keptPlacesFrom_spec (whole : List Char) (skip place : Nat) {s : List Char}
    (hs : whole.drop place = s) :
    (∀ i ∈ keptPlacesFrom width skip place s, place ≤ i ∧ width (whole.drop i) = 0) ∧
      StandsAt whole (keptPlacesFrom width skip place s) (deletePiecesFrom width skip [] s) := by
  induction s generalizing skip place with
  | nil => cases skip <;> exact ⟨nofun, List.Pairwise.nil, rfl⟩
  | cons c s ih =>
    have hnext : whole.drop (place + 1) = s := by
      rw [← List.tail_drop, hs]
      rfl
    -- whatever becomes of this character, the places behind it are behind its own
    have hbehind : ∀ skip, (∀ i ∈ keptPlacesFrom width skip (place + 1) s,
        place ≤ i ∧ width (whole.drop i) = 0) := fun skip i hi =>
      ⟨Nat.le_of_succ_le ((ih skip _ hnext).1 i hi).1, ((ih skip _ hnext).1 i hi).2⟩
    cases skip with
    | succ skip => exact ⟨hbehind skip, (ih skip _ hnext).2⟩
    | zero =>
      cases hwidth : width (c :: s) with
      | succ n =>
        simp only [keptPlacesFrom, deletePiecesFrom, hwidth]
        exact ⟨hbehind n, (ih n _ hnext).2⟩
      | zero =>
        have hget : whole[place]? = some c := by
          rw [← List.head?_drop, hs]
          rfl
        obtain ⟨hplaces, hincreasing, hchars⟩ := ih 0 _ hnext
        simp only [keptPlacesFrom, deletePiecesFrom, hwidth]
        rw [deletePiecesFrom_eq_append]
        refine ⟨?_, List.pairwise_cons.mpr ⟨fun i hi => (hplaces i hi).1, hincreasing⟩, ?_⟩
        · exact List.forall_mem_cons.mpr ⟨⟨Nat.le_refl _, hs ▸ hwidth⟩, hbehind 0⟩
        · rw [List.map_cons, hget, hchars]
          rfl

/-- No piece begins where a character is kept. -/
theorem width_of_mem_keptPlaces {s : List Char} {i : Nat} (h : i ∈ keptPlaces width s) :
    width (s.drop i) = 0 :=
  ((keptPlacesFrom_spec s 0 0 rfl).1 i h).2

/-- **What is kept has stood at the kept places.** -/
theorem standsAt_keptPlaces (s : List Char) :
    StandsAt s (keptPlaces width s) (deletePieces width s) :=
  (keptPlacesFrom_spec s 0 0 rfl).2

namespace StandsAt

variable {s t u : List Char} {places others : List Nat}

theorem length_eq (h : StandsAt s places t) : places.length = t.length := by
  have hlength := congrArg List.length h.chars_eq
  rwa [List.length_map, List.length_map] at hlength

/-- The places of a part. -/
theorem part {front part rest : List Char} (h : StandsAt s places (front ++ part ++ rest)) :
    StandsAt s ((places.drop front.length).take part.length) part where
  increasing := h.increasing.sublist ((List.take_sublist ..).trans (List.drop_sublist ..))
  chars_eq := by
    rw [List.map_take, List.map_drop, h.chars_eq, ← List.map_drop, List.append_assoc,
      List.drop_left, List.map_append, List.take_left']
    exact List.length_map _

/-- A character that stands at a place stands there. -/
theorem lt_length (h : StandsAt s places t) {i : Nat} (hi : i ∈ places) : i < s.length := by
  have hmem : s[i]? ∈ t.map some := h.chars_eq ▸ List.mem_map_of_mem hi
  obtain ⟨c, -, hc⟩ := List.mem_map.mp hmem
  exact (List.getElem?_eq_some_iff.mp hc.symm).1

/-- Characters that stand side by side are a part of the text. -/
theorem prefix_drop {i n : Nat} (h : StandsAt s (List.range' i n) t) : t <+: s.drop i := by
  -- the places go up one by one, so each character stands right behind the one before it
  induction n generalizing i t with
  | zero =>
    obtain rfl : t = [] := List.map_eq_nil_iff.mp h.chars_eq.symm
    exact List.nil_prefix
  | succ n ih =>
    obtain ⟨hincreasing, hchars⟩ := h
    rw [List.range'_succ] at hincreasing hchars
    obtain ⟨c, t, rfl, hc, ht⟩ := List.map_eq_cons_iff.mp hchars.symm
    obtain ⟨hi, hget⟩ := List.getElem?_eq_some_iff.mp hc.symm
    rw [List.drop_eq_getElem_cons hi, hget]
    exact (List.prefix_cons_inj c).mpr (ih ⟨(List.pairwise_cons.mp hincreasing).2, ht.symm⟩)

/-- One place after the other. -/
theorem getElem?_getD (h : StandsAt s places t) {i : Nat} (hi : i < t.length) :
    s[places.getD i 0]? = t[i]? := by
  have hget := congrArg (·[i]?) h.chars_eq
  have hplace : places[i]? = some (places.getD i 0) := by
    rw [List.getD_eq_getElem _ _ (h.length_eq ▸ hi), List.getElem?_eq_getElem (h.length_eq ▸ hi)]
  simp only [List.getElem?_map, hplace, List.getElem?_eq_getElem hi, Option.map_some,
    Option.some.injEq] at hget
  rw [hget, List.getElem?_eq_getElem hi]

/-- Two places are as far from each other at least as their characters. -/
theorem getD_add_le (h : StandsAt s places t) {i j : Nat} (hij : i ≤ j) (hj : j < t.length) :
    places.getD i 0 + (j - i) ≤ places.getD j 0 := by
  induction j, hij using Nat.le_induction with
  | base => exact Nat.le_of_eq (by rw [Nat.sub_self, Nat.add_zero])
  | succ j hij ih =>
    -- from one place to the next there is one step at least
    have hlength := h.length_eq
    have hbefore := ih (Nat.lt_of_succ_lt hj)
    have hnext := List.pairwise_iff_getElem.mp h.increasing j (j + 1) (by omega) (by omega)
      (Nat.lt_succ_self j)
    rw [← List.getD_eq_getElem places 0, ← List.getD_eq_getElem places 0] at hnext
    omega

/-- What stands in a text that stands in a text. -/
theorem comp (h : StandsAt s places t) (h' : StandsAt t others u) :
    StandsAt s (others.map (places.getD · 0)) u where
  increasing := by
    -- the places of the inner text go up with their order in the outer one
    refine List.pairwise_map.mpr (h'.increasing.imp_of_mem fun {i j} _ hj hij => ?_)
    have := h.getD_add_le (Nat.le_of_lt hij) (h'.lt_length hj)
    omega
  chars_eq := by
    rw [List.map_map, ← h'.chars_eq]
    exact List.map_congr_left fun i hi => h.getElem?_getD (h'.lt_length hi)

end StandsAt

/-- The characters of the part behind `front` do not stand side by side: there were others between
them. -/
def Parted (places : List Nat) (front part : List Char) : Prop :=
  ∀ i, (places.drop front.length).take part.length ≠ List.range' i part.length

/-- **A piece that is left over is parted**: what stands side by side in the text, from a place on
where no piece begins, is no piece. -/
theorem Recognizes.parted (h : Recognizes width Piece) {s : List Char} {places : List Nat}
    {front part rest : List Char} (hstands : StandsAt s places (front ++ part ++ rest))
    (hkept : ∀ i ∈ places, width (s.drop i) = 0) (hpiece : Piece part) :
    Parted places front part := by
  intro i hi
  have hpart := hstands.part
  rw [hi] at hpart
  obtain ⟨behind, hbehind⟩ := hpart.prefix_drop
  -- the part begins at a place that was kept, and a piece that begins there is found
  have hmem : i ∈ places := by
    have hpos := List.length_pos_iff.mpr (h.ne_nil hpiece)
    have hfirst : i ∈ List.range' i part.length :=
      List.mem_range'_1.mpr ⟨Nat.le_refl i, Nat.lt_add_of_pos_right hpos⟩
    exact List.mem_of_mem_drop (List.mem_of_mem_take (hi ▸ hfirst))
  exact h.finds hpiece behind (hbehind ▸ hkept i hmem)

end Overseer.Text
