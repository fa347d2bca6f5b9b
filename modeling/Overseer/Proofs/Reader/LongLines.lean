import Mathlib.Data.List.Forall2
import Overseer.Proofs.Reader.Joining
import Overseer.Proofs.Text.Seams

/-!
# Lines That Are Too Long

Bytes that are too long for one line are cut again and again, each time at the limit or at most
three bytes in front of it.  Whatever the bytes are, a cut splits no character and no broken one, so
the pieces are read on their own as the whole is; and each round takes bytes away, so there is an
end to it.

- `SeamAt`, `seamAt_charBoundary`: where a cut is made
- `CutRounds`, `cutRounds_cutLong`: cutting round by round
- `CutUp`, `cutUp_cutLong`: what the rounds leave
- `cutWell`: the pieces of a line and of a fragment
-/

namespace Overseer.Reader

open Text

/-! ## Section 1: One cut

A byte that goes on with a character is no place to cut; at most three of them stand side by side in
a text.  Where more do, no character is split in any case, and the cut is made at the limit. -/

/-- A place near the limit at which bytes may be cut.  It is said in three ways that nothing is
mangled: by the text, by the characters, and by what is replaced. -/
structure SeamAt (limit : Nat) (bytes : List UInt8) (cut : Nat) : Prop where
  le_cut : limit - 3 ≤ cut
  cut_le : cut ≤ limit
  /-- Both sides are read on their own. -/
  text_eq : decodeLossy bytes = decodeLossy (bytes.take cut) ++ decodeLossy (bytes.drop cut)
  /-- No character is split, and no beginning of one that does not go on. -/
  unsplit : ∀ front part rest c, bytes = front ++ part ++ rest → Part part c →
    cut ≤ front.length ∨ front.length + part.length ≤ cut
  /-- What is replaced on either side is what is replaced in the whole. -/
  parts_eq : ∀ parts, TakenApart bytes parts → ∃ before behind, parts = before ++ behind ∧
    TakenApart (bytes.take cut) before ∧ TakenApart (bytes.drop cut) behind

/-- **Where a cut is made** in bytes that are too long. -/
theorem seamAt_charBoundary {limit : Nat} (hlimit : 3 < limit) {bytes : List UInt8}
    (h : limit < bytes.length) : SeamAt limit bytes (charBoundary bytes limit) := by
  have hcut := decodeLossy_cut hlimit h
  have hseam : Seam (bytes.take (charBoundary bytes limit))
      (bytes.drop (charBoundary bytes limit)) := by
    rw [Seam, List.take_append_drop]
    exact hcut
  refine ⟨le_charBoundary _ _, charBoundary_le _ _, hcut, ?_, ?_⟩
  · intro front part rest c hbytes hpart
    exact hseam.le_or_le_of_part hbytes hpart
  · intro parts hparts
    exact hseam.takenApart (by rwa [List.take_append_drop])

/-- In front of a character of four bytes, and inside of bytes that all go on with no character. -/
example : charBoundary [0x61, 0xF0, 0x9F, 0x8E, 0x89] 4 = 1 ∧
    charBoundary [0x61, 0x9F, 0x8E, 0x89, 0x80] 4 = 4 := by
  decide

/-! ## Section 2: Cutting to the end

The rounds are a relation and not a function, so that a lemma about one of them is an induction with
a single case that matters.  That they come to an end, and to one only, is proved of the function.
-/

/-- Bytes are cut round by round into pieces and a rest. -/
inductive CutRounds : List UInt8 → List (List UInt8) → List UInt8 → Prop where
  | done {bytes : List UInt8} (hshort : bytes.length ≤ maxLineBytes) : CutRounds bytes [] bytes
  | round {bytes rest : List UInt8} {pieces : List (List UInt8)}
      (hlong : maxLineBytes < bytes.length)
      (hrounds : CutRounds (bytes.drop (charBoundary bytes maxLineBytes)) pieces rest) :
      CutRounds bytes (bytes.take (charBoundary bytes maxLineBytes) :: pieces) rest

/-- **The rounds come to an end.** What is left gets shorter with each, since a cut is made behind a
byte at least. -/
theorem cutRounds_cutLong (bytes : List UInt8) :
    CutRounds bytes (cutLong maxLineBytes maxLineBytes_pos bytes).1
      (cutLong maxLineBytes maxLineBytes_pos bytes).2 := by
  fun_induction cutLong maxLineBytes maxLineBytes_pos bytes with
  | case1 bytes short => exact .done short
  | case2 bytes long cut pieces rest hrest ih =>
    rw [hrest] at ih
    exact .round (Nat.lt_of_not_le long) ih

namespace CutRounds

variable {bytes rest : List UInt8} {pieces : List (List UInt8)}

/-- They can end in one way only. -/
theorem cutLong_eq (h : CutRounds bytes pieces rest) :
    cutLong maxLineBytes maxLineBytes_pos bytes = (pieces, rest) := by
  induction h with
  | done hshort => exact cutLong_of_le hshort
  | round hlong _ ih => rw [cutLong_of_lt hlong, ih]

/-- Each round takes at least so many bytes away. -/
theorem length_le (h : CutRounds bytes pieces rest) :
    pieces.length * (maxLineBytes - 3) + rest.length ≤ bytes.length := by
  induction h with
  | done => exact Nat.le_of_eq (by rw [List.length_nil, Nat.zero_mul, Nat.zero_add])
  | @round bytes rest pieces hlong _ ih =>
    have hle := le_charBoundary bytes maxLineBytes
    have hge := charBoundary_le bytes maxLineBytes
    rw [List.length_drop] at ih
    rw [List.length_cons, Nat.succ_mul]
    omega

/-- **The pieces and the rest** are read as the whole is.  One cut is one seam, and a seam stays one
when what is behind it is cut further. -/
theorem decodeLossy_eq (h : CutRounds bytes pieces rest) :
    decodeLossy bytes = pieces.flatMap decodeLossy ++ decodeLossy rest := by
  induction h with
  | done => rfl
  | round hlong _ ih =>
    rw [List.flatMap_cons, List.append_assoc, ← ih]
    exact (seamAt_charBoundary (by decide) hlong).text_eq

/-- Their parts are the parts of the whole. -/
theorem takenApart (h : CutRounds bytes pieces rest) {parts : List (List UInt8 × Char)}
    (hparts : TakenApart bytes parts) :
    ∃ groups last, parts = groups.flatten ++ last ∧ List.Forall₂ TakenApart pieces groups ∧
      TakenApart rest last := by
  induction h generalizing parts with
  | done => exact ⟨[], parts, rfl, .nil, hparts⟩
  | round hlong _ ih =>
    obtain ⟨before, behind, rfl, hbefore, hbehind⟩ :=
      (seamAt_charBoundary (by decide) hlong).parts_eq parts hparts
    obtain ⟨groups, last, rfl, hgroups, hlast⟩ := ih hbehind
    refine ⟨before :: groups, last, ?_, .cons hbefore hgroups, hlast⟩
    rw [List.flatten_cons, List.append_assoc]

end CutRounds

/-- What the rounds leave of some bytes: pieces and a rest, and nothing else, whatever way the
rounds go. -/
structure CutUp (bytes : List UInt8) (pieces : List (List UInt8)) (rest : List UInt8) : Prop where
  ends : CutRounds bytes pieces rest
  /-- They end in no other way. -/
  unique : ∀ others last, CutRounds bytes others last → others = pieces ∧ last = rest
  /-- There are no more of them than there is room for. -/
  rounds_le : pieces.length * (maxLineBytes - 3) ≤ bytes.length
  /-- What is cut is read as it would be in one piece. -/
  text_eq : decodeLossy bytes = pieces.flatMap decodeLossy ++ decodeLossy rest
  /-- What is replaced in the pieces is what is replaced in the whole. -/
  parts_eq : ∀ parts, TakenApart bytes parts → ∃ groups last, parts = groups.flatten ++ last ∧
    List.Forall₂ TakenApart pieces groups ∧ TakenApart rest last

theorem cutUp_cutLong (bytes : List UInt8) :
    CutUp bytes (cutLong maxLineBytes maxLineBytes_pos bytes).1
      (cutLong maxLineBytes maxLineBytes_pos bytes).2 := by
  have hrounds := cutRounds_cutLong bytes
  refine ⟨hrounds, ?_, Nat.le_trans (Nat.le_add_right _ _) hrounds.length_le,
    hrounds.decodeLossy_eq, fun parts hparts => hrounds.takenApart hparts⟩
  intro others last hothers
  rw [hothers.cutLong_eq]
  exact ⟨rfl, rfl⟩

/-! ## Section 3: Lines and fragments

A line and a fragment are cut by the same rounds.  They differ in the rest only: that of a line is
its last piece, that of a fragment stays pending. -/

/-- How bytes are cut when they are a line, and when they are pending. -/
structure CutWell (bytes : List UInt8) : Prop where
  /-- One cut in bytes that are too long. -/
  seam : maxLineBytes < bytes.length →
    SeamAt maxLineBytes bytes (charBoundary bytes maxLineBytes)
  /-- A complete line is handed out in the pieces that are cut off and the rest. -/
  line : ∃ pieces rest, CutUp bytes pieces rest ∧ piecesOf bytes = pieces ++ [rest]
  /-- Of a fragment the pieces are handed out, and the rest stays pending. -/
  fragment : ∃ pieces rest, CutUp (completeSegments bytes).2 pieces rest ∧
    OutputReader.splitPending bytes =
      (((completeSegments bytes).1.flatMap piecesOf ++ pieces).map pieceText, rest)

/-- **Any bytes are cut well**, be they a text or not.  What comes before a cut and what comes
behind it are decoded each by itself, and the two texts together are that of the whole. -/
theorem cutWell (bytes : List UInt8) : CutWell bytes where
  seam := seamAt_charBoundary (by decide)
  line := ⟨_, _, cutUp_cutLong bytes, rfl⟩
  fragment := ⟨_, _, cutUp_cutLong (completeSegments bytes).2, rfl⟩

end Overseer.Reader
