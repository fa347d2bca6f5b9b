/-!
# Deleting Pieces of a Text

A text is read from its start; wherever a piece to delete begins, the whole piece is skipped and
reading goes on behind it.  Pieces are not looked for again in what is left.

What begins at a place, and how long it is, is said by a function of the rest of the text; deleting
is the same for every kind of piece.
-/

namespace Overseer.Text

/-- Deletes from the text every piece that `width` recognises.  `width s` counts the characters
of the piece that begins `s` and is zero where none begins; `skip` characters of a piece are
still to be passed over, and `kept` holds what is kept, last first. -/
def deletePiecesFrom (width : List Char → Nat) : Nat → List Char → List Char → List Char
  | _, kept, [] => kept.reverse
  | skip + 1, kept, _ :: s => deletePiecesFrom width skip kept s
  | 0, kept, c :: s =>
    match width (c :: s) with
    | 0 => deletePiecesFrom width 0 (c :: kept) s
    | n + 1 => deletePiecesFrom width n kept s

/-- The text without the pieces that `width` recognises. -/
def deletePieces (width : List Char → Nat) (s : List Char) : List Char :=
  deletePiecesFrom width 0 [] s

/-- What was kept before stands in front of what is kept later. -/
theorem deletePiecesFrom_eq_append (width : List Char → Nat) (skip : Nat)
    (kept s : List Char) :
    deletePiecesFrom width skip kept s = kept.reverse ++ deletePiecesFrom width skip [] s := by
  induction s generalizing skip kept with
  | nil => cases skip <;> simp [deletePiecesFrom]
  | cons c s ih =>
    cases skip with
    | succ skip => simp only [deletePiecesFrom]; exact ih skip kept
    | zero =>
      cases h : width (c :: s) with
      | zero =>
        simp only [deletePiecesFrom, h]
        rw [ih 0 (c :: kept), ih 0 [c]]
        simp
      | succ n => simp only [deletePiecesFrom, h]; exact ih n kept

end Overseer.Text
