/-!
# The Tail of a Run

The newest lines of a run's output, up to a fixed number.

With a limit of zero nothing is kept, and the line that comes is the one that goes.
-/

namespace Overseer

/-- The newest lines of an output, oldest first, and how many are kept at most.  That there are
never more of them is part of the data. -/
structure Tail where
  limit : Nat
  lines : List String
  length_le : lines.length ≤ limit := by simp

namespace Tail

/-- How many lines a run keeps when nothing else is asked for. -/
def defaultLimit : Nat := 200

/-- The tail of an output that is still empty. -/
def empty (limit : Nat) : Tail := { limit, lines := [] }

/-- The tail after one more line: the oldest line goes when there is no room. -/
def push (tail : Tail) (line : String) : Tail :=
  if h : tail.lines.length < tail.limit then
    { tail with
      lines := tail.lines ++ [line]
      length_le := by
        simp only [List.length_append, List.length_singleton]
        omega }
  else if hl : tail.limit = 0 then tail
  else
    { tail with
      lines := tail.lines.drop 1 ++ [line]
      length_le := by
        have := tail.length_le
        simp only [List.length_append, List.length_drop, List.length_singleton]
        omega }

/-- How many lines the tail holds. -/
def size (tail : Tail) : Nat := tail.lines.length

end Tail

end Overseer
