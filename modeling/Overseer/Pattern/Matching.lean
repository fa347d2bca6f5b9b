import Overseer.Pattern.Basic

/-!
# Matching Patterns

A match is found by trying the ways through a pattern in order of preference.  `ends p k` lists
the places at which `p` can end when it begins at `k`, the most preferred first and each once; a
search takes the first of them at the first place that has one.

A repetition whose body reads nothing is left behind after that round, so that trying comes to an
end; the offsets that were tried are kept, so that no place is tried twice.
-/

namespace Overseer.Pattern

/-- A place in a text: the character before it, its distance from the start and what follows. -/
structure Place where
  before : Option Char
  offset : Nat
  rest : List Char

/-- The place after the next character. -/
def Place.next (k : Place) (c : Char) (rest : List Char) : Place := ⟨some c, k.offset + 1, rest⟩

/-- Whether a word begins or ends at a place. -/
def Place.isBoundary (k : Place) : Bool :=
  (k.before.any Text.isWordChar) != (k.rest.head?.any Text.isWordChar)

/-- A set of offsets, as the bits of a number. -/
abbrev Offsets := Nat

/-- The set with one more offset. -/
def Offsets.insert (seen : Offsets) (offset : Nat) : Offsets := seen ||| (1 <<< offset)

/-- The places whose offset is met for the first time, in order. -/
def distinctFrom (seen : Offsets) : List Place → List Place
  | [] => []
  | k :: ks =>
    if seen.testBit k.offset then distinctFrom seen ks
    else k :: distinctFrom (Offsets.insert seen k.offset) ks

/-- The places, each once. -/
def distinct (ks : List Place) : List Place :=
  match ks with
  | [] => []
  | [k] => [k]
  | ks => distinctFrom 0 ks

/-- The next place if its character passes a test. -/
def stepIf (test : Char → Bool) (k : Place) : List Place :=
  match k.rest with
  | c :: rest => if test c then [k.next c rest] else []
  | [] => []

/-- The place itself if a condition holds there. -/
def stayIf (condition : Bool) (k : Place) : List Place := if condition then [k] else []

/-- Further rounds of a body from a place where another round may begin or the repetition may
end.  A round that takes no character starts no further one.  The set holds the offsets where
this was decided before; `fuel` bounds the characters that are left. -/
def rounds (body : Place → List Place) (greedy : Bool) :
    Nat → Place → Offsets → List Place × Offsets
  | fuel, k, seen =>
    let seen := Offsets.insert seen k.offset
    let (more, seen) := match fuel with
      | 0 => ([], seen)
      | fuel + 1 =>
        (body k).foldl (fun (found, seen) q =>
          -- Whoever came here before was preferred, and has tried all that follows.
          if seen.testBit q.offset then (found, seen)
          else
            let (ends, seen) := rounds body greedy fuel q seen
            (found ++ ends, seen)) ([], seen)
    (if greedy then more ++ [k] else k :: more, seen)

/-- The ends of a first round and of those after it. -/
def firstRound (body : Place → List Place) (greedy : Bool) (k : Place) : List Place :=
  ((body k).foldl (fun (found, seen) q =>
    -- A round that takes nothing is the last one, or there would be no end.
    if q.offset = k.offset then (found ++ [q], seen)
    else if seen.testBit q.offset then (found, seen)
    else
      let (ends, seen) := rounds body greedy k.rest.length q seen
      (found ++ ends, seen)) ([], (0 : Offsets))).1

/-- Exactly `count` rounds from each of the places. -/
def exactly (body : Place → List Place) : Nat → List Place → List Place
  | 0, ks => ks
  | count + 1, ks =>
    if ks.isEmpty then [] else exactly body count (distinct (ks.flatMap body))

/-- At most `count` rounds. -/
def atMost (body : Place → List Place) (greedy : Bool) : Nat → Place → List Place
  | 0, k => [k]
  | count + 1, k =>
    let more := distinct ((body k).flatMap (atMost body greedy count))
    if greedy then distinct (more ++ [k]) else distinct (k :: more)

/-- The ends of a repetition. -/
def repetitionEnds (body : Place → List Place) (least : Nat) (most : Option Nat) (greedy : Bool)
    (k : Place) : List Place :=
  match most, least with
  | some most, least =>
    distinct ((exactly body least [k]).flatMap (atMost body greedy (most - least)))
  | none, 0 =>
    if greedy then distinct (firstRound body greedy k ++ [k])
    else distinct (k :: firstRound body greedy k)
  -- The last of the rounds that must be made is the first of those without a bound.
  | none, least + 1 => distinct ((exactly body least [k]).flatMap (firstRound body greedy))

/-- The places at which a pattern that begins at `k` can end, the most preferred first. -/
def ends : Pattern → Place → List Place
  | .empty, k => [k]
  | .literal c, k => stepIf (Text.sameLetter c) k
  | .anyChar, k => stepIf (· != '\n') k
  | .set members, k => stepIf members.contains k
  | .boundary negated, k => stayIf (negated != k.isBoundary) k
  | .textStart, k => stayIf k.before.isNone k
  | .textEnd, k => stayIf k.rest.isEmpty k
  | .seq first second, k => distinct ((first.ends k).flatMap fun q => second.ends q)
  | .alt left right, k => distinct (left.ends k ++ right.ends k)
  | .repeated body least most greedy, k =>
    repetitionEnds (fun q => body.ends q) least most greedy k

/-- A match: what stands before it and its text. -/
structure Match where
  start : Nat
  text : List Char

/-- Searches from a place on. -/
def findFrom (p : Pattern) (before : Option Char) (offset : Nat) : List Char → Option Match
  | [] =>
    match p.ends ⟨before, offset, []⟩ with
    | _ :: _ => some ⟨offset, []⟩
    | [] => none
  | c :: rest =>
    match p.ends ⟨before, offset, c :: rest⟩ with
    -- The leftmost place wins, and there the end that is preferred, which need not be the longest.
    | stop :: _ => some ⟨offset, (c :: rest).take (stop.offset - offset)⟩
    | [] => findFrom p (some c) (offset + 1) rest

/-- The first match of the pattern in a text. -/
def find? (p : Pattern) (s : List Char) : Option Match := findFrom p none 0 s

end Overseer.Pattern
