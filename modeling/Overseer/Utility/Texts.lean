import Overseer.Utility.Basic

/-!
# Utilities on Texts

Utilities that turn the whole of their input into output: they count, cut, sort and translate.

The last line of a text may lack its newline, and each utility has its own way with such a line.
-/

namespace Overseer.Utility

/-- The lines of a text with their newlines; the last one may lack it. -/
def linesOf : List Char → List (List Char)
  | [] => []
  | c :: s =>
    if c = '\n' then ['\n'] :: linesOf s
    else
      match linesOf s with
      | line :: lines => (c :: line) :: lines
      | [] => [[c]]

/-- A line without its newline. -/
def bare (line : List Char) : List Char :=
  if line.getLast? == some '\n' then line.dropLast else line

/-- The options of a utility and its operands.  `withValue` lists the options that take a value, in
the same word or the next. -/
def splitOptions (withValue : List Char) : Nat → List String → List (Char × String) × List String
  | 0, words => ([], words)
  | _ + 1, [] => ([], [])
  | _ + 1, "--" :: words => ([], words)
  | fuel + 1, word :: words =>
    match word.toList with
    | '-' :: c :: s =>
      if withValue.contains c then
        let (value, words) := if s.isEmpty then (words.headD "", words.drop 1)
          else (String.ofList s, words)
        let (options, operands) := splitOptions withValue fuel words
        ((c, value) :: options, operands)
      else
        let words := if s.isEmpty then words else String.ofList ('-' :: s) :: words
        let (options, operands) := splitOptions withValue fuel words
        ((c, "") :: options, operands)
    | _ =>
      let (options, operands) := splitOptions withValue fuel words
      (options, word :: operands)

/-- The value of an option. -/
def option? (options : List (Char × String)) (c : Char) : Option String :=
  (options.reverse.find? (·.1 == c)).map (·.2)

/-- Whether an option is given. -/
def hasOption (options : List (Char × String)) (c : Char) : Bool := options.any (·.1 == c)

/-- A number of lines or bytes, with the suffix for a multiple. -/
def amount (word : String) : Nat :=
  let digits := word.toList.takeWhile Char.isDigit
  let factor := match word.toList.drop digits.length with
    | ['k'] | ['K'] => 1024
    | ['M'] => 1024 * 1024
    | ['b'] => 512
    | _ => 1
  Text.numberIn 10 digits * factor

/-- How much of its input `head` wants: lines or bytes. -/
structure HeadSize where
  bytes : Bool
  count : Nat

/-- The size and the operands that the arguments of `head` or `tail` give. -/
def headSize (arguments : List String) : HeadSize × Bool × List String :=
  let arguments := match arguments with
    | first :: rest =>
      match first.toList with
      | '-' :: c :: _ =>
        if c.isDigit then "-n" :: String.ofList (first.toList.drop 1) :: rest else first :: rest
      | _ => first :: rest
    | [] => []
  let (options, operands) := splitOptions ['n', 'c'] (2 * arguments.length + 64) arguments
  let word := (option? options 'c').getD ((option? options 'n').getD "10")
  let fromStart := word.toList.head? == some '+'
  let plain := String.ofList (word.toList.dropWhile fun c => c == '+' || c == '-')
  (⟨hasOption options 'c', amount plain⟩, fromStart, operands)

/-- The start of a text. -/
def head (size : HeadSize) (text : List Char) : List Char :=
  if size.bytes then text.take size.count else ((linesOf text).take size.count).flatten

/-- Whether a text holds all that `head` wants. -/
def headSatisfied (size : HeadSize) (text : List Char) : Bool :=
  if size.bytes then size.count ≤ text.length else size.count ≤ text.count '\n'

/-- The end of a text, or all from a line or byte on. -/
def tail (size : HeadSize) (fromStart : Bool) (text : List Char) : List Char :=
  if size.bytes then
    text.drop (if fromStart then size.count - 1 else text.length - size.count)
  else
    let lines := linesOf text
    (lines.drop (if fromStart then size.count - 1 else lines.length - size.count)).flatten

/-- A number in a field of some width. -/
def inField (width n : Nat) : List Char :=
  let digits := (toString n).toList
  List.replicate (width - digits.length) ' ' ++ digits

/-- How many words a text has. -/
def wordCount (text : List Char) : Nat :=
  let isSpace := fun c : Char => c == ' ' || ('\t' ≤ c && c ≤ '\r')
  (text.foldl (fun (n, inside) c =>
    if isSpace c then (n, false) else (if inside then n else n + 1, true)) (0, false)).1

/-- The counts that the options of `wc` ask for. -/
def counts (options : List (Char × String)) (text : List Char) : List Nat :=
  let all := options.isEmpty
  (if all || hasOption options 'l' then [text.count '\n'] else []) ++
    (if all || hasOption options 'w' then [wordCount text] else []) ++
    (if all || hasOption options 'c' || hasOption options 'm' then [text.length] else [])

/-- The characters that a set of `tr` names. -/
def charSet : Nat → List Char → List Char
  | 0, _ => []
  | _ + 1, [] => []
  | fuel + 1, '\\' :: s =>
    match escape? .dash s with
    | some (text, rest) => text ++ charSet fuel rest
    | none => charSet fuel s
  | fuel + 1, '[' :: ':' :: s =>
    let name := s.takeWhile (· != ':')
    let range := fun a b => (List.range (b - a + 1)).map fun i => Char.ofNat (a + i)
    let members := match String.ofList name with
      | "lower" => range 97 122
      | "upper" => range 65 90
      | "digit" => range 48 57
      | "alpha" => range 65 90 ++ range 97 122
      | "alnum" => range 48 57 ++ range 65 90 ++ range 97 122
      | "space" => range 9 13 ++ [' ']
      | _ => []
    members ++ charSet fuel (s.drop (name.length + 2))
  | fuel + 1, a :: '-' :: b :: s =>
    (List.range (b.toNat - a.toNat + 1)).map (fun i => Char.ofNat (a.toNat + i)) ++ charSet fuel s
  | fuel + 1, c :: s => c :: charSet fuel s

/-- A text with runs of the same character of a set cut to one. -/
def squeeze (set : List Char) : List Char → List Char
  | a :: b :: s =>
    if a = b && set.contains a then squeeze set (b :: s) else a :: squeeze set (b :: s)
  | s => s

/-- A text with its characters translated, deleted or squeezed. -/
def translate (arguments : List String) (text : List Char) : List Char :=
  let (options, sets) := splitOptions [] (2 * arguments.length + 64) arguments
  let set := fun i : Nat => let s := ((sets[i]?).getD "").toList; charSet (s.length + 1) s
  let first := set 0
  let isIn := fun c : Char => first.contains c != (hasOption options 'c' || hasOption options 'C')
  if hasOption options 'd' then
    let text := text.filter fun c => !isIn c
    if hasOption options 's' then squeeze (set 1) text else text
  else
    let second := set 1
    let last := second.getLast?
    let image := fun c : Char =>
      if !isIn c then c
      else if hasOption options 'c' then last.getD c
      else ((second[first.idxOf c]?).or last).getD c
    let text := if second.isEmpty then text else text.map image
    if hasOption options 's' then squeeze (if second.isEmpty then first else second) text else text

/-- The integer that a line begins with. -/
def leadingInteger (line : List Char) : Int :=
  match line.dropWhile (· == ' ') with
  | '-' :: s => -(Text.numberIn 10 (s.takeWhile Char.isDigit) : Int)
  | s => Text.numberIn 10 (s.takeWhile Char.isDigit)

/-- The lines of a text in order. -/
def sortLines (options : List (Char × String)) (text : List Char) : List Char :=
  let lines := (linesOf text).map bare
  let byText := fun a b : List Char => decide (String.ofList a ≤ String.ofList b)
  let before := fun a b : List Char =>
    if hasOption options 'n' then
      leadingInteger a < leadingInteger b || (leadingInteger a == leadingInteger b && byText a b)
    else byText a b
  let ordered := lines.mergeSort before
  let ordered := if hasOption options 'r' then ordered.reverse else ordered
  let ordered := if hasOption options 'u' then ordered.eraseReps else ordered
  ordered.flatMap (· ++ ['\n'])

/-- The lines of a text with runs of the same line cut to one, and how long each run is. -/
def runs : List (List Char) → List (Nat × List Char)
  | [] => []
  | line :: lines =>
    match runs lines with
    | (n, other) :: rest => if other = line then (n + 1, other) :: rest
      else (1, line) :: (n, other) :: rest
    | [] => [(1, line)]

/-- The output of `uniq`. -/
def uniqueLines (options : List (Char × String)) (text : List Char) : List Char :=
  let all := runs ((linesOf text).map bare)
  let kept := all.filter fun (n, _) =>
    (!hasOption options 'd' || 1 < n) && (!hasOption options 'u' || n = 1)
  kept.flatMap fun (n, line) =>
    (if hasOption options 'c' then inField 7 n ++ [' '] else []) ++ line ++ ['\n']

/-- Whether a text stands somewhere in another. -/
def isInside (needle : List Char) : List Char → Bool
  | [] => needle.isEmpty
  | c :: s => needle.isPrefixOf (c :: s) || isInside needle s

/-- Whether a line holds a text; marks for the start and the end of the line may stand around it. -/
def lineHolds (options : List (Char × String)) (pattern line : List Char) : Bool :=
  let fold := fun s : List Char => if hasOption options 'i' then s.map Char.toLower else s
  let pattern := fold pattern
  let line := fold line
  let fixed := hasOption options 'F'
  let atStart := !fixed && pattern.head? == some '^'
  let pattern := if atStart then pattern.drop 1 else pattern
  let atEnd := !fixed && pattern.getLast? == some '$'
  let pattern := if atEnd then pattern.dropLast else pattern
  if atStart && atEnd || hasOption options 'x' then line == pattern
  else if atStart then pattern.isPrefixOf line
  else if atEnd then pattern.isSuffixOf line
  else isInside pattern line

/-- What `grep` does with its input. -/
def searchLines (options : List (Char × String)) (pattern : List Char) (text : List Char) :
    Result :=
  let lines := (linesOf text).map bare
  let numbered := lines.zipIdx.filter fun (line, _) =>
    lineHolds options pattern line != hasOption options 'v'
  let status := if numbered.isEmpty then 1 else 0
  if hasOption options 'q' then .silent status
  else if hasOption options 'c' then .say ((toString numbered.length).toList ++ ['\n']) status
  else
    .say (numbered.flatMap fun (line, i) =>
      (if hasOption options 'n' then (toString (i + 1)).toList ++ [':'] else []) ++ line ++ ['\n'])
      status

/-- The fields or characters that a list such as `1,3-4` names. -/
def isListed (ranges : String) (i : Nat) : Bool :=
  (ranges.splitOn ",").any fun range =>
    match range.splitOn "-" with
    | [a] => Text.decimal? a.toList == some i
    | [a, b] =>
      (Text.decimal? a.toList).getD 1 ≤ i && (b.isEmpty || i ≤ (Text.decimal? b.toList).getD 0)
    | _ => false

/-- The parts of a line between delimiters. -/
def splitAtChar (d : Char) : List Char → List (List Char)
  | [] => [[]]
  | c :: s =>
    if c = d then [] :: splitAtChar d s
    else
      match splitAtChar d s with
      | part :: parts => (c :: part) :: parts
      | [] => [[c]]

/-- A line with only the fields or characters that the options of `cut` name. -/
def cutLine (options : List (Char × String)) (line : List Char) : List Char :=
  match option? options 'f' with
  | some ranges =>
    let d := ((option? options 'd').bind fun s => s.toList.head?).getD '\t'
    if !line.contains d then line
    else
      let parts := (splitAtChar d line).zipIdx.filter fun (_, i) => isListed ranges (i + 1)
      [d].intercalate (parts.map (·.1))
  | none =>
    let ranges := (option? options 'c').getD ((option? options 'b').getD "")
    (line.zipIdx.filter fun (_, i) => isListed ranges (i + 1)).map (·.1)

/-- The numbers that `seq` writes. -/
def sequenceNumbers (arguments : List String) : List Char :=
  let (separator, numbers) := match arguments with
    | "-s" :: s :: rest => (s.toList, rest)
    | rest => (['\n'], rest)
  let ints := numbers.map fun a => (a.toInt?).getD 0
  let (first, step, last) := match ints with
    | [last] => ((1 : Int), (1 : Int), last)
    | [first, last] => (first, 1, last)
    | [first, step, last] => (first, step, last)
    | _ => (1, 1, 0)
  let count :=
    if step > 0 then (last - first) / step + 1
    else if step < 0 then (first - last) / (-step) + 1
    else 0
  let items := (List.range count.toNat).map fun (i : Nat) =>
    (toString (first + step * (i : Int))).toList
  if items.isEmpty then [] else separator.intercalate items ++ ['\n']

/-- The last part of a path, without a suffix. -/
def baseName (path : List Char) (suffix : List Char) : List Char :=
  let s := path.reverse.dropWhile (· == '/')
  if s.isEmpty then (if path.isEmpty then [] else ['/'])
  else
    let name := (s.takeWhile (· != '/')).reverse
    if suffix.isSuffixOf name && name != suffix then name.take (name.length - suffix.length)
    else name

/-- A path without its last part. -/
def directoryName (path : List Char) : List Char :=
  let s := path.reverse.dropWhile (· == '/')
  if s.isEmpty then (if path.isEmpty then ['.'] else ['/'])
  else
    let up := s.dropWhile (· != '/')
    if up.isEmpty then ['.']
    else
      let up := up.dropWhile (· == '/')
      if up.isEmpty then ['/'] else up.reverse

end Overseer.Utility
