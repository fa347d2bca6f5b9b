import Overseer.Shell.Arithmetic
import Overseer.Utility.Basic

/-!
# Formatted Output

The utility `printf`: its format is used again until no argument is left.

An argument that is no number is complained about and counts as far as its digits go, and the output
goes on.
-/

namespace Overseer.Utility

/-- How a converted argument is laid out. -/
structure Layout where
  left : Bool
  zero : Bool
  plus : Bool
  space : Bool
  alternate : Bool
  width : Nat
  precision : Option Nat

/-- The state of `printf`: arguments left, what was written, complaints, and whether the output is
at its end. -/
structure PrintfState where
  arguments : List String
  written : List Char
  complaints : List String
  used : Bool
  ended : Bool
  /-- The format itself is wrong. -/
  misused : Bool

namespace PrintfState

/-- Takes the next argument. -/
def next (s : PrintfState) : Option String × PrintfState :=
  match s.arguments with
  | [] => (none, s)
  | a :: rest => (some a, { s with arguments := rest, used := true })

/-- Writes text. -/
def put (s : PrintfState) (text : List Char) : PrintfState :=
  { s with written := s.written ++ text }

end PrintfState

/-- A text widened to the width of its layout. -/
def Layout.pad (l : Layout) (text : List Char) : List Char :=
  let blanks := List.replicate (l.width - text.length) ' '
  if l.left then text ++ blanks else blanks ++ text

/-- The digits of a number in a base. -/
def digitsOf (base n : Nat) (upper : Bool) : List Char :=
  let ds := Nat.toDigits base n
  if upper then ds.map Char.toUpper else ds

/-- A number with its sign and zeros, as its layout says. -/
def Layout.number (l : Layout) (sign digits : List Char) : List Char :=
  let digits := match l.precision with
    | some p => List.replicate (p - digits.length) '0' ++ digits
    | none => digits
  if l.zero && !l.left && l.precision.isNone then
    sign ++ List.replicate (l.width - sign.length - digits.length) '0' ++ digits
  else l.pad (sign ++ digits)

/-- The integer that an argument writes, and whether all of it is a number. -/
def integerArgument (argument : String) : Int × Bool :=
  match argument.toList.dropWhile fun c => c == ' ' || c == '\t' || c == '\n' with
  | [] => (0, argument.isEmpty)
  | '\'' :: c :: _ | '"' :: c :: _ => (c.toNat, true)
  | s =>
    let (sign, s) := match s with
      | '-' :: s => ((-1 : Int), s)
      | '+' :: s => (1, s)
      | s => (1, s)
    let digits := match s with
      | '0' :: 'x' :: t => '0' :: 'x' :: t.takeWhile (Text.isDigitIn 16)
      | '0' :: t => '0' :: t.takeWhile (Text.isDigitIn 8)
      | s => s.takeWhile Char.isDigit
    match Shell.Expr.readNumber? digits with
    | some n => if digits.isEmpty then (0, false) else (sign * n, digits.length = s.length)
    | none => (0, false)

/-- The complaint about an argument that is no number. -/
def badNumber (flavour : Flavour) (argument : String) : String :=
  match flavour with
  | .dash => argument ++ ": expected numeric value"
  | .bash => argument ++ ": invalid number"
  | .plain => "\x27" ++ argument ++ "\x27: expected a numeric value"

/-- Converts one argument. -/
def convert (flavour : Flavour) (l : Layout) (conversion : Char) (s : PrintfState) : PrintfState :=
  let (argument, s) := s.next
  let text := (argument.getD "").toList
  let cut := fun (t : List Char) => match l.precision with
    | some p => t.take p
    | none => t
  match conversion with
  | 's' => s.put (l.pad (cut text))
  | 'c' => s.put (l.pad (text.take 1))
  | 'b' =>
    let (text, ends) := unescape flavour (text.length + 1) text
    { s.put (l.pad (cut text)) with ended := ends }
  | _ =>
    let (n, good) := integerArgument (argument.getD "")
    let s := if good || argument.isNone then s
      else { s with complaints := s.complaints ++ [badNumber flavour (argument.getD "")] }
    let natural := if n < 0 then (n + Int.pow 2 64).toNat else n.toNat
    match conversion with
    | 'd' | 'i' =>
      let sign := if n < 0 then ['-'] else if l.plus then ['+'] else if l.space then [' '] else []
      s.put (l.number sign (toString n.natAbs).toList)
    | 'u' => s.put (l.number [] (toString natural).toList)
    | 'o' =>
      s.put (l.number [] ((if l.alternate then ['0'] else []) ++ digitsOf 8 natural false))
    | 'x' =>
      s.put (l.number (if l.alternate && natural != 0 then ['0', 'x'] else [])
        (digitsOf 16 natural false))
    | _ =>
      s.put (l.number (if l.alternate && natural != 0 then ['0', 'X'] else [])
        (digitsOf 16 natural true))

/-- The flags at the start of a conversion. -/
def readFlags : List Char → Layout → Layout × List Char
  | c :: s, l =>
    match c with
    | '-' => readFlags s { l with left := true }
    | '0' => readFlags s { l with zero := true }
    | '+' => readFlags s { l with plus := true }
    | ' ' => readFlags s { l with space := true }
    | '#' => readFlags s { l with alternate := true }
    | _ => (l, c :: s)
  | [], l => (l, [])

/-- A width or a precision: digits, or a star that takes it from an argument. -/
def readSize (s : List Char) (state : PrintfState) : Int × List Char × PrintfState :=
  match s with
  | '*' :: s =>
    let (argument, state) := state.next
    ((integerArgument (argument.getD "")).1, s, state)
  | s =>
    let digits := s.takeWhile Char.isDigit
    (Text.numberIn 10 digits, s.drop digits.length, state)

/-- Goes through the format once. -/
def formatOnce (flavour : Flavour) : Nat → List Char → PrintfState → PrintfState
  | 0, _, state => state
  | _ + 1, [], state => state
  | fuel + 1, '\\' :: s, state =>
    match s with
    | 'c' :: _ =>
      if flavour = .dash then formatOnce flavour fuel s (state.put ['\\'])
      else { state with ended := true }
    | '"' :: s => formatOnce flavour fuel s (state.put ['"'])
    | _ =>
      match escape? flavour s with
      | some (text, rest) => formatOnce flavour fuel rest (state.put text)
      | none => formatOnce flavour fuel s (state.put ['\\'])
  | fuel + 1, '%' :: '%' :: s, state => formatOnce flavour fuel s (state.put ['%'])
  | fuel + 1, '%' :: s, state =>
    let (l, s) := readFlags s ⟨false, false, false, false, false, 0, none⟩
    let (width, s, state) := readSize s state
    let l := { l with width := width.natAbs, left := l.left || width < 0 }
    let (l, s, state) := match s with
      | '.' :: s =>
        let (precision, s, state) := readSize s state
        ({ l with precision := if precision < 0 then none else some precision.toNat }, s, state)
      | s => (l, s, state)
    match s with
    | c :: s =>
      if "diouxXcsb".toList.contains c then
        let state := convert flavour l c state
        if state.ended then state else formatOnce flavour fuel s state
      else
        { state with
          ended := true
          misused := true
          complaints := state.complaints ++ [match flavour with
            | .dash => "%" ++ String.singleton c ++ ": invalid directive"
            | .bash => "\x60" ++ String.singleton c ++ "': invalid format character"
            | .plain => "%" ++ String.singleton c ++ ": invalid conversion specification"] }
    | [] =>
      { state with
        ended := true
        complaints := state.complaints ++ ["missing format character"] }
  | fuel + 1, c :: s, state => formatOnce flavour fuel s (state.put [c])

/-- Goes through the format until no argument is left. -/
def formatAll (flavour : Flavour) (format : List Char) : Nat → PrintfState → PrintfState
  | 0, state => state
  | fuel + 1, state =>
    let state := formatOnce flavour (format.length + 1) format { state with used := false }
    if state.ended || !state.used || state.arguments.isEmpty then state
    else formatAll flavour format fuel state

/-- Writes arguments as a format says.  Complaints begin with `start`. -/
def printf (flavour : Flavour) (start : String) (arguments : List String) : Result :=
  let arguments := if arguments.head? == some "--" then arguments.drop 1 else arguments
  match arguments with
  | [] =>
    match flavour with
    | .dash => .complain (start ++ "usage: printf format [arg ...]") 2
    | .bash => .complain "printf: usage: printf [-v var] format [arguments]" 2
    | .plain =>
      .complain "printf: missing operand\nTry \x27printf --help\x27 for more information." 1
  | format :: arguments =>
    let state := formatAll flavour format.toList (arguments.length + 1)
      ⟨arguments, [], [], false, false, false⟩
    let complaints := state.complaints.map fun c => (Stream.errors, (start ++ c ++ "\n").toList)
    let status := if state.complaints.isEmpty then 0
      else if flavour = .dash && state.misused then 2 else 1
    ⟨complaints ++ [(.output, state.written)], status⟩

end Overseer.Utility
