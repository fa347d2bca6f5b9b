import Overseer.Shell.Raw
import Overseer.Text.Digits

/-!
# Utilities

The programs that scripts call, each by itself.  A utility gets its arguments and its input as raw
texts and yields what it writes, to its output and to its error output, and its status.

The utilities stand for the programs that scripts call in whole runs of a host.  A script reaches
nothing of an overseer but through what it and they write, read and leave as status.
-/

namespace Overseer.Utility

/-- Where a part of what a utility writes goes. -/
inductive Stream where
  | output
  | errors
deriving DecidableEq

/-- The number under which a stream is open. -/
def Stream.fd : Stream → Nat
  | .output => 1
  | .errors => 2

/-- What a utility does: what it writes, in order, and its status. -/
structure Result where
  written : List (Stream × List Char)
  status : Nat

namespace Result

/-- Writes some text and has a status. -/
def say (text : List Char) (status : Nat) : Result := ⟨[(.output, text)], status⟩

/-- Writes nothing and has a status. -/
def silent (status : Nat) : Result := ⟨[], status⟩

/-- Complains in a line and has a status. -/
def complain (message : String) (status : Nat) : Result :=
  ⟨[(.errors, message.toList ++ ['\n'])], status⟩

end Result

/-- A flavour of the utilities that are built into a shell too. -/
inductive Flavour where
  | dash
  | bash
  /-- The program of its own. -/
  | plain
deriving DecidableEq

/-! ## Escapes -/

/-- The value of octal digits, at most `count`, and the text behind them. -/
def octal (count : Nat) (s : List Char) : Nat × List Char :=
  (Text.takeNumber? 8 count s).getD (0, s)

/-- A byte as a character of a raw text. -/
def byteChar (n : Nat) : Char := Char.ofNat (n % 256)

/-- The character of an escape behind its backslash, with the text behind it. -/
def escape? (flavour : Flavour) (s : List Char) : Option (List Char × List Char) :=
  match s with
  | 'a' :: s => some (['\x07'], s)
  | 'b' :: s => some (['\x08'], s)
  | 'f' :: s => some (['\x0c'], s)
  | 'n' :: s => some (['\n'], s)
  | 'r' :: s => some (['\r'], s)
  | 't' :: s => some (['\t'], s)
  | 'v' :: s => some (['\x0b'], s)
  | '\\' :: s => some (['\\'], s)
  | 'e' :: s => if flavour = .dash then none else some (['\x1b'], s)
  | 'x' :: s =>
    if flavour = .dash then none
    else (Text.takeNumber? 16 2 s).map fun (n, s) => ([byteChar n], s)
  | 'u' :: s =>
    if flavour = .dash then none
    else (Text.takeNumber? 16 4 s).map fun (n, s) =>
      ((Raw.ofText (String.singleton (Char.ofNat n))).toList, s)
  | c :: _ =>
    if '0' ≤ c && c ≤ '7' then
      let (n, s) := octal 3 s
      some ([byteChar n], s)
    else none
  | [] => none

/-- The text that a text with escapes stands for, and whether it ends the whole output. -/
def unescape (flavour : Flavour) : Nat → List Char → List Char × Bool
  | 0, s => (s, false)
  | _ + 1, [] => ([], false)
  | fuel + 1, '\\' :: 'c' :: s => let _ := (fuel, s); ([], true)
  | fuel + 1, '\\' :: '0' :: s =>
    let (n, s) := octal 3 s
    let (later, ends) := unescape flavour fuel s
    (byteChar n :: later, ends)
  | fuel + 1, '\\' :: s =>
    match escape? flavour s with
    | some (text, rest) =>
      let (later, ends) := unescape flavour fuel rest
      (text ++ later, ends)
    | none =>
      let (later, ends) := unescape flavour fuel s
      ('\\' :: later, ends)
  | fuel + 1, c :: s =>
    let (later, ends) := unescape flavour fuel s
    (c :: later, ends)

/-! ## Echo -/

/-- Whether a word is made of the options of `echo`. -/
def isEchoOption (word : List Char) : Bool :=
  match word with
  | '-' :: s => !s.isEmpty && s.all fun c => c == 'n' || c == 'e' || c == 'E'
  | _ => false

/-- The words with blanks between them. -/
def joined (words : List String) : List Char := [' '].intercalate (words.map String.toList)

/-- Writes the arguments with blanks between them and a newline behind. -/
def echo (flavour : Flavour) (arguments : List String) : Result :=
  let finish (escapes newline : Bool) (words : List String) : Result :=
    let text := joined words
    let (text, ends) := if escapes then unescape flavour (text.length + 1) text else (text, false)
    .say (if newline && !ends then text ++ ['\n'] else text) 0
  match flavour with
  | .dash =>
    match arguments with
    | "-n" :: words => finish true false words
    | words => finish true true words
  | _ =>
    let options := (arguments.takeWhile fun w => isEchoOption w.toList)
    let letters := options.flatMap String.toList
    let escapes := (letters.filter fun c => c == 'e' || c == 'E').getLast? == some 'e'
    finish escapes (!letters.contains 'n') (arguments.drop options.length)

end Overseer.Utility
