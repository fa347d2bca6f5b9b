import Overseer.FileTree.Basic
import Overseer.Shell.Arithmetic
import Overseer.Shell.Raw

/-!
# Conditions

The utility `test`, also called `[`: conditions on texts, integers and files.

An operator between two words is looked for first, so that a word that looks like an operator can be
compared like any other.
-/

namespace Overseer.Utility

/-- Why a condition makes no sense. -/
inductive TestError where
  | unexpected (word : String)
  | noInteger (word : String)
  | missing
  | noClosing
deriving DecidableEq

/-- What conditions on files look at. -/
structure TestScene where
  tree : FileTree
  directory : Place
  /-- What is open, by its number; a terminal is not among it. -/
  bash : Bool

namespace TestScene

/-- What a path leads to. -/
def node? (scene : TestScene) (path : String) : Option FileNode :=
  (scene.tree.find scene.directory (Raw.toText path)).toOption

/-- Whether a condition on one word holds, if there is such a condition. -/
def unary? (scene : TestScene) (op word : String) : Option Bool :=
  let node := scene.node? word
  match op with
  | "-n" => some (!word.isEmpty)
  | "-z" => some word.isEmpty
  | "-e" => some node.isSome
  | "-f" => some (node.any fun n => match n.entry with
      | .file _ | .program _ => true
      | _ => false)
  | "-d" => some (scene.tree.isDirectory scene.directory (Raw.toText word))
  | "-r" => some (node.any FileNode.isReadable)
  | "-w" => some (node.any FileNode.isWritable)
  | "-x" => some (node.any FileNode.isOwnerExecutable)
  | "-s" => some (node.any fun n => match n.entry with
      | .file content => !content.isEmpty
      | _ => true)
  | "-L" | "-h" =>
    some (match scene.tree.resolve scene.directory (Raw.toText word) false with
      | .ok place => (scene.tree.at? place).any fun n => match n.entry with
        | .link _ => true
        | _ => false
      | .error _ => false)
  | "-c" => some (node.any fun n => n.entry == .sink || n.entry == .zeros)
  | "-b" | "-p" | "-S" | "-t" | "-u" | "-g" | "-k" => some false
  | "-O" | "-G" => some node.isSome
  | _ => none

/-- The integer that a word writes. -/
def integer (word : String) : Except TestError Int :=
  let s := (word.toList.dropWhile (· == ' ')).reverse.dropWhile (· == ' ') |>.reverse
  let read (s : List Char) : Except TestError Int :=
    match Text.decimal? s with
    | some n => .ok n
    | none => .error (.noInteger word)
  match s with
  | '-' :: s => (read s).map (- ·)
  | '+' :: s => read s
  | s => read s

/-- Whether a condition on two words holds, if there is such a condition. -/
def binary? (scene : TestScene) (a op b : String) : Option (Except TestError Bool) :=
  let compare (f : Int → Int → Bool) : Option (Except TestError Bool) := some do
    let x ← integer a
    let y ← integer b
    return f x y
  let modified (path : String) : Option Int := (scene.node? path).map (·.modified)
  match op with
  | "=" => some (.ok (a == b))
  | "==" => if scene.bash then some (.ok (a == b)) else none
  | "!=" => some (.ok (a != b))
  | "<" => some (.ok (decide (a < b)))
  | ">" => some (.ok (decide (b < a)))
  | "-eq" => compare (· == ·)
  | "-ne" => compare (· != ·)
  | "-lt" => compare (· < ·)
  | "-le" => compare (· ≤ ·)
  | "-gt" => compare fun x y => y < x
  | "-ge" => compare fun x y => y ≤ x
  | "-nt" => some (.ok (match modified a, modified b with
      | some x, some y => y < x
      | some _, none => true
      | _, _ => false))
  | "-ot" => some (.ok (match modified a, modified b with
      | some x, some y => x < y
      | none, some _ => true
      | _, _ => false))
  | "-ef" => some (.ok (match scene.tree.resolve scene.directory (Raw.toText a) true,
        scene.tree.resolve scene.directory (Raw.toText b) true with
      | .ok x, .ok y => x == y
      | _, _ => false))
  | _ => none

mutual

/-- A condition of parts joined by `-o`. -/
def either (scene : TestScene) : Nat → List String → Except TestError (Bool × List String)
  | 0, _ => .error .missing
  | fuel + 1, words => do
    let (left, rest) ← scene.both fuel words
    match rest with
    | "-o" :: rest => do
      let (right, rest) ← scene.either fuel rest
      return (left || right, rest)
    | _ => return (left, rest)

/-- A condition of parts joined by `-a`. -/
def both (scene : TestScene) : Nat → List String → Except TestError (Bool × List String)
  | 0, _ => .error .missing
  | fuel + 1, words => do
    let (left, rest) ← scene.primary fuel words
    match rest with
    | "-a" :: rest => do
      let (right, rest) ← scene.both fuel rest
      return (left && right, rest)
    | _ => return (left, rest)

/-- A condition that is not joined. -/
def primary (scene : TestScene) : Nat → List String → Except TestError (Bool × List String)
  | 0, _ => .error .missing
  | fuel + 1, words =>
    match words with
    | [] => .error .missing
    | [word] => .ok (!word.isEmpty, [])
    | a :: op :: rest =>
      match rest, scene.binary? a op (rest.headD "") with
      | _ :: others, some result => do return (← result, others)
      | _, _ =>
        if a = "!" then do
          let (value, rest) ← scene.primary fuel (op :: rest)
          return (!value, rest)
        else if a = "(" then do
          let (value, rest) ← scene.either fuel (op :: rest)
          match rest with
          | ")" :: rest => return (value, rest)
          | _ => .error .noClosing
        else
          match scene.unary? a op with
          | some value => .ok (value, rest)
          | none => .ok (!a.isEmpty, op :: rest)

end

/-- Whether a condition holds. -/
def holds (scene : TestScene) (words : List String) : Except TestError Bool :=
  match words with
  | [] => .ok false
  | words => do
    let (value, rest) ← scene.either (4 * words.length + 4) words
    match rest with
    | [] => return value
    | word :: _ => .error (.unexpected word)

end TestScene

/-- The complaint about a condition that makes no sense. -/
def TestError.message (bash : Bool) : TestError → String
  | .unexpected word => if bash then "too many arguments" else word ++ ": unexpected operator"
  | .noInteger word =>
    if bash then word ++ ": integer expression expected" else "Illegal number: " ++ word
  | .missing => "argument expected"
  | .noClosing => if bash then "missing \x60]'" else "missing ]"

end Overseer.Utility
