import Overseer.Shell.Expansion
import Overseer.Utility.Test
import Overseer.Utility.Texts

/-!
# Conditional Expressions

What stands between double brackets in the large shell: conditions on words that are not split,
joined by `&&` and `||`.

The right side of an equality is a pattern, and only its quoted characters stand for themselves.
-/

namespace Overseer.Shell

namespace Conditional

/-- The operator that a word is, if it is written without quotes. -/
def operator? (word : Word) : Option String := (Word.literal? word).map String.ofList

/-- The conditions on two words that are not those of `test`. -/
def isMatch (op : String) : Bool := ["=", "==", "!=", "=~", "<", ">"].contains op

/-- Whether a condition on two words holds; the second one is a pattern for some of them. -/
def binary (scene : Utility.TestScene) (left : String) (op : String) (right : Word) :
    Expand Bool := do
  match op with
  | "=" | "==" => return (← expandPattern right).isMatch left.toList
  | "!=" => return !(← expandPattern right).isMatch left.toList
  | "=~" => return Utility.lineHolds [] (← expandText right).toList left.toList
  | "<" => return decide (left < (← expandText right))
  | ">" => return decide ((← expandText right) < left)
  | _ =>
    match scene.binary? left op (← expandText right) with
    | some (.ok value) => return value
    | _ => return false

mutual

/-- Conditions joined by `||`, and the words behind them. -/
def either (scene : Utility.TestScene) : Nat → List Word → Expand (Bool × List Word)
  | 0, words => return (false, words)
  | fuel + 1, words => do
    let (left, rest) ← both scene fuel words
    match rest with
    | word :: others =>
      if operator? word == some "||" then do
        let (right, rest) ← either scene fuel others
        return (left || right, rest)
      else return (left, rest)
    | [] => return (left, [])

/-- Conditions joined by `&&`, and the words behind them. -/
def both (scene : Utility.TestScene) : Nat → List Word → Expand (Bool × List Word)
  | 0, words => return (false, words)
  | fuel + 1, words => do
    let (left, rest) ← primary scene fuel words
    match rest with
    | word :: others =>
      if operator? word == some "&&" then do
        let (right, rest) ← both scene fuel others
        return (left && right, rest)
      else return (left, rest)
    | [] => return (left, [])

/-- A condition that is not joined, and the words behind it. -/
def primary (scene : Utility.TestScene) : Nat → List Word → Expand (Bool × List Word)
  | 0, words => return (false, words)
  | _ + 1, [] => return (false, [])
  | fuel + 1, word :: rest => do
    if operator? word == some "!" then do
      let (value, rest) ← primary scene fuel rest
      return (!value, rest)
    else if operator? word == some "(" then do
      let (value, rest) ← either scene fuel rest
      return (value, rest.drop 1)
    else
      match rest with
      | op :: right :: others =>
        let name := (operator? op).getD ""
        if isMatch name || (scene.binary? "" name "").isSome then do
          let left ← expandText word
          return (← binary scene left name right, others)
        else unary word rest
      | _ => unary word rest
where
  /-- A condition on one word, or a word alone. -/
  unary (word : Word) (rest : List Word) : Expand (Bool × List Word) := do
    let name := (operator? word).getD ""
    match rest with
    | operand :: others =>
      match scene.unary? name "" with
      | some _ => do
        let text ← expandText operand
        return ((scene.unary? name text).getD false, others)
      | none => return (!(← expandText word).isEmpty, rest)
    | [] => return (!(← expandText word).isEmpty, [])

end

/-- Whether the words between the brackets hold. -/
def holds (scene : Utility.TestScene) (words : List Word) : Expand Bool := do
  return (← either scene (4 * words.length + 4) words).1

end Conditional

end Overseer.Shell
