import Overseer.Text.Digits

/-!
# Shell Arithmetic

Integer expressions of the shell language, on words of 64 bits.

An expression is taken apart into tokens first.  A number that does not fit into a word is wrapped
around, as in every other operation.
-/

namespace Overseer.Shell

/-- An arithmetic expression. -/
inductive Expr where
  | number (n : Int)
  | variable (name : String)
  | unary (op : String) (e : Expr)
  | binary (op : String) (a b : Expr)
  | choice (condition a b : Expr)
  /-- An assignment with the operator in front of the equals sign. -/
  | assign (name op : String) (e : Expr)
  /-- A variable changed by `delta` before or after its value is taken. -/
  | step (name : String) (delta : Int) (before : Bool)

/-- Why an expression has no value. -/
inductive ArithmeticError where
  | malformed
  | divisionByZero
deriving DecidableEq

namespace Expr

/-- An integer of 64 bits. -/
def wrap (n : Int) : Int := Int.bmod n (Nat.pow 2 64)

/-- A token of an expression. -/
inductive Token where
  | number (n : Int)
  | name (s : String)
  | op (s : String)
deriving DecidableEq

/-- The operators, the longer ones first. -/
def operators : List String :=
  ["<<=", ">>=", "&&", "||", "==", "!=", "<=", ">=", "<<", ">>", "+=", "-=", "*=", "/=", "%=",
    "&=", "|=", "^=", "++", "--", "**", "+", "-", "*", "/", "%", "<", ">", "!", "~", "&", "|", "^",
    "(", ")", "?", ":", "=", ","]

/-- The number that a text writes: decimal, octal with a zero in front, or hexadecimal. -/
def readNumber? (s : List Char) : Option Int :=
  let inBase (base : Nat) (s : List Char) : Option Int :=
    if s.isEmpty || !s.all (Text.isDigitIn base) then none else some (wrap (Text.numberIn base s))
  match s with
  | ['0'] => some 0
  | '0' :: 'x' :: s | '0' :: 'X' :: s => inBase 16 s
  | '0' :: s => inBase 8 s
  | s => inBase 10 s

/-- The tokens of a text. -/
def tokens : Nat → List Char → Option (List Token)
  | 0, _ => none
  | _ + 1, [] => some []
  | fuel + 1, c :: s =>
    if c == ' ' || c == '\t' || c == '\n' then tokens fuel s
    else if c.isDigit then
      let word := (c :: s).takeWhile Char.isAlphanum
      match readNumber? word with
      | none => none
      | some n => (tokens fuel ((c :: s).drop word.length)).map (.number n :: ·)
    else if c.isAlpha || c == '_' then
      let word := (c :: s).takeWhile fun c => c.isAlphanum || c == '_'
      (tokens fuel ((c :: s).drop word.length)).map (.name (String.ofList word) :: ·)
    else
      match operators.find? fun op => op.toList.isPrefixOf (c :: s) with
      | none => none
      | some op => (tokens fuel ((c :: s).drop op.length)).map (.op op :: ·)

/-- How tightly a binary operator binds. -/
def level? (op : String) : Option Nat :=
  match op with
  | "," => some 0
  | "||" => some 3
  | "&&" => some 4
  | "|" => some 5
  | "^" => some 6
  | "&" => some 7
  | "==" | "!=" => some 8
  | "<" | ">" | "<=" | ">=" => some 9
  | "<<" | ">>" => some 10
  | "+" | "-" => some 11
  | "*" | "/" | "%" => some 12
  | "**" => some 13
  | _ => none

/-- The operator that an assignment applies first, if a token is an assignment. -/
def assignment? (op : String) : Option String :=
  if op = "=" then some ""
  else if ["+=", "-=", "*=", "/=", "%=", "&=", "|=", "^=", "<<=", ">>="].contains op then
    some (String.ofList op.toList.dropLast)
  else none

mutual

/-- An expression whose operators bind at least as tightly as `level`. -/
def readFrom : Nat → Nat → List Token → Option (Expr × List Token)
  | 0, _, _ => none
  | fuel + 1, level, ts =>
    match ts with
    | .name name :: .op op :: rest =>
      match assignment? op with
      | some first =>
        if level ≤ 2 then do
          let (e, rest) ← readFrom fuel 1 rest
          some (.assign name first e, rest)
        else none
      | none => do
        let (left, rest) ← readUnary fuel ts
        readRest fuel level left rest
    | _ => do
      let (left, rest) ← readUnary fuel ts
      readRest fuel level left rest

/-- What follows an operand. -/
def readRest : Nat → Nat → Expr → List Token → Option (Expr × List Token)
  | 0, _, _, _ => none
  | fuel + 1, level, left, ts =>
    match ts with
    | .op "?" :: rest =>
      if level ≤ 2 then do
        let (a, rest) ← readFrom fuel 1 rest
        match rest with
        | .op ":" :: rest => do
          let (b, rest) ← readFrom fuel 1 rest
          readRest fuel level (.choice left a b) rest
        | _ => none
      else some (left, ts)
    | .op op :: rest =>
      match level? op with
      | some l =>
        if level ≤ l then do
          let (right, rest) ← readFrom fuel (l + 1) rest
          readRest fuel level (.binary op left right) rest
        else some (left, ts)
      | none => some (left, ts)
    | _ => some (left, ts)

/-- An operand. -/
def readUnary : Nat → List Token → Option (Expr × List Token)
  | 0, _ => none
  | fuel + 1, ts =>
    match ts with
    | .op "++" :: .name name :: rest => some (.step name 1 true, rest)
    | .op "--" :: .name name :: rest => some (.step name (-1) true, rest)
    | .name name :: .op "++" :: rest => some (.step name 1 false, rest)
    | .name name :: .op "--" :: rest => some (.step name (-1) false, rest)
    | .number n :: rest => some (.number n, rest)
    | .name name :: rest => some (.variable name, rest)
    | .op "(" :: rest => do
      let (e, rest) ← readFrom fuel 0 rest
      match rest with
      | .op ")" :: rest => some (e, rest)
      | _ => none
    | .op op :: rest =>
      if ["+", "-", "!", "~"].contains op then do
        let (e, rest) ← readUnary fuel rest
        some (.unary op e, rest)
      else none
    | [] => none

end

/-- The expression that a text writes.  An empty text writes zero. -/
def read? (s : List Char) : Option Expr := do
  let ts ← tokens (s.length + 1) s
  if ts.isEmpty then some (.number 0)
  else
    let (e, rest) ← readFrom (4 * ts.length + 4) 0 ts
    if rest.isEmpty then some e else none

/-- The value of a truth value. -/
def ofBool (b : Bool) : Int := if b then 1 else 0

/-- The value of a binary operation. -/
def apply (op : String) (a b : Int) : Except ArithmeticError Int :=
  let shift := (b % 64).toNat
  match op with
  | "+" => .ok (wrap (a + b))
  | "-" => .ok (wrap (a - b))
  | "*" => .ok (wrap (a * b))
  | "/" => if b = 0 then .error .divisionByZero else .ok (wrap (Int.tdiv a b))
  | "%" => if b = 0 then .error .divisionByZero else .ok (Int.tmod a b)
  | "**" => .ok (wrap (Int.pow a b.toNat))
  | "<<" => .ok (wrap (a * Int.pow 2 shift))
  | ">>" => .ok (a / Int.pow 2 shift)
  | "<" => .ok (ofBool (a < b))
  | ">" => .ok (ofBool (b < a))
  | "<=" => .ok (ofBool (a ≤ b))
  | ">=" => .ok (ofBool (b ≤ a))
  | "==" => .ok (ofBool (a == b))
  | "!=" => .ok (ofBool (a != b))
  | "&" => .ok (BitVec.ofInt 64 a &&& BitVec.ofInt 64 b).toInt
  | "|" => .ok (BitVec.ofInt 64 a ||| BitVec.ofInt 64 b).toInt
  | "^" => .ok (BitVec.ofInt 64 a ^^^ BitVec.ofInt 64 b).toInt
  | "," => .ok b
  | "" => .ok b
  | _ => .error .malformed

/-- The variables that an expression has changed, the last change first. -/
abbrev Changes := List (String × Int)

/-- The value of a variable after some changes. -/
def lookup (values : String → Int) (changes : Changes) (name : String) : Int :=
  match changes.find? (·.1 == name) with
  | some (_, n) => n
  | none => values name

/-- The value of an expression. -/
def eval (values : String → Int) : Expr → Changes → Except ArithmeticError (Int × Changes)
  | .number n, ch => .ok (n, ch)
  | .variable name, ch => .ok (lookup values ch name, ch)
  | .unary op e, ch => do
    let (n, ch) ← eval values e ch
    match op with
    | "-" => .ok (wrap (-n), ch)
    | "!" => .ok (ofBool (n == 0), ch)
    | "~" => .ok (-n - 1, ch)
    | _ => .ok (n, ch)
  | .binary op a b, ch => do
    let (x, ch) ← eval values a ch
    if op = "&&" && x = 0 then .ok (0, ch)
    else if op = "||" && x != 0 then .ok (1, ch)
    else
      let (y, ch) ← eval values b ch
      if op = "&&" || op = "||" then .ok (ofBool (y != 0), ch)
      else .ok (← apply op x y, ch)
  | .choice c a b, ch => do
    let (x, ch) ← eval values c ch
    if x != 0 then eval values a ch else eval values b ch
  | .assign name op e, ch => do
    let (y, ch) ← eval values e ch
    let n ← apply op (lookup values ch name) y
    .ok (n, (name, n) :: ch)
  | .step name delta before, ch =>
    let n := lookup values ch name
    let changed := wrap (n + delta)
    .ok (if before then changed else n, (name, changed) :: ch)

end Expr

end Overseer.Shell
