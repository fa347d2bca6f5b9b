import Overseer.Shell.Expansion
import Overseer.Shell.Grammar

/-!
# Complaints of a Shell

What a shell writes when a script is no script or a word cannot be expanded.  The two dialects have
words of their own for each.

Scripts are judged by what reaches their output, so the complaints are written as the shells write
them, with the name of the shell and the number of the line in front.
-/

namespace Overseer.Shell

/-- The words that mean something at the start of a command. -/
def reservedWords : List String :=
  ["!", "case", "do", "done", "elif", "else", "esac", "fi", "for", "if", "in", "then", "until",
    "while", "\x7b", "\x7d"]

/-- A token as the small shell names it. -/
def tokenName (token : String) : String :=
  if token = "newline" then token
  else if reservedWords.contains token then "\"" ++ token ++ "\""
  else if redirectionOperators.contains token then "redirection"
  else if (operators .dash).contains token then "\"" ++ token ++ "\""
  else "word"

/-- What a fault is called in the small shell. -/
def SyntaxFault.shortText : SyntaxFault → String
  | .unexpected token expecting => tokenName token ++ " unexpected" ++ expected expecting
  | .unexpectedEnd expecting => "end of file unexpected" ++ expected expecting
  | .unmatched '\x60' => "EOF in backquote substitution"
  | .unmatched '\x7d' => "Missing '\x7d'"
  | .unmatched _ => "Unterminated quoted string"
  | .unclosedSubstitution => "end of file unexpected (expecting \")\")"
  | .unclosedArithmetic => "Missing '))'"
  | .badLoopVariable => "Bad for loop variable"
  | .badFunctionName => "Bad function name"
where
  /-- What had to stand there. -/
  expected : Option String → String
    | some token => " (expecting " ++ tokenName token ++ ")"
    | none => ""

/-- The line of a source with a number. -/
def Source.lineAt (source : Source) (line : Nat) : List Char :=
  let rec drop : Nat → List Char → List Char
    | 0, s => s
    | n + 1, s => drop n ((s.dropWhile (· != '\n')).drop 1)
  (drop (line - source.line) source.text).takeWhile (· != '\n')

/-- How the large shell names an origin. -/
def ScriptOrigin.label : ScriptOrigin → String
  | .file => ""
  | .argument => ": -c"
  | .substitution => ": command substitution"
  | .evaluation => ": eval"

/-- What the large shell writes about a document without an end, in front of the line it has come
to. -/
def OpenDocument.warning (name : String) (lastLine : Nat) (d : OpenDocument) : String :=
  name ++ ": line " ++ toString lastLine ++ ": warning: here-document at line " ++
    toString d.line ++ " delimited by end-of-file (wanted \x60" ++
    String.ofList d.delimiter ++ "')\n"

/-- What the shells write about documents without an end. -/
def documentWarnings (dialect : Dialect) (name : String) (source : Source)
    (documents : List OpenDocument) : String :=
  match dialect with
  | .dash => ""
  | .bash =>
    let endsLine := source.text.isEmpty || source.text.getLast? == some '\n'
    let lastLine := if endsLine then source.lastLine - 1 else source.lastLine
    String.join (documents.map fun d => d.warning name (max lastLine d.line))

/-- What a shell writes about a text that is no script.  `source` is the text from some line on. -/
def SyntaxError.message (dialect : Dialect) (name : String) (origin : ScriptOrigin)
    (source : Source) (e : SyntaxError) : String :=
  match dialect with
  | .dash =>
    let command := if origin = .evaluation then "eval: " else ""
    name ++ ": " ++ toString e.line ++ ": " ++ command ++ "Syntax error: " ++
      e.fault.shortText ++ "\n"
  | .bash =>
    let start := fun line : Nat => name ++ origin.label ++ ": line " ++ toString line ++ ": "
    let endLine := if source.text.getLast? == some '\n' then e.line else e.line + 1
    let unmatched := fun (line : Nat) (closing : String) =>
      start line ++ "unexpected EOF while looking for matching \x60" ++ closing ++ "'\n"
    match e.fault with
    | .unexpected token _ =>
      start e.line ++ "syntax error near unexpected token \x60" ++ token ++ "'\n" ++
        start e.line ++ "\x60" ++ String.ofList (source.lineAt e.line) ++ "'\n"
    | .unmatched quote => unmatched e.line (String.singleton quote)
    | .unclosedSubstitution => unmatched endLine ")"
    | .unclosedArithmetic => unmatched e.line ")"
    | .unexpectedEnd _ | .badLoopVariable | .badFunctionName =>
      start endLine ++ "syntax error: unexpected end of file\n"

/-- What is wrong with a word that cannot be expanded. -/
def ExpansionError.text (dialect : Dialect) : ExpansionError → String
  | .invalid source =>
    match dialect with
    | .dash => "Bad substitution"
    | .bash => source ++ ": bad substitution"
  | .unset name =>
    match dialect with
    | .dash => name ++ ": parameter not set"
    | .bash =>
      (if name.toList.all Char.isDigit then "$" ++ name else name) ++ ": unbound variable"
  | .required name message => name ++ ": " ++ message
  | .malformed text =>
    match dialect with
    | .dash => "arithmetic expression: expecting primary: \"" ++ text ++ "\""
    | .bash => text ++ ": syntax error: operand expected (error token is \"" ++ text ++ "\")"
  | .divisionByZero text =>
    match dialect with
    | .dash => "arithmetic expression: division by zero: \"" ++ text ++ "\""
    | .bash =>
      let behind := (text.toList.reverse.takeWhile fun c => c != '/' && c != '%').reverse
      text ++ ": division by 0 (error token is \"" ++
        String.ofList (behind.dropWhile (· == ' ')) ++ "\")"
  | .readonly name =>
    match dialect with
    | .dash => name ++ ": is read only"
    | .bash => name ++ ": readonly variable"

/-- The status with which a shell ends over a word that cannot be expanded; nothing if only the
command is given up.  The large shell tells a missing value apart if its script is an argument. -/
def ExpansionError.fatal? (dialect : Dialect) (origin : ScriptOrigin) (e : ExpansionError) :
    Option Nat :=
  match dialect, e with
  | .dash, _ => some 2
  | .bash, .unset _ | .bash, .required .. => some (if origin = .argument then 127 else 1)
  | .bash, .invalid _ => some 1
  | .bash, .malformed _ | .bash, .divisionByZero _ | .bash, .readonly _ => none

end Overseer.Shell
