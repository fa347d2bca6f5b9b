/-!
# Shell Commands

The commands of the shell language as they are written: words made of pieces, redirections and
statements.  Two dialects of the language are told apart where they differ.

A command in the middle of a word is kept as text, and read when its output is asked for.
-/

namespace Overseer.Shell

/-- A dialect of the shell language. -/
inductive Dialect where
  /-- The small shell, `sh`. -/
  | dash
  /-- The large one. -/
  | bash
deriving DecidableEq

/-- What is done with the value of a parameter. -/
inductive ParameterOp where
  | plain
  | length
  /-- A word in its stead if it is unset or, with a colon, empty. -/
  | default (colon : Bool)
  /-- The same, and the word becomes its value. -/
  | assign (colon : Bool)
  /-- A word in its stead if it is set and, with a colon, not empty. -/
  | alternative (colon : Bool)
  /-- A complaint if it is unset or, with a colon, empty. -/
  | require (colon : Bool)
  /-- Without the shortest or longest start that matches. -/
  | dropStart (longest : Bool)
  /-- Without the shortest or longest end that matches. -/
  | dropEnd (longest : Bool)
  /-- With the first or every match replaced. -/
  | replace (all : Bool)
  /-- A part, by its offset and length. -/
  | part
  /-- With its first or every letter in the other case. -/
  | recase (upper all : Bool)
deriving DecidableEq

/-- A piece of a word. -/
inductive Piece where
  | text (s : List Char) (quoted : Bool)
  | parameter (name : String) (op : ParameterOp) (arguments : List (List Piece)) (quoted : Bool)
  /-- The output of commands, given by their text. -/
  | substitution (source : List Char) (quoted : Bool)
  | arithmetic (expression : List Piece) (quoted : Bool)
  /-- A parameter in braces that means nothing. -/
  | invalid (source : String)

/-- A word. -/
abbrev Word := List Piece

/-- The text of a word that is written without any quotes or expansions. -/
def Word.literal? : Word → Option (List Char)
  | [.text s false] => some s
  | _ => none

/-- What a redirection does. -/
inductive RedirectionKind where
  | input
  | output
  | append
  | readWrite
  /-- Uses what is open under another number, or closes the number. -/
  | duplicate
  /-- Reads the text of the word itself. -/
  | document
deriving DecidableEq

/-- A redirection of what is open under a number. -/
structure Redirection where
  fd : Nat
  kind : RedirectionKind
  target : Word

/-- A simple command. -/
structure SimpleCommand where
  assignments : List (String × Word)
  words : List Word
  redirections : List Redirection
  line : Nat

/-- A command of the shell language. -/
inductive Statement where
  | simple (command : SimpleCommand)
  | pipeline (statements : List Statement)
  | negation (statement : Statement)
  | both (left right : Statement)
  | either (left right : Statement)
  | sequence (statements : List Statement)
  | background (statement : Statement)
  | subshell (body : Statement)
  | choice (condition consequence : Statement) (alternative : Option Statement)
  | loop (whileTrue : Bool) (condition body : Statement)
  /-- The body for each of the words, or for each parameter if there are none. -/
  | each (name : String) (words : Option (List Word)) (body : Statement)
  | select (subject : Word) (branches : List (List Word × Statement))
  | define (name : String) (body : Statement)
  | redirected (statement : Statement) (redirections : List Redirection)
  /-- A conditional expression between double brackets. -/
  | conditional (words : List Word) (line : Nat)
  /-- An arithmetic expression between double parentheses. -/
  | compute (expression : Word) (line : Nat)

/-- A command that does nothing. -/
def Statement.nothing : Statement := .sequence []

/-- Where the text of a script comes from. -/
inductive ScriptOrigin where
  | file
  /-- An argument of the shell. -/
  | argument
  | substitution
  /-- The arguments of `eval`. -/
  | evaluation
deriving DecidableEq

/-- What makes a text no command. -/
inductive SyntaxFault where
  /-- A token that cannot stand here, and the one that had to. -/
  | unexpected (token : String) (expecting : Option String)
  /-- The text ends inside something that had to be closed. -/
  | unexpectedEnd (expecting : Option String)
  /-- A quote or a brace without its partner. -/
  | unmatched (quote : Char)
  /-- The text ends inside a command substitution. -/
  | unclosedSubstitution
  /-- The text ends inside an arithmetic expression. -/
  | unclosedArithmetic
  /-- The variable of a loop is no name. -/
  | badLoopVariable
  /-- A function cannot have this name. -/
  | badFunctionName
deriving DecidableEq

/-- A fault and the line it is in. -/
structure SyntaxError where
  fault : SyntaxFault
  line : Nat
deriving DecidableEq

end Overseer.Shell
