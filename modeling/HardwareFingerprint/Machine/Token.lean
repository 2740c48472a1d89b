import HardwareFingerprint.Text.Ascii

/-!
# Words and tokens of a script

A script is cut into tokens character by character. A word is a run of characters and parameters
between blanks and operators. Single quotes keep everything as it is, double quotes keep everything
but parameters and backslashes, and a backslash keeps one character. Two operators in a row make the
doubled ones, so every operator here is one character.
-/
namespace HardwareFingerprint.Machine

set_option autoImplicit false

/-- What a parameter stands for. Position 0 is the name of the script. -/
inductive Parameter where
  | variable (name : String)
  | position (index : Nat)
  | each
  | joined
  | count
  | status
  | process
  deriving DecidableEq

/-- A word that stands in for a parameter: for one that is not set, or for an empty one too. -/
structure Fallback where
  forEmpty : Bool
  word : String
  deriving DecidableEq

/-- A piece of a word. Quotes make a word of nothing. -/
inductive Piece where
  | text (c : Char) (quoted : Bool)
  | parameter (p : Parameter) (fallback : Option Fallback) (quoted : Bool)
  | quotes
  deriving DecidableEq

abbrev Word : Type :=
  List Piece

/-- A token. The line of a word is where it ends. A redirection carries the stream before it. -/
inductive Token where
  | word (line : Nat) (w : Word)
  | output (stream : Nat)
  | input (stream : Nat)
  | newline
  | semicolon
  | ampersand
  | bar
  | opening
  | closing
  deriving DecidableEq

/-- Why a script is not understood. -/
inductive ScriptProblem where
  | unterminated
  | badSubstitution
  | unexpected (found : String) (expected : Option String)
  deriving DecidableEq

def ScriptProblem.message : ScriptProblem → String
  | .unterminated => "Syntax error: Unterminated quoted string"
  | .badSubstitution => "Bad substitution"
  | .unexpected found expected =>
    "Syntax error: " ++ found ++ " unexpected" ++
      match expected with
      | some keyword => " (expecting \"" ++ keyword ++ "\")"
      | none => ""

/-- The text that a word spells if nothing in it is quoted or a parameter. -/
def Word.plain? : Word → Option (List Char)
  | [] => some []
  | .text c false :: w => (Word.plain? w).map (c :: ·)
  | _ => none

def isNameStart (c : Char) : Bool :=
  c = '_' || ('a' ≤ Text.lowerChar c && Text.lowerChar c ≤ 'z')

def isNameChar (c : Char) : Bool :=
  isNameStart c || Text.isDigit c

/-- The parameters that are named by one sign. -/
def signs : List (Char × Parameter) :=
  [('@', .each), ('*', .joined), ('#', .count), ('?', .status), ('$', .process)]

/-- The parameter that a dollar sign and one character name. -/
def shortParameter? (c : Char) : Option Parameter :=
  match signs.lookup c with
  | some p => some p
  | none => (Text.digitValue? c).map .position

/-- The parameter that a text between braces names, and what stands in for it. -/
def bracedParameter? (cs : List Char) : Option (Parameter × Option Fallback) := do
  let (p, rest) ← match cs with
    | [] => none
    | c :: rest =>
      if isNameStart c then
        some (.variable (String.ofList (cs.takeWhile isNameChar)), cs.dropWhile isNameChar)
      else (shortParameter? c).map fun p => (p, rest)
  match rest with
  | [] => some (p, none)
  | ':' :: '-' :: word => some (p, some ⟨true, String.ofList word⟩)
  | '-' :: word => some (p, some ⟨false, String.ofList word⟩)
  | _ => none

/-- What the next character belongs to. The collected characters come last first. -/
inductive Lexing where
  | bare
  | comment
  | single
  | double
  | escaped (inDouble : Bool)
  | dollar (inDouble : Bool)
  | name (inDouble : Bool) (collected : List Char)
  | braces (inDouble : Bool) (collected : List Char)

/-- A script that has been read up to some character. The pieces of the unfinished word and the
tokens come last first. -/
structure Lexer where
  lexing : Lexing
  line : Nat
  word : Option Word
  tokens : List Token
  problem : Option ScriptProblem

namespace Lexer

def start : Lexer :=
  ⟨.bare, 1, none, [], none⟩

def back (inDouble : Bool) : Lexing :=
  if inDouble then .double else .bare

def add (l : Lexer) (p : Piece) : Lexer :=
  { l with word := some (p :: l.word.getD []) }

def endWord (l : Lexer) : Lexer :=
  match l.word with
  | some w => { l with word := none, tokens := .word l.line w.reverse :: l.tokens }
  | none => l

def emit (l : Lexer) (t : Token) : Lexer :=
  { l.endWord with tokens := t :: l.endWord.tokens }

/-- A redirection, from the stream whose one digit stands right before it. -/
def redirect (l : Lexer) (t : Nat → Token) (usual : Nat) : Lexer :=
  match l.word with
  | some [.text c false] =>
    match Text.digitValue? c with
    | some n => { l with word := none, tokens := t n :: l.tokens }
    | none => l.emit (t usual)
  | _ => l.emit (t usual)

def bareChar (l : Lexer) (c : Char) : Lexer :=
  match c with
  | ' ' | '\t' => l.endWord
  | '\n' => l.emit .newline
  | ';' => l.emit .semicolon
  | '&' => l.emit .ampersand
  | '|' => l.emit .bar
  | '(' => l.emit .opening
  | ')' => l.emit .closing
  | '>' => l.redirect .output 1
  | '<' => l.redirect .input 0
  | '\'' => { l.add .quotes with lexing := .single }
  | '"' => { l.add .quotes with lexing := .double }
  | '\\' => { l with lexing := .escaped false }
  | '$' => { l with lexing := .dollar false }
  | '#' => if l.word.isNone then { l with lexing := .comment } else l.add (.text c false)
  | _ => l.add (.text c false)

def doubleChar (l : Lexer) (c : Char) : Lexer :=
  match c with
  | '"' => { l with lexing := .bare }
  | '\\' => { l with lexing := .escaped true }
  | '$' => { l with lexing := .dollar true }
  | _ => l.add (.text c true)

/-- A character outside of parameters and escapes. -/
def plainChar (inDouble : Bool) (l : Lexer) (c : Char) : Lexer :=
  let l := { l with lexing := back inDouble }
  if inDouble then l.doubleChar c else l.bareChar c

/-- A character after a backslash. Between double quotes the backslash keeps only the characters
that mean something there. -/
def escapedChar (inDouble : Bool) (l : Lexer) (c : Char) : Lexer :=
  let l := { l with lexing := back inDouble }
  if c = '\n' then l
  else if inDouble && !(List.contains ['$', '"', '\\', Char.ofNat 0x60] c) then
    (l.add (.text '\\' true)).add (.text c true)
  else l.add (.text c true)

/-- A character after a dollar sign. -/
def dollarChar (inDouble : Bool) (l : Lexer) (c : Char) : Lexer :=
  if c = '\x7b' then { l with lexing := .braces inDouble [] }
  else if isNameStart c then { l with lexing := .name inDouble [c] }
  else match shortParameter? c with
    | some p => { l.add (.parameter p none inDouble) with lexing := back inDouble }
    | none => plainChar inDouble (l.add (.text '$' inDouble)) c

/-- The parameter of a name that has ended. -/
def endName (inDouble : Bool) (collected : List Char) (l : Lexer) : Lexer :=
  l.add (.parameter (.variable (String.ofList collected.reverse)) none inDouble)

/-- The parameter of braces that have been closed. -/
def endBraces (inDouble : Bool) (collected : List Char) (l : Lexer) : Lexer :=
  let l := { l with lexing := back inDouble }
  match bracedParameter? collected.reverse with
  | some (p, fallback) => l.add (.parameter p fallback inDouble)
  | none => { l with problem := l.problem.or (some .badSubstitution) }

/-- Reads one character. -/
def step (l : Lexer) (c : Char) : Lexer :=
  let l := match l.lexing with
    | .bare => l.bareChar c
    | .comment => if c = '\n' then plainChar false l c else l
    | .single => if c = '\'' then { l with lexing := .bare } else l.add (.text c true)
    | .double => l.doubleChar c
    | .escaped inDouble => escapedChar inDouble l c
    | .dollar inDouble => dollarChar inDouble l c
    | .name inDouble collected =>
      if isNameChar c then { l with lexing := .name inDouble (c :: collected) }
      else plainChar inDouble (endName inDouble collected l) c
    | .braces inDouble collected =>
      if c = '\x7d' then endBraces inDouble collected l
      else { l with lexing := .braces inDouble (c :: collected) }
  if c = '\n' then { l with line := l.line + 1 } else l

/-- The tokens of a script that has been read to its end. -/
def finish (l : Lexer) : Except ScriptProblem (List Token) :=
  match l.problem with
  | some p => .error p
  | none =>
    match l.lexing with
    | .bare | .comment => .ok l.endWord.tokens.reverse
    | .escaped false => .ok (l.add (.text '\\' true)).endWord.tokens.reverse
    | .dollar false => .ok (l.add (.text '$' false)).endWord.tokens.reverse
    | .name false collected => .ok (endName false collected l).endWord.tokens.reverse
    | _ => .error .unterminated

end Lexer

/-- The tokens of a script. -/
def tokens (script : String) : Except ScriptProblem (List Token) :=
  (script.toList.foldl Lexer.step Lexer.start).finish

end HardwareFingerprint.Machine
