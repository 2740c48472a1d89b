import HardwareFingerprint.Machine.Token

/-!
# Scripts

A script is a command made of commands: one after the other, one if the other succeeds or fails,
one reading what the other writes, a choice, a round for each of some words, or a group. A simple
command is a list of words after some assignments. Reading a script goes down one level or forward
one token at a time.
-/
namespace HardwareFingerprint.Machine

set_option autoImplicit false

/-- Where a redirected stream goes to or comes from. -/
inductive Target where
  | stream (number : Nat)
  | file (name : Word)
  deriving DecidableEq

structure Redirect where
  stream : Nat
  isInput : Bool
  target : Target
  deriving DecidableEq

/-- A command. The words of a simple command come with the line they stand on. A round without words
takes the arguments of the script. -/
inductive Command where
  | nothing
  | simple (line : Nat) (assignments : List (String × Word)) (words : List Word)
  | redirected (c : Command) (redirects : List Redirect)
  | pipe (a b : Command)
  | both (a b : Command)
  | either (a b : Command)
  | next (a b : Command)
  | negated (c : Command)
  | choice (test yes no : Command)
  | round (name : String) (words : Option (List Word)) (body : Command)
  | group (c : Command)

namespace Script

/-- Reads something from the start of a list of tokens. -/
abbrev Reader (α : Type) : Type :=
  List Token → Except ScriptProblem (α × List Token)

/-- The words that mean something where a command starts. -/
def keywords : List String :=
  ["if", "then", "else", "elif", "fi", "for", "do", "done", "!", "\x7b", "\x7d"]

/-- The words that end a list of commands. -/
def closers : List String :=
  ["then", "else", "elif", "fi", "do", "done", "\x7d"]

def keyword? : List Token → Option String
  | .word _ w :: _ =>
    (w.plain?.map String.ofList).filter keywords.contains
  | _ => none

/-- How a token is called where it should not stand. -/
def found (ts : List Token) : String :=
  match keyword? ts, ts with
  | some k, _ => "\"" ++ k ++ "\""
  | none, [] => "end of file"
  | none, .word _ _ :: _ => "word"
  | none, .output _ :: _ | none, .input _ :: _ => "redirection"
  | none, .newline :: _ => "newline"
  | none, .semicolon :: .semicolon :: _ => "\";;\""
  | none, .semicolon :: _ => "\";\""
  | none, .ampersand :: .ampersand :: _ => "\"&&\""
  | none, .ampersand :: _ => "\"&\""
  | none, .bar :: .bar :: _ => "\"||\""
  | none, .bar :: _ => "\"|\""
  | none, .opening :: _ => "\"(\""
  | none, .closing :: _ => "\")\""

def refuse {α : Type} (ts : List Token) (expected : Option String) :
    Except ScriptProblem α :=
  .error (.unexpected (found ts) expected)

def skipNewlines : List Token → List Token
  | .newline :: ts => skipNewlines ts
  | ts => ts

/-- Does a list of commands end here? -/
def isClosed (ts : List Token) : Bool :=
  match ts with
  | [] => true
  | .closing :: _ => true
  | ts => (keyword? ts).any closers.contains

/-- Passes one keyword. -/
def expect (keyword : String) (ts : List Token) : Except ScriptProblem (List Token) :=
  if keyword? ts = some keyword then .ok ts.tail else refuse ts (some keyword)

/-- The assignment that a word is: a name, an equals sign and the rest. -/
def assignment? (w : Word) : Option (String × Word) :=
  let isNamePiece : Piece → Bool
    | .text c false => isNameChar c
    | _ => false
  let name := w.takeWhile isNamePiece
  match Word.plain? name, w.dropWhile isNamePiece with
  | some (c :: cs), .text '=' false :: value =>
    if isNameStart c then some (String.ofList (c :: cs), value) else none
  | _, _ => none

/-- The number that a word of one digit is. -/
def digit? (w : Word) : Option Nat :=
  match w with
  | [.text c false] => Text.digitValue? c
  | _ => none

/-- Reads the redirections and, for a simple command, the words up to the next operator. -/
def readParts (takesWords : Bool) : List Token → List Redirect → List (Nat × Word) →
    Except ScriptProblem (List Redirect × List (Nat × Word) × List Token)
  | .output n :: .ampersand :: .word line w :: ts, rs, ws =>
    match digit? w with
    | some target => readParts takesWords ts (rs ++ [⟨n, false, .stream target⟩]) ws
    | none => refuse (.word line w :: ts) none
  | .output n :: .output _ :: .word _ w :: ts, rs, ws
  | .output n :: .bar :: .word _ w :: ts, rs, ws
  | .output n :: .word _ w :: ts, rs, ws =>
    readParts takesWords ts (rs ++ [⟨n, false, .file w⟩]) ws
  | .input n :: .word _ w :: ts, rs, ws =>
    readParts takesWords ts (rs ++ [⟨n, true, .file w⟩]) ws
  | .output _ :: ts, _, _ | .input _ :: ts, _, _ => refuse ts none
  | .word line w :: ts, rs, ws =>
    if takesWords then readParts takesWords ts rs (ws ++ [(line, w)])
    else .ok (rs, ws, .word line w :: ts)
  | ts, rs, ws => .ok (rs, ws, ts)

def withRedirects (c : Command) (rs : List Redirect) : Command :=
  if rs.isEmpty then c else .redirected c rs

/-- Reads a simple command. -/
def readSimple : Reader Command := fun ts => do
  let (rs, ws, rest) ← readParts true ts [] []
  if ws.isEmpty && rs.isEmpty then refuse ts none
  else
    let isAssignment (w : Nat × Word) : Bool := (assignment? w.2).isSome
    let assignments := (ws.takeWhile isAssignment).filterMap fun w => assignment? w.2
    let words := ws.dropWhile isAssignment
    let line := (ws.head?.map Prod.fst).getD 1
    .ok (withRedirects (.simple line assignments (words.map Prod.snd)) rs, rest)

/-- Reads the words of a round, up to its body. -/
def readWords : List Token → List Word → List Word × List Token
  | .word _ w :: ts, ws => readWords ts (ws ++ [w])
  | ts, ws => (ws, ts)

def skipSemicolon : List Token → List Token
  | .semicolon :: ts => ts
  | ts => ts

mutual

/-- Reads commands up to a closing word. -/
def readList : Nat → Reader Command
  | 0, ts => refuse ts none
  | steps + 1, ts => do
    let ts := skipNewlines ts
    if isClosed ts then .ok (.nothing, ts)
    else
      let (a, ts) ← readAndOr steps ts
      match ts with
      | .semicolon :: ts | .newline :: ts | .ampersand :: ts =>
        let (b, ts) ← readList steps ts
        .ok (.next a b, ts)
      | ts => .ok (a, ts)

/-- Reads commands that depend on each other's success. -/
def readAndOr : Nat → Reader Command
  | 0, ts => refuse ts none
  | steps + 1, ts => do
    let (a, ts) ← readPipeline steps ts
    readJoined steps a ts

def readJoined : Nat → Command → Reader Command
  | 0, _, ts => refuse ts none
  | steps + 1, a, ts =>
    match ts with
    | .ampersand :: .ampersand :: ts => do
      let (b, ts) ← readPipeline steps (skipNewlines ts)
      readJoined steps (.both a b) ts
    | .bar :: .bar :: ts => do
      let (b, ts) ← readPipeline steps (skipNewlines ts)
      readJoined steps (.either a b) ts
    | ts => .ok (a, ts)

/-- Reads commands that read what the one before writes. -/
def readPipeline : Nat → Reader Command
  | 0, ts => refuse ts none
  | steps + 1, ts => do
    if keyword? ts = some "!" then
      let (c, ts) ← readPipeline steps ts.tail
      .ok (.negated c, ts)
    else
      let (a, ts) ← readCommand steps ts
      readPiped steps a ts

def readPiped : Nat → Command → Reader Command
  | 0, _, ts => refuse ts none
  | steps + 1, a, ts =>
    match ts with
    | .bar :: .bar :: _ => .ok (a, ts)
    | .bar :: ts => do
      let (b, ts) ← readCommand steps (skipNewlines ts)
      readPiped steps (.pipe a b) ts
    | ts => .ok (a, ts)

/-- Reads one command, compound or simple. -/
def readCommand : Nat → Reader Command
  | 0, ts => refuse ts none
  | steps + 1, ts => do
    let compound (r : Except ScriptProblem (Command × List Token)) :
        Except ScriptProblem (Command × List Token) := do
      let (c, ts) ← r
      let (rs, _, ts) ← readParts false ts [] []
      .ok (withRedirects c rs, ts)
    match ts, keyword? ts with
    | .opening :: ts, _ => compound do
      let (c, ts) ← readFilled steps ts
      match ts with
      | .closing :: ts => .ok (.group c, ts)
      | ts => refuse ts (some ")")
    | _ :: ts, some "\x7b" => compound do
      let (c, ts) ← readFilled steps ts
      .ok (c, ← expect "\x7d" ts)
    | _ :: ts, some "if" => compound (readChoice steps ts)
    | _ :: .word _ name :: ts, some "for" => compound do
      let ts := skipNewlines ts
      let (words, ts) := match ts with
        | .word line w :: ts =>
          if Word.plain? w = some ['i', 'n'] then
            let (ws, ts) := readWords ts []
            (some ws, ts)
          else (none, .word line w :: ts)
        | ts => (none, ts)
      let ts ← expect "do" (skipNewlines (skipSemicolon ts))
      let (body, ts) ← readFilled steps ts
      .ok (.round (String.ofList ((Word.plain? name).getD [])) words body, ← expect "done" ts)
    | ts, some _ => refuse ts none
    | ts, none => readSimple ts

/-- Reads a list with at least one command in it. -/
def readFilled : Nat → Reader Command
  | 0, ts => refuse ts none
  | steps + 1, ts =>
    let ts := skipNewlines ts
    if isClosed ts then refuse ts none else readList steps ts

/-- Reads a choice after its first word. -/
def readChoice : Nat → Reader Command
  | 0, ts => refuse ts none
  | steps + 1, ts => do
    let (test, ts) ← readFilled steps ts
    let (yes, ts) ← readFilled steps (← expect "then" ts)
    match keyword? ts with
    | some "else" =>
      let (no, ts) ← readFilled steps ts.tail
      .ok (.choice test yes no, ← expect "fi" ts)
    | some "elif" =>
      let (no, ts) ← readChoice steps ts.tail
      .ok (.choice test yes no, ts)
    | _ => .ok (.choice test yes .nothing, ← expect "fi" ts)

end

/-- The command that a script is. Between two tokens there are at most eight levels to go down. -/
def read (script : String) : Except ScriptProblem Command := do
  let ts ← tokens script
  let (c, rest) ← readList (8 * ts.length + 8) ts
  if rest.isEmpty then .ok c else refuse rest none

end Script

end HardwareFingerprint.Machine
