import ScopedFormula.CommandLine.Arguments
import ScopedFormula.Eval

/- The program behind the command line: one expression evaluated, printed or cut into tokens,
   or a dialogue that answers each line of input in one scope. -/
namespace ScopedFormula

/-- The texts of usage errors are left open. -/
structure Outcome where
  code : Nat
  output : String
  errors : Option String
  deriving DecidableEq, Repr

def success (output : String) : Outcome := ⟨0, output, some ""⟩

def failed (report : String) : Outcome := ⟨1, "", some ("Error: " ++ report ++ "\n")⟩

inductive StartError where
  | invalidValue (name : String) (reason : Failure)
  | definition (reason : Failure)
  deriving DecidableEq, Repr

def indentLines (s : String) : String :=
  String.ofList (s.toList.flatMap fun c => if c = '\n' then "\n    ".toList else [c])

def StartError.text : StartError → String
  | .invalidValue name reason =>
      "invalid value for variable " ++ name ++ "\n\nCaused by:\n    " ++ indentLines reason.text
  | .definition reason => reason.text

/-- Each value is evaluated in the scope that holds the variables before it. -/
def defineArguments (i : ScopeId) : List (String × String) → Store → Except StartError Store
  | [], st => .ok st
  | (name, source) :: rest, st =>
      match evaluate i source st with
      | (.error e, _) => .error (.invalidValue name e)
      | (.ok v, st') =>
          match st'.defineVar i name (.value v) with
          | .error e => .error (.definition e)
          | .ok st'' => defineArguments i rest st''

/-- A store with one scope, number 0, that holds the builtins, if wanted, and the variables. -/
def startStore (r : Request) : Except StartError Store :=
  let (i, st) := Store.empty.addScope none
  let (_, st) := if r.builtins then st.install i Builtin.all else (.ok (), st)
  defineArguments i r.vars st

def startScope : ScopeId := 0

def padLeft (width : Nat) (s : String) : String :=
  String.ofList (List.replicate (width - s.length) ' ') ++ s

def padRight (width : Nat) (s : String) : String :=
  s ++ String.ofList (List.replicate (width - s.length) ' ')

def tokenLine (t : Token) : String :=
  padLeft 4 (toString t.position) ++ "  " ++ padRight 12 t.kind.text ++ " " ++ t.text ++ "\n"

def runCommand (st : Store) (source : String) : Command → Outcome
  | .eval =>
      match (evaluate startScope source st).1 with
      | .ok v => success (v.text ++ "\n")
      | .error e => failed e.text
  | .print =>
      match read source with
      | .ok e => success (e.print ++ "\n")
      | .error e => failed e.text
  | .tokens =>
      match scan source with
      | .ok ts => success (String.join (ts.map tokenLine))
      | .error e => failed e.text

def prompt : String := ">> "

/-- The answer to a line of input; blank lines have none. -/
def answerLine (line : String) (st : Store) : String × Store :=
  let source := trim line
  if source.isEmpty then ("", st)
  else
    match evaluate startScope source st with
    | (.ok v, st') => (v.text ++ "\n", st')
    | (.error e, st') => ("error: " ++ e.text ++ "\n", st')

/-- The lines of a text, each up to and with its newline; the last may have none. -/
def splitLines : List Char → List (List Char)
  | [] => []
  | c :: cs =>
      if c = '\n' then [c] :: splitLines cs
      else
        match splitLines cs with
        | [] => [[c]]
        | line :: lines => (c :: line) :: lines

def dialogue : List String → Store → String
  | [], _ => prompt ++ "\n"
  | line :: lines, st =>
      let (text, st') := answerLine line st
      prompt ++ text ++ dialogue lines st'

/-- Printing and tokens need no variables, so theirs are not evaluated. -/
def Request.run (r : Request) (input : String) : Outcome :=
  match r.task with
  | .interactive =>
      match startStore r with
      | .error e => failed e.text
      | .ok st => success (dialogue ((splitLines input.toList).map String.ofList) st)
  | .once .eval source =>
      match startStore r with
      | .error e => failed e.text
      | .ok st => runCommand st source .eval
  | .once command source => runCommand .empty source command

def versionText : String := "exprscope 0.1.0\n"

def helpText : String :=
  "Usage: [eval|print|tokens EXPR] [--var NAME=VALUE]... [--no-builtins]\n"

def Invocation.outcome (i : Invocation) (input : String) : Outcome :=
  match i with
  | .run r => r.run input
  | .version => success versionText
  | .help => success helpText
  | .misuse => ⟨2, "", none⟩

def runArguments (args : List String) (input : String) : Outcome :=
  (readArguments .start args).outcome input

end ScopedFormula
