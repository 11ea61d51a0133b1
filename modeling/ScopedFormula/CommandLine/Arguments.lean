import ScopedFormula.Text.Blank

/- Command lines: a subcommand with one expression, or none for an interactive run. Flags may
   stand on either side of the subcommand; everything after -- is an expression. -/
namespace ScopedFormula

inductive Command where
  | eval | print | tokens
  deriving DecidableEq, Repr

def Command.ofName? : String → Option Command
  | "eval" => some .eval
  | "print" => some .print
  | "tokens" => some .tokens
  | _ => none

inductive Task where
  | once (command : Command) (source : String)
  | interactive
  deriving DecidableEq, Repr

structure Request where
  task : Task
  vars : List (String × String)
  builtins : Bool
  deriving DecidableEq, Repr

inductive Invocation where
  | run (r : Request)
  | version
  | help
  | misuse
  deriving DecidableEq, Repr

structure Flags where
  vars : List (String × String)
  noBuiltins : Bool
  deriving DecidableEq, Repr

def Flags.start : Flags := ⟨[], false⟩

/-- NAME=VALUE with a name that is not blank; the name is trimmed, the value is not. -/
def assignment? (arg : String) : Option (String × String) :=
  let cs := arg.toList
  match cs.dropWhile (· != '=') with
  | [] => none
  | _ :: value =>
      let name := trimChars (cs.takeWhile (· != '='))
      if name.isEmpty then none else some (String.ofList name, String.ofList value)

def startsWith (start arg : String) : Bool := start.toList.isPrefixOf arg.toList

/-- Arguments that start with a minus sign are flags; the sign alone is none. -/
def isFlag (arg : String) : Bool := startsWith "-" arg && arg != "-"

inductive FlagReading where
  | flags (fl : Flags) (rest : List String)
  | help
  | version
  | misuse

def Flags.addVar (fl : Flags) (text : String) (rest : List String) : FlagReading :=
  match assignment? text with
  | some var => .flags { fl with vars := fl.vars ++ [var] } rest
  | none => .misuse

/-- Reads one flag. The value of a variable is behind an equals sign or is the next argument,
    which then is not a flag. -/
def Flags.read (fl : Flags) (arg : String) (rest : List String) : FlagReading :=
  if arg = "--var" then
    match rest with
    | text :: rest => if isFlag text then .misuse else fl.addVar text rest
    | [] => .misuse
  else if startsWith "--var=" arg then fl.addVar (String.ofList (arg.toList.drop 6)) rest
  else if arg = "--no-builtins" then
    if fl.noBuiltins then .misuse else .flags { fl with noBuiltins := true } rest
  else if arg = "--help" ∨ startsWith "-h" arg then .help
  else if arg = "--version" ∨ startsWith "-V" arg then .version
  else .misuse

theorem Flags.read_length {fl fl' : Flags} {arg : String} {rest rest' : List String}
    (h : fl.read arg rest = .flags fl' rest') : rest'.length ≤ rest.length := by
  have add : ∀ {text : String} {r : List String}, fl.addVar text r = .flags fl' rest' →
      rest'.length ≤ r.length := by
    intro text r h
    unfold Flags.addVar at h
    split at h
    · simp only [FlagReading.flags.injEq] at h
      exact Nat.le_of_eq (h.2 ▸ rfl)
    · simp at h
  unfold Flags.read at h
  split at h
  · cases rest with
    | nil => simp at h
    | cons text tail =>
      simp only at h
      split at h
      · simp at h
      · have := add h
        simp only [List.length_cons]
        omega
  · split at h
    · exact add h
    · split at h
      · split at h
        · simp at h
        · simp only [FlagReading.flags.injEq] at h
          exact Nat.le_of_eq (h.2 ▸ rfl)
      · split at h
        · simp at h
        · split at h <;> simp at h

/-- Variables given behind the subcommand replace those before it. -/
def request (command : Command) (source : String) (before behind : Flags) : Invocation :=
  .run {
    task := .once command source
    vars := if behind.vars.isEmpty then before.vars else behind.vars
    builtins := !(before.noBuiltins || behind.noBuiltins) }

def readCommand (command : Command) (before behind : Flags) (source : Option String)
    (args : List String) : Invocation :=
  match args with
  | [] =>
      match source with
      | some s => request command s before behind
      | none => .misuse
  | arg :: rest =>
      if arg = "--" then
        match source, rest with
        | some s, [] => request command s before behind
        | none, [s] => request command s before behind
        | _, _ => .misuse
      else if isFlag arg then
        match h : behind.read arg rest with
        | .flags fl rest' =>
            have := Flags.read_length h
            readCommand command before fl source rest'
        | .help => .help
        | .version | .misuse => .misuse
      else
        match source with
        | none => readCommand command before behind (some arg) rest
        | some _ => .misuse
termination_by args.length

/-- Help is there for the program and for each subcommand, that for help included. -/
def readTopics : List String → Invocation
  | [] => .help
  | [topic] => if topic = "help" ∨ (Command.ofName? topic).isSome then .help else .misuse
  | _ => .misuse

def readArguments (fl : Flags) (args : List String) : Invocation :=
  match args with
  | [] => .run ⟨.interactive, fl.vars, !fl.noBuiltins⟩
  | arg :: rest =>
      match Command.ofName? arg with
      | some command => readCommand command fl .start none rest
      | none =>
          if arg = "help" then readTopics rest
          else if arg = "--" then
            if rest.isEmpty then .run ⟨.interactive, fl.vars, !fl.noBuiltins⟩ else .misuse
          else if isFlag arg then
            match h : fl.read arg rest with
            | .flags fl' rest' =>
                have := Flags.read_length h
                readArguments fl' rest'
            | .help => .help
            | .version => .version
            | .misuse => .misuse
          else .misuse
termination_by args.length

end ScopedFormula
