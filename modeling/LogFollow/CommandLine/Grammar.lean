import LogFollow.CommandLine.Word

/-!
# Grammars of command lines

A grammar says which options there are, and how each of them changes what is read. An option without
a value on the command line may get it from a variable of the environment. The value of an option is
looked at only when the next word is known: an option that does not exist, or one that has a value and
should have none, counts before it.
-/

namespace LogFollow.CommandLine

inductive Misuse
  | unknownOption
  | badValue
  | badNumber
  /-- An option that takes no value has one. -/
  | unwantedValue
  /-- An option that may be given once is given again. -/
  | repeated
deriving DecidableEq, Repr

def Misuse.message : Misuse → String
  | unknownOption => "unexpected argument found"
  | badValue => "invalid value for an option"
  | badNumber => "invalid number for an option"
  | unwantedValue => "unexpected value for an option"
  | repeated => "an option cannot be used multiple times"

/-- What a command line leads to other than what is read from it. -/
inductive Detour
  | help
  | version
  | misuse (cause : Misuse)
deriving DecidableEq, Repr

/-- What an option does to an `α`. -/
inductive OptionForm (α : Type)
  | flag (set : α → α)
  | value (repeatable : Bool) (read : String → Except Misuse (α → α))
  | detour (target : Detour)

structure OptionRule (α : Type) where
  name : String
  letter : Option Char := none
  /-- The variable that is looked at when the option is not given. -/
  variableName : Option String := none
  form : OptionForm α

/-- The options of a command line, and what a word that belongs to none does. -/
structure Grammar (α : Type) where
  /-- The options, in the order in which their variables are looked at. -/
  rules : List (OptionRule α)
  addWord : String → α → α

/-- What has been read of a command line. -/
structure Progress (α : Type) where
  result : α
  given : List String := []
  /-- The option whose value has not been looked at, with its value, if that has been seen. -/
  pending : Option (OptionRule α × Option String) := none

namespace Progress

variable {α : Type}

def change (p : Progress α) (rule : OptionRule α) (f : α → α) : Progress α :=
  { p with result := f p.result, given := rule.name :: p.given }

/-- Takes an option with its value, if it has one. -/
def take (p : Progress α) (rule : OptionRule α) (value : Option String) :
    Except Detour (Progress α) :=
  let again := p.given.contains rule.name
  match rule.form, value with
  | .detour target, _ => .error target
  | .flag set, _ => if again then .error (.misuse .repeated) else .ok (p.change rule set)
  | .value .., none => .error (.misuse .badValue)
  | .value repeatable read, some text =>
    if again && !repeatable then .error (.misuse .repeated)
    else
      match read text with
      | .ok f => .ok (p.change rule f)
      | .error cause => .error (.misuse cause)

/-- Takes the option whose value has not been looked at. -/
def settle (p : Progress α) : Except Detour (Progress α) :=
  match p.pending with
  | none => .ok p
  | some (rule, value) => { p with pending := none }.take rule value

/-- Goes on with an option, or fails where there is none. -/
def addOption (p : Progress α) (rule : Option (OptionRule α)) (value : Option String) :
    Except Detour (Progress α) := do
  match rule with
  | none => throw (.misuse .unknownOption)
  | some rule =>
    match rule.form, value with
    | .value .., none => return { ← p.settle with pending := some (rule, none) }
    | .value .., some _ => (← p.settle).take rule value
    | _, some _ => throw (.misuse .unwantedValue)
    | _, none => (← p.settle).take rule none

end Progress

namespace Grammar

variable {α : Type}

/-- Goes on with a plain word, which may be the value that an option waits for. -/
def addPlain (g : Grammar α) (p : Progress α) (text : String) : Except Detour (Progress α) := do
  match p.pending with
  | some (rule, none) => return { p with pending := some (rule, some text) }
  | _ =>
    let p ← p.settle
    return { p with result := g.addWord text p.result }

/-- Reads the words of a command line. -/
def readWords (g : Grammar α) (p : Progress α) : List String → Except Detour (Progress α)
  | [] => p.settle
  | text :: rest =>
    match Word.ofText text with
    | .terminator => do
      let p ← p.settle
      pure { p with result := rest.foldl (fun a word => g.addWord word a) p.result }
    | .option name value => do
      readWords g (← p.addOption (g.rules.find? (·.name = name)) value) rest
    | .letters first => do
      readWords g (← p.addOption (g.rules.find? (·.letter = some first)) none) rest
    | .plain text => do readWords g (← g.addPlain p text) rest

/-- Takes the value that a variable has for an option. The variable of a flag tells whether it is
set. -/
def takeVariable (p : Progress α) (rule : OptionRule α) (text : String) :
    Except Detour (Progress α) :=
  match rule.form with
  | .flag set =>
    if text = "true" then .ok (p.change rule set)
    else if text = "false" then .ok p
    else .error (.misuse .badValue)
  | _ => p.take rule (some text)

/-- Looks at the variable of an option, unless the option is given. -/
def readVariable (environment : String → Option String) (p : Progress α) (rule : OptionRule α) :
    Except Detour (Progress α) :=
  if p.given.contains rule.name then .ok p
  else
    match rule.variableName.bind environment with
    | some text => takeVariable p rule text
    | none => .ok p

/-- What a command line and the variables of the environment give. -/
def read (g : Grammar α) (initial : α) (words : List String)
    (environment : String → Option String) : Except Detour α := do
  let p ← g.readWords { result := initial } words
  let p ← g.rules.foldlM (readVariable environment) p
  pure p.result

def usageLine (rule : OptionRule α) : String :=
  let letter := match rule.letter with
    | some c => s!"-{c}, "
    | none => ""
  let value := match rule.form with
    | .value .. => " <VALUE>"
    | _ => ""
  s!"  {letter}--{rule.name}{value}"

def usage (g : Grammar α) : List String := "Options:" :: g.rules.map usageLine

end Grammar

end LogFollow.CommandLine
