import ApiContract.Assoc

/-!
The words of a command line, sorted into options and operands, and the commands that they spell.
Options may stand before or after the operands; the first operand is the name of the command.
-/

namespace ApiContract.CommandLine

/-- What an option takes. -/
inductive Wanted where
  | nothing
  | text
  /-- A text that is not empty. -/
  | path
deriving DecidableEq, Repr

structure OptionRule where
  name : String
  letter : Option Char := none
  wanted : Wanted := .nothing
deriving DecidableEq, Repr

structure CommandRule where
  name : String
  options : List OptionRule
  /-- One operand or more, and not exactly one. -/
  manyOperands : Bool := false
  /-- All words after its name are operands. -/
  takesAllWords : Bool := false

/-- Why a command line is not carried out. -/
inductive Stop where
  | help
  | version
  | misuse (reason : String)
deriving DecidableEq, Repr

def configOption : OptionRule := { name := "config", wanted := .path }
def logLevelOption : OptionRule := { name := "log-level", wanted := .text }
def helpOption : OptionRule := { name := "help", letter := some 'h' }
def versionOption : OptionRule := { name := "version", letter := some 'V' }
def jsonOption : OptionRule := { name := "json" }
def operationOption : OptionRule := { name := "operation-id", wanted := .text }
def payloadOption : OptionRule := { name := "payload", wanted := .path }

/-- Options that every command takes, before its name and after. -/
def sharedOptions : List OptionRule := [configOption, logLevelOption, helpOption]

def commandRules : List CommandRule :=
  [{ name := "check", options := [jsonOption], manyOperands := true },
   { name := "resolve"
     options :=
       [{ name := "definition", letter := some 'd', wanted := .text },
        { name := "output", wanted := .path }, { name := "pretty" }] },
   { name := "request", options := [operationOption, payloadOption, jsonOption] },
   { name := "response"
     options := [operationOption, { name := "status", wanted := .text }, payloadOption, jsonOption] },
   { name := "help", options := [], manyOperands := true, takesAllWords := true }]

/-- A command line part way. -/
structure Scan where
  command : Option CommandRule := none
  /-- Options before the name of the command. -/
  outer : Assoc String := []
  /-- Options after it. -/
  inner : Assoc String := []
  operands : List String := []
  /-- An option that waits for its value. -/
  pending : Option OptionRule := none
  /-- After two dashes alone all words are operands. -/
  literal : Bool := false

namespace Scan

def rules (scan : Scan) : List OptionRule :=
  match scan.command with
  | none => versionOption :: sharedOptions
  | some command => command.options ++ sharedOptions

/-- Gives an option its value; no option is given twice. -/
def store (scan : Scan) (rule : OptionRule) (value : String) : Except Stop Scan :=
  let table := if scan.command.isSome then scan.inner else scan.outer
  if Assoc.contains table rule.name then
    .error (.misuse ("the option '--" ++ rule.name ++ "' cannot be used more than once"))
  else if rule.wanted = .path ∧ value = "" then
    .error (.misuse ("the option '--" ++ rule.name ++ "' needs a value"))
  else
    let table := table ++ [(rule.name, value)]
    .ok (if scan.command.isSome then { scan with inner := table, pending := none }
      else { scan with outer := table, pending := none })

/-- An option that takes no value. -/
def raise (scan : Scan) (rule : OptionRule) : Except Stop Scan :=
  if rule = helpOption then .error .help
  else if rule = versionOption then .error .version
  else scan.store rule ""

def unknown (word : String) : Stop := .misuse ("unexpected argument '" ++ word ++ "'")

/-- A long option, perhaps with its value after an equals sign. -/
def long (scan : Scan) (word : String) (text : List Char) : Except Stop Scan :=
  let name := String.ofList (text.takeWhile (· ≠ '='))
  match scan.rules.find? (·.name == name), text.dropWhile (· ≠ '=') with
  | none, _ => .error (unknown word)
  | some rule, [] =>
      if rule.wanted = .nothing then scan.raise rule else .ok { scan with pending := some rule }
  | some rule, _ :: value =>
      if rule.wanted = .nothing then .error (unknown word)
      else scan.store rule (String.ofList value)

/-- A run of letters; the first that takes a value has the rest for it, if there is a rest. -/
def letters (scan : Scan) (word : String) : List Char → Except Stop Scan
  | [] => .ok scan
  | letter :: rest =>
      match scan.rules.find? (·.letter == some letter) with
      | none => .error (unknown word)
      | some rule =>
          if rule.wanted = .nothing then do letters (← scan.raise rule) word rest
          else match rest with
            | [] => .ok { scan with pending := some rule }
            | '=' :: value => scan.store rule (String.ofList value)
            | value => scan.store rule (String.ofList value)

def operand (scan : Scan) (word : String) : Except Stop Scan :=
  match scan.command with
  | some _ => .ok { scan with operands := scan.operands ++ [word] }
  | none =>
      match commandRules.find? (·.name == word) with
      | some command =>
          if scan.literal then .error (unknown word) else .ok { scan with command := some command }
      | none => .error (.misuse ("unrecognized subcommand '" ++ word ++ "'"))

def missingValue (rule : OptionRule) : Stop :=
  .misuse ("the option '--" ++ rule.name ++ "' needs a value")

/-- One word. A word that looks like an option is never the value of another. -/
def word (scan : Scan) (word : String) : Except Stop Scan :=
  if scan.literal || scan.command.any CommandRule.takesAllWords then scan.operand word
  else match word.toList, scan.pending with
    | '-' :: _ :: _, some rule => .error (missingValue rule)
    | ['-', '-'], none => .ok { scan with literal := true }
    | '-' :: '-' :: text, none => scan.long word text
    | '-' :: letter :: rest, none => scan.letters word (letter :: rest)
    | _, some rule => scan.store rule word
    | _, none => scan.operand word

def ofWords (words : List String) : Except Stop Scan := do
  let scan ← words.foldlM Scan.word {}
  match scan.pending with
  | some rule => throw (missingValue rule)
  | none => return scan

def has (scan : Scan) (name : String) : Bool := Assoc.contains scan.inner name

def value? (scan : Scan) (name : String) : Option String := Assoc.find? scan.inner name

def require (scan : Scan) (name : String) : Except Stop String :=
  match scan.value? name with
  | some value => .ok value
  | none => .error (.misuse ("the option '--" ++ name ++ "' is required"))

/-- An option of every command; what stands after the name of the command counts. -/
def shared? (scan : Scan) (name : String) : Option String :=
  scan.value? name <|> Assoc.find? scan.outer name

end Scan

inductive Command where
  | check (specs : List String) (json : Bool)
  | resolve (spec definition : String) (output : Option String) (pretty : Bool)
  | request (spec operation payload : String) (json : Bool)
  | response (spec operation status payload : String) (json : Bool)
deriving DecidableEq, Repr

structure Invocation where
  config : Option String
  command : Command
deriving DecidableEq, Repr

namespace Invocation

def oneOperand (scan : Scan) : Except Stop String :=
  match scan.operands with
  | [] => .error (.misuse "an operand is missing")
  | [operand] => .ok operand
  | _ :: extra :: _ => .error (Scan.unknown extra)

/-- Help may be asked for one command. -/
def helpFor : List String → Stop
  | [] => .help
  | [name] => if commandRules.any (·.name == name) then .help else Scan.unknown name
  | _ :: extra :: _ => Scan.unknown extra

def commandOf (scan : Scan) : Except Stop Command :=
  match scan.command.map (·.name) with
  | some "check" =>
      if scan.operands.isEmpty then .error (.misuse "an operand is missing")
      else .ok (.check scan.operands (scan.has "json"))
  | some "resolve" => do
      let spec ← oneOperand scan
      let definition ← scan.require "definition"
      return .resolve spec definition (scan.value? "output") (scan.has "pretty")
  | some "request" => do
      let spec ← oneOperand scan
      let operation ← scan.require "operation-id"
      let payload ← scan.require "payload"
      return .request spec operation payload (scan.has "json")
  | some "response" => do
      let spec ← oneOperand scan
      let operation ← scan.require "operation-id"
      let status ← scan.require "status"
      let payload ← scan.require "payload"
      return .response spec operation status payload (scan.has "json")
  | some _ => .error (helpFor scan.operands)
  | none => .error (.misuse "a subcommand is required")

def ofWords (words : List String) : Except Stop Invocation := do
  let scan ← Scan.ofWords words
  let command ← commandOf scan
  return { config := scan.shared? "config", command }

end Invocation

end ApiContract.CommandLine
