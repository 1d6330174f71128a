import ModuleProxy.Cli.UsageError

/-!
Command lines, read against the commands and options that a program has.

A command line is read word by word. The value that follows an option is looked at only when the
next option comes, or the words end: an unknown option is found before a wrong value in front of
it. The words behind the name of a command belong to that command, and what is wrong there is
found first. Environment variables stand in for options that the words of a command leave out.
-/

namespace ModuleProxy.Cli

structure CommandSpec where
  name : String
  summary : String
  options : List OptionSpec
  input : Option OptionSpec := none
  needs : List (List String) := []
  commands : List CommandSpec := []

structure Setting where
  name : String
  value : String
  explicit : Bool
  deriving DecidableEq, Repr

structure Arguments where
  path : List String
  settings : List Setting
  deriving DecidableEq, Repr

namespace Arguments

def has (a : Arguments) (name : String) : Bool :=
  a.settings.any (·.name == name)

def value? (a : Arguments) (name : String) : Option String :=
  let settings := a.settings.filter (·.name == name)
  ((settings.find? (·.explicit)).or settings.head?).map (·.value)

def values (a : Arguments) (name : String) : List String :=
  (a.settings.filter (·.name == name)).map (·.value)

end Arguments

inductive Stop where
  | help (text : String)
  | version
  | misuse (error : UsageError)
  deriving DecidableEq, Repr

namespace CommandSpec

def helpOption : OptionSpec where
  name := "help"
  letter := some 'h'

def versionOption : OptionSpec where
  name := "version"
  letter := some 'V'

def option? (c : CommandSpec) (name : String) : Option OptionSpec :=
  c.options.find? (·.name == name)

def letter? (c : CommandSpec) (letter : Char) : Option OptionSpec :=
  c.options.find? (·.letter == some letter)

def command? (c : CommandSpec) (name : String) : Option CommandSpec :=
  c.commands.find? (·.name == name)

def optionLine (o : OptionSpec) : String :=
  "  " ++ (o.letter.elim "    " fun letter => "-" ++ letter.toString ++ ", ") ++ o.display

def help (c : CommandSpec) : String :=
  let usage := "Usage: " ++ c.name ++ " [OPTIONS]" ++
    (c.input.elim "" fun o => " " ++ o.display) ++
    (if c.commands.isEmpty then "" else " <COMMAND>")
  let commands := c.commands.map fun inner => "  " ++ inner.name ++ "  " ++ inner.summary
  String.intercalate "\n" ([c.summary, "", usage] ++
    (if commands.isEmpty then [] else "" :: "Commands:" :: commands) ++
    "" :: "Options:" :: c.options.map optionLine)

def helpOn (c : CommandSpec) : List String → Stop
  | [] => .help c.help
  | name :: names =>
    match c.command? name with
    | some inner => inner.helpOn names
    | none => .misuse (.unknownCommand name)

end CommandSpec

/-- The last option read, as long as its value has not been looked at or has not come. -/
structure Pending where
  option : OptionSpec
  value : Option String

structure Scan where
  command : CommandSpec
  settings : List Setting := []
  pending : Option Pending := none
  hasInput : Bool := false

namespace Scan

def has (s : Scan) (name : String) : Bool :=
  s.settings.any (·.name == name)

def record (s : Scan) (o : OptionSpec) (value : String) (explicit : Bool) : Except Stop Scan :=
  if o = CommandSpec.helpOption then .error (.help s.command.help)
  else if o = CommandSpec.versionOption then .error .version
  else if s.has o.name && !o.repeats then .error (.misuse (.repeated o.display))
  else
    match o.check value with
    | .error refusal => .error (.misuse (.ofRefusal o value refusal))
    | .ok () => .ok { s with settings := s.settings ++ [⟨o.name, value, explicit⟩] }

def settle (s : Scan) : Except Stop Scan :=
  match s.pending with
  | none => .ok s
  | some ⟨o, none⟩ => .error (.misuse (.missingValue o.display))
  | some ⟨o, some value⟩ => { s with pending := none }.record o value true

def takeOption (s : Scan) (o : OptionSpec) (value : Option String) : Except Stop Scan := do
  match o.value, value with
  | none, some value => throw (.misuse (.unexpectedValue o.display value))
  | none, none => (← s.settle).record o "" true
  | some _, some value => (← s.settle).record o value true
  | some _, none => return { ← s.settle with pending := some ⟨o, none⟩ }

def takeName (s : Scan) (name : String) (value : Option String) : Except Stop Scan :=
  match s.command.option? name with
  | none => .error (.misuse (.unexpectedArgument ("--" ++ name)))
  | some o => s.takeOption o value

def takeLetters (s : Scan) : List Char → Except Stop Scan
  | [] => .ok s
  | letter :: rest =>
    match s.command.letter? letter with
    | none => .error (.misuse (.unexpectedArgument ("-" ++ letter.toString)))
    | some o =>
      if o.value.isSome then
        match rest with
        | [] => s.takeOption o none
        | '=' :: value => s.takeOption o (some (String.ofList value))
        | value => s.takeOption o (some (String.ofList value))
      else
        match s.takeOption o none with
        | .error stop => .error stop
        | .ok s => s.takeLetters rest

def takeInput (s : Scan) (word : String) : Except Stop Scan := do
  match s.command.input with
  | some o =>
    if s.hasInput then throw (.misuse (.unexpectedArgument word))
    return { ← s.settle with pending := some ⟨o, some word⟩, hasInput := true }
  | none =>
    if s.command.commands.isEmpty then throw (.misuse (.unexpectedArgument word))
    throw (.misuse (.unknownCommand word))

def takeVariable (environment : List (String × String)) (s : Scan) (o : OptionSpec) :
    Except Stop Scan :=
  if s.has o.name then .ok s
  else
    match o.envName.bind fun name => environment.lookup name with
    | none => .ok s
    | some value => s.record o value false

def conflict? (s : Scan) : Option (OptionSpec × String) :=
  (s.command.options.filter fun o => s.has o.name).findSome? fun o =>
    (o.excludes.find? s.has).map fun other => (o, other)

def finish (environment : List (String × String)) (s : Scan) (inner : Option Arguments) :
    Except Stop Arguments := do
  let s ← s.settle
  let s ← s.command.options.foldlM (takeVariable environment) s
  if inner.isNone && !s.command.commands.isEmpty then throw (.misuse .missingCommand)
  if let some (o, other) := s.conflict? then throw (.misuse (.conflict o.display ("--" ++ other)))
  if let some group := s.command.needs.find? fun group => !group.any s.has then
    throw (.misuse (.missing (group.map ("--" ++ ·))))
  return ⟨inner.elim [] (·.path), inner.elim [] (·.settings) ++ s.settings⟩

end Scan

inductive Word where
  | barrier
  | name (name : String) (value : Option String)
  | letters (letters : List Char)
  | plain (text : String)
  deriving DecidableEq, Repr

def Word.ofString (text : String) : Word :=
  match text.toList with
  | ['-', '-'] => .barrier
  | '-' :: '-' :: rest =>
    let name := String.ofList (rest.takeWhile (· != '='))
    match rest.dropWhile (· != '=') with
    | [] => .name name none
    | _ :: value => .name name (some (String.ofList value))
  | '-' :: letter :: rest => .letters (letter :: rest)
  | _ => .plain text

namespace Arguments

def scan (environment : List (String × String)) (s : Scan) : List String → Except Stop Arguments
  | [] => s.finish environment none
  | word :: rest =>
    match Word.ofString word with
    | .barrier => do (← rest.foldlM Scan.takeInput s).finish environment none
    | .name name value => do scan environment (← s.takeName name value) rest
    | .letters letters => do scan environment (← s.takeLetters letters) rest
    | .plain text =>
      match s.pending with
      | some ⟨o, none⟩ => scan environment { s with pending := some ⟨o, some text⟩ } rest
      | _ =>
        match s.command.command? text with
        | some inner => do
          let found ← scan environment { command := inner } rest
          s.finish environment (some { found with path := inner.name :: found.path })
        | none => do
          if text = "help" && !s.command.commands.isEmpty then throw (s.command.helpOn rest)
          scan environment (← s.takeInput text) rest

def parse (program : CommandSpec) (environment : List (String × String)) (words : List String) :
    Except Stop Arguments :=
  scan environment { command := program } words

end Arguments

end ModuleProxy.Cli
