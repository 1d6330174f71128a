import ModuleProxy.Cli.Option

namespace ModuleProxy.Cli

inductive UsageError where
  | missingCommand
  | unknownCommand (name : String)
  | unexpectedArgument (argument : String)
  | unexpectedValue (option value : String)
  | missingValue (option : String)
  | invalidValue (option value : String) (reason : Option String)
  | repeated (option : String)
  | conflict (option other : String)
  | missing (options : List String)
  deriving DecidableEq, Repr

namespace UsageError

def message : UsageError → String
  | .missingCommand => "a subcommand is required but one was not provided"
  | .unknownCommand name => "unrecognized subcommand '" ++ name ++ "'"
  | .unexpectedArgument argument => "unexpected argument '" ++ argument ++ "' found"
  | .unexpectedValue option value =>
    "unexpected value '" ++ value ++ "' for '" ++ option ++ "' found; no more were expected"
  | .missingValue option => "a value is required for '" ++ option ++ "' but none was supplied"
  | .invalidValue option value reason =>
    "invalid value '" ++ value ++ "' for '" ++ option ++ "'" ++ reason.elim "" (": " ++ ·)
  | .repeated option => "the argument '" ++ option ++ "' cannot be used multiple times"
  | .conflict option other =>
    "the argument '" ++ option ++ "' cannot be used with '" ++ other ++ "'"
  | .missing options =>
    "the following required arguments were not provided: " ++ String.intercalate "|" options

def ofRefusal (o : OptionSpec) (value : String) : Refusal → UsageError
  | .missing => .missingValue o.display
  | .invalid reason => .invalidValue o.display value reason

end UsageError

end ModuleProxy.Cli
