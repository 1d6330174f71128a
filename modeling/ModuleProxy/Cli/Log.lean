import ModuleProxy.Json.Value
import ModuleProxy.Text.Quoted

namespace ModuleProxy.Cli

inductive LogFormat where
  | text
  | json
  deriving DecidableEq, Repr

inductive LogLevel where
  | off
  | error
  | warn
  | info
  | debug
  | trace
  deriving DecidableEq, Repr

namespace LogLevel

def rank : LogLevel → Nat
  | .off => 0
  | .error => 1
  | .warn => 2
  | .info => 3
  | .debug => 4
  | .trace => 5

def label : LogLevel → String
  | .off => "OFF"
  | .error => "ERROR"
  | .warn => "WARN"
  | .info => "INFO"
  | .debug => "DEBUG"
  | .trace => "TRACE"

end LogLevel

structure LogEvent where
  level : LogLevel
  message : String
  fields : List (String × JsonValue)

namespace LogEvent

def levelColumn (level : LogLevel) : String :=
  String.ofList (List.replicate (5 - level.label.length) ' ') ++ level.label

def fieldText (field : String × JsonValue) : String :=
  field.1 ++ "=" ++ match field.2 with
    | .string text => Text.quote text
    | value => value.print

def line (e : LogEvent) : LogFormat → String
  | .text => String.intercalate " " (levelColumn e.level :: e.message :: e.fields.map fieldText)
  | .json =>
    (JsonValue.object [("level", .string e.level.label),
      ("fields", .object (("message", .string e.message) :: e.fields))]).print

end LogEvent

structure LogSettings where
  format : LogFormat := .text
  level : LogLevel := .info
  deriving DecidableEq, Repr

def LogSettings.line? (s : LogSettings) (e : LogEvent) : Option String :=
  if e.level.rank ≤ s.level.rank then some (e.line s.format) else none

end ModuleProxy.Cli
