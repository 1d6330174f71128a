import ModuleProxy.Cli.Arguments
import ModuleProxy.Cli.Log
import ModuleProxy.Cli.Report
import ModuleProxy.Text.Path

namespace ModuleProxy.Cli

class Choice (α : Type) where
  words : List (String × α)

instance : Choice OutputFormat :=
  ⟨[("json", .json), ("table", .table), ("pretty", .pretty), ("raw", .raw)]⟩

instance : Choice LogFormat :=
  ⟨[("text", .text), ("json", .json)]⟩

instance : Choice LogLevel :=
  ⟨[("off", .off), ("error", .error), ("warn", .warn), ("info", .info), ("debug", .debug),
    ("trace", .trace)]⟩

namespace Choice

variable {α : Type} [Choice α]

def ofWord? (word : String) : Option α :=
  words.lookup word

def kind (α : Type) [Choice α] : ValueKind :=
  .choice ((words (α := α)).map (·.1))

end Choice

namespace CommandLine

def sharedOptions : List OptionSpec :=
  [{ name := "format", value := some ("FORMAT", Choice.kind OutputFormat),
     envName := some "GATEPROXY_FORMAT" },
   { name := "log-format", value := some ("FORMAT", Choice.kind LogFormat),
     envName := some "GATEPROXY_LOG_FORMAT" },
   { name := "log-level", value := some ("LEVEL", Choice.kind LogLevel),
     envName := some "GATEPROXY_LOG_LEVEL" }]

def inner (name summary : String) (options : List OptionSpec) : CommandSpec where
  name := name
  summary := summary
  options := options ++ sharedOptions ++ [CommandSpec.helpOption]

def outputOptions : List OptionSpec :=
  [{ name := "out", letter := some 'o', value := some ("FILE", .path), excludes := ["hex"] },
   { name := "hex" }]

def hexInput : OptionSpec where
  name := "hex"

def inputFile : OptionSpec where
  name := "INPUT"
  value := some ("FILE", .path)
  bare := true

def encode : CommandSpec :=
  inner "encode" "Encode a message frame from properties and content" <|
    [{ name := "property", letter := some 'p', value := some ("KEY=VALUE", .pair),
       repeats := true },
     { name := "content", value := some ("CONTENT", .text), excludes := ["content-file"] },
     { name := "content-file", value := some ("FILE", .path) }] ++ outputOptions

def decode : CommandSpec :=
  { inner "decode" "Decode a message frame and print it" [hexInput] with input := some inputFile }

def reply : CommandSpec :=
  { inner "reply" "Encode a create reply" <|
      [{ name := "created", excludes := ["failed"] }, { name := "failed" }] ++ outputOptions with
    needs := [["created", "failed"]] }

def detach : CommandSpec :=
  inner "detach" "Encode the detach notification" outputOptions

def create : CommandSpec :=
  { inner "create" "Encode a create request" <|
      [{ name := "uri", value := some ("URI", .text) },
       { name := "args", value := some ("ARGS", .text), excludes := ["args-file"] },
       { name := "args-file", value := some ("FILE", .path) }] ++ outputOptions with
    needs := [["uri"]] }

def inspect : CommandSpec :=
  { inner "inspect" "Decode a control frame and print it" [hexInput] with input := some inputFile }

def control : CommandSpec :=
  { inner "control" "Build or inspect control frames" [] with
    commands := [reply, detach, create, inspect] }

def proxy : CommandSpec :=
  inner "proxy" "Host a built-in module for a remote gateway"
    [{ name := "control", value := some ("CONTROL", .text),
       envName := some "GATEPROXY_CONTROL_ID" },
     { name := "module", value := some ("MODULE", .text) },
     { name := "config", value := some ("FILE", .path), envName := some "GATEPROXY_CONFIG" },
     { name := "socket-dir", value := some ("DIR", .path),
       envName := some "GATEPROXY_SOCKET_DIR" },
     { name := "poll-interval-ms", value := some ("MS", .word64) }]

def version : CommandSpec :=
  inner "version" "Show version information" [{ name := "extended" }]

def program : CommandSpec where
  name := "gateproxy"
  summary := "Gateway message codec and module proxy"
  options := sharedOptions ++ [CommandSpec.helpOption, CommandSpec.versionOption]
  commands := [encode, decode, control, proxy, version]

end CommandLine

inductive Payload where
  | empty
  | text (text : String)
  | file (path : String)
  deriving DecidableEq, Repr

inductive FrameTarget where
  | file (path : String)
  | hexText
  | raw
  deriving DecidableEq, Repr

structure FrameSource where
  path : Option String
  hex : Bool
  deriving DecidableEq, Repr

structure ProxyOptions where
  controlId : Option String
  guest : String
  config : Option String
  socketDir : Option String
  pollIntervalMs : Option Nat
  deriving DecidableEq, Repr

inductive Command where
  | encode (properties : List (String × String)) (content : Payload) (target : FrameTarget)
  | decode (source : FrameSource)
  | reply (created : Bool) (target : FrameTarget)
  | detach (target : FrameTarget)
  | create (uri : String) (args : Payload) (target : FrameTarget)
  | inspect (source : FrameSource)
  | proxy (options : ProxyOptions)
  | version (extended : Bool)
  deriving DecidableEq, Repr

structure Invocation where
  format : Option OutputFormat
  log : LogSettings
  command : Command
  deriving DecidableEq, Repr

namespace Arguments

def payload (a : Arguments) (text file : String) : Payload :=
  match a.value? text, a.value? file with
  | some text, _ => .text text
  | none, some path => .file path
  | none, none => .empty

def target (a : Arguments) : FrameTarget :=
  match a.value? "out" with
  | some path => .file path
  | none => if a.has "hex" then .hexText else .raw

def source (a : Arguments) : FrameSource where
  path := (a.value? CommandLine.inputFile.name).filter fun path => !Text.Path.same path "-"
  hex := a.has "hex"

def proxyOptions (a : Arguments) : ProxyOptions where
  controlId := a.value? "control"
  guest := (a.value? "module").getD "logger"
  config := a.value? "config"
  socketDir := a.value? "socket-dir"
  pollIntervalMs := (a.value? "poll-interval-ms").bind fun text => (readWord64 text).toOption

def command? (a : Arguments) : Option Command :=
  match a.path with
  | ["encode"] =>
    some (.encode ((a.values "property").filterMap fun text => (readPair text).toOption)
      (a.payload "content" "content-file") a.target)
  | ["decode"] => some (.decode a.source)
  | ["control", "reply"] => some (.reply (a.has "created") a.target)
  | ["control", "detach"] => some (.detach a.target)
  | ["control", "create"] =>
    some (.create ((a.value? "uri").getD "") (a.payload "args" "args-file") a.target)
  | ["control", "inspect"] => some (.inspect a.source)
  | ["proxy"] => some (.proxy a.proxyOptions)
  | ["version"] => some (.version (a.has "extended"))
  | _ => none

def choice? {α : Type} [Choice α] (a : Arguments) (name : String) : Option α :=
  (a.value? name).bind Choice.ofWord?

def logSettings (a : Arguments) : LogSettings where
  format := (a.choice? "log-format").getD .text
  level := (a.choice? "log-level").getD .info

end Arguments

def Invocation.parse (environment : List (String × String)) (words : List String) :
    Except Stop Invocation := do
  let a ← Arguments.parse CommandLine.program environment words
  match a.command? with
  | some command => return { format := a.choice? "format", log := a.logSettings, command }
  | none => throw (.misuse .missingCommand)

end ModuleProxy.Cli
