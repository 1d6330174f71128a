import ModuleProxy.Cli.Action
import ModuleProxy.Cli.Command
import ModuleProxy.Cli.ExitCode

namespace ModuleProxy.Cli

def versionNumber : String :=
  "0.1.0"

def versionLine : String :=
  "gateproxy " ++ versionNumber

abbrev Running := ExceptT CliError Action

namespace Running

def step {ε α : Type} (onError : ε → CliError) (act : (Except ε α → Action (Except ε α)) →
    Action (Except ε α)) : Running α :=
  ExceptT.mk do return (← act .done).mapError onError

def require {ε α : Type} (onError : ε → CliError) (result : Except ε α) : Running α :=
  ExceptT.mk (.done (result.mapError onError))

def readFile (path : String) : Running Bytes :=
  step (.ofIo ("failed reading " ++ path)) (.readFile path)

def writeFile (path : String) (content : Bytes) : Running Unit :=
  step (.ofIo ("failed writing " ++ path)) (.writeFile path content)

def print (output : Bytes) : Running Unit :=
  ExceptT.lift (.print output (.done ()))

def log (settings : LogSettings) (event : LogEvent) : Running Unit :=
  match settings.line? event with
  | none => pure ()
  | some line => ExceptT.lift (.tell line (.done ()))

end Running

def Payload.read : Payload → Running Bytes
  | .empty => pure []
  | .text content => pure (Text.Utf8.encode content)
  | .file path => Running.readFile path

def FrameTarget.write (frame : Bytes) : FrameTarget → Running Unit
  | .file path => Running.writeFile path frame
  | .hexText => Running.print (textLine (Text.Hex.encode frame))
  | .raw => Running.print frame

def readHex (bytes : Bytes) : Except CliError Bytes :=
  match Text.Utf8.decode? bytes with
  | none => .error ⟨.usage, "hex input is not valid text"⟩
  | some text =>
    (Text.Hex.decode text).mapError fun e => ⟨.invalidData, "invalid hex input: " ++ e.message⟩

def FrameSource.read (source : FrameSource) : Running Bytes := do
  let bytes ← match source.path with
    | some path => Running.readFile path
    | none => Running.step (.ofIo "failed reading stdin") .readInput
  if source.hex then Running.require id (readHex bytes) else return bytes

namespace ProxyOptions

def applyTo (o : ProxyOptions) (file : ProxyConfig) : ProxyConfig :=
  { file with
    controlId := o.controlId.or file.controlId
    socketDir := o.socketDir.or file.socketDir
    pollIntervalMs := o.pollIntervalMs.getD file.pollIntervalMs }

def readConfig (o : ProxyOptions) : Running ProxyConfig :=
  match o.config with
  | none => pure {}
  | some path => do
    let content ← ExceptT.lift (.readFile path .done)
    Running.require (.ofProxy "config") (ProxyConfig.ofFile path content)

def resolve (o : ProxyOptions) : Running ProxyConfig := do
  let config := o.applyTo (← o.readConfig)
  Running.require (.ofProxy "config") config.validate
  return config

def checkGuest (name : String) : Except CliError Unit :=
  match (Catalog.builtIn (β := Unit)).instantiate name with
  | .ok _ => .ok ()
  | .error e => .error ⟨.usage, e.message⟩

def run (o : ProxyOptions) (log : LogSettings) : Running Unit := do
  let config ← o.resolve
  match config.controlId with
  | none =>
    throw ⟨.usage, "no control channel: pass --control or set control_id in --config"⟩
  | some controlId =>
    Running.require id (checkGuest o.guest)
    Running.step (.ofProxy "attach failed") (.listen ⟨o.guest, controlId, config⟩)
    Running.log log ⟨.info, "proxy attached",
      [("control", .string controlId), ("module", .string o.guest)]⟩
    let outcome ← ExceptT.lift (.serve .done)
    let left ← ExceptT.lift (.leave .done)
    Running.require (.ofProxy "proxy loop failed") outcome
    Running.require (.ofProxy "detach failed") left

end ProxyOptions

def versionLines (extended : Bool) : List String :=
  if extended then
    ["name: gateproxy", "version: " ++ versionNumber, "build_target: unknown", "target_os: linux",
      "target_arch: x86_64", "git_hash: unknown",
      "protocol: control_version=" ++ toString controlVersion.toNat ++ ", max_frame_size=" ++
        toString defaultFrameLimit,
      "features: proxy=true, async=true, cli=true"]
  else [versionLine]

namespace Command

def encodeMessage (properties : List (String × String)) (content : Payload) (target : FrameTarget)
    (log : LogSettings) : Running Unit := do
  let content ← content.read
  let properties ← Running.require (.ofFormat "invalid property") (Properties.ofPairs properties)
  let m : Message := ⟨content, properties⟩
  let frame ← Running.require (.ofFormat "encode failed") m.encode
  Running.log log ⟨.debug, "message encoded",
    [("frame_size", .natural frame.length), ("properties", .natural properties.size)]⟩
  target.write frame

def createRequest (uri : String) (args : Payload) (target : FrameTarget) : Running Unit := do
  let uri ← Running.require (.ofFormat "invalid --uri") (ChannelUri.ofText uri)
  let args ← args.read
  let m : ControlMessage := { body := .create { uri, args } }
  target.write (← Running.require (.ofFormat "encode failed") m.encode)

def run (log : LogSettings) (format : OutputFormat) : Command → Running Unit
  | .encode properties content target => encodeMessage properties content target log
  | .decode source => do
    let m ← Running.require (.ofFormat "decode failed") (Message.decode (← source.read))
    Running.print (MessageReport.render m format)
  | .reply created target => target.write (createReply created)
  | .detach target => target.write (replyFrame .detach)
  | .create uri args target => createRequest uri args target
  | .inspect source => do
    let frame ← source.read
    let m ← Running.require (.ofFormat "inspect failed") (ControlMessage.decode frame)
    Running.print (ControlReport.render m frame format)
  | .proxy options => options.run log
  | .version extended => Running.print ((versionLines extended).flatMap textLine)

end Command

structure Start where
  words : List String
  environment : List (String × String) := []
  terminal : Bool := false
  deriving DecidableEq, Repr

namespace Start

def defaultFormat (s : Start) : OutputFormat :=
  if s.terminal then .table else .json

def run (s : Start) : Action ExitCode :=
  match Invocation.parse s.environment s.words with
  | .error (.help text) => .print (textLine text) (.done .success)
  | .error .version => .print (textLine versionLine) (.done .success)
  | .error (.misuse e) => .tell ("error: " ++ e.message) (.done .misuse)
  | .ok invocation => do
    let format := invocation.format.getD s.defaultFormat
    match ← (invocation.command.run invocation.log format).run with
    | .ok () => return .success
    | .error e => .tell ("error: " ++ e.text) (.done e.code)

end Start

end ModuleProxy.Cli
