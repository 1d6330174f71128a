import ModuleProxy.Json.Parser
import ModuleProxy.ProxyError
import ModuleProxy.Text.Utf8

namespace ModuleProxy

structure ProxyConfig where
  controlId : Option String := none
  maxFrameSize : Nat := defaultFrameLimit
  pollIntervalMs : Nat := 100
  socketDir : Option String := none
  deriving DecidableEq, Repr

namespace ProxyConfig

def fieldNames : List String :=
  ["control_id", "max_frame_size", "poll_interval_ms", "socket_dir"]

def ofJson? (value : JsonValue) : Option ProxyConfig := do
  match ← value.fieldsOf? fieldNames with
  | [controlId, maxFrameSize, pollIntervalMs, socketDir] =>
    return {
      controlId := ← JsonValue.optionalText? controlId
      maxFrameSize := ← JsonValue.word64? defaultFrameLimit maxFrameSize
      pollIntervalMs := ← JsonValue.word64? 100 pollIntervalMs
      socketDir := ← JsonValue.optionalText? socketDir }
  | _ => none

def jsonOfText : Option String → JsonValue
  | none => .null
  | some text => .string text

def toJson (c : ProxyConfig) : JsonValue :=
  .object [("control_id", jsonOfText c.controlId), ("max_frame_size", .natural c.maxFrameSize),
    ("poll_interval_ms", .natural c.pollIntervalMs), ("socket_dir", jsonOfText c.socketDir)]

def validate (c : ProxyConfig) : Except ProxyError Unit :=
  if c.maxFrameSize < FrameKind.message.minSize then
    .error (.config ("max_frame_size must be at least " ++
      toString FrameKind.message.minSize ++ " bytes"))
  else if c.pollIntervalMs = 0 then
    .error (.config "poll_interval_ms must be greater than zero")
  else .ok ()

def parse (text : String) : Except ProxyError ProxyConfig := do
  match JsonValue.parse? text >>= ofJson? with
  | none => throw (.config "malformed config")
  | some c =>
    c.validate
    return c

def ofFile (path : String) (content : Except IoError Bytes) : Except ProxyError ProxyConfig :=
  match content with
  | .error e => .error (.config (path ++ ": " ++ e.text))
  | .ok bytes =>
    match Text.Utf8.decode? bytes with
    | none => .error (.config (path ++ ": stream did not contain valid UTF-8"))
    | some text =>
      match parse text with
      | .error (.config reason) => .error (.config (path ++ ": " ++ reason))
      | result => result

def pollIntervalNanos (c : ProxyConfig) : Nat :=
  c.pollIntervalMs * 1000000

def frameLimits (c : ProxyConfig) : FrameLimits :=
  { maxSize := c.maxFrameSize }

end ProxyConfig

end ModuleProxy
