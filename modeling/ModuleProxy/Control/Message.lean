import ModuleProxy.Control.Create

/-!
Control messages and their wire form:

    A1 6C | version | type | total size | body

A create request has the body of `Create`, a reply one status byte, start and destroy nothing.
-/

namespace ModuleProxy

inductive ControlBody where
  | create (request : Create)
  | reply (status : ReplyStatus)
  | start
  | destroy
  deriving DecidableEq, Repr

namespace ControlBody

def kind : ControlBody → ControlKind
  | .create _ => .create
  | .reply _ => .reply
  | .start => .start
  | .destroy => .destroy

def encodedSize : ControlBody → Nat
  | .create request => request.encodedSize
  | .reply _ => 1
  | .start | .destroy => 0

def encode : ControlBody → Bytes
  | .create request => request.encode
  | .reply status => [status.code]
  | .start | .destroy => []

end ControlBody

structure ControlMessage where
  version : UInt8 := controlVersion
  body : ControlBody
  deriving DecidableEq, Repr

namespace ControlMessage

def header (m : ControlMessage) : ControlHeader :=
  ⟨m.version, m.body.kind.code⟩

def encodedSize (m : ControlMessage) : Nat :=
  FrameKind.control.minSize + m.body.encodedSize

def frame (m : ControlMessage) : Bytes :=
  m.header.encode ++ Bytes.be32 m.encodedSize ++ m.body.encode

def encode (m : ControlMessage) : Except FormatError Bytes :=
  if m.encodedSize > maxFrameSize then .error (.frameTooLarge m.encodedSize maxFrameSize)
  else .ok m.frame

def requireSize (bytes : Bytes) (minimum : Nat) : Except FormatError Unit :=
  if bytes.length < minimum then .error (.sizeBelowMinimum bytes.length minimum) else .ok ()

def readBody (bytes : Bytes) : ControlKind → Except FormatError ControlBody
  | .create => do
    requireSize bytes (FrameKind.control.minSize + 10)
    return .create (← Create.readBody bytes)
  | .reply => do
    match bytes.drop FrameKind.control.minSize with
    | [] => throw (.sizeBelowMinimum bytes.length (FrameKind.control.minSize + 1))
    | code :: _ => return .reply (← ReplyStatus.ofCode code)
  | .start => return .start
  | .destroy => return .destroy
  | .error =>
    throw (.unexpectedControlKind "create, reply, start or destroy" ControlKind.error.code)

def decode (bytes : Bytes) : Except FormatError ControlMessage := do
  requireSize bytes FrameKind.control.minSize
  let header ← ControlHeader.decode bytes
  unless header.version = controlVersion do
    throw (.unsupportedVersion header.version)
  checkDeclaredSize (← readControlSize bytes) bytes.length
  let body ← readBody bytes (← header.kind)
  return { version := header.version, body }

end ControlMessage

def replyFrame (status : ReplyStatus) : Bytes :=
  ControlMessage.frame { body := .reply status }

def createReply (succeeded : Bool) : Bytes :=
  replyFrame (if succeeded then .created else .createError)

end ModuleProxy
