import ModuleProxy.Control.Uri

namespace ModuleProxy

def messageVersion : UInt8 := 1

structure Create where
  messageVersion : UInt8 := ModuleProxy.messageVersion
  uri : ChannelUri
  args : Bytes
  deriving DecidableEq, Repr

namespace Create

def encodedSize (c : Create) : Nat :=
  1 + c.uri.encodedSize + 4 + c.args.length

def encode (c : Create) : Bytes :=
  c.messageVersion :: c.uri.encode ++ Bytes.be32 c.args.length ++ c.args

def readBody (bytes : Bytes) : Except FormatError Create := do
  let messageVersion ← match bytes.drop 8 with
    | [] => throw (.truncated "gateway message version" 1 0)
    | version :: _ => pure version
  let (uri, used) ← ChannelUri.decodeAt bytes 9
  let sizeAt := 9 + used
  let argsSize ← match bytes.int32At? sizeAt with
    | none => throw (.truncated "args length" 4 (bytes.length - sizeAt))
    | some size => pure size
  let rest := bytes.drop (sizeAt + 4)
  if argsSize < 0 then
    throw (.sizeMismatch argsSize rest.length)
  let args := rest.take argsSize.toNat
  unless args.length = argsSize.toNat do
    throw (.truncated "args" argsSize.toNat rest.length)
  return { messageVersion, uri, args }

end Create

def readControlSize (bytes : Bytes) : Except FormatError Int :=
  match bytes.int32At? FrameKind.control.sizeOffset with
  | none => .error (.truncated "total size" 4 (bytes.length - FrameKind.control.sizeOffset))
  | some size => .ok size

def checkDeclaredSize (declared : Int) (actual : Nat) : Except FormatError Unit :=
  if declared = actual then .ok () else .error (.sizeMismatch declared actual)

structure CreateFrame where
  header : ControlHeader
  body : Create
  deriving DecidableEq, Repr

namespace CreateFrame

/-- The declared size is compared last, so a fault in the body is reported before it. -/
def decode (bytes : Bytes) : Except FormatError CreateFrame := do
  let header ← ControlHeader.decode bytes
  unless header.code = ControlKind.create.code do
    throw (.unexpectedControlKind ControlKind.create.name header.code)
  let declared ← readControlSize bytes
  let body ← Create.readBody bytes
  checkDeclaredSize declared bytes.length
  return { header, body }

end CreateFrame

end ModuleProxy
