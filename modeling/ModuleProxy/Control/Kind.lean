import ModuleProxy.FormatError

namespace ModuleProxy

def controlVersion : UInt8 := 1

inductive ControlKind where
  | error
  | create
  | reply
  | start
  | destroy
  deriving DecidableEq, Repr

namespace ControlKind

def code : ControlKind → UInt8
  | .error => 0
  | .create => 1
  | .reply => 2
  | .start => 3
  | .destroy => 4

def name : ControlKind → String
  | .error => "error"
  | .create => "create"
  | .reply => "reply"
  | .start => "start"
  | .destroy => "destroy"

def ofCode : UInt8 → Except FormatError ControlKind
  | 0 => .ok .error
  | 1 => .ok .create
  | 2 => .ok .reply
  | 3 => .ok .start
  | 4 => .ok .destroy
  | code => .error (.unknownControlKind code)

theorem ofCode_code (kind : ControlKind) : ofCode kind.code = .ok kind := by
  cases kind <;> rfl

end ControlKind

inductive ReplyStatus where
  | detach
  | created
  | createError
  | moduleCreationError
  deriving DecidableEq, Repr

namespace ReplyStatus

def code : ReplyStatus → UInt8
  | .detach => 0xFF
  | .created => 0
  | .createError => 1
  | .moduleCreationError => 2

def name : ReplyStatus → String
  | .detach => "detach"
  | .created => "created"
  | .createError => "create-error"
  | .moduleCreationError => "module-creation-error"

def ofCode : UInt8 → Except FormatError ReplyStatus
  | 0xFF => .ok .detach
  | 0 => .ok .created
  | 1 => .ok .createError
  | 2 => .ok .moduleCreationError
  | code => .error (.unknownReplyStatus code)

theorem ofCode_code (status : ReplyStatus) : ofCode status.code = .ok status := by
  cases status <;> rfl

end ReplyStatus

structure ControlHeader where
  version : UInt8
  code : UInt8
  deriving DecidableEq, Repr

namespace ControlHeader

def ofKind (kind : ControlKind) : ControlHeader :=
  ⟨controlVersion, kind.code⟩

def kind (h : ControlHeader) : Except FormatError ControlKind :=
  ControlKind.ofCode h.code

def encode (h : ControlHeader) : Bytes :=
  FrameKind.control.signature ++ [h.version, h.code]

def signatureFits (bytes : Bytes) : Bool :=
  (bytes.zip FrameKind.control.signature).all fun pair => pair.1 == pair.2

/-- A wrong signature is reported even where the bytes are too few for a header. -/
def decode (bytes : Bytes) : Except FormatError ControlHeader :=
  if !signatureFits bytes then .error (.wrongSignature .control)
  else match bytes with
    | _ :: _ :: version :: code :: _ => .ok ⟨version, code⟩
    | _ => .error (.truncated "control header" 4 bytes.length)

end ControlHeader

end ModuleProxy
