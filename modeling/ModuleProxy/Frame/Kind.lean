import ModuleProxy.Bytes

namespace ModuleProxy

def maxFrameSize : Nat := 0x7FFFFFFF

def defaultFrameLimit : Nat := 16 * 1024 * 1024

inductive FrameKind where
  | message
  | control
  deriving DecidableEq, Repr

namespace FrameKind

def name : FrameKind → String
  | .message => "message"
  | .control => "control"

def signature : FrameKind → Bytes
  | .message => [0xA1, 0x60]
  | .control => [0xA1, 0x6C]

def sizeOffset : FrameKind → Nat
  | .message => 2
  | .control => 4

def minSize : FrameKind → Nat
  | .message => 14
  | .control => 8

def ofBytes? : Bytes → Option FrameKind
  | 0xA1 :: 0x60 :: _ => some .message
  | 0xA1 :: 0x6C :: _ => some .control
  | _ => none

end FrameKind

end ModuleProxy
