import ModuleProxy.Frame.Body
import ModuleProxy.Frame.StreamError

namespace ModuleProxy

structure FrameCodec where
  limit : Nat := defaultFrameLimit
  deriving DecidableEq, Repr

namespace FrameCodec

def decode (codec : FrameCodec) (buffer : Bytes) : Except StreamError (Option RawFrame) × Bytes :=
  let (result, rest) := takeFrame buffer codec.limit
  (result.mapError .format, rest)

def decodeEnd (codec : FrameCodec) (buffer : Bytes) :
    Except StreamError (Option RawFrame) × Bytes :=
  match codec.decode buffer with
  | (.ok none, rest) => (if rest.isEmpty then .ok none else .error .closed, rest)
  | result => result

def encodeOnto (codec : FrameCodec) (buffer : Bytes) (size : Nat)
    (frame : Except FormatError Bytes) : Except StreamError Unit × Bytes :=
  match checkLimit codec.limit size with
  | .error e => (.error e, buffer)
  | .ok () =>
    match frame with
    | .error e => (.error (.format e), buffer)
    | .ok bytes => (.ok (), buffer ++ bytes)

def encodeMessage (codec : FrameCodec) (buffer : Bytes) (m : Message) :
    Except StreamError Unit × Bytes :=
  codec.encodeOnto buffer m.encodedSize m.encode

def encodeControl (codec : FrameCodec) (buffer : Bytes) (m : ControlMessage) :
    Except StreamError Unit × Bytes :=
  codec.encodeOnto buffer m.encodedSize m.encode

end FrameCodec

end ModuleProxy
