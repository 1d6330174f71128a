import ModuleProxy.Frame.Split
import ModuleProxy.Message.Format
import ModuleProxy.Control.Message

namespace ModuleProxy.RawFrame

def message (f : RawFrame) : Except FormatError Message :=
  if f.kind = .message then Message.decode f.bytes else .error (.wrongSignature .message)

def control (f : RawFrame) : Except FormatError ControlMessage :=
  ControlMessage.decode f.bytes

end ModuleProxy.RawFrame
