import ModuleProxy.Message.Basic
import ModuleProxy.ProxyError

namespace ModuleProxy

inductive EventDetail where
  | none
  | bytes (bytes : Bytes)
  | message (message : Message)
  | error (error : ProxyError)

structure Event where
  name : String
  subject : String
  detail : EventDetail := .none

class Journal (ω : Type) where
  log : Event → ω → ω
  requestStop : ω → ω

end ModuleProxy
