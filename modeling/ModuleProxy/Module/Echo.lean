import ModuleProxy.Module.Basic

namespace ModuleProxy

structure Echo (β : Type) where
  broker : Option β := none

namespace Echo

variable {β ω : Type} [Publisher β ω]

def create (_ : Echo β) (broker : β) : Echo β :=
  ⟨some broker⟩

def receive (e : Echo β) (m : Message) (w : ω) : ω :=
  match e.broker with
  | none => w
  | some broker => (Publisher.publish broker m w).2

end Echo

end ModuleProxy
