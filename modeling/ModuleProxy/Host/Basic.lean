import ModuleProxy.Host.Registry
import ModuleProxy.Module.Catalog

namespace ModuleProxy

class NativeBroker (ω : Type) where
  publish : (broker : UInt64) → (source : ModuleId) → Bytes → ω → Except Cause Unit × ω

structure NativeHandle where
  broker : UInt64
  source : ModuleId
  deriving DecidableEq, Repr

instance {ω : Type} [NativeBroker ω] : Publisher NativeHandle ω where
  publishFrame h := NativeBroker.publish h.broker h.source

inductive Delivery where
  | delivered
  | unknownModule
  deriving DecidableEq, Repr

structure ModuleHost (μ : Type) where
  modules : Registry μ := {}

namespace ModuleHost

variable {μ ω : Type} [ProxiedModule μ NativeHandle ω]

def destroy (h : ModuleHost μ) (id : ModuleId) (w : ω) : Delivery × ModuleHost μ × ω :=
  match h.modules.get? id with
  | none => (.unknownModule, h, w)
  | some guest =>
    (.delivered, { h with modules := h.modules.erase id }, (ProxiedModule.destroy guest w).2)

def create (h : ModuleHost μ) (id : ModuleId) (broker : UInt64)
    (load : ω → Except Cause μ × ω) (args : Bytes) (w : ω) :
    Except ProxyError Unit × ModuleHost μ × ω :=
  let (_, h, w) := h.destroy id w
  match load w with
  | (.error cause, w) => (.error (.moduleCreate cause), h, w)
  | (.ok guest, w) =>
    match ProxiedModule.create guest ⟨broker, id⟩ args w with
    | (.error cause, _, w) => (.error (.moduleCreate cause), h, w)
    | (.ok (), guest, w) => (.ok (), { h with modules := h.modules.insertWithId id guest }, w)

def receive (h : ModuleHost μ) (id : ModuleId) (frame : Bytes) (w : ω) :
    Except ProxyError Delivery × ModuleHost μ × ω :=
  match h.modules.get? id with
  | none => (.ok .unknownModule, h, w)
  | some guest =>
    match Message.decode frame with
    | .error e => (.error (.format e), h, w)
    | .ok m =>
      let (guest, w) := ProxiedModule.receive guest m w
      (.ok .delivered, { h with modules := h.modules.insertWithId id guest }, w)

def start (h : ModuleHost μ) (id : ModuleId) (w : ω) : Delivery × ModuleHost μ × ω :=
  match h.modules.get? id with
  | none => (.unknownModule, h, w)
  | some guest =>
    if ProxiedModule.hasStart ω guest then
      let (guest, w) := ProxiedModule.start guest w
      (.delivered, { h with modules := h.modules.insertWithId id guest }, w)
    else (.delivered, h, w)

def loadNamed (catalog : Catalog μ) (name : String) (w : ω) : Except Cause μ × ω :=
  ((catalog.instantiate name).mapError .proxy, w)

end ModuleHost

end ModuleProxy
