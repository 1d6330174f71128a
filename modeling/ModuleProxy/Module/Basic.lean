import ModuleProxy.Channel.Basic
import ModuleProxy.Message.Format

namespace ModuleProxy

class Publisher (β ω : Type) where
  publishFrame : β → Bytes → ω → Except Cause Unit × ω

namespace Publisher

def publish {β ω : Type} [Publisher β ω] (broker : β) (m : Message) (w : ω) :
    Except ProxyError Unit × ω :=
  match m.encode with
  | .error e => (.error (.publishFailure (.format e)), w)
  | .ok frame =>
    match publishFrame broker frame w with
    | (.error cause, w) => (.error (.publishFailure cause), w)
    | (.ok (), w) => (.ok (), w)

instance {γ ω : Type} [Channels γ ω] : Publisher γ ω where
  publishFrame channel frame w :=
    ((Channels.send channel frame w).1.mapError .proxy, (Channels.send channel frame w).2)

end Publisher

class ProxiedModule (μ : Type) (β : outParam Type) (ω : Type) where
  create : μ → β → Bytes → ω → Except Cause Unit × μ × ω
  receive : μ → Message → ω → μ × ω
  destroy : μ → ω → μ × ω
  hasStart : μ → Bool
  start : μ → ω → μ × ω

end ModuleProxy
