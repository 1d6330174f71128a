import ModuleProxy.Address
import ModuleProxy.ProxyError

/-!
Channels carry whole frames both ways. A world `ω` opens channels and gives out handles `γ` on
them; all that happens on a channel goes through its handle.
-/

namespace ModuleProxy

inductive ChannelRole where
  | control
  | message
  deriving DecidableEq, Repr

def ChannelRole.name : ChannelRole → String
  | .control => "control"
  | .message => "message"

class Channels (γ ω : Type) where
  openChannel : ChannelRole → ChannelAddress → ω → Except ProxyError γ × ω
  send : γ → Bytes → ω → Except ProxyError Unit × ω
  recv : γ → ω → Except ProxyError (Option Bytes) × ω
  /-- No fewer than the frames that `recv` can give in a row. -/
  supply : γ → ω → Nat
  disconnect : γ → ω → ω

end ModuleProxy
