import ModuleProxy.Proofs.Channel.Ages
import ModuleProxy.Proofs.Module.Confined
import ModuleProxy.Proofs.Socket.Channel

namespace ModuleProxy

namespace SocketHub

inductive Use : SocketHub → SocketHub → Prop where
  | openChannel (role : ChannelRole) (address : ChannelAddress) (hub : SocketHub) :
    Use hub (hub.openChannel role address).2
  | send (h : SocketHandle) (frame : Bytes) (hub : SocketHub) :
    Use hub (Channels.send h frame hub).2
  | recv (h : SocketHandle) (hub : SocketHub) : Use hub (Channels.recv h hub).2
  | disconnect (h : SocketHandle) (hub : SocketHub) : Use hub (Channels.disconnect h hub)
  | system (system : SocketSystem) (hub : SocketHub) : Use hub { hub with system }
  | configure (base : Option String) (limits : FrameLimits) (hub : SocketHub) :
    Use hub { hub with base, limits }

def IsClosedChannel (c : SocketChannel) : Prop :=
  c.listener = none

theorem ages_onChannel {α : Type} (hub : SocketHub) (h : SocketHandle)
    {operation : SocketChannel → SocketSystem → Except ProxyError α × SocketChannel × SocketSystem}
    (hkept : ∀ c s, IsClosedChannel c → IsClosedChannel (operation c s).2.1) :
    Ages IsClosedChannel hub.channels (hub.onChannel h operation).2.channels := by
  unfold onChannel
  split
  · exact .refl _ _
  · rename_i c hc
    have hclosed := hkept c hub.system
    intro i c' hc'
    dsimp only
    rw [Array.getElem?_setIfInBounds]
    split
    · rename_i heq
      subst heq
      rw [hc] at hc'
      cases hc'
      rw [if_pos (Array.getElem?_eq_some_iff.mp hc).1]
      exact ⟨_, rfl, hclosed⟩
    · exact ⟨c', hc', id⟩

theorem ages_openChannel (hub : SocketHub) (role : ChannelRole) (address : ChannelAddress) :
    Ages IsClosedChannel hub.channels (hub.openChannel role address).2.channels := by
  unfold openChannel
  split
  · exact .refl _ _
  · dsimp only [add]
    rw [Array.push_eq_append]
    exact .append _ _

theorem Use.ages {hub hub' : SocketHub} (h : Use hub hub') :
    Ages IsClosedChannel hub.channels hub'.channels := by
  cases h with
  | openChannel role address => exact hub.ages_openChannel role address
  | send handle frame =>
    exact hub.ages_onChannel handle fun c s hnone => (c.listener_send frame s).trans hnone
  | recv handle => exact hub.ages_onChannel handle fun c s hnone => (c.listener_recv s 0).trans hnone
  | disconnect handle => exact hub.ages_onChannel handle fun c s _ => rfl
  | system s => exact .refl _ _
  | configure base limits => exact .refl _ _

theorem ages_of_uses {hub hub' : SocketHub} (h : Relation.ReflTransGen Use hub hub') :
    Ages IsClosedChannel hub.channels hub'.channels :=
  .of_reflTransGen (f := SocketHub.channels) Use.ages h

theorem index_openChannel {hub hub' : SocketHub} {role : ChannelRole} {address : ChannelAddress}
    {h : SocketHandle} (hopen : hub.openChannel role address = (.ok h, hub')) :
    h.index = hub.channels.size ∧ hub'.channels.size = hub.channels.size + 1 := by
  unfold openChannel at hopen
  split at hopen
  · cases hopen
  · cases hopen
    exact ⟨rfl, Array.size_push _⟩

theorem closedAt_disconnect {hub : SocketHub} {h : SocketHandle}
    (hlt : h.index < hub.channels.size) :
    ClosedAt IsClosedChannel (Channels.disconnect h hub).channels h.index := by
  refine ⟨(hub.channels[h.index].disconnect hub.system).1, ?_, rfl⟩
  simp [Channels.disconnect, onChannel, hlt]

theorem send_of_closedAt {hub : SocketHub} {h : SocketHandle}
    (hclosed : ClosedAt IsClosedChannel hub.channels h.index) (frame : Bytes) :
    ∃ e, Channels.send h frame hub = (.error e, hub) := by
  obtain ⟨c, hc, hnone⟩ := hclosed
  have hsame : hub.channels.setIfInBounds h.index c = hub.channels := by
    obtain ⟨hlt, rfl⟩ := Array.getElem?_eq_some_iff.mp hc
    rw [Array.setIfInBounds, dif_pos hlt, Array.set_getElem_self]
  refine ⟨c.closedError, ?_⟩
  simp only [Channels.send, onChannel, hc, c.send_of_listener_eq_none hnone, hsame]

end SocketHub

def Sandbox.Uses : Sandbox → Sandbox → Prop :=
  Within MemoryNetwork.Use SocketHub.Use

theorem Sandbox.Uses.trans {w w' w'' : Sandbox} (h : w.Uses w') (h' : w'.Uses w'') : w.Uses w'' :=
  Within.trans h h'

class Closable (γ : Type) [Channels γ Sandbox] where
  Has : γ → Sandbox → Prop
  HasClosed : γ → Sandbox → Prop
  has_of_hasClosed : ∀ {c w}, HasClosed c w → Has c w
  has_open : ∀ {role address w c w'},
    Channels.openChannel role address w = (.ok c, w') → Has c w' ∧ ¬Has c w
  hasClosed_disconnect : ∀ {c w}, Has c w → HasClosed c (Channels.disconnect c w)
  send_of_hasClosed : ∀ {c w}, HasClosed c w → ∀ frame,
    ∃ e, Channels.send c frame w = (.error e, w)
  has_of_uses : ∀ {c w w'}, Sandbox.Uses w w' → Has c w → Has c w'
  hasClosed_of_uses : ∀ {c w w'}, Sandbox.Uses w w' → HasClosed c w → HasClosed c w'
  uses_open : ∀ role address w, Sandbox.Uses w (Channels.openChannel (γ := γ) role address w).2
  uses_send : ∀ (c : γ) frame w, Sandbox.Uses w (Channels.send c frame w).2
  uses_recv : ∀ (c : γ) w, Sandbox.Uses w (Channels.recv c w).2
  uses_disconnect : ∀ (c : γ) w, Sandbox.Uses w (Channels.disconnect c w)

namespace Closable

variable {γ : Type} [Channels γ Sandbox] [Closable γ] {w w' : Sandbox}

theorem uses_of_open {role : ChannelRole} {address : ChannelAddress} {result : Except ProxyError γ}
    (h : Channels.openChannel role address w = (result, w')) : w.Uses w' := by
  have huses := uses_open (γ := γ) role address w
  rwa [h] at huses

theorem uses_of_send {c : γ} {frame : Bytes} {result : Except ProxyError Unit}
    (h : Channels.send c frame w = (result, w')) : w.Uses w' := by
  have huses := uses_send c frame w
  rwa [h] at huses

theorem uses_of_recv {c : γ} {result : Except ProxyError (Option Bytes)}
    (h : Channels.recv c w = (result, w')) : w.Uses w' := by
  have huses := uses_recv c w
  rwa [h] at huses

end Closable

instance : Closable MemoryHandle where
  Has c w := c.index < w.memory.ends.size
  HasClosed c w := ClosedAt MemoryNetwork.IsClosedEnd w.memory.ends c.index
  has_of_hasClosed := by
    rintro c w ⟨e, he, _⟩
    exact (Array.getElem?_eq_some_iff.mp he).1
  has_open := by
    intro role address w c w' hopen
    cases hopen
    have hsize := w.memory.size_openChannel role address
    refine ⟨?_, Nat.lt_irrefl _⟩
    change w.memory.ends.size < (w.memory.openChannel role address).2.ends.size
    omega
  hasClosed_disconnect := MemoryNetwork.closedAt_disconnect
  send_of_hasClosed := by
    intro c w hclosed frame
    have hsend := MemoryNetwork.send_of_closedAt hclosed frame
    refine ⟨MemoryNetwork.closedError, ?_⟩
    simp only [Channels.send, Sandbox.onMemory, hsend]
  has_of_uses h := (MemoryNetwork.ages_of_uses h.memory).lt_size
  hasClosed_of_uses h := (MemoryNetwork.ages_of_uses h.memory).closedAt
  uses_open role address w := ⟨.single (.openChannel role address w.memory), .refl⟩
  uses_send c frame w := ⟨.single (.send c frame w.memory), .refl⟩
  uses_recv c w := ⟨.single (.recv c w.memory), .refl⟩
  uses_disconnect c w := ⟨.single (.disconnect c w.memory), .refl⟩

instance : Closable SocketHandle where
  Has c w := c.index < w.hub.channels.size
  HasClosed c w := ClosedAt SocketHub.IsClosedChannel w.hub.channels c.index
  has_of_hasClosed := by
    rintro c w ⟨e, he, _⟩
    exact (Array.getElem?_eq_some_iff.mp he).1
  has_open := by
    intro role address w c w' hopen
    have hhub : w.hub.openChannel role address = (.ok c, w'.hub) := by
      obtain ⟨hresult, rfl⟩ := Prod.mk.inj hopen
      exact Prod.ext hresult rfl
    obtain ⟨hindex, hsize⟩ := SocketHub.index_openChannel hhub
    exact ⟨by omega, by omega⟩
  hasClosed_disconnect := SocketHub.closedAt_disconnect
  send_of_hasClosed := by
    intro c w hclosed frame
    obtain ⟨e, hsend⟩ := SocketHub.send_of_closedAt hclosed frame
    refine ⟨e, ?_⟩
    simp only [Channels.send, Sandbox.onHub] at hsend ⊢
    rw [hsend]
  has_of_uses h := (SocketHub.ages_of_uses h.hub).lt_size
  hasClosed_of_uses h := (SocketHub.ages_of_uses h.hub).closedAt
  uses_open role address w := ⟨.refl, .single (.openChannel role address w.hub)⟩
  uses_send c frame w := ⟨.refl, .single (.send c frame w.hub)⟩
  uses_recv c w := ⟨.refl, .single (.recv c w.hub)⟩
  uses_disconnect c w := ⟨.refl, .single (.disconnect c w.hub)⟩

end ModuleProxy
