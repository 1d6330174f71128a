import ModuleProxy.Proofs.Socket.Serving

namespace ModuleProxy

namespace Sandbox

def channel? (w : Sandbox) (h : SocketHandle) : Option SocketChannel :=
  w.hub.channels[h.index]?

/-- A change that leaves this channel alone; what it does to all else, to the sockets too, is
free. -/
def Spares (h : SocketHandle) (w w' : Sandbox) : Prop :=
  w'.channel? h = w.channel? h

def Listens (h : SocketHandle) (w : Sandbox) : Prop :=
  ∃ c listener, w.channel? h = some c ∧ c.listener = some listener

variable {h h' : SocketHandle} {w w' w'' : Sandbox} {c : SocketChannel}

theorem Spares.refl (h : SocketHandle) (w : Sandbox) : Spares h w w := rfl

theorem Spares.trans (hw : Spares h w w') (hw' : Spares h w' w'') : Spares h w w'' :=
  Eq.trans hw' hw

theorem Spares.listens (hw : Spares h w w') (hlistens : Listens h w) : Listens h w' := by
  obtain ⟨c, listener, hc, hlistener⟩ := hlistens
  exact ⟨c, listener, Eq.trans hw hc, hlistener⟩

theorem spares_onChannel {α : Type} (hne : h' ≠ h) (w : Sandbox)
    (operation : SocketChannel → SocketSystem →
      Except ProxyError α × SocketChannel × SocketSystem) :
    Spares h w { w with hub := (w.hub.onChannel h' operation).2 } := by
  have hindex : h'.index ≠ h.index := fun heq => hne (congrArg SocketHandle.mk heq)
  unfold Spares channel? SocketHub.onChannel
  dsimp only
  split
  · rfl
  · exact Array.getElem?_setIfInBounds_ne hindex

theorem spares_send (hne : h' ≠ h) (frame : Bytes) (w : Sandbox) :
    Spares h w (Channels.send h' frame w).2 :=
  spares_onChannel hne w _

theorem spares_recv (hne : h' ≠ h) (w : Sandbox) : Spares h w (Channels.recv h' w).2 :=
  spares_onChannel hne w _

theorem spares_disconnect (hne : h' ≠ h) (w : Sandbox) : Spares h w (Channels.disconnect h' w) :=
  spares_onChannel (α := Unit) hne w _

theorem spares_openChannel (hc : w.channel? h = some c) (role : ChannelRole)
    (address : ChannelAddress) :
    Spares h w (Channels.openChannel (γ := SocketHandle) role address w).2 ∧
      (Channels.openChannel role address w).1 ≠ .ok h := by
  have hlt : h.index < w.hub.channels.size := (Array.getElem?_eq_some_iff.mp hc).1
  change Spares h w { w with hub := (w.hub.openChannel role address).2 } ∧
    (w.hub.openChannel role address).1 ≠ .ok h
  unfold SocketHub.openChannel
  split
  · exact ⟨rfl, nofun⟩
  · constructor
    · exact (Array.getElem?_push_lt hlt).trans (Array.getElem?_eq_getElem hlt).symm
    · intro heq
      injection heq with heq
      exact absurd hlt (by simp [← heq])

theorem onChannel_of_channel {α : Type} (hc : w.channel? h = some c)
    (operation : SocketChannel → SocketSystem →
      Except ProxyError α × SocketChannel × SocketSystem) :
    let after := onHub (fun hub => hub.onChannel h operation) w
    after.1 = (operation c w.hub.system).1 ∧
      after.2.channel? h = some (operation c w.hub.system).2.1 ∧
      after.2.hub.system = (operation c w.hub.system).2.2 := by
  obtain ⟨hlt, rfl⟩ := Array.getElem?_eq_some_iff.mp hc
  simp [onHub, SocketHub.onChannel, channel?, hlt]

theorem recv_of_channel (hc : w.channel? h = some c) :
    (Channels.recv h w).1 = (c.recv w.hub.system).1 ∧
      (Channels.recv h w).2.channel? h = some (c.recv w.hub.system).2.1 :=
  have hafter := onChannel_of_channel hc SocketChannel.recv
  ⟨hafter.1, hafter.2.1⟩

theorem send_of_channel (hc : w.channel? h = some c) (frame : Bytes) :
    (Channels.send h frame w).1 = (c.send frame w.hub.system).1 ∧
      (Channels.send h frame w).2.channel? h = some (c.send frame w.hub.system).2.1 :=
  have hafter := onChannel_of_channel hc fun c s => c.send frame s
  ⟨hafter.1, hafter.2.1⟩

theorem recv_error {e : ProxyError} (herror : (Channels.recv h w).1 = .error e) :
    (∃ e', e = .stream e') ∨ ¬Listens h w ∧ ∃ reason, e = .disconnected reason := by
  cases hc : w.channel? h with
  | none =>
    refine .inr ⟨fun ⟨c, _, hsome, _⟩ => by simp [hc] at hsome, ?_⟩
    have hnone : w.hub.channels[h.index]? = none := hc
    simp only [Channels.recv, onHub, SocketHub.onChannel, hnone] at herror
    cases herror
    exact ⟨_, rfl⟩
  | some c =>
    rw [(recv_of_channel hc).1] at herror
    refine (SocketChannel.recv_error herror).imp_right ?_
    rintro ⟨hclosed, rfl⟩
    refine ⟨?_, _, rfl⟩
    rintro ⟨c', listener, hsome, hlistener⟩
    cases hc.symm.trans hsome
    rw [hclosed] at hlistener
    cases hlistener

end Sandbox

end ModuleProxy
