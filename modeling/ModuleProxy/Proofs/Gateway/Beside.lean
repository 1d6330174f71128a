import ModuleProxy.Proofs.Gateway.Brokers
import ModuleProxy.Proofs.Socket.Spares

namespace ModuleProxy

open Sandbox

variable {μ : Type} {Good : μ → Prop} {control : SocketHandle} {g : Gateway μ SocketHandle}
  {w w' : Sandbox} {c : SocketChannel}

structure Beside (Good : μ → Prop) (control : SocketHandle) (g : Gateway μ SocketHandle) :
    Prop where
  control_eq : g.control = some control
  messages_ne : ∀ messages, g.messages = some messages → messages ≠ control
  good : Good g.guest

theorem Beside.with_guest (h : Beside Good control g) {guest : μ} (hgood : Good guest) :
    Beside Good control { g with guest } :=
  ⟨h.control_eq, h.messages_ne, hgood⟩

variable [ProxiedModule μ SocketHandle Sandbox]

section

variable (hmodule : Confined μ (Spares control) (· ≠ control) Good)
include hmodule

theorem Beside.destroy (h : Beside Good control g) (w : Sandbox) :
    Beside Good control (g.destroy w).1 ∧ Spares control w (g.destroy w).2 := by
  unfold Gateway.destroy
  split
  · obtain ⟨hgood, hspares⟩ := hmodule.destroy h.good w
    cases hmessages : g.messages with
    | none => exact ⟨⟨h.control_eq, nofun, hgood⟩, hspares⟩
    | some messages =>
      exact ⟨⟨h.control_eq, nofun, hgood⟩,
        hspares.trans (spares_disconnect (h.messages_ne messages hmessages) _)⟩
  · exact ⟨h, .refl control w⟩

theorem Beside.start (h : Beside Good control g) (w : Sandbox) :
    Beside Good control (g.start w).1 ∧ Spares control w (g.start w).2 := by
  unfold Gateway.start
  split
  · obtain ⟨hgood, hspares⟩ := hmodule.start h.good w
    exact ⟨h.with_guest hgood, hspares⟩
  · exact ⟨h, .refl control w⟩

theorem Beside.createGuest (h : Beside Good control g) (hlistens : Listens control w)
    (request : Create) :
    Beside Good control (g.createGuest request w).2.1 ∧
      Spares control w (g.createGuest request w).2.2 := by
  obtain ⟨c, _, hc, _⟩ := hlistens
  unfold Gateway.createGuest Gateway.openAt
  cases ChannelAddress.parse request.uri.text with
  | error e => exact ⟨h, .refl control w⟩
  | ok address =>
    obtain ⟨hspares, hne⟩ := spares_openChannel hc .message address
    dsimp only
    split <;> rename_i hopen <;> rw [hopen] at hspares hne
    · exact ⟨h, hspares⟩
    · rename_i messages w'
      have hother : messages ≠ control := fun heq => hne (congrArg Except.ok heq)
      split <;> rename_i hcreate <;>
        obtain ⟨hgood, hchange⟩ := hmodule.of_create h.good hother hcreate
      · refine ⟨⟨h.control_eq, ?_, hgood⟩, hspares.trans hchange⟩
        rintro _ ⟨⟩
        exact hother
      · exact ⟨h.with_guest hgood, (hspares.trans hchange).trans (spares_disconnect hother _)⟩

theorem Beside.deliver (room supply : Nat) (h : Beside Good control g) {messages : SocketHandle}
    (hne : messages ≠ control) (stats : PollStats) (w : Sandbox) :
    (∃ stats', (g.deliver room supply messages stats w).1 = .ok stats') ∧
      Beside Good control (g.deliver room supply messages stats w).2.1 ∧
      Spares control w (g.deliver room supply messages stats w).2.2 := by
  have hheard : ∀ {w w' : Sandbox} {result : Except ProxyError (Option Bytes)},
      Channels.recv messages w = (result, w') → Spares control w w' := by
    intro w w' result hrecv
    have hspares := spares_recv hne w
    rwa [hrecv] at hspares
  fun_induction Gateway.deliver room supply g messages stats w with
  | case1 | case2 => exact ⟨⟨_, rfl⟩, h, .refl control _⟩
  | case3 g stats w room supply w' hrecv | case4 g stats w room supply reason w' hrecv
  | case5 g stats w room supply e w' hrecv => exact ⟨⟨_, rfl⟩, h, hheard hrecv⟩
  | case6 g stats w room supply e w' hdisconnected hstream hrecv =>
    obtain ⟨e', rfl⟩ | ⟨_, reason, rfl⟩ := recv_error (congrArg Prod.fst hrecv)
    · exact absurd rfl (hstream e')
    · exact absurd rfl (hdisconnected reason)
  | case7 g stats w room supply frame w' hrecv e hdecode ih =>
    obtain ⟨hok, hkept, hspares⟩ := ih h
    exact ⟨hok, hkept, (hheard hrecv).trans hspares⟩
  | case8 g stats w room supply frame w' hrecv m hdecode guest w'' hreceive ih =>
    obtain ⟨hgood, hchange⟩ := hmodule.of_receive h.good hreceive
    obtain ⟨hok, hkept, hspares⟩ := ih (h.with_guest hgood)
    exact ⟨hok, hkept, ((hheard hrecv).trans hchange).trans hspares⟩

theorem Beside.drain (h : Beside Good control g) (stats : PollStats) (w : Sandbox) :
    (∃ stats', (g.drain stats w).1 = .ok stats') ∧
      Beside Good control (g.drain stats w).2.1 ∧ Spares control w (g.drain stats w).2.2 := by
  unfold Gateway.drain
  split
  · exact ⟨⟨stats, rfl⟩, h, .refl control w⟩
  · rename_i messages hmessages
    exact h.deliver hmodule _ _ (h.messages_ne messages hmessages) stats w

end

/-- A reply cannot be written: the peer has hung up, or no reply fits into a frame. The peer is let
go, and the channel listens for another. -/
def ReplyLost (control : SocketHandle) (w : Sandbox) (e : ProxyError) (after : Sandbox) : Prop :=
  ∃ succeeded w' c peer, Spares control w w' ∧
    Channels.send control (createReply succeeded) w' = (.error e, after) ∧
    (∃ e', e = .stream e') ∧
    w'.channel? control = some c ∧ c.connection = some peer ∧
    (w'.hub.system.isSevered peer.stream = true ∨
      c.limits.maxSize < (createReply succeeded).length) ∧
    after.channel? control = some { c with connection := none }

theorem ReplyLost.of_spares {e : ProxyError} {after : Sandbox} (hw : Spares control w w')
    (h : ReplyLost control w' e after) : ReplyLost control w e after := by
  obtain ⟨succeeded, w'', c, peer, hspares, hrest⟩ := h
  exact ⟨succeeded, w'', c, peer, hw.trans hspares, hrest⟩

def Hears (control : SocketHandle) (w : Sandbox) : Prop :=
  ∃ c listener peer, w.channel? control = some c ∧ c.listener = some listener ∧
    c.connection = some peer

theorem Hears.spares (h : Hears control w) (hw : Spares control w w') : Hears control w' := by
  obtain ⟨c, listener, peer, hc, hrest⟩ := h
  exact ⟨c, listener, peer, Eq.trans hw hc, hrest⟩

theorem Hears.listens (h : Hears control w) : Listens control w := by
  obtain ⟨c, listener, _, hc, hlistener, _⟩ := h
  exact ⟨c, listener, hc, hlistener⟩

omit [ProxiedModule μ SocketHandle Sandbox] in
theorem Hears.reply (h : Hears control w) (hcontrol : g.control = some control)
    (succeeded : Bool) :
    Listens control (g.reply succeeded w).2 ∧ ((g.reply succeeded w).1 = .ok () ∨
      ∃ e, (g.reply succeeded w).1 = .error e ∧ ReplyLost control w e (g.reply succeeded w).2) := by
  obtain ⟨c, listener, peer, hc, hlistener, hpeer⟩ := h
  obtain ⟨hresult, hafter⟩ := send_of_channel hc (createReply succeeded)
  have hdeliver := SocketChannel.send_of_connected hlistener hpeer (createReply succeeded)
    w.hub.system
  simp only [Gateway.reply, hcontrol]
  refine ⟨⟨_, listener, hafter, (c.listener_send _ _).trans hlistener⟩, ?_⟩
  rw [hdeliver] at hresult hafter
  cases hsent : (Channels.send control (createReply succeeded) w).1 with
  | ok => exact .inl rfl
  | error e =>
    rw [hsent] at hresult
    obtain ⟨hstream, hdropped, hcause⟩ := SocketChannel.deliver_error hresult.symm
    rw [hdropped, SocketChannel.dropConnection_of_some hpeer] at hafter
    exact .inr ⟨e, rfl, succeeded, w, c, peer, .refl control w, Prod.ext hsent rfl, hstream, hc,
      hpeer, hcause.symm, hafter⟩

section

variable (hmodule : Confined μ (Spares control) (· ≠ control) Good)
include hmodule

theorem Beside.create (h : Beside Good control g) (hhears : Hears control w) (frame : Bytes) :
    Beside Good control (g.create frame w).2.1 ∧ Listens control (g.create frame w).2.2 ∧
      ((g.create frame w).1 = .ok () ∨ ∃ e, (g.create frame w).1 = .error e ∧
        ReplyLost control w e (g.create frame w).2.2) := by
  unfold Gateway.create
  split
  · exact ⟨h, hhears.reply h.control_eq false⟩
  · rename_i request _
    obtain ⟨hdestroyed, hspares⟩ := h.destroy hmodule w
    obtain ⟨hcreated, hspares'⟩ :=
      hdestroyed.createGuest hmodule (hhears.spares hspares).listens request
    obtain ⟨hlistens, hreply⟩ := ((hhears.spares hspares).spares hspares').reply hcreated.control_eq
      ((g.destroy w).1.createGuest request (g.destroy w).2).1
    refine ⟨hcreated, hlistens, hreply.imp_right ?_⟩
    rintro ⟨e, herror, hlost⟩
    exact ⟨e, herror, hlost.of_spares (hspares.trans hspares')⟩

theorem Beside.handle (h : Beside Good control g) (hhears : Hears control w) (frame : Bytes) :
    Beside Good control (g.handle frame w).2.1 ∧ Listens control (g.handle frame w).2.2 ∧
      ((g.handle frame w).1 = .ok () ∨ (∃ e, (g.handle frame w).1 = .error (.format e)) ∨
        ∃ e header, (g.handle frame w).1 = .error e ∧ ControlHeader.decode frame = .ok header ∧
          header.kind = .ok .create ∧ ReplyLost control w e (g.handle frame w).2.2) := by
  unfold Gateway.handle
  simp only [h.control_eq]
  cases hheader : ControlHeader.decode frame with
  | error e => exact ⟨h, hhears.listens, .inr (.inl ⟨e, rfl⟩)⟩
  | ok header =>
    dsimp only
    split
    · rename_i hkind
      obtain ⟨hkept, hlistens, hresult⟩ := h.create hmodule hhears frame
      refine ⟨hkept, hlistens, hresult.imp_right fun ⟨e, herror, hlost⟩ => .inr ?_⟩
      exact ⟨e, header, herror, rfl, hkind, hlost⟩
    · obtain ⟨hkept, hspares⟩ := h.start hmodule w
      exact ⟨hkept, (hhears.spares hspares).listens, .inl rfl⟩
    · obtain ⟨hkept, hspares⟩ := h.destroy hmodule w
      exact ⟨hkept, (hhears.spares hspares).listens, .inl rfl⟩
    all_goals exact ⟨h, hhears.listens, .inl rfl⟩

theorem Beside.poll (h : Beside Good control g) (hlistens : Listens control w) :
    Beside Good control (g.poll w).2.1 ∧ Listens control (g.poll w).2.2 ∧
      ((∃ stats, (g.poll w).1 = .ok stats) ∨ ∃ e frame header w', (g.poll w).1 = .error e ∧
        Channels.recv control w = (.ok (some frame), w') ∧
        ControlHeader.decode frame = .ok header ∧ header.kind = .ok .create ∧
        ReplyLost control w' e (g.poll w).2.2) := by
  obtain ⟨c, listener, hc, hlistener⟩ := hlistens
  obtain ⟨hresult, hafter⟩ := recv_of_channel hc
  rcases hrecv : Channels.recv control w with ⟨result, w'⟩
  rw [hrecv] at hresult hafter
  have hlistens' : Listens control w' :=
    ⟨_, listener, hafter, (c.listener_recv _ 0).trans hlistener⟩
  have hdrain : ∀ {g' : Gateway μ SocketHandle} {w'' : Sandbox}, Beside Good control g' →
      Listens control w'' → ∀ stats,
      (∃ stats', (g'.drain stats w'').1 = .ok stats') ∧
        Beside Good control (g'.drain stats w'').2.1 ∧
        Listens control (g'.drain stats w'').2.2 := by
    intro g' w'' hkept hlistens stats
    obtain ⟨hok, hkept', hspares⟩ := hkept.drain hmodule stats w''
    exact ⟨hok, hkept', hspares.listens hlistens⟩
  unfold Gateway.poll
  simp only [h.control_eq, hrecv]
  match result with
  | .error e =>
    -- a channel that listens fails on a stream only, and that is passed over
    obtain ⟨e', rfl⟩ | ⟨hclosed, _⟩ := recv_error (congrArg Prod.fst hrecv)
    · obtain ⟨hok, hkept, hlistens⟩ := hdrain h hlistens' { discarded := 1 }
      exact ⟨hkept, hlistens, .inl hok⟩
    · exact absurd ⟨c, listener, hc, hlistener⟩ hclosed
  | .ok none =>
    obtain ⟨hok, hkept, hlistens⟩ := hdrain h hlistens' {}
    exact ⟨hkept, hlistens, .inl hok⟩
  | .ok (some frame) =>
    obtain ⟨peer, hpeer⟩ := SocketChannel.recv_some hresult.symm
    have hhears : Hears control w' :=
      ⟨_, listener, peer, hafter, (c.listener_recv _ 0).trans hlistener, hpeer⟩
    obtain ⟨hkept, hlistens, hhandled⟩ := h.handle hmodule hhears frame
    dsimp only
    rcases hhandle : g.handle frame w' with ⟨handled, g', w''⟩
    rw [hhandle] at hkept hlistens hhandled
    simp only [Gateway.pollControl, hhandle]
    obtain rfl | ⟨e, rfl⟩ | ⟨e, header, rfl, hheader, hkind, hlost⟩ := hhandled
    · obtain ⟨hok, hkept', hlistens'⟩ := hdrain hkept hlistens { controlFrames := 1 }
      exact ⟨hkept', hlistens', .inl hok⟩
    · obtain ⟨hok, hkept', hlistens'⟩ :=
        hdrain hkept hlistens { controlFrames := 1, discarded := 1 }
      exact ⟨hkept', hlistens', .inl hok⟩
    · obtain ⟨succeeded, _, _, _, _, _, ⟨e', rfl⟩, _⟩ := id hlost
      exact ⟨hkept, hlistens, .inr ⟨_, frame, header, w', rfl, rfl, hheader, hkind, hlost⟩⟩

theorem Beside.actAll (h : Beside Good control g) (hlistens : Listens control w)
    {steps : List (GatewayStep Sandbox)}
    (hsteps : ∀ step ∈ steps, step = .poll ∨
      ∃ change, step = .elsewhere change ∧ ∀ w, Spares control w (change w)) :
    Beside Good control (GatewayStep.actAll steps g w).1 ∧
      Listens control (GatewayStep.actAll steps g w).2 := by
  induction steps generalizing g w with
  | nil => exact ⟨h, hlistens⟩
  | cons step steps ih =>
    obtain ⟨hstep, hrest⟩ := List.forall_mem_cons.mp hsteps
    obtain rfl | ⟨change, rfl, hspares⟩ := hstep
    · obtain ⟨hkept, hlistens', _⟩ := h.poll hmodule hlistens
      exact ih hkept hlistens' hrest
    · exact ih h ((hspares w).listens hlistens) hrest

end

end ModuleProxy
