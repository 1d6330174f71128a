import ModuleProxy.Proofs.Frame.Exchange
import ModuleProxy.Proofs.Gateway.Beside

/-!
What those who connect to a gateway on sockets can do to its loop. Streams that cannot be read,
frames that mean nothing and peers that hang up are passed over, but for one: a peer that asks for a
module and is gone before the reply ends the round with an error. The control channel listens again
even then.
-/

namespace ModuleProxy

open Sandbox

variable {μ : Type} {Good : μ → Prop} {control : SocketHandle} {g : Gateway μ SocketHandle}
  {w w' : Sandbox} {c : SocketChannel}

variable [ProxiedModule μ SocketHandle Sandbox]

omit [ProxiedModule μ SocketHandle Sandbox] in
theorem listens_of_attach {guest : μ} {config : ProxyConfig} {id : String}
    (hattach : ({ guest, config } : Gateway μ SocketHandle).attach id w = (.ok (), g, w')) :
    ∃ control, g = { guest, config, state := .attached, control := some control } ∧
      Listens control w' := by
  unfold Gateway.attach Gateway.openAt at hattach
  dsimp only at hattach
  cases hparse : ChannelAddress.parse id with
  | error e =>
    rw [hparse] at hattach
    cases hattach
  | ok address =>
    rw [hparse] at hattach
    dsimp only at hattach
    split at hattach <;> cases hattach
    rename_i control hopen
    refine ⟨control, rfl, ?_⟩
    obtain ⟨hresult, rfl⟩ := Prod.mk.inj hopen
    change (w.hub.openChannel .control address).1 = _ at hresult
    change ∃ c listener,
      (w.hub.openChannel .control address).2.channels[control.index]? = some c ∧ _
    unfold SocketHub.openChannel at hresult ⊢
    split at hresult <;> cases hresult
    rename_i c system hbind
    obtain ⟨_, listener, rfl, _⟩ := SocketChannel.of_bind hbind
    exact ⟨_, listener, Array.getElem?_push_size, rfl⟩

/-- Whatever others do to sockets between the rounds, and whatever they write: a round goes well,
unless one who asked for a module has hung up before the reply, or no reply fits into a frame. The
control channel is kept and listens in either case. -/
theorem rounds_go_on {guest : μ} {config : ProxyConfig} {id : String}
    (hattach : ({ guest, config } : Gateway μ SocketHandle).attach id w = (.ok (), g, w'))
    (hcontrol : g.control = some control)
    (hmodule : Confined μ (Spares control) (· ≠ control) Good) (hgood : Good guest)
    {steps : List (GatewayStep Sandbox)}
    (hsteps : ∀ step ∈ steps, step = .poll ∨
      ∃ change, step = .elsewhere change ∧ ∀ w, Spares control w (change w)) :
    let now := GatewayStep.actAll steps g w'
    let round := now.1.poll now.2
    round.2.1.control = some control ∧ Listens control round.2.2 ∧
      ((∃ stats, round.1 = .ok stats) ∨ ∃ e frame header heard, round.1 = .error e ∧
        Channels.recv control now.2 = (.ok (some frame), heard) ∧
        ControlHeader.decode frame = .ok header ∧ header.kind = .ok .create ∧
        ReplyLost control heard e round.2.2) := by
  intro now round
  obtain ⟨control', rfl, hlistens⟩ := listens_of_attach hattach
  cases hcontrol
  have hbeside : Beside Good control
      { guest, config, state := .attached, control := some control } := ⟨rfl, nofun, hgood⟩
  obtain ⟨hkept, hlistens'⟩ := hbeside.actAll hmodule hlistens hsteps
  obtain ⟨hkept', hround⟩ := hkept.poll hmodule hlistens'
  exact ⟨hkept'.control_eq, hround⟩

theorem Guest.confined_spares (control : SocketHandle) :
    Confined (Guest SocketHandle) (Spares control) (· ≠ control) (Holds (· ≠ control)) :=
  Guest.confined
    { refl := .refl control
      trans := .trans
      setFiles := fun _ _ => rfl
      log := fun _ _ => rfl
      requestStop := fun _ => rfl
      publish := fun hne frame w => spares_send hne frame w }

def moduleRequest : Create :=
  { uri := ⟨ChannelUri.pairType, "ipc://m.sock"⟩, args := [] }

def requestFrame : Bytes :=
  ControlMessage.frame { body := .create moduleRequest }

def hurriedPeer : List (GatewayStep Sandbox) :=
  [.elsewhere fun w => { w with hub.system := (w.hub.system.connect "c.sock").2 },
    .elsewhere fun w => { w with hub.system := (w.hub.system.write requestFrame 0).2 },
    .elsewhere fun w => { w with hub.system := w.hub.system.close 0 }]

theorem hurriedPeer_spares (control : SocketHandle) : ∀ step ∈ hurriedPeer, step = .poll ∨
    ∃ change, step = .elsewhere change ∧ ∀ w, Spares control w (change w) := by
  intro step hstep
  simp only [hurriedPeer, List.mem_cons, List.not_mem_nil, or_false] at hstep
  obtain rfl | rfl | rfl := hstep <;> exact .inr ⟨_, rfl, fun _ => rfl⟩

def waitingEcho : Gateway (Guest SocketHandle) SocketHandle × Sandbox :=
  (({ guest := .echo {} } : Gateway (Guest SocketHandle) SocketHandle).attach "c.sock" {}).2

theorem rounds_go_on_hurriedPeer :
    let now := GatewayStep.actAll hurriedPeer waitingEcho.1 waitingEcho.2
    let round := now.1.poll now.2
    round.2.1.control = some ⟨0⟩ ∧ Listens ⟨0⟩ round.2.2 ∧
      ((∃ stats, round.1 = .ok stats) ∨ ∃ e frame header heard, round.1 = .error e ∧
        Channels.recv (⟨0⟩ : SocketHandle) now.2 = (.ok (some frame), heard) ∧
        ControlHeader.decode frame = .ok header ∧ header.kind = .ok .create ∧
        ReplyLost ⟨0⟩ heard e round.2.2) := by
  have hattach : ({ guest := .echo {} } : Gateway (Guest SocketHandle) SocketHandle).attach "c.sock"
      {} = (.ok (), waitingEcho.1, waitingEcho.2) := rfl
  have hround := rounds_go_on hattach rfl (Guest.confined_spares ⟨0⟩) (by simp [Guest.Holds])
    (hurriedPeer_spares ⟨0⟩)
  exact hround

def visitedSystem (waiting : List StreamId) : SocketSystem where
  files := ⟨[(["c.sock"], .socket 0 SocketSystem.defaultMode)]⟩
  ends := #[{ holders := 0 }, { incoming := ⟨requestFrame.toArray, 0⟩ }]
  listeners := #[{ path := "c.sock", waiting }]

def visitedWorld : Sandbox :=
  { waitingEcho.2 with
    hub.system := ((visitedSystem []).read FrameReader.readSize 1).2
    hub.channels := #[{ role := .control, listener := some 0, connection := some ⟨1, {}⟩ }] }

theorem recv_hurriedPeer :
    Channels.recv (⟨0⟩ : SocketHandle)
      (GatewayStep.actAll hurriedPeer waitingEcho.1 waitingEcho.2).2 =
        (.ok (some requestFrame), visitedWorld) := by
  have hsystem : (GatewayStep.actAll hurriedPeer waitingEcho.1 waitingEcho.2).2.hub.system =
      visitedSystem [1] := rfl
  have hchannel : (GatewayStep.actAll hurriedPeer waitingEcho.1 waitingEcho.2).2.hub.channels[0]? =
      some { role := .control, listener := some 0 } := rfl
  have haccept : (visitedSystem [1]).accept? 0 = (some 1, visitedSystem []) := rfl
  have hread : ((visitedSystem []).read FrameReader.readSize 1).1 = .ok requestFrame := rfl
  have hsize : (WireItem.control { body := .create moduleRequest }).encodedSize ≤
      min ({} : FrameLimits).maxSize maxFrameSize := by decide
  have hsplit := WireItem.splitFrame_frame hsize
  have hrecv := SocketChannel.recv_of_waiting (c := { role := .control, listener := some 0 }) rfl
    rfl haccept rfl rfl hread (by decide) hsplit
  simp only [Channels.recv, onHub, SocketHub.onChannel, hchannel, hsystem, hrecv]
  rfl

theorem handle_hurriedPeer :
    (waitingEcho.1.handle requestFrame visitedWorld).1 = .error (.stream (.io .brokenPipe)) := by
  have hcontrol : waitingEcho.1.control = some ⟨0⟩ := rfl
  have hheader : ControlHeader.decode requestFrame = .ok (.ofKind .create) := rfl
  have hkind : (ControlHeader.ofKind .create).kind = .ok .create := rfl
  have hrequest : Gateway.readRequest? requestFrame = some moduleRequest := rfl
  have hdestroy : waitingEcho.1.destroy visitedWorld = (waitingEcho.1, visitedWorld) := rfl
  have hsucceeded : (waitingEcho.1.createGuest moduleRequest visitedWorld).1 = true := rfl
  have hchannel : (waitingEcho.1.createGuest moduleRequest visitedWorld).2.2.channel? ⟨0⟩ =
      some { role := .control, listener := some 0, connection := some ⟨1, {}⟩ } := rfl
  have hsevered : SocketSystem.isSevered
      (waitingEcho.1.createGuest moduleRequest visitedWorld).2.2.hub.system 1 = true := rfl
  have hsend := (send_of_channel hchannel (createReply true)).1
  rw [SocketChannel.send_of_connected rfl rfl, SocketChannel.deliver_eq (by decide),
    if_pos ⟨by decide, hsevered⟩] at hsend
  simp only [Gateway.handle, hcontrol, hheader, hkind, Gateway.create, hrequest, hdestroy,
    hsucceeded, Gateway.reply, Gateway.createGuest_control]
  exact hsend

/-- One who is gone before the reply ends the loop of the gateway. -/
theorem hurriedPeer_ends_round :
    let now := GatewayStep.actAll hurriedPeer waitingEcho.1 waitingEcho.2
    (now.1.poll now.2).1 = .error (.stream (.io .brokenPipe)) := by
  intro now
  have hgateway : now.1 = waitingEcho.1 := rfl
  have hcontrol : now.1.control = some ⟨0⟩ := rfl
  have hrecv : Channels.recv (⟨0⟩ : SocketHandle) now.2 = _ := recv_hurriedPeer
  have hhandle := handle_hurriedPeer
  rw [← hgateway] at hhandle
  rcases hhandled : now.1.handle requestFrame visitedWorld with ⟨result, g, w⟩
  rw [hhandled] at hhandle
  obtain rfl : result = .error (.stream (.io .brokenPipe)) := hhandle
  simp only [Gateway.poll, hcontrol, hrecv, Gateway.pollControl, hhandled]

end ModuleProxy
