import ModuleProxy.Proofs.Frame.Exchange
import ModuleProxy.Proofs.Socket.Rests

namespace ModuleProxy

open SocketSystem

namespace Scene

theorem exists_listener {role : ChannelRole} {address : ChannelAddress} {base : Option String}
    {limits : FrameLimits} {system system' : SocketSystem} {channel : SocketChannel}
    (hbind : SocketChannel.bind role address base limits system = (.ok channel, system'))
    (acts : List SceneAct) {served : Connection}
    (hserved : (actAll acts { channel, system := system' }).channel.connection = some served) :
    ∃ listener, (actAll acts { channel, system := system' }).channel.listener = some listener := by
  obtain ⟨_, listener, rfl, _⟩ := SocketChannel.of_bind hbind
  rw [← Option.ne_none_iff_exists']
  intro hclosed
  have hfree := free_actAll (fun _ => rfl) acts hclosed
  cases hserved.symm.trans hfree

/-- A frame that is longer than the channel may send fails as too large, and nothing is written. But
the peer is hung up on: it finds the end of its stream, what it has sent before is never read, and
nothing that is sent later reaches it. -/
theorem large_frame_loses_peer {role : ChannelRole} {address : ChannelAddress}
    {base : Option String} {limits : FrameLimits} {system system' : SocketSystem}
    {channel : SocketChannel} (hpaired : system.ends.size % 2 = 0)
    (hbind : SocketChannel.bind role address base limits system = (.ok channel, system'))
    (acts : List SceneAct) {served : Connection}
    (hserved : (actAll acts { channel, system := system' }).channel.connection = some served)
    {frame : Bytes}
    (hlarge : (actAll acts { channel, system := system' }).channel.limits.maxSize < frame.length) :
    let x := actAll acts { channel, system := system' }
    x.channel.send frame x.system =
      (.error (.stream (.format (.frameTooLarge frame.length x.channel.limits.maxSize))),
        { x.channel with connection := none }, x.system.hangUp served.stream) ∧
    (∀ id, (x.act (.send frame)).system.unread id = x.system.unread id) ∧
    ∀ later : List SceneAct,
      let y := actAll later (x.act (.send frame))
      (∀ other, y.channel.connection = some other → other.stream ≠ served.stream) ∧
      y.system.unread served.stream = x.system.unread served.stream ∧
      y.heard (peer served.stream) ++ y.system.unread (peer served.stream) =
        x.heard (peer served.stream) ++ x.system.unread (peer served.stream) ∧
      y.system.isSevered (peer served.stream) = true := by
  intro x
  have hsettled : x.Settled system.unread := (settled_bind hpaired hbind).actAll acts
  obtain ⟨listener, hlistener⟩ := exists_listener hbind acts hserved
  have hsend := SocketChannel.send_of_large (c := x.channel) (s := x.system) hlistener hserved
    hlarge
  have hact : x.act (.send frame) = x.next ({ x.channel with connection := none },
      x.system.hangUp served.stream) := by
    simp only [act, hsend]
  have hshut : Shut served.stream (x.act (.send frame)).system := by
    obtain ⟨settled, haccounted, _⟩ := hsettled
    obtain ⟨hfar, hlt⟩ := haccounted.connection_far hserved
    rw [hact]
    exact ⟨hfar, (size_hangUp ..).symm ▸ hlt, isShut_hangUp ..⟩
  refine ⟨hsend, fun id => by rw [hact]; exact unread_hangUp .., fun later => ?_⟩
  intro y
  have hrests : Rests served.stream (x.act (.send frame)) y :=
    rests_actAll (hsettled.act (.send frame)) hshut later
  have hshut' := hshut.of_wears hrests.wears
  refine ⟨fun other hother => ?_, ?_, ?_, ?_⟩
  · exact ((hsettled.act (.send frame)).actAll later).ne_connection hshut' hother
  · rw [hrests.unread_eq, hact]
    exact unread_hangUp ..
  · rw [hrests.heard_eq, hact]
    exact congrArg (x.heard (peer served.stream) ++ ·) (unread_hangUp ..)
  · rw [isSevered_iff]
    exact .inl (.inr (by rw [peer_peer]; exact hshut'.isShut))

def narrow : Scene :=
  { listening with channel := { listening.channel with limits := { maxSize := 16 } } }

theorem bind_narrow :
    SocketChannel.bind .message ⟨"q.sock"⟩ none { maxSize := 16 } {} =
      (.ok narrow.channel, narrow.system) := rfl

def twoReplies : Bytes :=
  createReply true ++ createReply false

def twoSent : List SceneAct :=
  [.connect "q.sock", .write 0 twoReplies, .recv]

def afterFirst : Connection :=
  ⟨1, { limit := 16, buffer := createReply false }⟩

theorem splitFrame_createReply (succeeded : Bool) :
    splitFrame (createReply succeeded) 16 =
      .ok (some (⟨.control, createReply succeeded⟩, [])) := by
  have hsize : (WireItem.control { body := .reply (if succeeded then .created else .createError) }
      ).encodedSize ≤ min 16 maxFrameSize := by cases succeeded <;> decide
  exact WireItem.splitFrame_frame hsize

def visited (waiting : List StreamId) : SocketSystem where
  files := ⟨[(["q.sock"], .socket 0 SocketSystem.defaultMode)]⟩
  ends := #[{}, { incoming := ⟨twoReplies.toArray, 0⟩ }]
  listeners := #[{ path := "q.sock", waiting }]

theorem actAll_twoSent :
    actAll twoSent narrow =
      { channel := { narrow.channel with connection := some afterFirst }
        system := ((visited []).read FrameReader.readSize 1).2 } := by
  have haccept : (visited [1]).accept? 0 = (some 1, visited []) := rfl
  have hread : ((visited []).read FrameReader.readSize 1).1 = .ok twoReplies := rfl
  have hsplit : splitFrame twoReplies 16 =
      .ok (some (⟨.control, createReply true⟩, createReply false)) :=
    splitFrame_append_of_some (splitFrame_createReply true) _
  have hrecv := SocketChannel.recv_of_waiting (c := narrow.channel) rfl rfl haccept rfl rfl hread
    (by decide) hsplit
  change ({ channel := narrow.channel, system := visited [1] } : Scene).act .recv = _
  rw [act]
  dsimp only
  rw [hrecv]
  rfl

theorem large_frame_loses_peer_twoSent :
    let x := actAll twoSent narrow
    let frame : Bytes := List.replicate 17 0
    x.channel.send frame x.system =
      (.error (.stream (.format (.frameTooLarge frame.length x.channel.limits.maxSize))),
        { x.channel with connection := none }, x.system.hangUp afterFirst.stream) ∧
    (∀ id, (x.act (.send frame)).system.unread id = x.system.unread id) ∧
    ∀ later : List SceneAct,
      let y := actAll later (x.act (.send frame))
      (∀ other, y.channel.connection = some other → other.stream ≠ afterFirst.stream) ∧
      y.system.unread afterFirst.stream = x.system.unread afterFirst.stream ∧
      y.heard (peer afterFirst.stream) ++ y.system.unread (peer afterFirst.stream) =
        x.heard (peer afterFirst.stream) ++ x.system.unread (peer afterFirst.stream) ∧
      y.system.isSevered (peer afterFirst.stream) = true :=
  large_frame_loses_peer rfl bind_narrow twoSent (congrArg (·.channel.connection) actAll_twoSent)
    ((congrArg (·.channel.limits.maxSize) actAll_twoSent).trans_lt (by decide))

/-- The peer's second frame is there to be received. After a frame that is too large to be sent it
is not, and what is sent then does not reach the peer. -/
theorem large_frame_unseats_peer :
    let x := actAll twoSent narrow
    let y := x.act (.send (List.replicate 17 0))
    x.channel.limits.maxSize < 17 ∧ x.channel.connection ≠ none ∧
    (x.channel.recv x.system).1 = .ok (some (createReply false)) ∧
    y.channel.connection = none ∧ (y.channel.recv y.system).1 = .ok none ∧
    (y.act (.send (createReply true))).system.unread 0 = [] := by
  intro x y
  have hx : x = _ := actAll_twoSent
  have hy : y = _ := congrArg (·.act (.send (List.replicate 17 0))) actAll_twoSent
  have hbuffered : splitFrame afterFirst.reader.buffer afterFirst.reader.limit =
      .ok (some (⟨.control, createReply false⟩, [])) := splitFrame_createReply false
  rw [hx, hy]
  refine ⟨by decide, nofun, ?_, rfl, rfl, rfl⟩
  rw [SocketChannel.recv_of_buffered rfl hbuffered]

end Scene

end ModuleProxy
