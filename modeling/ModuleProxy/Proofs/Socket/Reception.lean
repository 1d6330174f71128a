import ModuleProxy.Proofs.Socket.Serving
import ModuleProxy.Proofs.Socket.Hearing

namespace ModuleProxy

open SocketSystem

namespace Reception

theorem attended_bind {role : ChannelRole} {address : ChannelAddress} {base : Option String}
    {limits : FrameLimits} {system system' : SocketSystem} {channel : SocketChannel}
    (hpaired : system.ends.size % 2 = 0)
    (hbind : SocketChannel.bind role address base limits system = (.ok channel, system')) :
    ∃ l, Attended [] l limits [] { channel, street := ⟨system', system'.unread⟩ } := by
  obtain ⟨hends, l, rfl, hnobody⟩ := SocketChannel.of_bind hbind
  refine ⟨l, rfl, rfl, rfl, ⟨List.nil_subset _, hends ▸ hpaired, ?_, ?_, fun _ _ _ => rfl, ?_⟩,
    ⟨nofun, .nil, nofun⟩, nofun, fun _ _ => .inl rfl, fun _ => nofun⟩
  · simp [hnobody]
  · simp [hnobody]
  · simp [hnobody]

theorem recv_still (tries : Nat) (c : SocketChannel) (s : SocketSystem)
    (sent : StreamId → Bytes) :
    c.recv (Paced.mk ⟨s, sent⟩ []) tries =
      SocketChannel.shown (fun s => { street := ⟨s, sent⟩ }) (c.recv s tries) :=
  c.recv_shown (Paced.shows_still sent) tries s

theorem sent_recv_nil (x : Reception) (tries : Nat) :
    (x.recv tries []).street.sent = x.street.sent := by
  obtain ⟨channel, ⟨system, sent⟩, answers⟩ := x
  rw [recv, recv_still]
  rfl

/-- Of each peer's stream a channel that sends nothing gives the frames, in order and all of them
before its end, and nothing of another's. Peers come, write in pieces and go at any time, calls may
be put off, and no peer that came is passed over. A call that nothing disturbs gives what comes
next. -/
theorem streams_received {role : ChannelRole} {address : ChannelAddress}
    {base : Option String} {limits : FrameLimits} {system system' : SocketSystem}
    {channel : SocketChannel} (hpaired : system.ends.size % 2 = 0)
    (hbind : SocketChannel.bind role address base limits system = (.ok channel, system'))
    (before acts : List ReceptionAct) :
    let y := actAll before { channel, street := ⟨system', system'.unread⟩ }
    let x := actAll acts y
    (x.answers.filterMap (·.served)).Pairwise (· ≤ ·) ∧
    (∀ a ∈ x.answers, a.served = none → a.IsIdle limits) ∧
    (∀ id, x.answersOf id = [] ∨ x.Received id) ∧
    (checkTimeouts limits = .ok () →
      (∀ id ∈ y.waiting, id ∈ x.waiting ∨ x.Received id) ∧
      ∀ tries, let x' := x.recv tries []
        x'.street.sent = x.street.sent ∧
        ∃ a, x'.answers = x.answers ++ [a] ∧ a.served = x.next ∧
          (x.next = none → a.result = .ok none) ∧
          ∀ id, x.next = some id → a.IsNext limits.maxSize x'.street id (x.given id).length) ∧
    ∀ (c : SocketChannel) (s : SocketSystem) tries sent, c.recv (Paced.mk ⟨s, sent⟩ []) tries =
        SocketChannel.shown (fun s => { street := ⟨s, sent⟩ }) (c.recv s tries) := by
  intro y x
  obtain ⟨l, hstart⟩ := attended_bind hpaired hbind
  obtain ⟨taken, hy⟩ := hstart.actAll before
  obtain ⟨taken', hx⟩ := hy.cameNow.actAll acts
  refine ⟨hx.listed.ordered, hx.listed.idle, ?_,
    fun htimes => ⟨?_, fun tries => ⟨x.sent_recv_nil tries, ?_⟩⟩,
    fun c s tries sent => recv_still tries c s sent⟩
  · intro id
    by_cases hanswered : x.answersOf id = []
    · exact .inl hanswered
    · exact .inr (hx.received (.inr hanswered))
  · intro id hid
    rw [hy.waiting_eq] at hid
    rw [hx.waiting_eq]
    obtain hmem | hmem := List.mem_append.mp (hx.flowing.came_sub (List.mem_append_right _ hid))
    · exact .inr (hx.received (hx.answered htimes id hmem))
    · exact .inl hmem
  · exact (hx.recv tries []).2 rfl htimes

theorem streams_received_two_peers :
    let system : SocketSystem :=
      { files := ⟨[(["q.sock"], .socket 0 SocketSystem.defaultMode)]⟩
        listeners := #[{ path := "q.sock" }] }
    let y := actAll [.move (.connect "q.sock"), .move (.write 0 (createReply true))]
      { channel := { role := .message, listener := some 0 }, street := ⟨system, system.unread⟩ }
    let x := actAll [.recv 0 [], .move (.connect "q.sock"), .move (.write 0 [7]), .move (.close 0),
      .recv 0 [{ delay := some ⟨.wouldBlock, .inr rfl⟩ }], .recv 0 [], .move (.write 2 [8])] y
    (x.answers.filterMap (·.served)).Pairwise (· ≤ ·) ∧
    (∀ id, x.answersOf id = [] ∨ x.Received id) ∧
    (∀ id ∈ y.waiting, id ∈ x.waiting ∨ x.Received id) ∧
    ∃ a, (x.recv 0 []).answers = x.answers ++ [a] ∧ a.served = x.next ∧
      ∀ id, x.next = some id →
        a.IsNext defaultFrameLimit (x.recv 0 []).street id (x.given id).length := by
  intro system y x
  obtain ⟨hordered, -, hreceived, htimes, -⟩ := @streams_received .message ⟨"q.sock"⟩ none {} {}
    system { role := .message, listener := some 0 } rfl rfl
    [.move (.connect "q.sock"), .move (.write 0 (createReply true))]
    [.recv 0 [], .move (.connect "q.sock"), .move (.write 0 [7]), .move (.close 0),
      .recv 0 [{ delay := some ⟨.wouldBlock, .inr rfl⟩ }], .recv 0 [], .move (.write 2 [8])]
  obtain ⟨hwaiting, hstill⟩ := htimes rfl
  obtain ⟨-, a, hanswers, hserved, -, hnext⟩ := hstill 0
  exact ⟨hordered, hreceived, hwaiting, a, hanswers, hserved, hnext⟩

end Reception

end ModuleProxy
