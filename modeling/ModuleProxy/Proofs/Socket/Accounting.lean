import ModuleProxy.Proofs.Socket.Counted

namespace ModuleProxy

variable {ω : Type}

namespace SocketChannel

variable [Sockets ω] {limits : FrameLimits} {c : SocketChannel}

namespace InAccount

theorem drop (h : InAccount limits c) (w : ω) : InAccount limits (c.dropConnection w).1 := by
  rw [dropConnection_fst]
  exact (h.reconnect none).inAccount_of_free rfl

theorem awaitPeer (h : InAccount limits c) (w : ω) : InAccount limits (c.awaitPeer w).2.1 := by
  have hawait := c.awaits_awaitPeer w
  generalize c.awaitPeer w = found at hawait ⊢
  cases hawait with
  | connected | closed | refused | nobody | unready => exact h
  | @peer _ _ _ _ peer _ _ _ _ _ _ hflush =>
    subst hflush
    exact (h.reconnect (some peer)).flush rfl ..

theorem awaitPeerFor (tries : Nat) (h : InAccount limits c) (w : ω) :
    InAccount limits (awaitPeerFor tries c w).2.1 := by
  induction tries generalizing c w with
  | zero => exact h.awaitPeer w
  | succ tries ih =>
    have hfirst := h.awaitPeer w
    rw [SocketChannel.awaitPeerFor]
    generalize c.awaitPeer w = first at hfirst ⊢
    rcases first with ⟨e | _ | _, c', w'⟩
    · exact hfirst
    · exact ih hfirst w'
    · exact hfirst

omit [Sockets ω] in
theorem enqueue (h : InAccount limits c) (hfree : c.connection = none) (frame : Bytes) :
    InAccount limits (c.enqueue frame).2 := by
  rw [SocketChannel.enqueue]
  split
  · exact h
  · rename_i hroom
    rw [h.limits_eq, Bool.or_eq_true, not_or, decide_eq_true_eq, decide_eq_true_eq] at hroom
    exact (h.put (by omega) (by omega)).inAccount_of_free hfree

theorem deliver (h : InAccount limits c) (peer : Connection) (frame : Bytes) (w : ω) :
    InAccount limits (c.deliver peer frame w).2.1 := by
  obtain ⟨w', hwritten⟩ | ⟨e, w', hfailed⟩ := c.deliver_cases peer frame w
  · rw [hwritten]
    exact h
  · rw [hfailed]
    exact (h.reconnect none).inAccount_of_free rfl

theorem send (h : InAccount limits c) (frame : Bytes) (w : ω) :
    InAccount limits (c.send frame w).2.1 := by
  rw [SocketChannel.send]
  cases c.listener with
  | none => exact h
  | some listener =>
    have hawaited := h.awaitPeer w
    dsimp only
    generalize c.awaitPeer w = awaited at hawaited ⊢
    rcases awaited with ⟨e | _, c', w'⟩
    · exact hawaited
    · dsimp only at hawaited ⊢
      cases hpeer : c'.connection with
      | none => exact hawaited.enqueue hpeer frame
      | some peer => exact hawaited.deliver peer frame w'

theorem heard (h : InAccount limits c) (result : Except StreamError RawFrame) (w : ω) :
    InAccount limits (c.heard result w).2.1 := by
  obtain hkept | hdropped := c.heard_cases result w
  · rwa [hkept]
  · rw [hdropped]
    exact h.drop w

theorem recv (tries : Nat) (h : InAccount limits c) (w : ω) :
    InAccount limits (c.recv w tries).2.1 := by
  have hawaited := h.awaitPeerFor tries w
  rw [SocketChannel.recv]
  generalize SocketChannel.awaitPeerFor tries c w = awaited at hawaited ⊢
  rcases awaited with ⟨e | _, c', w'⟩
  · exact hawaited
  · dsimp only at hawaited ⊢
    cases hpeer : c'.connection with
    | none => exact hawaited
    | some peer =>
      have hempty : c'.outbox = [] := hawaited.settled (by rw [hpeer]; exact Option.some_ne_none _)
      dsimp only
      rcases Sockets.bound peer.stream w' with ⟨e | _, w''⟩
      · exact hawaited
      · let read := peer.reader.readFrame (OpenStream.mk peer.stream w'')
        have hheard : Counted limits
            { c' with connection := some { peer with reader := read.2.1 } } := hawaited.reconnect _
        exact (hheard.inAccount_of_empty hempty).heard read.1 read.2.2.system

theorem disconnect (h : InAccount limits c) (w : ω) :
    InAccount limits (c.disconnect w).1 := by
  have hempty := (h.drop w).empty
  exact (⟨hempty.limits_eq, hempty.bytes_eq, hempty.count_le, hempty.bytes_le⟩ :
    Counted limits (c.disconnect w).1).inAccount_of_empty rfl

end InAccount

structure IsClosed (c : SocketChannel) : Prop where
  listener_eq : c.listener = none
  connection_eq : c.connection = none
  outbox_eq : c.outbox = []
  queuedBytes_eq : c.queuedBytes = 0

theorem isClosed_disconnectOn (c : SocketChannel) (w : ω) : IsClosed (c.disconnect w).1 :=
  ⟨rfl, by rw [disconnect, dropConnection_fst], rfl, rfl⟩

namespace IsClosed

theorem send (h : IsClosed c) (frame : Bytes) (w : ω) :
    c.send frame w = (.error c.closedError, c, w) := by
  rw [SocketChannel.send, h.listener_eq]

theorem recv (h : IsClosed c) (tries : Nat) (w : ω) :
    c.recv w tries = (.error c.closedError, c, w) := by
  have hawait := awaitPeer_of_closed h.connection_eq h.listener_eq w
  have hawaitFor : awaitPeerFor tries c w = (.error c.closedError, c, w) := by
    cases tries with
    | zero => exact hawait
    | succ tries => rw [awaitPeerFor, hawait]
  rw [SocketChannel.recv, hawaitFor]

end IsClosed

end SocketChannel

namespace SocketUse

variable [Sockets ω] {limits : FrameLimits}

open SocketChannel

theorem inAccount_act (use : SocketUse ω) {now : SocketChannel × ω}
    (h : InAccount limits now.1) : InAccount limits (use.act now).1 := by
  cases use with
  | send frame => exact h.send frame now.2
  | recv tries => exact h.recv tries now.2
  | disconnect => exact h.disconnect now.2
  | elsewhere change => exact h

theorem inAccount_actAll (uses : List (SocketUse ω)) {now : SocketChannel × ω}
    (h : InAccount limits now.1) : InAccount limits (actAll uses now).1 := by
  induction uses generalizing now with
  | nil => exact h
  | cons use uses ih => exact ih (use.inAccount_act h)

theorem isClosed_act (use : SocketUse ω) {now : SocketChannel × ω} (h : IsClosed now.1) :
    IsClosed (use.act now).1 := by
  obtain ⟨c, w⟩ := now
  cases use with
  | send frame =>
    rw [act, h.send]
    exact h
  | recv tries =>
    rw [act, h.recv]
    exact h
  | disconnect => exact c.isClosed_disconnectOn w
  | elsewhere change => exact h

theorem isClosed_actAll (uses : List (SocketUse ω)) {now : SocketChannel × ω}
    (h : IsClosed now.1 ∨ .disconnect ∈ uses) : IsClosed (actAll uses now).1 := by
  induction uses generalizing now with
  | nil => exact h.resolve_right List.not_mem_nil
  | cons use uses ih =>
    apply ih
    obtain hclosed | hmem := h
    · exact .inl (use.isClosed_act hclosed)
    · obtain rfl | hlater := List.mem_cons.mp hmem
      · exact .inl (now.1.isClosed_disconnectOn now.2)
      · exact .inr hlater

/-- However a channel that was just bound is used, whatever its peers do and wherever the system
fails: the count of bytes is that of the frames that wait, and these keep to both limits; none waits
while there is a connection, and no flush takes more off the count than is there. Once it was closed
it stays closed and takes and gives nothing. A frame that is sent while nobody comes is taken if
there is room for it by both limits, and else nothing changes. -/
theorem outbox_counted (role : ChannelRole) (listener : ListenerId) (limits : FrameLimits)
    (uses : List (SocketUse ω)) (w : ω) :
    let now := (actAll uses ({ role, listener := some listener, limits }, w)).1
    (now.queuedBytes = (now.outbox.map List.length).sum ∧ now.outbox.length ≤ outboxLimit ∧
      now.queuedBytes ≤ limits.maxSize ∧ (now.connection ≠ none → now.outbox = [])) ∧
    (∀ (peer : Connection) (w : ω),
      flushWithin now.outbox peer { now with connection := some peer } w =
        some (flush now.outbox peer { now with connection := some peer } w)) ∧
    (.disconnect ∈ uses →
      (now.listener = none ∧ now.connection = none ∧ now.outbox = [] ∧ now.queuedBytes = 0) ∧
      ∀ w : ω,
        (∀ frame, now.send frame w =
          (.error (.disconnected (now.role.name ++ " channel closed")), now, w)) ∧
        ∀ tries, now.recv w tries =
          (.error (.disconnected (now.role.name ++ " channel closed")), now, w)) ∧
    ∀ (l : ListenerId) (w w' : ω), now.connection = none → now.listener = some l →
      (Sockets.accept l w = (.ok none, w') → ∀ frame : Bytes,
        now.send frame w =
          if now.outbox.length < outboxLimit ∧
              now.queuedBytes + frame.length ≤ limits.maxSize then
            (.ok (),
              { now with
                outbox := now.outbox ++ [frame]
                queuedBytes := now.queuedBytes + frame.length }, w')
          else
            (.error (.disconnected
              (now.role.name ++ " channel has no peer and its send queue is full")), now, w')) ∧
      ∀ e, Sockets.accept l w = (.error e, w') → ∀ frame : Bytes,
        now.send frame w = (.error e, now, w') := by
  intro now
  have hbound : InAccount limits { role, listener := some listener, limits } :=
    ⟨⟨rfl, rfl, Nat.zero_le _, Nat.zero_le _⟩, fun _ => rfl⟩
  have hnow : InAccount limits now := inAccount_actAll uses hbound
  refine ⟨⟨hnow.bytes_eq, hnow.count_le, hnow.bytes_le, hnow.settled⟩, ?_, ?_, ?_⟩
  · intro peer w
    exact (hnow.reconnect (some peer)).flushWithin_eq rfl peer w
  · intro hmem
    have hclosed : IsClosed now := isClosed_actAll uses (.inr hmem)
    exact ⟨⟨hclosed.listener_eq, hclosed.connection_eq, hclosed.outbox_eq,
      hclosed.queuedBytes_eq⟩, fun w => ⟨fun frame => hclosed.send frame w,
      fun tries => hclosed.recv tries w⟩⟩
  · intro l w w' hfree hlistener
    constructor
    · intro haccept frame
      have hawait := awaitPeer_of_nobody hfree hlistener haccept
      simp only [SocketChannel.send, hlistener, hawait, hfree, SocketChannel.enqueue,
        hnow.limits_eq]
      by_cases hroom : now.outbox.length < outboxLimit ∧
          now.queuedBytes + frame.length ≤ limits.maxSize
      · rw [if_pos hroom, if_neg (by simp; omega)]
      · rw [if_neg hroom, if_pos (by simp; omega)]
    · intro e haccept frame
      have hawait := awaitPeer_of_refusal hfree hlistener haccept
      simp only [SocketChannel.send, hlistener, hawait]

end SocketUse

end ModuleProxy
