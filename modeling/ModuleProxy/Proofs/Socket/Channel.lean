import ModuleProxy.Socket.Channel

namespace ModuleProxy.SocketChannel

variable {ω : Type} [Sockets ω]

theorem dropConnection_fst (c : SocketChannel) (w : ω) :
    (c.dropConnection w).1 = { c with connection := none } := by
  obtain ⟨role, listener, connection, outbox, queuedBytes, limits⟩ := c
  cases connection <;> rfl

@[simp] theorem connection_dropConnection (c : SocketChannel) (w : ω) :
    (c.dropConnection w).1.connection = none := by
  rw [dropConnection_fst]

theorem deliver_cases (c : SocketChannel) (peer : Connection) (frame : Bytes) (w : ω) :
    (∃ w', c.deliver peer frame w = (.ok (), c, w')) ∨
      ∃ e w', c.deliver peer frame w = (.error (.stream e), { c with connection := none }, w') := by
  rw [deliver]
  rcases FrameWriter.writeFrame _ frame (OpenStream.mk peer.stream w) with ⟨e | _, l⟩
  · have hdrop := c.dropConnection_fst l.system
    exact .inr ⟨_, _, Prod.ext rfl (Prod.ext hdrop rfl)⟩
  · exact .inl ⟨_, rfl⟩

theorem heard_cases (c : SocketChannel) (result : Except StreamError RawFrame) (w : ω) :
    (c.heard result w).2 = (c, w) ∨ (c.heard result w).2 = c.dropConnection w := by
  rcases result with (e | _ | e) | f
  · unfold heard
    dsimp only
    split
    · exact .inl rfl
    · exact .inr rfl
  · exact .inr rfl
  · exact .inr rfl
  · exact .inl rfl

theorem heard_error {c : SocketChannel} {result : Except StreamError RawFrame} {w : ω}
    {e : ProxyError} (h : (c.heard result w).1 = .error e) : ∃ e', e = .stream e' := by
  rcases result with (e | _ | e) | f
  · unfold heard at h
    dsimp only at h
    split at h <;> cases h
    exact ⟨_, rfl⟩
  · cases h
  · cases h
    exact ⟨_, rfl⟩
  · cases h

theorem heard_some {c : SocketChannel} {result : Except StreamError RawFrame} {w : ω}
    {frame : Bytes} (h : (c.heard result w).1 = .ok (some frame)) :
    (c.heard result w).2 = (c, w) := by
  rcases result with (e | _ | e) | f
  · unfold heard at h
    dsimp only at h
    split at h <;> cases h
  · cases h
  · cases h
  · rfl

theorem flush_error {frames : List Bytes} {peer : Connection} {c : SocketChannel} {w : ω}
    {e : ProxyError} (h : (flush frames peer c w).1 = .error e) : ∃ e', e = .stream e' := by
  induction frames generalizing c w with
  | nil => cases h
  | cons frame rest ih =>
    rw [flush] at h
    obtain ⟨w', hwritten⟩ | ⟨e', w', hfailed⟩ := deliver_cases
      { c with outbox := rest, queuedBytes := c.queuedBytes - frame.length } peer frame w
    · simp only [hwritten] at h
      exact ih h
    · simp only [hfailed] at h
      cases h
      exact ⟨e', rfl⟩

section

variable {c : SocketChannel} {listener : ListenerId} {w w' w'' : ω}

theorem awaitPeer_of_connected {peer : Connection} (hpeer : c.connection = some peer) (w : ω) :
    c.awaitPeer w = (.ok true, c, w) := by
  simp [awaitPeer, isConnected, hpeer]

theorem awaitPeerFor_of_connected {peer : Connection} (hpeer : c.connection = some peer)
    (tries : Nat) (w : ω) : c.awaitPeerFor tries w = (.ok true, c, w) := by
  cases tries <;> simp [awaitPeerFor, awaitPeer_of_connected hpeer]

theorem awaitPeer_of_closed (hfree : c.connection = none) (hclosed : c.listener = none)
    (w : ω) : c.awaitPeer w = (.error c.closedError, c, w) := by
  simp [awaitPeer, isConnected, hfree, hclosed]

theorem awaitPeer_of_refusal {e : ProxyError} (hfree : c.connection = none)
    (hlistener : c.listener = some listener)
    (haccept : Sockets.accept listener w = (.error e, w')) :
    c.awaitPeer w = (.error e, c, w') := by
  simp [awaitPeer, isConnected, hfree, hlistener, haccept]

theorem awaitPeer_of_nobody (hfree : c.connection = none)
    (hlistener : c.listener = some listener)
    (haccept : Sockets.accept listener w = (.ok none, w')) :
    c.awaitPeer w = (.ok false, c, w') := by
  simp [awaitPeer, isConnected, hfree, hlistener, haccept]

theorem awaitPeer_of_unready {stream : StreamId} {e : ProxyError} (hfree : c.connection = none)
    (hlistener : c.listener = some listener)
    (haccept : Sockets.accept listener w = (.ok (some stream), w'))
    (hready : Sockets.ready c.limits stream w' = (.error e, w'')) :
    c.awaitPeer w = (.error e, c, w'') := by
  simp [awaitPeer, isConnected, hfree, hlistener, haccept, hready]

theorem awaitPeer_of_peer {stream : StreamId} (hfree : c.connection = none)
    (hlistener : c.listener = some listener)
    (haccept : Sockets.accept listener w = (.ok (some stream), w'))
    (hready : Sockets.ready c.limits stream w' = (.ok (), w'')) :
    let peer : Connection := ⟨stream, { limit := c.limits.maxSize }⟩
    let flushed := flush c.outbox peer { c with connection := some peer } w''
    c.awaitPeer w = (flushed.1.map fun _ => true, flushed.2) := by
  intro peer flushed
  simp only [awaitPeer, isConnected, hfree, Option.isSome_none, Bool.false_eq_true, ↓reduceIte,
    hlistener, haccept, hready, flushed]
  rw [← hlistener]
  rcases flush c.outbox peer { c with connection := some peer } w'' with ⟨e | _, after⟩ <;> rfl

end

inductive Awaits (c : SocketChannel) (w : ω) :
    Except ProxyError Bool × SocketChannel × ω → Prop where
  | connected {peer : Connection} (hpeer : c.connection = some peer) : Awaits c w (.ok true, c, w)
  | closed (hfree : c.connection = none) (hclosed : c.listener = none) :
    Awaits c w (.error c.closedError, c, w)
  | refused {listener : ListenerId} {e : ProxyError} {w' : ω} (hfree : c.connection = none)
    (hlistener : c.listener = some listener)
    (haccept : Sockets.accept listener w = (.error e, w')) : Awaits c w (.error e, c, w')
  | nobody {listener : ListenerId} {w' : ω} (hfree : c.connection = none)
    (hlistener : c.listener = some listener)
    (haccept : Sockets.accept listener w = (.ok none, w')) : Awaits c w (.ok false, c, w')
  | unready {listener : ListenerId} {stream : StreamId} {e : ProxyError} {w' w'' : ω}
    (hfree : c.connection = none) (hlistener : c.listener = some listener)
    (haccept : Sockets.accept listener w = (.ok (some stream), w'))
    (hready : Sockets.ready c.limits stream w' = (.error e, w'')) :
    Awaits c w (.error e, c, w'')
  | peer {listener : ListenerId} {stream : StreamId} {w' w'' : ω} {peer : Connection}
    {flushed : Except ProxyError Unit × SocketChannel × ω} (hfree : c.connection = none)
    (hlistener : c.listener = some listener)
    (haccept : Sockets.accept listener w = (.ok (some stream), w'))
    (hready : Sockets.ready c.limits stream w' = (.ok (), w''))
    (hpeer : peer = ⟨stream, { limit := c.limits.maxSize }⟩)
    (hflush : flush c.outbox peer { c with connection := some peer } w'' = flushed) :
    Awaits c w (flushed.1.map fun _ => true, flushed.2)

theorem awaits_awaitPeer (c : SocketChannel) (w : ω) : Awaits c w (c.awaitPeer w) := by
  cases hpeer : c.connection with
  | some peer =>
    rw [awaitPeer_of_connected hpeer]
    exact .connected hpeer
  | none =>
    cases hlistener : c.listener with
    | none =>
      rw [awaitPeer_of_closed hpeer hlistener]
      exact .closed hpeer hlistener
    | some listener =>
      rcases haccept : Sockets.accept listener w with ⟨e | _ | stream, w'⟩
      · rw [awaitPeer_of_refusal hpeer hlistener haccept]
        exact .refused hpeer hlistener haccept
      · rw [awaitPeer_of_nobody hpeer hlistener haccept]
        exact .nobody hpeer hlistener haccept
      · rcases hready : Sockets.ready c.limits stream w' with ⟨e | _, w''⟩
        · rw [awaitPeer_of_unready hpeer hlistener haccept hready]
          exact .unready hpeer hlistener haccept hready
        · rw [awaitPeer_of_peer hpeer hlistener haccept hready]
          exact .peer hpeer hlistener haccept hready rfl rfl

@[simp] theorem listener_deliver (c : SocketChannel) (peer : Connection) (frame : Bytes) (w : ω) :
    (c.deliver peer frame w).2.1.listener = c.listener := by
  obtain ⟨w', hwritten⟩ | ⟨e, w', hfailed⟩ := c.deliver_cases peer frame w
  · rw [hwritten]
  · rw [hfailed]

theorem listener_flush (frames : List Bytes) (peer : Connection) (c : SocketChannel) (w : ω) :
    (flush frames peer c w).2.1.listener = c.listener := by
  induction frames generalizing c w with
  | nil => rfl
  | cons frame rest ih =>
    rw [flush]
    obtain ⟨w', hwritten⟩ | ⟨e, w', hfailed⟩ := deliver_cases
      { c with outbox := rest, queuedBytes := c.queuedBytes - frame.length } peer frame w
    · simp only [hwritten]
      exact ih ..
    · simp only [hfailed]

theorem listener_awaitPeer (c : SocketChannel) (w : ω) :
    (c.awaitPeer w).2.1.listener = c.listener := by
  have hawait := c.awaits_awaitPeer w
  generalize c.awaitPeer w = found at hawait ⊢
  cases hawait with
  | connected | closed | refused | nobody | unready => rfl
  | peer _ _ _ _ _ hflush =>
    subst hflush
    exact listener_flush ..

theorem listener_awaitPeerFor (tries : Nat) (c : SocketChannel) (w : ω) :
    (awaitPeerFor tries c w).2.1.listener = c.listener := by
  induction tries generalizing c w with
  | zero => exact listener_awaitPeer c w
  | succ tries ih =>
    have hfirst := listener_awaitPeer c w
    rw [awaitPeerFor]
    generalize c.awaitPeer w = first at hfirst ⊢
    rcases first with ⟨e | _ | _, c', w'⟩
    · exact hfirst
    · exact (ih c' w').trans hfirst
    · exact hfirst

theorem listener_send (c : SocketChannel) (frame : Bytes) (w : ω) :
    (c.send frame w).2.1.listener = c.listener := by
  have hawait := listener_awaitPeer c w
  rw [send]
  split
  · rfl
  · generalize c.awaitPeer w = awaited at hawait ⊢
    rcases awaited with ⟨e | _, c', w'⟩
    · exact hawait
    · dsimp only at hawait ⊢
      split
      · rw [listener_deliver]
        exact hawait
      · unfold enqueue
        split <;> exact hawait

theorem listener_heard (c : SocketChannel) (result : Except StreamError RawFrame) (w : ω) :
    (c.heard result w).2.1.listener = c.listener := by
  obtain hkept | hdropped := c.heard_cases result w
  · rw [hkept]
  · rw [hdropped, dropConnection_fst]

theorem listener_recv (c : SocketChannel) (w : ω) (tries : Nat) :
    (c.recv w tries).2.1.listener = c.listener := by
  have hawait := listener_awaitPeerFor tries c w
  rw [recv]
  generalize awaitPeerFor tries c w = awaited at hawait ⊢
  rcases awaited with ⟨e | _, c', w'⟩
  · exact hawait
  · dsimp only at hawait ⊢
    split
    · exact hawait
    · rename_i peer _
      rcases Sockets.bound peer.stream w' with ⟨e | _, w''⟩
      · exact hawait
      · exact (listener_heard ..).trans hawait

theorem send_of_listener_eq_none (c : SocketChannel) (h : c.listener = none) (frame : Bytes)
    (w : ω) : c.send frame w = (.error c.closedError, c, w) := by
  rw [send, h]

theorem enqueue_cases (c : SocketChannel) (frame : Bytes) :
    frame.length ≤ c.limits.maxSize ∧ c.enqueue frame = (.ok (),
      { c with outbox := c.outbox ++ [frame], queuedBytes := c.queuedBytes + frame.length }) ∨
    ∃ reason, c.enqueue frame = (.error (.disconnected reason), c) := by
  unfold enqueue
  split
  · exact .inr ⟨_, rfl⟩
  · rename_i hroom
    simp only [Bool.or_eq_true, decide_eq_true_eq, not_or] at hroom
    exact .inl ⟨by omega, rfl⟩

end ModuleProxy.SocketChannel
