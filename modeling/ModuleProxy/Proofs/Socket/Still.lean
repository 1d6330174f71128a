import ModuleProxy.Proofs.Socket.Acceptance

namespace ModuleProxy

namespace SocketSystem

variable {s s' s'' : SocketSystem} {id st : StreamId}

structure Shut (id : StreamId) (s : SocketSystem) : Prop where
  far : ¬IsNear id
  lt_size : id < s.ends.size
  isShut : s.isShut id = true

theorem Shut.of_wears (h : Shut id s) (hwears : Wears s s') : Shut id s' :=
  ⟨h.far, hwears.shut.lt_size h.lt_size, hwears.isShut h.lt_size h.isShut⟩

theorem Shut.ne_of_open (h : Shut id s) (hopen : s.isSevered st = false) :
    st ≠ id ∧ peer st ≠ id := by
  simp only [isSevered, Bool.or_eq_false_iff] at hopen
  constructor
  · rintro rfl
    exact absurd (hopen.1.2.symm.trans h.isShut) (by decide)
  · rintro rfl
    exact absurd (hopen.2.symm.trans h.isShut) (by decide)

structure Still (id : StreamId) (s s' : SocketSystem) : Prop where
  wears : Wears s s'
  unread_eq : s'.unread id = s.unread id
  unread_peer : s'.unread (peer id) = s.unread (peer id)

namespace Still

theorem refl (id : StreamId) (s : SocketSystem) : Still id s s :=
  ⟨.refl s, rfl, rfl⟩

theorem trans (h : Still id s s') (h' : Still id s' s'') : Still id s s'' :=
  ⟨h.wears.trans h'.wears, h'.unread_eq.trans h.unread_eq, h'.unread_peer.trans h.unread_peer⟩

theorem of_unread (hwears : Wears s s') (hunread : ∀ id, s'.unread id = s.unread id) :
    Still id s s' :=
  ⟨hwears, hunread id, hunread (peer id)⟩

theorem of_ends (hends : s'.ends = s.ends) : Still id s s' := by
  refine of_unread ⟨?_, ?_⟩ fun id => ?_
  · rw [hends]
    exact .refl _ _
  · rw [hends]
    exact .refl _ _
  · rw [unread, hends, unread]

theorem of_readAt (hread : ReadAt st s s') (hne : st ≠ id) (hpeer : st ≠ peer id) :
    Still id s s' :=
  ⟨hread.wears, hread.unread_eq id hne, hread.unread_eq (peer id) hpeer⟩

theorem arrive (h : Shut id s) {bytes : Bytes}
    (hwritten : ¬(bytes ≠ [] ∧ s.isSevered st = true)) : Still id s (s.arrive bytes st) := by
  by_cases hnil : bytes = []
  · rw [hnil, arrive_nil]
    exact .refl id s
  · have hopen : s.isSevered st = false := by simpa [hnil] using hwritten
    obtain ⟨hne, hpeer⟩ := h.ne_of_open hopen
    refine ⟨wears_arrive .., unread_arrive_of_ne hpeer _, unread_arrive_of_ne ?_ _⟩
    exact fun heq => hne (by rw [← peer_peer st, heq, peer_peer])

theorem write (h : Shut id s) (bytes : Bytes) (st : StreamId) :
    Still id s (s.write bytes st).2 := by
  by_cases hwritten : bytes ≠ [] ∧ s.isSevered st = true
  · rw [write_of_severed hwritten.1 hwritten.2]
    exact .refl id s
  · obtain hsame | harrive := s.write_eq bytes st
    · rw [hsame]
      exact .refl id s
    · rw [harrive]
      exact .arrive h hwritten

theorem connect (id : StreamId) (s : SocketSystem) (path : String) :
    Still id s (s.connect path).2 := by
  obtain hsame | ⟨listener, hpair⟩ := s.connect_eq path
  · rw [hsame]
    exact .refl id s
  · rw [hpair]
    exact .of_unread ⟨(wears_pair s).held, (wears_pair s).shut⟩ (unread_pair s)

theorem hangUp (id : StreamId) (s : SocketSystem) (st : StreamId) : Still id s (s.hangUp st) :=
  of_unread (wears_hangUp ..) (unread_hangUp s st)

end Still

end SocketSystem

open SocketSystem

namespace SocketChannel

variable {id : StreamId} {s : SocketSystem}

theorem still_dropConnection (id : StreamId) (c : SocketChannel) (s : SocketSystem) :
    Still id s (c.dropConnection s).2 := by
  cases hpeer : c.connection with
  | none =>
    rw [dropConnection, hpeer]
    exact .refl id s
  | some peer =>
    rw [dropConnection_of_some hpeer]
    exact .hangUp id s peer.stream

theorem still_deliver (h : Shut id s) (c : SocketChannel) (peer : Connection) (frame : Bytes) :
    Still id s (c.deliver peer frame s).2.2 := by
  by_cases hfits : frame.length ≤ c.limits.maxSize
  · rw [deliver_eq hfits]
    split
    · exact still_dropConnection id c s
    · exact .arrive h ‹_›
  · rw [deliver_of_large (Nat.lt_of_not_le hfits)]
    exact still_dropConnection id c s

theorem still_flush (h : Shut id s) (frames : List Bytes) (peer : Connection)
    (c : SocketChannel) : Still id s (flush frames peer c s).2.2 := by
  induction frames generalizing c s with
  | nil => exact .refl id s
  | cons frame rest ih =>
    have hdeliver := still_deliver h
      { c with outbox := rest, queuedBytes := c.queuedBytes - frame.length } peer frame
    rw [flush]
    generalize deliver _ peer frame s = delivered at hdeliver ⊢
    rcases delivered with ⟨e | _, c', s'⟩
    · exact hdeliver
    · exact hdeliver.trans (ih (h.of_wears hdeliver.wears) _)

theorem still_awaitPeer (h : Shut id s) (c : SocketChannel) :
    Still id s (c.awaitPeer s).2.2 := by
  have hawait := c.awaits_awaitPeer s
  generalize c.awaitPeer s = found at hawait ⊢
  cases hawait with
  | connected | closed => exact .refl id s
  | refused _ _ haccept => cases haccept
  | nobody _ _ haccept =>
    rw [accept?_eq_none (accept_iff.mp haccept)]
    exact .refl id s
  | @unready _ stream _ s' _ _ _ haccept hready =>
    obtain ⟨_, _, _, rfl⟩ := ready_error_iff.mp hready
    have haccepted : Still id s s' := .of_ends (accept?_eq_some (accept_iff.mp haccept)).1
    exact haccepted.trans (.of_unread (wears_close ..) (unread_close s' stream))
  | @peer _ _ _ s' peer _ _ _ haccept hready _ hflush =>
    obtain ⟨_, rfl⟩ := ready_ok_iff.mp hready
    have haccepted : Still id s s' := .of_ends (accept?_eq_some (accept_iff.mp haccept)).1
    have hwritten := still_flush (h.of_wears haccepted.wears) c.outbox peer
      { c with connection := some peer }
    rw [hflush] at hwritten
    exact haccepted.trans hwritten

theorem still_send (h : Shut id s) (c : SocketChannel) (frame : Bytes) :
    Still id s (c.send frame s).2.2 := by
  have hawait := still_awaitPeer h c
  unfold send
  split
  · exact .refl id s
  · split <;> rename_i heq <;> rw [heq] at hawait
    · exact hawait
    · split
      · exact hawait.trans (still_deliver (h.of_wears hawait.wears) _ _ frame)
      · exact hawait

theorem still_disconnect (id : StreamId) (c : SocketChannel) (s : SocketSystem) :
    Still id s (c.disconnect s).2 := by
  have hdrop := still_dropConnection id c s
  unfold disconnect
  dsimp only
  split
  · exact hdrop
  · rename_i listener _
    obtain ⟨_, hwears, hunread⟩ := (c.dropConnection s).2.closeListener_ends listener
    exact hdrop.trans (.of_unread hwears hunread)

theorem send_of_large {c : SocketChannel} {listener : ListenerId} {peer : Connection}
    {frame : Bytes} (hlistener : c.listener = some listener) (hpeer : c.connection = some peer)
    (hlarge : c.limits.maxSize < frame.length) :
    c.send frame s = (.error (.stream (.format (.frameTooLarge frame.length c.limits.maxSize))),
      { c with connection := none }, s.hangUp peer.stream) := by
  rw [send_of_connected hlistener hpeer, deliver_of_large hlarge, dropConnection_of_some hpeer]

theorem recv_of_buffered {c : SocketChannel} {peer : Connection} {f : RawFrame} {rest : Bytes}
    (hpeer : c.connection = some peer)
    (hsplit : splitFrame peer.reader.buffer peer.reader.limit = .ok (some (f, rest))) :
    c.recv s = (.ok (some f.bytes),
      { c with connection := some { peer with reader := { peer.reader with buffer := rest } } },
      s) := by
  have hframe := FrameReader.readFrame_of_some hsplit (OpenStream.mk peer.stream s)
  rw [recv_of_awaited (awaitPeer_of_connected hpeer s) hpeer]
  simp only [hframe, heard]

end SocketChannel

end ModuleProxy
