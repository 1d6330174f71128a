import ModuleProxy.Proofs.Socket.Scenes

/-!
What becomes of the frames that a channel over sockets takes. Each is written whole to one peer,
waits in the outbox, or is dropped when the channel is closed; but a peer that comes and goes before
it is served takes one frame with it, which is lost.
-/

namespace ModuleProxy

open SocketSystem

namespace Accounted

variable {before : StreamId → Bytes} {x : Scene} {settled : List (Bytes × Fate)}

theorem left_of_wears (h : Accounted before x settled) {system : SocketSystem}
    (hwears : Wears x.system system) : ∀ id ∈ lostAt settled, system.IsLeft id := by
  intro id hmem
  have hfar := h.far id (List.mem_append_left _ hmem)
  exact hwears.isLeft (peer_lt hfar.1 hfar.2) (h.left id hmem)

theorem goOn (h : Accounted before x settled) (heard : StreamId → Bytes) (system : SocketSystem)
    (hsize : system.ends.size = x.system.ends.size)
    (hwears : Wears x.system system)
    (hwaiting : system.waitingAt = x.system.waitingAt)
    (hheard : ∀ id, IsNear id →
      heard id ++ system.unread id = x.heard id ++ x.system.unread id)
    (hshut : ∀ id ∈ x.peers, system.isShut id = x.system.isShut id) :
    Accounted before { x with system, heard } settled := by
  have hwaiting' : { x with system, heard : Scene }.waiting = x.waiting := by
    simp only [Scene.waiting, hwaiting]
  have hpeers : { x with system, heard : Scene }.peers = x.peers := by
    simp only [Scene.peers, hwaiting']
  refine ⟨h.accepted_eq, h.fits, ?_, h.dropped, h.left_of_wears hwears, ?_, hsize ▸ h.paired, ?_,
    ?_, ?_, hsize ▸ h.served⟩
  · intro id hnear
    exact (hheard id hnear).trans (h.arrived id hnear)
  · rw [hwaiting', hsize]
    exact h.quiet
  · rw [hpeers]
    exact h.ordered
  · rw [hpeers, hsize]
    exact h.far
  · rw [hpeers]
    exact fun id hmem => (hshut id hmem).trans (h.unshut id hmem)

theorem reconnect (h : Accounted before x settled) {channel : SocketChannel}
    {system : SocketSystem} (hends : system.ends = x.system.ends)
    (hlistener : channel.listener = x.channel.listener)
    (houtbox : channel.outbox = x.channel.outbox) (hlimits : channel.limits = x.channel.limits)
    (hwaiting : ({ x with channel, system } : Scene).waiting ⊆ x.waiting)
    (hpeers : List.Sublist ({ x with channel, system } : Scene).peers x.peers) :
    Accounted before { x with channel, system } settled where
  accepted_eq := houtbox ▸ h.accepted_eq
  fits := houtbox ▸ hlimits ▸ h.fits
  arrived id hnear := by
    have harrived := h.arrived id hnear
    rwa [unread, ← hends] at harrived
  dropped frame hmem := hlistener.trans (h.dropped frame hmem)
  left id hmem := by
    have hleft := h.left id hmem
    rwa [IsLeft, holders, isShut, ← hends] at hleft
  quiet id hid := by
    apply h.quiet id
    dsimp only at hid
    rw [hends] at hid
    exact hid.imp_right (Or.imp_left (@hwaiting id))
  paired := hends ▸ h.paired
  ordered := h.ordered.sublist (hpeers.append_left _)
  far id hmem := hends ▸ h.far id ((hpeers.append_left _).subset hmem)
  unshut id hmem := by
    have hunshut := h.unshut id (hpeers.subset hmem)
    rwa [isShut, ← hends] at hunshut
  served := hends ▸ h.served

theorem ne_connection (h : Accounted before x settled) {peer : Connection}
    (hpeer : x.channel.connection = some peer) {id : StreamId}
    (hid : id ∈ lostAt settled ∨ id ∈ x.waiting ∨ x.system.ends.size ≤ id) : peer.stream ≠ id := by
  rintro rfl
  have hfar := (h.far peer.stream (by simp [Scene.peers, hpeer])).2
  have hordered := h.ordered
  simp only [Scene.peers, hpeer, Option.map_some, Option.toList_some, List.pairwise_append,
    List.mem_append, List.mem_singleton] at hordered
  obtain hlost | hwaiting | hbeyond := hid
  · exact absurd (hordered.2.2 _ hlost _ (.inl rfl)) (Nat.lt_irrefl _)
  · exact absurd (hordered.2.1.2.2 _ rfl _ hwaiting) (Nat.lt_irrefl _)
  · exact absurd hfar (Nat.not_lt.mpr hbeyond)

theorem connection_far (h : Accounted before x settled) {peer : Connection}
    (hpeer : x.channel.connection = some peer) :
    ¬IsNear peer.stream ∧ peer.stream < x.system.ends.size := by
  apply h.far
  simp [Scene.peers, hpeer]

theorem isLeft_of_severed (h : Accounted before x settled) {peer : Connection}
    (hpeer : x.channel.connection = some peer)
    (hsevered : x.system.isSevered peer.stream = true) : x.system.IsLeft peer.stream := by
  have hunshut := h.unshut peer.stream (by simp [Scene.peers, hpeer])
  exact (isSevered_iff.mp hsevered).resolve_right (by simp [hunshut])

theorem hangUp (h : Accounted before x settled) {peer : Connection}
    (hpeer : x.channel.connection = some peer) :
    Accounted before
      { x with
        channel := { x.channel with connection := none }
        system := x.system.hangUp peer.stream } settled := by
  have hfree : Accounted before { x with channel.connection := none } settled :=
    h.reconnect rfl rfl rfl rfl (List.Subset.refl _) ((List.nil_sublist _).append_right _)
  refine hfree.goOn _ _ (by simp) (wears_hangUp ..) rfl (fun id _ => by rw [unread_hangUp]) ?_
  exact fun id hmem => isShut_hangUp_of_ne (h.ne_connection hpeer (.inr (.inl hmem)))

theorem accept (h : Accounted before x settled) {listener : ListenerId} (peer : Connection)
    {system : SocketSystem} (hlistener : x.channel.listener = some listener)
    (hfree : x.channel.connection = none)
    (haccept : x.system.accept? listener = (some peer.stream, system)) :
    Accounted before
      { x with channel := { x.channel with connection := some peer }, system } settled ∧
      writtenTo peer.stream settled = [] := by
  obtain ⟨hends, hwaiting⟩ := accept?_eq_some haccept
  have hbefore : x.waiting = peer.stream :: system.waitingAt listener := by
    rw [Scene.waiting, hlistener]
    exact hwaiting
  constructor
  · refine h.reconnect hends rfl rfl rfl ?_ ?_
    · rw [hbefore]
      simp only [Scene.waiting, hlistener]
      exact List.subset_cons_self ..
    · simp only [Scene.peers, hbefore, hfree]
      simp [Scene.waiting, hlistener]
  · exact h.quiet _ (.inr (.inl (hbefore ▸ List.mem_cons_self)))

theorem take (h : Accounted before x settled) {frame : Bytes}
    (hfits : frame.length ≤ x.channel.limits.maxSize) (queuedBytes : Nat) :
    Accounted before
      { x with
        accepted := x.accepted ++ [frame]
        channel := { x.channel with outbox := x.channel.outbox ++ [frame], queuedBytes } }
      settled where
  accepted_eq := by rw [h.accepted_eq, List.append_assoc]
  fits := by
    intro taken hmem
    obtain hold | hnew := List.mem_append.mp hmem
    · exact h.fits taken hold
    · rwa [List.mem_singleton.mp hnew]
  arrived := h.arrived
  dropped := h.dropped
  left := h.left
  quiet := h.quiet
  paired := h.paired
  ordered := h.ordered
  far := h.far
  unshut := h.unshut
  served := h.served

theorem write (h : Accounted before x settled) {peer : Connection} {frame : Bytes}
    {rest : List Bytes} (hpeer : x.channel.connection = some peer)
    (houtbox : x.channel.outbox = frame :: rest) (queuedBytes : Nat) :
    Accounted before
      { x with
        channel := { x.channel with outbox := rest, queuedBytes }
        system := x.system.arrive frame peer.stream }
      (settled ++ [(frame, .written peer.stream)]) := by
  obtain ⟨hfar, hlt⟩ := h.connection_far hpeer
  have hids : lostAt (settled ++ [(frame, .written peer.stream)]) = lostAt settled ∧
      ({ x with
        channel := { x.channel with outbox := rest, queuedBytes }
        system := x.system.arrive frame peer.stream } : Scene).peers = x.peers := by
    simp [Scene.peers, Scene.waiting]
  refine ⟨?_, ?_, ?_, ?_, ?_, ?_, ?_, ?_, ?_, ?_, ?_⟩
  · rw [h.accepted_eq, houtbox, List.map_append, List.append_assoc]
    rfl
  · intro taken hmem
    exact h.fits taken (houtbox ▸ List.mem_cons_of_mem frame hmem)
  · -- the near end of the peer gets the frame, and no other end does
    intro id hnear
    rw [unread_arrive (peer_lt hfar hlt), ← List.append_assoc, h.arrived id hnear, writtenTo_append,
      writtenTo_singleton, List.append_assoc]
    simp only [peer_eq_iff, Fate.written.injEq]
  · intro taken hmem
    exact h.dropped taken (by simpa using hmem)
  · intro id hmem
    exact h.left_of_wears (wears_arrive ..) id (by simpa using hmem)
  · intro id hid
    have hid' : id ∈ lostAt settled ∨ id ∈ x.waiting ∨ x.system.ends.size ≤ id := by
      simpa [Scene.waiting] using hid
    rw [writtenTo_append, writtenTo_singleton, if_neg, h.quiet id hid', List.append_nil]
    simpa using h.ne_connection hpeer hid'
  · rw [size_arrive]
    exact h.paired
  · rw [hids.1, hids.2]
    exact h.ordered
  · rw [hids.1, hids.2, size_arrive]
    exact h.far
  · intro id hmem
    rw [isShut_arrive]
    exact h.unshut id (hids.2 ▸ hmem)
  · intro taken id hmem
    rw [size_arrive]
    obtain hold | hnew := List.mem_append.mp hmem
    · exact h.served taken id hold
    · cases List.mem_singleton.mp hnew
      exact ⟨hfar, hlt⟩

theorem lose (h : Accounted before x settled) {peer : Connection} {frame : Bytes}
    {rest : List Bytes} (hpeer : x.channel.connection = some peer)
    (houtbox : x.channel.outbox = frame :: rest)
    (hsevered : x.system.isSevered peer.stream = true)
    (hquiet : writtenTo peer.stream settled = []) (queuedBytes : Nat) :
    Accounted before
      { x with
        channel := { x.channel with connection := none, outbox := rest, queuedBytes }
        system := x.system.hangUp peer.stream }
      (settled ++ [(frame, .lost peer.stream)]) := by
  obtain ⟨hfar, hlt⟩ := h.connection_far hpeer
  have hids : lostAt (settled ++ [(frame, .lost peer.stream)]) ++ ({ x with
      channel := { x.channel with connection := none, outbox := rest, queuedBytes }
      system := x.system.hangUp peer.stream } : Scene).peers = lostAt settled ++ x.peers := by
    simp [Scene.peers, Scene.waiting, hpeer]
  refine ⟨?_, ?_, ?_, ?_, ?_, ?_, ?_, ?_, ?_, ?_, ?_⟩
  · rw [h.accepted_eq, houtbox, List.map_append, List.append_assoc]
    rfl
  · intro taken hmem
    exact h.fits taken (houtbox ▸ List.mem_cons_of_mem frame hmem)
  · intro id hnear
    rw [unread_hangUp, h.arrived id hnear]
    simp
  · intro taken hmem
    exact h.dropped taken (by simpa using hmem)
  · intro id hmem
    obtain hold | rfl : id ∈ lostAt settled ∨ id = peer.stream := by
      simpa using hmem
    · exact h.left_of_wears (wears_hangUp ..) id hold
    · exact (wears_hangUp ..).isLeft (peer_lt hfar hlt) (h.isLeft_of_severed hpeer hsevered)
  · intro id hid
    have hid' : id = peer.stream ∨
        id ∈ lostAt settled ∨ id ∈ x.waiting ∨ x.system.ends.size ≤ id := by
      simpa [Scene.waiting, or_assoc, or_left_comm] using hid
    rw [writtenTo_append, writtenTo_singleton, if_neg (by simp), List.append_nil]
    obtain rfl | hid' := hid'
    · exact hquiet
    · exact h.quiet id hid'
  · rw [size_hangUp]
    exact h.paired
  · rw [hids]
    exact h.ordered
  · rw [hids, size_hangUp]
    exact h.far
  · intro id hmem
    rw [isShut_hangUp_of_ne (h.ne_connection hpeer (.inr (.inl hmem)))]
    exact h.unshut id (List.mem_append_right _ hmem)
  · intro taken id hmem
    rw [size_hangUp]
    exact h.served taken id (by simpa using hmem)

theorem drop (h : Accounted before x settled) {system : SocketSystem}
    (hsize : system.ends.size = x.system.ends.size) (hwears : Wears x.system system)
    (hunread : ∀ id, system.unread id = x.system.unread id) :
    Accounted before
      { x with
        channel := { x.channel with
          listener := none, connection := none, outbox := [], queuedBytes := 0 }
        system }
      (settled ++ x.channel.outbox.map fun frame => (frame, .dropped)) := by
  refine ⟨?_, by simp, ?_, fun _ _ => rfl, ?_, ?_, hsize ▸ h.paired, ?_, ?_, ?_, ?_⟩
  · rw [h.accepted_eq]
    simp [Function.comp_def]
  · intro id hnear
    rw [hunread, h.arrived id hnear, writtenTo_append, writtenTo_map_dropped, List.append_nil]
  · rw [lostAt_append, lostAt_map_dropped, List.append_nil]
    exact h.left_of_wears hwears
  · intro id hid
    rw [writtenTo_append, writtenTo_map_dropped, List.append_nil]
    apply h.quiet id
    simp only [lostAt_append, lostAt_map_dropped, List.append_nil, Scene.waiting, hsize,
      Option.map_none, Option.getD_none, List.not_mem_nil, false_or] at hid
    exact hid.imp_right Or.inr
  · simpa [Scene.peers, Scene.waiting, lostAt_map_dropped] using
      h.ordered.sublist (List.sublist_append_left ..)
  · simpa [Scene.peers, Scene.waiting, lostAt_map_dropped, hsize] using
      fun id hmem => h.far id (List.mem_append_left _ hmem)
  · simp [Scene.peers, Scene.waiting]
  · simpa [hsize] using h.served

end Accounted

end ModuleProxy
