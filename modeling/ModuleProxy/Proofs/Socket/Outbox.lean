import ModuleProxy.Proofs.Socket.Fates

namespace ModuleProxy

open SocketSystem

def Scene.Settled (before : StreamId → Bytes) (x : Scene) : Prop :=
  ∃ settled, Accounted before x settled ∧ (x.channel.connection ≠ none → x.channel.outbox = [])

variable {before : StreamId → Bytes} {x : Scene} {settled : List (Bytes × Fate)}

theorem Accounted.settled_of_free (h : Accounted before x settled)
    (hfree : x.channel.connection = none) : x.Settled before :=
  ⟨settled, h, fun hpeer => absurd hfree hpeer⟩

theorem Accounted.settled_flush {peer : Connection} {frames : List Bytes}
    (h : Accounted before x settled) (hpeer : x.channel.connection = some peer)
    (houtbox : x.channel.outbox = frames)
    (hquiet : x.system.isSevered peer.stream = true → writtenTo peer.stream settled = []) :
    (x.next (SocketChannel.flush frames peer x.channel x.system).2).Settled before := by
  induction frames generalizing x settled with
  | nil => exact ⟨settled, h, fun _ => houtbox⟩
  | cons frame rest ih =>
    have hfits := h.fits frame (houtbox ▸ List.mem_cons_self)
    rw [SocketChannel.flush_cons hfits]
    split
    · rename_i hlost
      have hdropped := SocketChannel.dropConnection_of_some
        (c := { x.channel with
          outbox := rest
          queuedBytes := x.channel.queuedBytes - frame.length }) hpeer x.system
      rw [hdropped]
      exact (h.lose hpeer houtbox hlost.2 (hquiet hlost.2) _).settled_of_free rfl
    · rename_i hwritten
      refine ih (h.write hpeer houtbox _) hpeer rfl ?_
      -- only an empty frame can be written to a peer that has left
      intro hsevered
      rw [isSevered_arrive] at hsevered
      have hnil : frame = [] := by simpa [hsevered] using hwritten
      simp [hquiet hsevered, hnil]

theorem Scene.Settled.awaitPeer (h : x.Settled before) :
    (x.next (x.channel.awaitPeer x.system).2).Settled before := by
  obtain ⟨settled, haccounted, hidle⟩ := h
  have hawait := x.channel.awaits_awaitPeer x.system
  generalize x.channel.awaitPeer x.system = found at hawait ⊢
  cases hawait with
  | connected | closed => exact ⟨settled, haccounted, hidle⟩
  | refused _ _ haccept => cases haccept
  | nobody _ _ haccept =>
    rw [accept?_eq_none (accept_iff.mp haccept)]
    exact ⟨settled, haccounted, hidle⟩
  | @unready _ stream _ system _ hfree hlistener haccept hready =>
    -- the times cannot be set: the stream is closed, and nobody is served
    obtain ⟨_, _, _, rfl⟩ := ready_error_iff.mp hready
    obtain ⟨haccepted, _⟩ := haccounted.accept ⟨stream, {}⟩ hlistener hfree (accept_iff.mp haccept)
    have hclosed := haccepted.goOn x.heard (system.close stream) (size_close ..)
      (wears_close ..) rfl (fun id _ => by rw [unread_close]) fun id _ => isShut_close ..
    have hfreed : Accounted before { x with system := system.close stream } settled :=
      hclosed.reconnect rfl rfl rfl rfl (List.Subset.refl _)
        (by simp [Scene.peers, hfree, Scene.waiting])
    exact hfreed.settled_of_free hfree
  | @peer _ stream _ system peer _ hfree hlistener haccept hready hpeer hflush =>
    obtain ⟨_, rfl⟩ := ready_ok_iff.mp hready
    obtain rfl : stream = peer.stream := by rw [hpeer]
    obtain ⟨haccepted, hquiet⟩ := haccounted.accept peer hlistener hfree (accept_iff.mp haccept)
    have hwritten := haccepted.settled_flush rfl rfl fun _ => hquiet
    rwa [hflush] at hwritten

theorem Scene.Settled.dropConnection (h : x.Settled before) :
    (x.next (x.channel.dropConnection x.system)).Settled before := by
  obtain ⟨settled, haccounted, hidle⟩ := h
  cases hpeer : x.channel.connection with
  | none =>
    rw [SocketChannel.dropConnection, hpeer]
    exact ⟨settled, haccounted, hidle⟩
  | some peer =>
    rw [SocketChannel.dropConnection_of_some hpeer]
    exact (haccounted.hangUp hpeer).settled_of_free rfl

theorem Accounted.settled_deliver {peer : Connection} (h : Accounted before x settled)
    (hpeer : x.channel.connection = some peer) (houtbox : x.channel.outbox = []) (frame : Bytes)
    (hfits : frame.length ≤ x.channel.limits.maxSize) :
    ({ x with
      accepted := x.accepted ++ [frame]
      system := x.system.arrive frame peer.stream } : Scene).Settled before := by
  have hfirst : x.channel.outbox ++ [frame] = [frame] := by rw [houtbox, List.nil_append]
  have hwritten := (h.take hfits x.channel.queuedBytes).write hpeer hfirst x.channel.queuedBytes
  have hsame : { x.channel with outbox := [] } = x.channel := by rw [← houtbox]
  rw [hsame] at hwritten
  exact ⟨_, hwritten, fun _ => houtbox⟩

theorem Scene.Settled.send (h : x.Settled before) (frame : Bytes) :
    (x.act (.send frame)).Settled before := by
  have hpeer := h.awaitPeer
  simp only [Scene.act, SocketChannel.send]
  cases hlistener : x.channel.listener with
  | none => exact h
  | some listener =>
    rcases hawait : x.channel.awaitPeer x.system with ⟨e | connected, c, s⟩ <;> rw [hawait] at hpeer
    · exact hpeer
    · have hleft := hpeer.dropConnection
      obtain ⟨settled, haccounted, hidle⟩ := hpeer
      dsimp only
      cases hconnection : c.connection with
      | none =>
        dsimp only
        obtain ⟨hfits, htaken⟩ | ⟨reason, hrefused⟩ := c.enqueue_cases frame
        · rw [htaken]
          exact (haccounted.take hfits _).settled_of_free hconnection
        · rw [hrefused]
          exact haccounted.settled_of_free hconnection
      | some peer =>
        dsimp only
        by_cases hfits : frame.length ≤ c.limits.maxSize
        · rw [SocketChannel.deliver_eq hfits]
          by_cases hlost : frame ≠ [] ∧ s.isSevered peer.stream = true
          · rw [if_pos hlost]
            exact hleft
          · rw [if_neg hlost]
            exact haccounted.settled_deliver hconnection (hidle (by simp [Scene.next, hconnection]))
              frame hfits
        · rw [SocketChannel.deliver_of_large (Nat.lt_of_not_le hfits)]
          exact hleft

theorem Scene.Settled.readAt (h : x.Settled before) {peer : Connection} {system : SocketSystem}
    (hpeer : x.channel.connection = some peer) (hread : ReadAt peer.stream x.system system)
    (reader : FrameReader) :
    ({ x with
      channel := { x.channel with connection := some { peer with reader } }
      system } : Scene).Settled before := by
  obtain ⟨settled, haccounted, hidle⟩ := h
  have hfar := (haccounted.connection_far hpeer).1
  have hgone := haccounted.goOn x.heard system hread.size_eq hread.wears hread.waitingAt_eq
    (fun id hnear => by rw [hread.unread_eq id (by rintro rfl; exact hfar hnear)])
    fun id _ => hread.isShut_eq id
  have hpeers : ({ x with
      channel := { x.channel with connection := some { peer with reader } }
      system } : Scene).peers = ({ x with system } : Scene).peers := by
    simp [Scene.peers, Scene.waiting, hpeer]
  refine ⟨settled, ?_, fun _ => hidle (by simp [hpeer])⟩
  exact hgone.reconnect rfl rfl rfl rfl (List.Subset.refl _) (hpeers ▸ List.Sublist.refl _)

theorem Scene.Settled.recv (h : x.Settled before) : (x.act .recv).Settled before := by
  have hpeer := h.awaitPeer
  rw [Scene.act]
  rcases hawait : x.channel.awaitPeer x.system with ⟨e | connected, c, s⟩ <;> rw [hawait] at hpeer
  · rwa [SocketChannel.recv_of_failed hawait]
  · cases hconnection : c.connection with
    | none => rwa [SocketChannel.recv_of_free hawait hconnection]
    | some peer =>
      have hread := hpeer.readAt hconnection
        (peer.reader.readAt_readFrame (OpenStream.mk peer.stream s)).2
        (peer.reader.readFrame (OpenStream.mk peer.stream s)).2.1
      obtain hkept | hdropped := SocketChannel.recv_awaited_cases hawait hconnection
      · rw [hkept]
        exact hread
      · rw [hdropped]
        exact hread.dropConnection

theorem Scene.Settled.disconnect (h : x.Settled before) : (x.act .disconnect).Settled before := by
  obtain ⟨settled, haccounted, _⟩ := h.dropConnection
  have hfree := x.channel.connection_dropConnection x.system
  simp only [Scene.act, SocketChannel.disconnect]
  rcases hdrop : x.channel.dropConnection x.system with ⟨c, s⟩
  rw [hdrop] at haccounted hfree
  have hchannel : ({ c with listener := none, outbox := [], queuedBytes := 0 } : SocketChannel) =
      { c with listener := none, connection := none, outbox := [], queuedBytes := 0 } := by
    rw [← hfree]
  dsimp only
  rw [hchannel]
  cases c.listener with
  | none => exact (haccounted.drop rfl (.refl s) fun _ => rfl).settled_of_free rfl
  | some listener =>
    obtain ⟨hsize, hwears, hunread⟩ := s.closeListener_ends listener
    exact (haccounted.drop hsize hwears hunread).settled_of_free rfl

theorem Scene.Settled.goOn (h : x.Settled before) {heard : StreamId → Bytes}
    {system : SocketSystem} (hsize : system.ends.size = x.system.ends.size)
    (hwears : Wears x.system system) (hwaiting : system.waitingAt = x.system.waitingAt)
    (hheard : ∀ id, IsNear id →
      heard id ++ system.unread id = x.heard id ++ x.system.unread id)
    (hshut : ∀ id, ¬IsNear id → system.isShut id = x.system.isShut id) :
    ({ x with system, heard } : Scene).Settled before := by
  obtain ⟨settled, haccounted, hidle⟩ := h
  refine ⟨settled, haccounted.goOn heard system hsize hwears hwaiting hheard ?_, hidle⟩
  exact fun id hmem => hshut id (haccounted.far id (List.mem_append_right _ hmem)).1

end ModuleProxy
