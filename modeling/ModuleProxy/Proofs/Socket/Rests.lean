import ModuleProxy.Proofs.Socket.Still

namespace ModuleProxy

open SocketSystem

namespace Scene

variable {before : StreamId → Bytes} {x : Scene} {id : StreamId}

theorem Settled.ne_connection (h : x.Settled before) (hshut : Shut id x.system)
    {peer : Connection} (hpeer : x.channel.connection = some peer) : peer.stream ≠ id := by
  obtain ⟨settled, haccounted, _⟩ := h
  have hunshut := haccounted.unshut peer.stream (by simp [peers, hpeer])
  rintro rfl
  exact absurd (hunshut.symm.trans hshut.isShut) (by decide)

theorem still_recv (h : x.Settled before) (hshut : Shut id x.system) :
    Still id x.system (x.channel.recv x.system).2.2 := by
  have hstill := x.channel.still_awaitPeer hshut
  have hsettled := h.awaitPeer
  rcases hawait : x.channel.awaitPeer x.system with ⟨e | _, c, s⟩ <;>
    rw [hawait] at hstill hsettled
  · rwa [SocketChannel.recv_of_failed hawait]
  · cases hpeer : c.connection with
    | none => rwa [SocketChannel.recv_of_free hawait hpeer]
    | some peer =>
      have hserved := hsettled.ne_connection (hshut.of_wears hstill.wears) hpeer
      obtain ⟨settled, haccounted, _⟩ := hsettled
      have hfar := (haccounted.connection_far hpeer).1
      have hread : Still id x.system
          (peer.reader.readFrame (OpenStream.mk peer.stream s)).2.2.system := by
        have hat := (peer.reader.readAt_readFrame (OpenStream.mk peer.stream s)).2
        refine hstill.trans (.of_readAt hat hserved ?_)
        intro heq
        have hnear := isNear_peer hshut.far
        rw [← heq] at hnear
        exact hfar hnear
      obtain hkept | hdropped := SocketChannel.recv_awaited_cases hawait hpeer
      · rw [hkept]
        exact hread
      · rw [hdropped]
        exact hread.trans (SocketChannel.still_dropConnection ..)

structure Rests (id : StreamId) (x y : Scene) : Prop where
  wears : Wears x.system y.system
  unread_eq : y.system.unread id = x.system.unread id
  heard_eq : y.heard (peer id) ++ y.system.unread (peer id) =
    x.heard (peer id) ++ x.system.unread (peer id)

theorem Rests.refl (id : StreamId) (x : Scene) : Rests id x x :=
  ⟨.refl _, rfl, rfl⟩

theorem Rests.trans {x y z : Scene} (h : Rests id x y) (h' : Rests id y z) : Rests id x z :=
  ⟨h.wears.trans h'.wears, h'.unread_eq.trans h.unread_eq, h'.heard_eq.trans h.heard_eq⟩

theorem Rests.of_still {y : Scene} (h : Still id x.system y.system) (hheard : y.heard = x.heard) :
    Rests id x y :=
  ⟨h.wears, h.unread_eq, by rw [h.unread_peer, hheard]⟩

theorem rests_read (hshut : Shut id x.system) {id' : StreamId} (hmay : x.MayAct id') (n : Nat) :
    Rests id x { x with
      system := (x.system.read n id').2
      heard := Function.update x.heard id'
        (x.heard id' ++ (x.system.read n id').1.toOption.getD []) } := by
  have hat := readAt_read n x.system id'
  have hne : id' ≠ id := by
    rintro rfl
    exact hshut.far hmay.1
  refine ⟨hat.wears, hat.unread_eq id hne, ?_⟩
  dsimp only
  by_cases heq : peer id = id'
  · subst heq
    rw [Function.update_self, List.append_assoc, unread_read]
  · rw [Function.update_of_ne heq, hat.unread_eq _ (Ne.symm heq)]

theorem rests_act (h : x.Settled before) (hshut : Shut id x.system) (a : SceneAct) :
    Rests id x (x.act a) := by
  cases a with
  | send frame =>
    have hstill := x.channel.still_send hshut frame
    simp only [act]
    split <;> exact .of_still hstill rfl
  | recv => exact .of_still (still_recv h hshut) rfl
  | disconnect => exact .of_still (SocketChannel.still_disconnect ..) rfl
  | connect path => exact .of_still (.connect ..) rfl
  | read id' n =>
    rw [act]
    split
    · exact rests_read hshut ‹_› n
    · exact .refl id x
  | write id' bytes =>
    rw [act]
    split
    · exact .of_still (.write hshut bytes id') rfl
    · exact .refl id x
  | shutdown id' =>
    rw [act]
    split
    · exact .of_still (.of_unread (wears_shutdown ..) (unread_shutdown _ id')) rfl
    · exact .refl id x
  | close id' =>
    rw [act]
    split
    · exact .of_still (.of_unread (wears_close ..) (unread_close _ id')) rfl
    · exact .refl id x
  | duplicate id' =>
    rw [act]
    split
    · rename_i hmay
      exact .of_still (.of_unread (wears_duplicate hmay.2) (unread_duplicate _ id')) rfl
    · exact .refl id x
  | changeFiles files => exact .of_still (.of_ends rfl) rfl

theorem rests_actAll (h : x.Settled before) (hshut : Shut id x.system)
    (acts : List SceneAct) : Rests id x (actAll acts x) := by
  induction acts generalizing x with
  | nil => exact .refl id x
  | cons a acts ih =>
    have hact := rests_act h hshut a
    exact hact.trans (ih (h.act a) (hshut.of_wears hact.wears))

theorem free_act (h : x.channel.listener = none → x.channel.connection = none) (a : SceneAct) :
    (x.act a).channel.listener = none → (x.act a).channel.connection = none := by
  by_cases ha : a = .disconnect
  · intro _
    subst ha
    have hfree := x.channel.connection_dropConnection x.system
    simp only [act, SocketChannel.disconnect, next]
    exact hfree
  · rw [x.listener_act ha]
    intro hclosed
    have hfree := h hclosed
    cases a with
    | send frame =>
      simp only [act, x.channel.send_of_listener_eq_none hclosed]
      exact hfree
    | recv =>
      have hrecv : x.channel.recv x.system =
          (.error x.channel.closedError, x.channel, x.system) :=
        SocketChannel.recv_of_failed (SocketChannel.awaitPeer_of_closed hfree hclosed _)
      rw [act, hrecv]
      exact hfree
    | disconnect => exact absurd rfl ha
    | connect path | changeFiles files => exact hfree
    | read id n | write id bytes | shutdown id | close id | duplicate id =>
      rw [act]
      split <;> exact hfree

theorem free_actAll (h : x.channel.listener = none → x.channel.connection = none)
    (acts : List SceneAct) :
    (actAll acts x).channel.listener = none → (actAll acts x).channel.connection = none := by
  induction acts generalizing x with
  | nil => exact h
  | cons a acts ih => exact ih (free_act h a)

end Scene

end ModuleProxy
