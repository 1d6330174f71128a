import ModuleProxy.Proofs.Socket.Outbox

namespace ModuleProxy

open SocketSystem

section

variable {before : StreamId → Bytes} {x : Scene} {settled : List (Bytes × Fate)}

theorem Scene.waiting_connect (x : Scene) (listener : ListenerId) :
    ∃ new, (new = [] ∨ new = [x.system.ends.size + 1]) ∧
      ({ x with
        system := x.system.pair.2.modifyListener listener fun l =>
          { l with waiting := l.waiting ++ [x.system.ends.size + 1] } } : Scene).waiting =
        x.waiting ++ new := by
  cases hlistener : x.channel.listener with
  | none => exact ⟨[], .inl rfl, by simp [Scene.waiting, hlistener]⟩
  | some l =>
    simp only [Scene.waiting, hlistener, Option.map_some, Option.getD_some,
      waitingAt_modifyListener]
    split
    · cases hl : x.system.listeners[l]? with
      | none => exact ⟨[], .inl rfl, by simp [waitingAt, pair, hl]⟩
      | some e => exact ⟨_, .inr rfl, by simp [waitingAt, pair, hl]⟩
    · exact ⟨[], .inl rfl, by simp [waitingAt, pair]⟩

theorem Accounted.connect (h : Accounted before x settled) (listener : ListenerId) :
    Accounted before
      { x with
        system := x.system.pair.2.modifyListener listener fun l =>
          { l with waiting := l.waiting ++ [x.system.ends.size + 1] } } settled := by
  obtain ⟨new, hnew, hwaiting⟩ := x.waiting_connect listener
  generalize hnext : x.system.pair.2.modifyListener listener _ = system at hwaiting ⊢
  have hends : system.ends = x.system.pair.2.ends := by rw [← hnext]; rfl
  have hsize : system.ends.size = x.system.ends.size + 2 := by rw [hends]; simp [pair]
  have hpeers : ({ x with system } : Scene).peers = x.peers ++ new := by
    simp only [Scene.peers, hwaiting, List.append_assoc]
  have hfresh : ∀ id ∈ new, id = x.system.ends.size + 1 := by
    obtain rfl | rfl := hnew <;> simp
  have hpaired := h.paired
  refine ⟨h.accepted_eq, h.fits, ?_, h.dropped, ?_, ?_, ?_, ?_, ?_, ?_, ?_⟩
  · intro id hnear
    have hunread : system.unread id = x.system.pair.2.unread id := by rw [unread, hends, unread]
    rw [hunread, unread_pair]
    exact h.arrived id hnear
  · exact h.left_of_wears ⟨hends ▸ (wears_pair _).held, hends ▸ (wears_pair _).shut⟩
  · -- the fresh far end was beyond the last one so far
    intro id hid
    apply h.quiet id
    rw [hwaiting, hsize, List.mem_append] at hid
    obtain hlost | (hold | hfar) | hbeyond := hid
    · exact .inl hlost
    · exact .inr (.inl hold)
    · exact .inr (.inr (hfresh id hfar ▸ Nat.le_succ _))
    · exact .inr (.inr (Nat.le_of_succ_le (Nat.le_of_succ_le hbeyond)))
  · rw [hsize]
    omega
  · rw [hpeers, ← List.append_assoc, List.pairwise_append]
    refine ⟨h.ordered, by obtain rfl | rfl := hnew <;> simp, ?_⟩
    intro id hmem id' hnew'
    rw [hfresh id' hnew']
    exact Nat.lt_succ_of_lt (h.far id hmem).2
  · intro id hmem
    rw [hpeers, ← List.append_assoc, List.mem_append] at hmem
    rw [hsize]
    obtain hold | hfar := hmem
    · exact ⟨(h.far id hold).1, Nat.lt_add_right 2 (h.far id hold).2⟩
    · rw [hfresh id hfar]
      exact ⟨by rw [IsNear]; omega, Nat.lt_succ_self _⟩
  · intro id hmem
    have hshut : system.isShut id = x.system.pair.2.isShut id := by rw [isShut, hends, isShut]
    rw [hshut]
    rw [hpeers, List.mem_append] at hmem
    apply isShut_pair
    refine hmem.imp (fun hold => ⟨(h.far id ?_).2, h.unshut id hold⟩) (hfresh id)
    exact List.mem_append_right _ hold
  · intro frame id hmem
    rw [hsize]
    exact ⟨(h.served frame id hmem).1, Nat.lt_add_right 2 (h.served frame id hmem).2⟩

theorem Scene.Settled.act (h : x.Settled before) (a : SceneAct) : (x.act a).Settled before := by
  cases a with
  | send frame => exact h.send frame
  | recv => exact h.recv
  | disconnect => exact h.disconnect
  | connect path =>
    obtain hsame | ⟨listener, hpair⟩ := x.system.connect_eq path
    · rw [Scene.act, hsame]
      exact h
    · rw [Scene.act, hpair]
      obtain ⟨settled, haccounted, hidle⟩ := h
      exact ⟨settled, haccounted.connect listener, hidle⟩
  | read id n =>
    rw [Scene.act]
    split
    · have hat := readAt_read n x.system id
      refine h.goOn hat.size_eq hat.wears hat.waitingAt_eq ?_ fun id' _ => hat.isShut_eq id'
      intro id' hnear
      by_cases heq : id' = id
      · subst heq
        rw [Function.update_self, List.append_assoc, unread_read]
      · rw [Function.update_of_ne heq, hat.unread_eq id' (Ne.symm heq)]
    · exact h
  | write id bytes =>
    rw [Scene.act]
    split
    · rename_i hmay
      obtain hsame | harrive := x.system.write_eq bytes id
      · rw [hsame]
        exact h
      · rw [harrive]
        refine h.goOn (size_arrive ..) (wears_arrive ..) (waitingAt_arrive ..) ?_
          fun id' _ => isShut_arrive ..
        intro id' hnear
        rw [unread_arrive_of_ne]
        rintro rfl
        exact not_isNear_peer hmay.1 hnear
    · exact h
  | shutdown id =>
    rw [Scene.act]
    split
    · rename_i hmay
      refine h.goOn (size_modifyEnd ..) (wears_shutdown ..) rfl
        (fun id' _ => by rw [unread_shutdown]) fun id' hfar => ?_
      exact isShut_modifyEnd_of_ne _ _ _ _ (by rintro rfl; exact hfar hmay.1)
    · exact h
  | close id =>
    rw [Scene.act]
    split
    · exact h.goOn (size_close ..) (wears_close ..) rfl (fun id' _ => by rw [unread_close])
        fun id' _ => isShut_close ..
    · exact h
  | duplicate id =>
    rw [Scene.act]
    split
    · rename_i hmay
      exact h.goOn (size_modifyEnd ..) (wears_duplicate hmay.2) rfl
        (fun id' _ => by rw [unread_duplicate]) fun id' _ => isShut_modifyEnd _ _ _ _ fun _ => rfl
    · exact h
  | changeFiles files =>
    have hwears : Wears x.system { x.system with files } := ⟨.refl _ _, .refl _ _⟩
    exact h.goOn rfl hwears rfl (fun _ _ => rfl) fun _ _ => rfl

theorem Scene.Settled.actAll (h : x.Settled before) (acts : List SceneAct) :
    (actAll acts x).Settled before := by
  induction acts generalizing x with
  | nil => exact h
  | cons a acts ih => exact ih (h.act a)

theorem Scene.listener_act (x : Scene) {a : SceneAct} (ha : a ≠ .disconnect) :
    (x.act a).channel.listener = x.channel.listener := by
  cases a with
  | send frame =>
    have hsend := x.channel.listener_send frame x.system
    simp only [act]
    split <;> exact hsend
  | recv => exact x.channel.listener_recv x.system 0
  | disconnect => exact absurd rfl ha
  | connect path | changeFiles files => rfl
  | read id n | write id bytes | shutdown id | close id | duplicate id =>
    rw [act]
    split <;> rfl

theorem Scene.listener_actAll {acts : List SceneAct} (hacts : .disconnect ∉ acts) (x : Scene) :
    (Scene.actAll acts x).channel.listener = x.channel.listener := by
  induction acts generalizing x with
  | nil => rfl
  | cons a acts ih =>
    rw [List.mem_cons, not_or] at hacts
    exact (ih hacts.2 (x.act a)).trans (x.listener_act (Ne.symm hacts.1))

end

theorem Scene.settled_bind {role : ChannelRole} {address : ChannelAddress} {base : Option String}
    {limits : FrameLimits} {system system' : SocketSystem} {channel : SocketChannel}
    (hpaired : system.ends.size % 2 = 0)
    (hbind : SocketChannel.bind role address base limits system = (.ok channel, system')) :
    ({ channel, system := system' } : Scene).Settled system.unread := by
  obtain ⟨hends, listener, rfl, hwaiting⟩ := SocketChannel.of_bind hbind
  have hpeers : ({ channel := { role, listener := some listener, limits }
                   system := system' } : Scene).peers = [] := by
    simp [Scene.peers, Scene.waiting, hwaiting]
  refine ⟨[], ⟨rfl, by simp, ?_, by simp, by simp [lostAt], ?_, hends ▸ hpaired, ?_, ?_, ?_,
    by simp⟩, fun _ => rfl⟩
  · intro id _
    simp [writtenTo, unread, hends]
  · simp [writtenTo]
  · simp [lostAt, hpeers]
  · simp [lostAt, hpeers]
  · simp [hpeers]

/-- Every frame that a channel took has been written whole to a peer, or waits in the outbox, in
order; or it was dropped with the channel, or lost with a peer that left before anything was written
to it, and no two with the same peer. What a peer gets is what was written to it, in order. -/
theorem Scene.accepted_settled {role : ChannelRole} {address : ChannelAddress}
    {base : Option String} {limits : FrameLimits} {system system' : SocketSystem}
    {channel : SocketChannel} (hpaired : system.ends.size % 2 = 0)
    (hbind : SocketChannel.bind role address base limits system = (.ok channel, system'))
    (acts : List SceneAct) :
    let x := actAll acts { channel, system := system' }
    ∃ settled : List (Bytes × Fate),
      x.accepted = settled.map Prod.fst ++ x.channel.outbox ∧
      (∀ id, IsNear id →
        x.heard id ++ x.system.unread id = system.unread id ++ writtenTo (peer id) settled) ∧
      (∀ frame id, (frame, .written id) ∈ settled → ¬IsNear id ∧ id < x.system.ends.size) ∧
      (∀ frame, (frame, .dropped) ∈ settled → .disconnect ∈ acts) ∧
      (lostAt settled).Nodup ∧
      ∀ id ∈ lostAt settled, (¬IsNear id ∧ id < x.system.ends.size) ∧ x.system.IsLeft id ∧
        writtenTo id settled = [] := by
  intro x
  obtain ⟨settled, h, _⟩ := (settled_bind hpaired hbind).actAll acts
  refine ⟨settled, h.accepted_eq, h.arrived, h.served, ?_, ?_, fun id hmem =>
    ⟨h.far id (List.mem_append_left _ hmem), h.left id hmem, h.quiet id (.inl hmem)⟩⟩
  · intro frame hmem
    by_contra hacts
    obtain ⟨_, listener, rfl, _⟩ := SocketChannel.of_bind hbind
    exact absurd ((listener_actAll hacts _).symm.trans (h.dropped frame hmem)) (by simp)
  · exact (List.pairwise_append.mp h.ordered).1.imp (fun hlt => Nat.ne_of_lt hlt)

def Scene.listening : Scene where
  channel := { role := .message, listener := some 0 }
  system :=
    { files := ⟨[(["q.sock"], .socket 0 SocketSystem.defaultMode)]⟩
      listeners := #[{ path := "q.sock" }] }

theorem Scene.bind_listening :
    SocketChannel.bind .message ⟨"q.sock"⟩ none {} {} =
      (.ok listening.channel, listening.system) := rfl

theorem Scene.accepted_settled_two_visits :
    let acts : List SceneAct := [.send (createReply true), .send [7], .connect "q.sock", .close 0,
      .recv, .connect "q.sock", .recv, .read 2 100]
    let x := actAll acts listening
    ∃ settled : List (Bytes × Fate),
      x.accepted = settled.map Prod.fst ++ x.channel.outbox ∧
      (∀ id, IsNear id → x.heard id ++ x.system.unread id = writtenTo (peer id) settled) ∧
      (∀ frame id, (frame, .written id) ∈ settled → ¬IsNear id ∧ id < x.system.ends.size) ∧
      (∀ frame, (frame, .dropped) ∈ settled → .disconnect ∈ acts) ∧
      (lostAt settled).Nodup ∧
      ∀ id ∈ lostAt settled, (¬IsNear id ∧ id < x.system.ends.size) ∧ x.system.IsLeft id ∧
        writtenTo id settled = [] :=
  accepted_settled rfl bind_listening _

/-- A frame is taken, and a peer comes and goes: the frame is neither written nor kept, and it was
not dropped with the channel. -/
theorem Scene.accepted_frame_lost :
    let x := actAll [.send (createReply true), .connect "q.sock", .close 0, .recv,
      .connect "q.sock"] listening
    x.accepted = [createReply true] ∧ x.channel.outbox = [] ∧ x.channel.listener = some 0 ∧
      ∀ id, x.heard id ++ x.system.unread id = [] := by
  intro x
  let y := actAll [.send (createReply true), .connect "q.sock", .close 0] listening
  have haccept : y.system.accept? 0 =
      (some 1, { listening.system with ends := #[{ holders := 0 }, {}] }) := rfl
  have hawait := SocketChannel.awaitPeer_of_left (c := y.channel) rfl rfl haccept rfl rfl
    (by decide) (by decide) rfl
  have hrecv : y.act .recv = y.next (y.channel.awaitPeer y.system).2 := by
    rw [act, SocketChannel.recv_of_failed hawait, hawait]
  have hx : x = (y.act .recv).act (.connect "q.sock") := rfl
  rw [hx, hrecv, hawait]
  refine ⟨rfl, rfl, rfl, ?_⟩
  rintro (_ | _ | _ | _ | _) <;> rfl

end ModuleProxy
