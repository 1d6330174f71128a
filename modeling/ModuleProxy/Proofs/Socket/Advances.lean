import ModuleProxy.Proofs.Socket.Visits

namespace ModuleProxy

open scoped List

variable {ω : Type}

structure Logged (c : SocketChannel) (w : Traced ω) (visits : List Visit) : Prop where
  events_eq : w.events = visits.flatMap Visit.events
  sound : ∀ v ∈ visits, v.Sound
  current : ∀ peer, c.connection = some peer →
    ∃ v, visits.getLast? = some v ∧ v.stream = peer.stream ∧ v.cut = none

theorem Logged.write {c c' : SocketChannel} {peer : Connection} {w w' : Traced ω}
    {visits : List Visit} {pieces : List Bytes} {frame : Bytes} (h : Logged c w visits)
    (hpeer : c.connection = some peer)
    (hevents : w'.events = w.events ++ pieces.map (.wrote peer.stream))
    (hbegins : pieces.flatten <+: frame)
    (hafter : ∀ peer', c'.connection = some peer' → peer' = peer ∧ pieces.flatten = frame) :
    ∃ visits', Logged c' w' visits' ∧
      visits'.flatMap Visit.tried = visits.flatMap Visit.tried ++ [frame] := by
  obtain ⟨v, hlast, hstream, hcut⟩ := h.current peer hpeer
  obtain ⟨before, rfl⟩ := List.getLast?_eq_some_iff.mp hlast
  refine ⟨before ++ [v.write pieces frame], ⟨?_, ?_, ?_⟩, ?_⟩
  · simp [hevents, h.events_eq, Visit.events_write, hstream]
  · intro v' hv'
    obtain hv' | hv' := List.mem_append.mp hv'
    · exact h.sound v' (List.mem_append_left _ hv')
    · rw [List.mem_singleton.mp hv']
      exact (h.sound v (by simp)).write hcut hbegins
  · intro peer' hpeer'
    obtain ⟨rfl, hwhole⟩ := hafter peer' hpeer'
    exact ⟨v.write pieces frame, by simp, by rw [Visit.stream_write, hstream],
      by rw [Visit.cut_write hwhole, hcut]⟩
  · simp [Visit.tried_write hcut hbegins]

theorem Logged.accept {c c' : SocketChannel} {w w' : Traced ω} {visits : List Visit}
    {stream : StreamId} (h : Logged c w visits)
    (hevents : w'.events = w.events ++ [.accepted stream])
    (hafter : ∀ peer, c'.connection = some peer → peer.stream = stream) :
    Logged c' w' (visits ++ [{ stream := stream }]) := by
  refine ⟨by simp [hevents, h.events_eq, Visit.events], fun v hv => ?_, fun peer hpeer => ?_⟩
  · obtain hv | hv := List.mem_append.mp hv
    · exact h.sound v hv
    · rw [List.mem_singleton.mp hv]
      exact ⟨rfl, by simp⟩
  · exact ⟨{ stream := stream }, by simp, (hafter peer hpeer).symm, rfl⟩

def SocketChannel.Settled (c : SocketChannel) : Prop :=
  c.connection ≠ none → c.outbox = []

def Tries (tried : List Bytes) (now after : SocketChannel × Traced ω) : Prop :=
  ∀ visits, Logged now.1 now.2 visits → ∃ visits', Logged after.1 after.2 visits' ∧
    visits'.flatMap Visit.tried = visits.flatMap Visit.tried ++ tried

/-- Frames are tried only if they waited or were passed to the channel meanwhile, in this order, and
what waits then comes after them. -/
def Advances (passed : List Bytes) (now after : SocketChannel × Traced ω) : Prop :=
  ∃ tried, Tries tried now after ∧ tried ++ after.1.outbox <+ now.1.outbox ++ passed

section

variable {tried passed more : List Bytes} {now mid after : SocketChannel × Traced ω}

theorem Tries.trans (h : Tries tried now mid) (h' : Tries more mid after) :
    Tries (tried ++ more) now after := by
  intro visits hlogged
  obtain ⟨visits, hlogged, htried⟩ := h visits hlogged
  obtain ⟨visits', hlogged', htried'⟩ := h' visits hlogged
  exact ⟨visits', hlogged', by rw [htried', htried, List.append_assoc]⟩

theorem tries_nil (hevents : after.2.events = now.2.events)
    (hconnection : ∀ peer', after.1.connection = some peer' →
      ∃ peer, now.1.connection = some peer ∧ peer.stream = peer'.stream) :
    Tries [] now after := by
  intro visits h
  refine ⟨visits, ⟨hevents.trans h.events_eq, h.sound, fun peer' hpeer' => ?_⟩,
    (List.append_nil _).symm⟩
  obtain ⟨peer, hpeer, hstream⟩ := hconnection peer' hpeer'
  obtain ⟨v, hlast, hv, hcut⟩ := h.current peer hpeer
  exact ⟨v, hlast, hv.trans hstream, hcut⟩

namespace Advances

theorem trans (h : Advances passed now mid) (h' : Advances more mid after) :
    Advances (passed ++ more) now after := by
  obtain ⟨tried, htries, hsub⟩ := h
  obtain ⟨tried', htries', hsub'⟩ := h'
  refine ⟨tried ++ tried', htries.trans htries', ?_⟩
  calc (tried ++ tried' ++ after.1.outbox)
    _ = tried ++ (tried' ++ after.1.outbox) := List.append_assoc ..
    _ <+ tried ++ (mid.1.outbox ++ more) := (List.Sublist.refl tried).append hsub'
    _ = tried ++ mid.1.outbox ++ more := (List.append_assoc ..).symm
    _ <+ now.1.outbox ++ passed ++ more := hsub.append (.refl more)
    _ = now.1.outbox ++ (passed ++ more) := List.append_assoc ..

theorem of_events (hevents : after.2.events = now.2.events)
    (houtbox : after.1.outbox <+ now.1.outbox ++ passed)
    (hconnection : ∀ peer', after.1.connection = some peer' →
      ∃ peer, now.1.connection = some peer ∧ peer.stream = peer'.stream) :
    Advances passed now after :=
  ⟨[], tries_nil hevents hconnection, houtbox⟩

theorem of_same (hevents : after.2.events = now.2.events)
    (houtbox : after.1.outbox <+ now.1.outbox ++ passed)
    (hsame : after.1.connection = now.1.connection) : Advances passed now after :=
  of_events hevents houtbox fun peer hpeer => ⟨peer, hsame ▸ hpeer, rfl⟩

theorem of_accept {stream : StreamId}
    (hevents : after.2.events = now.2.events ++ [.accepted stream])
    (houtbox : after.1.outbox = now.1.outbox)
    (hafter : ∀ peer, after.1.connection = some peer → peer.stream = stream) :
    Advances [] now after := by
  refine ⟨[], fun visits h => ⟨_, h.accept hevents hafter, ?_⟩, by simp [houtbox]⟩
  simp [Visit.tried]

theorem refl (passed : List Bytes) (now : SocketChannel × Traced ω) : Advances passed now now :=
  of_same rfl (List.sublist_append_left ..) rfl

theorem passing (h : Advances [] now after) (passed : List Bytes) : Advances passed now after :=
  h.trans (refl passed after)

end Advances

end

namespace SocketChannel

variable [Sockets ω] {c : SocketChannel} {peer : Connection}

theorem dropConnection_eq (c : SocketChannel) (w : Traced ω) :
    (c.dropConnection w).1 = { c with connection := none } ∧
      (c.dropConnection w).2.events = w.events := by
  refine ⟨c.dropConnection_fst w, ?_⟩
  unfold dropConnection
  cases c.connection <;> rfl

theorem deliver_tries (hpeer : c.connection = some peer) (frame : Bytes) (w : Traced ω) :
    let after := c.deliver peer frame w
    Tries [frame] (c, w) after.2 ∧
      (after.1 = .ok () ∧ after.2.1 = c ∨
        after.1 ≠ .ok () ∧ after.2.1 = { c with connection := none }) := by
  obtain ⟨pieces, hevents, hbegins, hall⟩ :=
    FrameWriter.events_writeFrame ⟨c.limits.maxSize⟩ frame (OpenStream.mk peer.stream w)
  unfold deliver
  rcases hwrite : FrameWriter.writeFrame _ frame (OpenStream.mk peer.stream w) with ⟨e | _, l⟩ <;>
    rw [hwrite] at hevents hall
  · -- the peer is given up, so that nothing follows what was cut off
    obtain ⟨hdropped, hsame⟩ := c.dropConnection_eq l.system
    refine ⟨fun visits h => h.write hpeer (hsame.trans hevents) hbegins ?_,
      .inr ⟨nofun, hdropped⟩⟩
    rw [hdropped]
    exact nofun
  · refine ⟨fun visits h => h.write hpeer hevents hbegins fun peer' hpeer' => ?_,
      .inl ⟨rfl, rfl⟩⟩
    exact ⟨Option.some.inj (hpeer'.symm.trans hpeer), hall rfl⟩

theorem flush_advances (frames : List Bytes) (hpeer : c.connection = some peer)
    (houtbox : c.outbox = frames) (w : Traced ω) :
    let after := flush frames peer c w
    Advances [] (c, w) after.2 ∧ after.2.1.Settled := by
  induction frames generalizing c w with
  | nil => exact ⟨.refl _ _, fun _ => houtbox⟩
  | cons frame rest ih =>
    let c' : SocketChannel :=
      { c with outbox := rest, queuedBytes := c.queuedBytes - frame.length }
    have hpeer' : c'.connection = some peer := hpeer
    obtain ⟨htries, hafter⟩ := deliver_tries hpeer' frame w
    have htaken : Tries [] (c, w) (c', w) := tries_nil rfl fun peer' h => ⟨peer', h, rfl⟩
    have hadvances : (c'.deliver peer frame w).2.1.outbox = rest →
        Advances [] (c, w) (c'.deliver peer frame w).2 := by
      intro hrest
      exact ⟨[frame], htaken.trans htries, by simp [hrest, houtbox]⟩
    rw [flush]
    rcases hdeliver : c'.deliver peer frame w with ⟨e | _, after, w'⟩ <;>
      rw [hdeliver] at hafter hadvances
    · -- the frames behind this one stay for the next peer
      obtain ⟨hok, -⟩ | ⟨-, rfl⟩ := hafter
      · cases hok
      · exact ⟨hadvances rfl, fun h => absurd rfl h⟩
    · obtain ⟨-, rfl⟩ | ⟨hfailed, -⟩ := hafter
      · obtain ⟨hrest, hsettled⟩ := ih hpeer' rfl w'
        exact ⟨(hadvances rfl).trans hrest, hsettled⟩
      · exact absurd rfl hfailed

theorem awaitPeer_advances (hsettled : c.Settled) (w : Traced ω) :
    let after := c.awaitPeer w
    Advances [] (c, w) after.2 ∧ after.2.1.Settled := by
  have hawait := c.awaits_awaitPeer w
  generalize c.awaitPeer w = found at hawait ⊢
  cases hawait with
  | connected | closed => exact ⟨.refl _ _, hsettled⟩
  | refused _ _ haccept | nobody _ _ haccept =>
    have hevents := (Traced.events_accept haccept).trans (List.append_nil _)
    exact ⟨.of_same hevents (by simp) rfl, hsettled⟩
  | unready hfree _ haccept hready =>
    have hevents := (Traced.events_ready hready).trans (Traced.events_accept haccept)
    exact ⟨.of_accept hevents rfl (by simp [hfree]), hsettled⟩
  | @peer _ _ _ w'' peer _ hfree _ haccept hready hpeer hflush =>
    have hevents := (Traced.events_ready hready).trans (Traced.events_accept haccept)
    have hcome : Advances [] (c, w) ({ c with connection := some peer }, w'') := by
      refine .of_accept hevents rfl ?_
      rintro _ ⟨rfl⟩
      rw [hpeer]
    obtain ⟨hwritten, hsettled⟩ :=
      flush_advances c.outbox (c := { c with connection := some peer }) rfl rfl w''
    rw [hflush] at hwritten hsettled
    exact ⟨hcome.trans hwritten, hsettled⟩

theorem awaitPeerFor_advances (tries : Nat) (hsettled : c.Settled) (w : Traced ω) :
    let after := awaitPeerFor tries c w
    Advances [] (c, w) after.2 ∧ after.2.1.Settled := by
  induction tries generalizing c w with
  | zero => exact awaitPeer_advances hsettled w
  | succ tries ih =>
    obtain ⟨hfirst, hsettled⟩ := awaitPeer_advances hsettled w
    rw [awaitPeerFor]
    generalize c.awaitPeer w = first at hfirst hsettled ⊢
    rcases first with ⟨e | _ | _, c', w'⟩
    · exact ⟨hfirst, hsettled⟩
    · obtain ⟨hrest, hsettled⟩ := ih hsettled w'
      exact ⟨hfirst.trans hrest, hsettled⟩
    · exact ⟨hfirst, hsettled⟩

omit [Sockets ω] in
theorem enqueue_advances (hnone : c.connection = none) (frame : Bytes) (w : Traced ω) :
    Advances [frame] (c, w) ((c.enqueue frame).2, w) ∧ (c.enqueue frame).2.Settled := by
  have hsettled : c.Settled := fun h => absurd hnone h
  unfold enqueue
  split
  · exact ⟨.refl _ _, hsettled⟩
  · exact ⟨.of_same rfl (.refl _) rfl, fun h => absurd hnone h⟩

theorem send_advances (hsettled : c.Settled) (frame : Bytes) (w : Traced ω) :
    let after := c.send frame w
    Advances [frame] (c, w) after.2 ∧ after.2.1.Settled := by
  unfold send
  cases c.listener with
  | none => exact ⟨.refl _ _, hsettled⟩
  | some listener =>
    obtain ⟨hawait, hsettled⟩ := awaitPeer_advances hsettled w
    dsimp only
    generalize c.awaitPeer w = awaited at hawait hsettled ⊢
    rcases awaited with ⟨e | _, c', w'⟩
    · exact ⟨hawait.passing _, hsettled⟩
    · dsimp only at hawait hsettled ⊢
      cases hpeer : c'.connection with
      | none =>
        obtain ⟨hqueued, hsettled⟩ := enqueue_advances hpeer frame w'
        exact ⟨hawait.trans hqueued, hsettled⟩
      | some peer =>
        obtain ⟨htries, hafter⟩ := deliver_tries hpeer frame w'
        -- nothing waits behind which the frame would have to come
        have hempty : c'.outbox = [] := hsettled (by simp [hpeer])
        have hunchanged : (c'.deliver peer frame w').2.1.outbox = [] := by
          obtain ⟨-, hsame⟩ | ⟨-, hgone⟩ := hafter
          · rw [hsame, hempty]
          · rw [hgone, hempty]
        have hsent : Advances [frame] (c', w') (c'.deliver peer frame w').2 :=
          ⟨[frame], htries, by simp [hunchanged, hempty]⟩
        exact ⟨hawait.trans hsent, fun _ => hunchanged⟩

theorem heard_advances (hsettled : c.Settled) (result : Except StreamError RawFrame)
    (w : Traced ω) :
    let after := c.heard result w
    Advances [] (c, w) after.2 ∧ after.2.1.Settled := by
  obtain hkept | hdropped := c.heard_cases result w
  · simp only [hkept]
    exact ⟨.refl _ _, hsettled⟩
  · obtain ⟨hchannel, hevents⟩ := c.dropConnection_eq w
    simp only [hdropped, Settled, hchannel]
    exact ⟨.of_events hevents (by simp [hchannel]) (by simp [hchannel]), fun h => absurd rfl h⟩

theorem recv_advances (tries : Nat) (hsettled : c.Settled) (w : Traced ω) :
    let after := c.recv w tries
    Advances [] (c, w) after.2 ∧ after.2.1.Settled := by
  obtain ⟨hawait, hsettled⟩ := awaitPeerFor_advances tries hsettled w
  unfold recv
  generalize awaitPeerFor tries c w = awaited at hawait hsettled ⊢
  rcases awaited with ⟨e | _, c', w'⟩
  · exact ⟨hawait, hsettled⟩
  · dsimp only at hawait hsettled ⊢
    cases hpeer : c'.connection with
    | none => exact ⟨hawait, hsettled⟩
    | some peer =>
      dsimp only
      rcases hbound : Sockets.bound peer.stream w' with ⟨e | _, w''⟩ <;>
        have hevents := Traced.events_bound hbound
      · have hkept : Advances [] (c', w') (c', w'') := .of_same hevents (by simp) rfl
        exact ⟨hawait.trans hkept, hsettled⟩
      · dsimp only
        have hread := peer.reader.events_readFrame (OpenStream.mk peer.stream w'')
        generalize peer.reader.readFrame (OpenStream.mk peer.stream w'') = read at hread ⊢
        let c'' : SocketChannel := { c' with connection := some { peer with reader := read.2.1 } }
        have hempty : c''.outbox = [] := hsettled (by simp [hpeer])
        have hkept : Advances [] (c', w') (c'', read.2.2.system) := by
          apply Advances.of_events (hread.trans hevents)
          · simp [c'']
          · intro peer' hpeer'
            obtain rfl := Option.some.inj hpeer'
            exact ⟨peer, hpeer, rfl⟩
        obtain ⟨hheard, hsettled⟩ :=
          heard_advances (c := c'') (fun _ => hempty) read.1 read.2.2.system
        exact ⟨hawait.trans (hkept.trans hheard), hsettled⟩

theorem disconnect_advances (c : SocketChannel) (w : Traced ω) :
    Advances [] (c, w) (c.disconnect w) ∧ (c.disconnect w).1.Settled := by
  obtain ⟨hchannel, hevents⟩ := c.dropConnection_eq w
  refine ⟨.of_events ?_ (List.nil_sublist _) ?_, fun _ => rfl⟩
  · unfold disconnect
    dsimp only
    split
    · exact hevents
    · exact hevents
  · simp [disconnect, hchannel]

end SocketChannel

end ModuleProxy
