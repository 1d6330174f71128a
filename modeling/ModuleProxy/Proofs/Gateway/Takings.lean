import ModuleProxy.Proofs.Gateway.Delivery

namespace ModuleProxy

variable {γ : Type}

def GatewayCall.frame? : GatewayCall γ → Option Bytes
  | .recv _ (.ok (some frame)) => some frame
  | _ => none

def takings (calls : List (GatewayCall γ)) : List Bytes :=
  calls.filterMap GatewayCall.frame?

def isMessage (frame : Bytes) : Bool :=
  (Message.decode frame).isOk

theorem isMessage_of_ok {frame : Bytes} {m : Message} (h : Message.decode frame = .ok m) :
    isMessage frame = true := by
  simp [isMessage, h, Except.isOk, Except.toBool]

theorem isMessage_of_error {frame : Bytes} {e : FormatError}
    (h : Message.decode frame = .error e) : isMessage frame = false := by
  simp [isMessage, h, Except.isOk, Except.toBool]

/-- Deliveries from a channel with room for so many messages. A frame that is no message leaves the
room as it is. -/
inductive Batch (channel : γ) : Nat → List (GatewayCall γ) → Prop where
  | stop {room : Nat} : Batch channel room []
  | idle {room : Nat} {result : Except ProxyError (Option Bytes)}
    (hnone : ∀ frame, result ≠ .ok (some frame)) : Batch channel room [.recv channel result]
  | skip {room : Nat} {frame : Bytes} {calls : List (GatewayCall γ)}
    (hframe : isMessage frame = false) (hrest : Batch channel room calls) :
    Batch channel room (.recv channel (.ok (some frame)) :: calls)
  | give {room : Nat} {frame : Bytes} {m : Message} {calls : List (GatewayCall γ)}
    (hframe : isMessage frame = true) (hrest : Batch channel room calls) :
    Batch channel (room + 1) (.recv channel (.ok (some frame)) :: .receive m :: calls)

namespace Batch

variable {channel : γ} {room : Nat} {calls : List (GatewayCall γ)}

theorem takings_idle {result : Except ProxyError (Option Bytes)}
    (hnone : ∀ frame, result ≠ .ok (some frame)) :
    takings [GatewayCall.recv channel result] = [] := by
  match result with
  | .error _ | .ok none => rfl
  | .ok (some frame) => exact absurd rfl (hnone frame)

theorem countP_takings_le (h : Batch channel room calls) :
    (takings calls).countP isMessage ≤ room := by
  induction h with
  | stop => exact Nat.zero_le _
  | idle hnone =>
    rw [takings_idle hnone]
    exact Nat.zero_le _
  | skip hframe _ ih =>
    change (_ :: takings _).countP isMessage ≤ _
    rwa [List.countP_cons_of_neg (by simp [hframe])]
  | give hframe _ ih =>
    change (_ :: takings _).countP isMessage ≤ _
    rw [List.countP_cons_of_pos hframe]
    exact Nat.succ_le_succ ih

theorem length_takings_le (h : Batch channel room calls) :
    (takings calls).length ≤ room + (takings calls).countP fun frame => !isMessage frame := by
  have hsplit := List.length_eq_countP_add_countP isMessage (l := takings calls)
  have hle := h.countP_takings_le
  simp only [Bool.not_eq_true, Bool.decide_eq_false] at hsplit
  omega

theorem eq_channel (h : Batch channel room calls) {c : γ}
    {result : Except ProxyError (Option Bytes)} (hmem : .recv c result ∈ calls) : c = channel := by
  induction h with
  | stop => cases hmem
  | idle => exact (GatewayCall.recv.inj (List.mem_singleton.mp hmem)).1
  | skip _ _ ih =>
    cases hmem with
    | head => rfl
    | tail _ hmem => exact ih hmem
  | give _ _ ih =>
    simp only [List.mem_cons, GatewayCall.recv.injEq, reduceCtorEq, false_or] at hmem
    obtain ⟨rfl, _⟩ | hmem := hmem
    · rfl
    · exact ih hmem

end Batch

namespace Gateway

variable {μ ω : Type} [Channels γ ω] [ProxiedModule μ γ ω]

theorem deliver_batch (room supply : Nat) (g : Gateway μ γ) (channel : γ) (stats : PollStats)
    (w : Observed γ ω) :
    ∃ calls, (g.deliver room supply channel stats w).2.2.calls = w.calls ++ calls ∧
      Batch channel room calls := by
  fun_induction deliver room supply g channel stats w with
  | case1 | case2 => exact ⟨[], by simp, .stop⟩
  | case3 g stats w room supply w' hrecv | case4 g stats w room supply reason w' hrecv
  | case5 g stats w room supply e w' hrecv | case6 g stats w room supply e w' _ _ hrecv =>
    exact ⟨_, (Observed.of_recv hrecv).2, .idle (by simp)⟩
  | case7 g stats w room supply frame w' hrecv e hdecode ih =>
    obtain ⟨calls, hcalls, hbatch⟩ := ih
    refine ⟨_, ?_, hbatch.skip (isMessage_of_error hdecode)⟩
    rw [hcalls, (Observed.of_recv hrecv).2, List.append_assoc]
    rfl
  | case8 g stats w room supply frame w' hrecv m hdecode guest w'' hreceive ih =>
    obtain ⟨calls, hcalls, hbatch⟩ := ih
    refine ⟨_, ?_, hbatch.give (m := m) (isMessage_of_ok hdecode)⟩
    rw [hcalls, (Observed.of_receive hreceive).2, (Observed.of_recv hrecv).2, List.append_assoc,
      List.append_assoc]
    rfl

theorem drain_batch (g : Gateway μ γ) (stats : PollStats) (w : Observed γ ω) :
    ∃ calls, (g.drain stats w).2.2.calls = w.calls ++ calls ∧
      (calls = [] ∨ ∃ channel, (g.drain stats w).2.1.messages = some channel ∧
        Batch channel messagesPerPoll calls) := by
  obtain ⟨guest, hguest⟩ := drain_fst g stats w
  rw [hguest]
  unfold drain
  split
  · exact ⟨[], by simp, .inl rfl⟩
  · rename_i channel hmessages
    obtain ⟨calls, hcalls, hbatch⟩ := deliver_batch messagesPerPoll _ g channel stats w
    exact ⟨calls, hcalls, .inr ⟨channel, hmessages, hbatch⟩⟩

theorem poll_batch {g : Gateway μ γ} (hg : g.Consistent) {control : γ}
    (hcontrol : g.control = some control) (w : Observed γ ω) :
    ∃ handled batch,
      (g.poll w).2.2.calls = w.calls ++
        .recv control (Channels.recv control w).1 :: (handled ++ batch) ∧
      takings handled = [] ∧
      (batch = [] ∨ ∃ channel, (g.poll w).2.1.messages = some channel ∧
        Batch channel messagesPerPoll batch) := by
  unfold poll
  simp only [hcontrol]
  split
  · rename_i reason w' hrecv
    obtain ⟨batch, hdrain, hbatch⟩ := drain_batch g { discarded := 1 } w'
    refine ⟨[], batch, ?_, rfl, hbatch⟩
    simp [hdrain, (Observed.of_recv hrecv).2, hrecv]
  · rename_i e w' _ hrecv
    refine ⟨[], [], ?_, rfl, .inl rfl⟩
    simp [(Observed.of_recv hrecv).2, hrecv]
  · rename_i w' hrecv
    obtain ⟨batch, hdrain, hbatch⟩ := drain_batch g {} w'
    refine ⟨[], batch, ?_, rfl, hbatch⟩
    simp [hdrain, (Observed.of_recv hrecv).2, hrecv]
  · rename_i frame w' hrecv
    obtain ⟨handled, met, hmoves, hhandled, _⟩ := handle_moves hg hcontrol frame w'
    have hheard := hmoves.forget.2
    rw [← pollControl_snd] at hheard
    have hnone : takings handled = [] := GatewayCall.filterMap_eq_nil hhandled.not_delivery
    split
    · rename_i e g' w'' hpoll
      rw [hpoll] at hheard
      dsimp only at hheard
      refine ⟨handled, [], ?_, hnone, .inl rfl⟩
      simp [hheard, (Observed.of_recv hrecv).2, hrecv]
    · rename_i stats g' w'' hpoll
      rw [hpoll] at hheard
      dsimp only at hheard
      obtain ⟨batch, hdrain, hbatch⟩ := drain_batch g' stats w''
      refine ⟨handled, batch, ?_, hnone, hbatch⟩
      simp [hdrain, hheard, (Observed.of_recv hrecv).2, hrecv]

end Gateway

namespace GatewayStep

variable {μ ω : Type} [Channels γ ω] [ProxiedModule μ γ ω]

/-- After hearing the control channel a round takes frames off the message channel only. No more
than `messagesPerPoll` of these are messages. The bound is not one on the frames: those that are no
message come on top. -/
theorem messages_taken_bounded (guest : μ) (config : ProxyConfig) (steps : List (GatewayStep ω))
    (w : ω) {control : γ} :
    let now := observeAll steps ({ guest, config } : Gateway μ γ) w
    now.1.control = some control →
    let next := (now.1.poll now.2).2
    ∃ handled batch,
      next.2.calls = now.2.calls ++
        .recv control (Channels.recv control now.2).1 :: (handled ++ batch) ∧
      takings handled = [] ∧
      (∀ channel result, .recv channel result ∈ batch → next.1.messages = some channel) ∧
      (takings batch).countP isMessage ≤ Gateway.messagesPerPoll ∧
      (takings batch).length ≤
        Gateway.messagesPerPoll + (takings batch).countP fun frame => !isMessage frame := by
  intro now hcontrol next
  have hg : now.1.Consistent := consistent_actAll (Gateway.consistent_initial guest config) _ _
  obtain ⟨handled, batch, hcalls, hhandled, hbatch⟩ := Gateway.poll_batch hg hcontrol now.2
  refine ⟨handled, batch, hcalls, hhandled, ?_⟩
  obtain rfl | ⟨channel, hmessages, hbatch⟩ := hbatch
  · simp [takings]
  · refine ⟨?_, hbatch.countP_takings_le, hbatch.length_takings_le⟩
    intro c result hmem
    rw [hbatch.eq_channel hmem]
    exact hmessages

def mixedSession : List (GatewayStep Sandbox) :=
  let request := ControlMessage.frame { body := .create ⟨1, ⟨0, "ipc://m"⟩, []⟩ }
  let note : Message := { content := [7] }
  [.attach "c", .handle request,
    .elsewhere fun w => (Channels.send (⟨3⟩ : MemoryHandle) [0] w).2,
    .elsewhere fun w => (Channels.send (⟨3⟩ : MemoryHandle) note.frame w).2]

theorem messages_taken_bounded_mixedSession :
    let now := observeAll mixedSession
      ({ guest := .echo {} } : Gateway (Guest MemoryHandle) MemoryHandle) {}
    now.1.control = some ⟨0⟩ ∧ now.1.state = .created ∧
      let next := (now.1.poll now.2).2
      ∃ handled batch, next.2.calls = now.2.calls ++
          .recv ⟨0⟩ (Channels.recv (⟨0⟩ : MemoryHandle) now.2).1 :: (handled ++ batch) ∧
        (takings batch).countP isMessage ≤ Gateway.messagesPerPoll ∧
        (takings batch).length ≤
          Gateway.messagesPerPoll + (takings batch).countP fun frame => !isMessage frame := by
  intro now
  have hcontrol : now.1.control = some ⟨0⟩ := rfl
  obtain ⟨handled, batch, hcalls, _, _, hbounded⟩ := messages_taken_bounded
    (.echo {} : Guest MemoryHandle) {} mixedSession ({} : Sandbox) hcontrol
  exact ⟨hcontrol, rfl, handled, batch, hcalls, hbounded⟩

end GatewayStep

end ModuleProxy
