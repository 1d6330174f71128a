import ModuleProxy.Gateway

namespace ModuleProxy.Gateway

variable {μ γ ω : Type} [Channels γ ω] [ProxiedModule μ γ ω]

structure Consistent (g : Gateway μ γ) : Prop where
  detached_iff : g.state = .detached ↔ g.control = none
  created_iff : g.state = .created ↔ g.messages.isSome

theorem Consistent.messages_eq_none {g : Gateway μ γ} (h : g.Consistent)
    (hidle : g.state ≠ .created) : g.messages = none := by
  simpa [h.created_iff] using hidle

theorem consistent_initial (guest : μ) (config : ProxyConfig) :
    ({ guest, config } : Gateway μ γ).Consistent :=
  ⟨by simp, by simp⟩

theorem Consistent.with_guest {g : Gateway μ γ} (h : g.Consistent) (guest : μ) :
    { g with guest }.Consistent :=
  ⟨h.detached_iff, h.created_iff⟩

omit [ProxiedModule μ γ ω] in
theorem disconnectMessages_fst (g : Gateway μ γ) (w : ω) :
    (g.disconnectMessages w).1 = { g with messages := none } := by
  unfold disconnectMessages
  split
  · rename_i hnone
    rw [← hnone]
  · rfl

theorem destroy_fst_of_created {g : Gateway μ γ} (h : g.state = .created) (w : ω) :
    (g.destroy w).1 =
      { g with
        guest := (ProxiedModule.destroy g.guest w).1, messages := none, state := .attached } := by
  simp only [destroy, h, ↓reduceIte, disconnectMessages_fst]

theorem destroy_of_ne {g : Gateway μ γ} (h : g.state ≠ .created) (w : ω) :
    g.destroy w = (g, w) := by
  rw [destroy, if_neg h]

theorem Consistent.control_ne_none {g : Gateway μ γ} (h : g.Consistent)
    (hcreated : g.state = .created) : g.control ≠ none := by
  intro hnone
  have := h.detached_iff.mpr hnone
  rw [hcreated] at this
  cases this

theorem destroy_state_ne (g : Gateway μ γ) (w : ω) : (g.destroy w).1.state ≠ .created := by
  by_cases h : g.state = .created
  · rw [destroy_fst_of_created h]
    simp
  · rw [destroy_of_ne h]
    exact h

theorem destroy_control (g : Gateway μ γ) (w : ω) : (g.destroy w).1.control = g.control := by
  by_cases h : g.state = .created
  · rw [destroy_fst_of_created h]
  · rw [destroy_of_ne h]

omit [Channels γ ω] in
theorem start_fst (g : Gateway μ γ) (w : ω) : ∃ guest, (g.start w).1 = { g with guest } := by
  unfold start
  split
  · exact ⟨_, rfl⟩
  · exact ⟨g.guest, rfl⟩

theorem deliver_fst (room supply : Nat) (g : Gateway μ γ) (messages : γ) (stats : PollStats)
    (w : ω) : ∃ guest, (g.deliver room supply messages stats w).2.1 = { g with guest } := by
  fun_induction deliver room supply g messages stats w with
  | case7 g stats w room supply frame w' hrecv e hdecode ih => exact ih
  | case8 g stats w room supply frame w' hrecv m hdecode guest w'' hreceive ih => exact ih
  | _ => exact ⟨_, rfl⟩

section

variable {g : Gateway μ γ} {messages : γ} {stats : PollStats} {w : ω} {frame : Bytes}

theorem deliver_of_message (room supply : Nat) {m : Message}
    (hrecv : (Channels.recv messages w).1 = .ok (some frame))
    (hdecode : Message.decode frame = .ok m) :
    g.deliver (room + 1) (supply + 1) messages stats w =
      let after := ProxiedModule.receive g.guest m (Channels.recv messages w).2
      { g with guest := after.1 }.deliver room (Channels.supply messages after.2) messages
        { stats with messages := stats.messages + 1 } after.2 := by
  rw [deliver]
  rcases hheard : Channels.recv messages w with ⟨result, w'⟩
  obtain rfl : result = _ := (congrArg Prod.fst hheard).symm.trans hrecv
  simp only [hdecode]

theorem deliver_of_malformed (room supply : Nat) {e : FormatError}
    (hrecv : (Channels.recv messages w).1 = .ok (some frame))
    (hdecode : Message.decode frame = .error e) :
    g.deliver (room + 1) (supply + 1) messages stats w =
      g.deliver (room + 1) supply messages { stats with discarded := stats.discarded + 1 }
        (Channels.recv messages w).2 := by
  rw [deliver]
  rcases hheard : Channels.recv messages w with ⟨result, w'⟩
  obtain rfl : result = _ := (congrArg Prod.fst hheard).symm.trans hrecv
  simp only [hdecode]

theorem deliver_of_none (room supply : Nat) (hrecv : (Channels.recv messages w).1 = .ok none) :
    g.deliver (room + 1) (supply + 1) messages stats w =
      (.ok stats, g, (Channels.recv messages w).2) := by
  rw [deliver]
  rcases hheard : Channels.recv messages w with ⟨result, w'⟩
  obtain rfl : result = _ := (congrArg Prod.fst hheard).symm.trans hrecv
  rfl

end

theorem drain_fst (g : Gateway μ γ) (stats : PollStats) (w : ω) :
    ∃ guest, (g.drain stats w).2.1 = { g with guest } := by
  unfold drain
  split
  · exact ⟨g.guest, rfl⟩
  · exact deliver_fst ..

theorem pollControl_snd (g : Gateway μ γ) (frame : Bytes) (w : ω) :
    (g.pollControl frame w).2 = (g.handle frame w).2 := by
  unfold pollControl
  split <;> rename_i heq <;> rw [heq]

end ModuleProxy.Gateway
