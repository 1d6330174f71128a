import ModuleProxy.Proofs.Gateway.Steps

namespace ModuleProxy

variable {μ γ ω : Type} [Channels γ ω] [ProxiedModule μ γ ω]

inductive AttachRefused (g : Gateway μ γ) (id : String) (w : ω) : ProxyError → ω → Prop where
  | taken {control : γ} (hcontrol : g.control = some control) :
    AttachRefused g id w .alreadyAttached w
  | badAddress {e : EndpointError} (hnone : g.control = none)
    (hparse : ChannelAddress.parse id = .error e) : AttachRefused g id w (.endpoint e) w
  | notOpened {address : ChannelAddress} {e : ProxyError} {w' : ω} (hnone : g.control = none)
    (hparse : ChannelAddress.parse id = .ok address)
    (hopen : Channels.openChannel (γ := γ) .control address w = (.error e, w')) :
    AttachRefused g id w e w'

namespace Gateway

omit [ProxiedModule μ γ ω] in
theorem attach_eq_ok_iff {g g' : Gateway μ γ} {id : String} {w w' : ω} :
    g.attach id w = (.ok (), g', w') ↔ g.control = none ∧ ∃ address control,
      ChannelAddress.parse id = .ok address ∧
      Channels.openChannel .control address w = (.ok control, w') ∧
      g' = { g with control := some control, state := .attached } := by
  unfold attach openAt
  cases hcontrol : g.control with
  | some control => simp
  | none =>
    cases hparse : ChannelAddress.parse id with
    | error cause => simp
    | ok address =>
      rcases hopen : Channels.openChannel (γ := γ) .control address w with ⟨e | control, w''⟩
      · simp [hopen]
      · simp only [hopen, Prod.mk.injEq, true_and, Except.ok.injEq]
        grind

omit [ProxiedModule μ γ ω] in
theorem attach_error {g g' : Gateway μ γ} {id : String} {w w' : ω} {e : ProxyError}
    (h : g.attach id w = (.error e, g', w')) : g' = g ∧ AttachRefused g id w e w' := by
  unfold attach openAt at h
  cases hcontrol : g.control with
  | some control =>
    simp only [hcontrol] at h
    cases h
    exact ⟨rfl, .taken hcontrol⟩
  | none =>
    cases hparse : ChannelAddress.parse id with
    | error cause =>
      simp only [hcontrol, hparse] at h
      cases h
      exact ⟨rfl, .badAddress hcontrol hparse⟩
    | ok address =>
      rcases hopen : Channels.openChannel (γ := γ) .control address w with ⟨cause | control, w''⟩
      · simp only [hcontrol, hparse, hopen] at h
        cases h
        exact ⟨rfl, .notOpened hcontrol hparse hopen⟩
      · simp [hcontrol, hparse, hopen] at h

theorem detach_fst_of_attached {g : Gateway μ γ} {control : γ} (h : g.control = some control)
    (w : ω) : ∃ guest, (g.detach w).2.1 =
      { g with guest, control := none, messages := none, state := .detached } := by
  unfold detach
  simp only [h, disconnectMessages_fst]
  exact ⟨_, rfl⟩

end Gateway

namespace GatewayStep

/-- The state of a gateway tells which channels it holds. An attachment that fails leaves the
gateway as it was. One that is ended leaves it detached with both channels closed, whether or not
the peer could be told, and a later one fails only for its own address or channel. -/
theorem state_tells_channels (guest : μ) (config : ProxyConfig) (steps : List (GatewayStep ω))
    (w : ω) :
    let now := observeAll steps ({ guest, config } : Gateway μ γ) w
    (now.1, now.2.world) = actAll steps { guest, config } w ∧
      (now.1.state = .detached ↔ now.1.isAttached = false) ∧
      (now.1.state = .created ↔ ∃ messages, now.1.messages = some messages) ∧
      (now.1.state = .created → now.1.isAttached = true) ∧
      (∀ id e g' w', now.1.attach id now.2.world = (.error e, g', w') →
        g' = now.1 ∧ AttachRefused now.1 id now.2.world e w') ∧
      ∀ control, now.1.control = some control →
        let left := now.1.detach now.2
        left.2.1.state = .detached ∧ left.2.1.control = none ∧ left.2.1.messages = none ∧
        left.2.2.calls = now.2.calls ++ endCalls now.1.messages ++
          [.send control (replyFrame .detach) left.1, .disconnect control] ∧
        ∀ id (v : ω), (left.2.1.attach id v).1 = .ok () ↔ ∃ address opened v',
          ChannelAddress.parse id = .ok address ∧
          Channels.openChannel (γ := γ) .control address v = (.ok opened, v') := by
  intro now
  have hnow : now.1.Consistent :=
    consistent_actAll (Gateway.consistent_initial guest config) (steps.map observed) { world := w }
  refine ⟨actAll_observed steps { guest, config } { world := w }, ?_, ?_, ?_, ?_, ?_⟩
  · rw [hnow.detached_iff, Gateway.isAttached]
    simp
  · rw [hnow.created_iff, Option.isSome_iff_exists]
  · intro hcreated
    rw [Gateway.isAttached, Option.isSome_iff_ne_none]
    exact hnow.control_ne_none hcreated
  · intro id e g' w' hattach
    exact Gateway.attach_error hattach
  · intro control hcontrol left
    obtain ⟨guest', hleft⟩ := Gateway.detach_fst_of_attached hcontrol now.2
    have hcalls := (Gateway.detach_moves hnow hcontrol now.2).forget.2
    have hdetached : left.2.1.control = none := by rw [hleft]
    refine ⟨by rw [hleft], hdetached, by rw [hleft], ?_, ?_⟩
    · rw [List.append_assoc]
      exact hcalls
    · intro id v
      constructor
      · intro hok
        obtain ⟨_, address, opened, hparse, hopen, _⟩ :=
          Gateway.attach_eq_ok_iff.mp (Prod.ext hok (Prod.ext rfl rfl))
        exact ⟨address, opened, _, hparse, hopen⟩
      · rintro ⟨address, opened, v', hparse, hopen⟩
        have hattach := Gateway.attach_eq_ok_iff.mpr
          ⟨hdetached, address, opened, hparse, hopen, rfl⟩
        exact congrArg Prod.fst hattach

end GatewayStep

end ModuleProxy
