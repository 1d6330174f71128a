import ModuleProxy.Proofs.Control.Grammar
import ModuleProxy.Proofs.Gateway.Replies
import ModuleProxy.Sandbox

namespace ModuleProxy

variable {μ γ ω : Type}

/-- In these calls the broker is given to a module, and its channel is not closed after that. -/
def IsLive (broker : γ) : List (GatewayCall γ) → Prop
  | [] => False
  | call :: rest => IsLive broker rest ∨
    (∃ args result, call = .create broker args result) ∧ .disconnect broker ∉ rest

theorem isLive_append {broker : γ} {calls rest : List (GatewayCall γ)} :
    IsLive broker (calls ++ rest) ↔
      IsLive broker rest ∨ IsLive broker calls ∧ .disconnect broker ∉ rest := by
  induction calls with
  | nil => simp [IsLive]
  | cons call calls ih =>
    simp only [List.cons_append, IsLive, ih, List.mem_append, not_or, or_assoc, or_and_right,
      and_assoc]

def OnlyLive (live : Option γ) (calls : List (GatewayCall γ)) : Prop :=
  ∀ broker, IsLive broker calls ↔ live = some broker

theorem onlyLive_endCalls (live : Option γ) : OnlyLive none (endCalls live) := by
  intro broker
  cases live <;> simp [endCalls, IsLive]

theorem Attempt.onlyLive {request : Create} {calls : List (GatewayCall γ)} {met : Option γ}
    (h : Attempt request calls met) : OnlyLive met calls := by
  intro broker
  cases h with
  | badAddress | notOpened => simp [IsLive]
  | refused => simp [IsLive, eq_comm]
  | accepted => simp [IsLive]

namespace OnlyLive

variable {live next : Option γ} {calls rest : List (GatewayCall γ)}

theorem quiet (h : OnlyLive live calls) (hrest : OnlyLive none rest)
    (hclose : ∀ broker, live = some broker → .disconnect broker ∉ rest) :
    OnlyLive live (calls ++ rest) := by
  intro broker
  rw [isLive_append, h broker, hrest broker]
  constructor
  · rintro (hnone | ⟨hlive, -⟩)
    · cases hnone
    · exact hlive
  · intro hlive
    exact .inr ⟨hlive, hclose broker hlive⟩

theorem renew (h : OnlyLive live calls) (hrest : OnlyLive next rest)
    (hclose : ∀ broker, live = some broker → .disconnect broker ∈ rest) :
    OnlyLive next (calls ++ rest) := by
  intro broker
  rw [isLive_append, h broker, hrest broker]
  constructor
  · rintro (hnext | ⟨hlive, hopen⟩)
    · exact hnext
    · exact absurd (hclose broker hlive) hopen
  · exact .inl

theorem answer (h : OnlyLive live calls) {request : Create} {attempt : List (GatewayCall γ)}
    (hattempt : Attempt request attempt next) (control : γ) (frame : Bytes)
    (result : Except ProxyError Unit) :
    OnlyLive next (calls ++ (endCalls live ++ attempt ++ [.send control frame result])) := by
  have hended : ∀ broker, live = some broker → .disconnect broker ∈ endCalls live := by
    rintro broker rfl
    simp [endCalls]
  have hsent : OnlyLive none [GatewayCall.send control frame result] := by
    simp [OnlyLive, IsLive]
  have hattempted := (onlyLive_endCalls live).renew hattempt.onlyLive (by simp)
  have hanswered := hattempted.quiet hsent (by simp)
  exact h.renew hanswered fun broker hlive =>
    List.mem_append_left _ (List.mem_append_left _ (hended broker hlive))

theorem unique (h : OnlyLive live calls) (hnext : OnlyLive next calls) : live = next := by
  apply Option.ext
  intro broker
  rw [← h broker, hnext broker]

variable [Channels γ ω] [ProxiedModule μ γ ω] {g g' : Gateway μ γ} {w w' : ω}

theorem move (hg : g.Consistent) (h : OnlyLive g.messages calls) (hmove : Move g w rest g' w') :
    OnlyLive g'.messages (calls ++ rest) := by
  cases hmove with
  | openFailed | attach | send | listen | start | idle | skip | deliver =>
    exact h.quiet (by simp [OnlyLive, IsLive]) (by simp)
  | destroy _ hmessages => exact h.renew (by simp [OnlyLive, IsLive]) (by simp [hmessages])
  | accept hidle =>
    have hnone := hg.messages_eq_none hidle
    exact h.renew (by simp [OnlyLive, IsLive]) (by simp [hnone])
  | refuse hidle =>
    have hnone := hg.messages_eq_none hidle
    dsimp only
    rw [hnone] at h ⊢
    exact h.renew (by simp [OnlyLive, IsLive, eq_comm]) (by simp)
  | leave _ hidle =>
    dsimp only
    rw [hidle] at h ⊢
    exact h.quiet (by simp [OnlyLive, IsLive]) (by simp)

end OnlyLive

theorem ControlHeader.kind_of_type {frame : Bytes} {header : ControlHeader}
    (hheader : decode frame = .ok header) (htype : frame[3]? = some ControlKind.create.code) :
    header.kind = .ok .create := by
  obtain ⟨rest, rfl⟩ := decode_eq_ok_iff.mp hheader
  exact kind_eq_create_iff.mpr (Option.some.inj htype)

theorem CreateFrame.header_of_decode {frame : Bytes} {request : CreateFrame}
    (h : decode frame = .ok request) :
    ControlHeader.decode frame = .ok request.header ∧ request.header.kind = .ok .create := by
  unfold decode at h
  simp only [throw_bind_eq, throw_unless_eq_ok_iff, bind_eq_ok_iff, pure_eq_ok_iff] at h
  obtain ⟨header, hheader, hcode, _, _, _, _, _, _, rfl⟩ := h
  exact ⟨hheader, ControlHeader.kind_eq_create_iff.mpr hcode⟩

namespace Gateway

variable [Channels γ ω] [ProxiedModule μ γ ω] {g : Gateway μ γ} {control : γ} {frame : Bytes}

theorem handle_of_not_understood (hcontrol : g.control = some control)
    (htype : frame[3]? = some ControlKind.create.code) (hrequest : readRequest? frame = none)
    (w : Observed γ ω) :
    (g.handle frame w).2.1 = g ∧ ∃ told, (g.handle frame w).2.2.calls = w.calls ++ told ∧
      ∀ call ∈ told, ∃ result, call = .send control (createReply false) result := by
  unfold handle
  simp only [hcontrol]
  cases hheader : ControlHeader.decode frame with
  | error e => exact ⟨rfl, [], by simp, by simp⟩
  | ok header =>
    have hkind := ControlHeader.kind_of_type hheader htype
    have hmoves := reply_moves hcontrol false w
    simp only [hkind, create, hrequest]
    exact ⟨trivial, _, hmoves.forget.2, by simp⟩

theorem handle_of_understood (hg : g.Consistent) (hcontrol : g.control = some control)
    {request : CreateFrame} (hdecode : CreateFrame.decode frame = .ok request)
    (hversion : request.body.messageVersion ≤ messageVersion) (w : Observed γ ω) :
    ∃ attempt met result, (g.handle frame w).2.2.calls =
        w.calls ++ (endCalls g.messages ++ attempt ++
          [.send control (createReply (Option.isSome met)) result]) ∧
      Attempt request.body attempt met := by
  have hrequest := readRequest?_eq_some_iff.mpr ⟨request, hdecode, hversion, rfl⟩
  obtain ⟨hheader, hkind⟩ := CreateFrame.header_of_decode hdecode
  obtain ⟨calls, met, hmoves, hhandled, -⟩ := handle_moves hg hcontrol frame w
  have hcalls := hmoves.forget.2
  cases hhandled with
  | unreadable hother =>
    rw [hheader] at hother
    cases hother
  | passed hother hkind' =>
    cases hheader.symm.trans hother
    exact absurd hkind hkind'
  | started hother hkind' | ended hother hkind' =>
    cases hheader.symm.trans hother
    cases hkind.symm.trans hkind'
  | malformed _ _ hnone =>
    rw [hrequest] at hnone
    cases hnone
  | answered _ _ hrequest' hattempt =>
    cases hrequest.symm.trans hrequest'
    exact ⟨_, _, _, hcalls, hattempt⟩

theorem readRequest?_of_refused
    (h : ∀ request, CreateFrame.decode frame = .ok request →
      messageVersion < request.body.messageVersion) : readRequest? frame = none := by
  rw [Option.eq_none_iff_forall_not_mem]
  intro body hbody
  obtain ⟨request, hdecode, hversion, -⟩ := readRequest?_eq_some_iff.mp hbody
  exact UInt8.not_le.mpr (h request hdecode) hversion

omit [Channels γ ω] [ProxiedModule μ γ ω] in
theorem Consistent.attached (hg : g.Consistent) (hcontrol : g.control = some control)
    (hidle : g.messages = none) : g.state = .attached := by
  cases hstate : g.state with
  | attached => rfl
  | detached =>
    rw [hg.detached_iff.mp hstate] at hcontrol
    cases hcontrol
  | created =>
    have hlive := hg.created_iff.mp hstate
    rw [hidle] at hlive
    cases hlive

end Gateway

namespace GatewayStep

variable [Channels γ ω] [ProxiedModule μ γ ω]

theorem onlyLive_observeAll (guest : μ) (config : ProxyConfig) (steps : List (GatewayStep ω))
    (w : ω) :
    let now := observeAll steps ({ guest, config } : Gateway μ γ) w
    now.1.Consistent ∧ OnlyLive now.1.messages now.2.calls :=
  observed_invariant (P := fun calls (g : Gateway μ γ) _ => OnlyLive g.messages calls) steps
    (fun hg h hmove => h.move hg hmove) (fun _ _ _ _ _ h => h)
    (Gateway.consistent_initial guest config) (by simp [OnlyLive, IsLive])

theorem observeAll_append (steps : List (GatewayStep ω)) (step : GatewayStep ω) (g : Gateway μ γ)
    (w : ω) :
    observeAll (steps ++ [step]) g w =
      step.observed.act (observeAll steps g w).1 (observeAll steps g w).2 := by
  simp [observeAll, actAll]

/-- A create request that cannot be read, or is of a later version, changes nothing but what the
peer is told. Any other first ends the session that goes on, and is then attempted. If the attempt
fails, the gateway is left attached with no session and no open channel for it; if it goes well,
the session is on the channel opened for it. The only live broker is that of the session. -/
theorem requests_leave_clean (guest : μ) (config : ProxyConfig) (steps : List (GatewayStep ω))
    (w : ω) (control : γ) (frame : Bytes) :
    let now := observeAll steps ({ guest, config } : Gateway μ γ) w
    let next := (now.1.handle frame now.2).2
    (now.1, now.2.world) = actAll steps { guest, config } w ∧
    (next.1, next.2.world) = (now.1.handle frame now.2.world).2 ∧
    (now.1.control = some control → frame[3]? = some ControlKind.create.code →
    ((∀ request, CreateFrame.decode frame = .ok request →
        messageVersion < request.body.messageVersion) →
      next.1 = now.1 ∧
      (∃ told, next.2.calls = now.2.calls ++ told ∧
        ∀ call ∈ told, ∃ result, call = .send control (createReply false) result) ∧
      ∀ broker, IsLive broker next.2.calls ↔ IsLive broker now.2.calls) ∧
    ∀ request, CreateFrame.decode frame = .ok request →
      request.body.messageVersion ≤ messageVersion →
      ∃ ended attempt met result,
        next.2.calls = now.2.calls ++
          (ended ++ attempt ++ [.send control (createReply met.isSome) result]) ∧
        (now.1.state = .created → ∃ messages, now.1.messages = some messages ∧
          ended = [.destroy, .disconnect messages]) ∧
        (now.1.state ≠ .created → ended = []) ∧
        Attempt request.body attempt met ∧
        (met = none → next.1.state = .attached ∧ next.1.messages = none ∧
          ∀ address opened, .openChannel .message address (.ok opened) ∈ attempt →
            .disconnect opened ∈ attempt) ∧
        (∀ messages, met = some messages →
          next.1.state = .created ∧ next.1.messages = some messages) ∧
        ∀ broker, IsLive broker next.2.calls ↔ met = some broker) := by
  intro now next
  refine ⟨actAll_observed steps { guest, config } { world := w },
    congrArg Prod.snd (now.1.handle_observed frame now.2), fun hcontrol htype => ?_⟩
  obtain ⟨hnow, hlive⟩ := onlyLive_observeAll (γ := γ) guest config steps w
  obtain ⟨hnext, hliveNext⟩ :=
    onlyLive_observeAll (γ := γ) guest config (steps ++ [.handle frame]) w
  rw [observeAll_append] at hnext hliveNext
  change next.1.Consistent at hnext
  change OnlyLive next.1.messages next.2.calls at hliveNext
  refine ⟨fun hrefused => ?_, fun request hdecode hversion => ?_⟩
  · obtain ⟨hsame, told, hcalls, htold⟩ := Gateway.handle_of_not_understood hcontrol htype
      (Gateway.readRequest?_of_refused hrefused) now.2
    refine ⟨hsame, ⟨told, hcalls, htold⟩, fun broker => ?_⟩
    rw [hliveNext broker, hlive broker]
    exact hsame ▸ Iff.rfl
  · obtain ⟨attempt, met, result, hcalls, hattempt⟩ :=
      Gateway.handle_of_understood hnow hcontrol hdecode hversion now.2
    have hmet : next.1.messages = met := by
      have hanswered := hlive.answer hattempt control (createReply met.isSome) result
      rw [← hcalls] at hanswered
      exact hliveNext.unique hanswered
    rw [hmet] at hliveNext
    refine ⟨_, attempt, met, result, hcalls, fun hcreated => ?_, fun hidle => ?_, hattempt, ?_, ?_,
      hliveNext⟩
    · obtain ⟨messages, hmessages⟩ := Option.isSome_iff_exists.mp (hnow.created_iff.mp hcreated)
      exact ⟨messages, hmessages, by rw [hmessages]; rfl⟩
    · rw [hnow.messages_eq_none hidle]
      rfl
    · rintro rfl
      have hcontrol' := (Gateway.handle_control now.1 frame now.2).trans hcontrol
      refine ⟨hnext.attached hcontrol' hmet, hmet, ?_⟩
      cases hattempt <;> simp
    · rintro messages rfl
      exact ⟨hnext.created_iff.mpr (by simp [hmet]), hmet⟩

def namelessRequest : Bytes :=
  ControlMessage.frame { body := .create ⟨1, ⟨0, "ipc://"⟩, []⟩ }

theorem requests_leave_clean_nameless :
    let request := ControlMessage.frame { body := .create ⟨1, ⟨0, "ipc://m"⟩, []⟩ }
    let now := observeAll [.attach "c", .handle request]
      ({ guest := .echo {} } : Gateway (Guest MemoryHandle) MemoryHandle) ({} : Sandbox)
    let next := (now.1.handle namelessRequest now.2).2
    now.1.messages = some ⟨2⟩ ∧ next.1.state = .attached ∧
      ∀ broker, ¬IsLive broker next.2.calls := by
  intro request now next
  have hmessages : now.1.messages = some ⟨2⟩ := by decide
  have hdecode : CreateFrame.decode namelessRequest = .ok ⟨⟨1, 1⟩, ⟨1, ⟨0, "ipc://"⟩, []⟩⟩ := by
    decide
  have hparse : ∃ e, ChannelAddress.parse "ipc://" = .error e := ⟨_, rfl⟩
  obtain ⟨_, _, hclean⟩ := requests_leave_clean (γ := MemoryHandle) (.echo {} : Guest MemoryHandle)
    {} [.attach "c", .handle request] ({} : Sandbox) ⟨0⟩ namelessRequest
  obtain ⟨_, hunderstood⟩ := hclean (by decide) (by decide)
  obtain ⟨_, attempt, met, _, _, _, _, hattempt, hfailed, _, hlive⟩ :=
    hunderstood _ hdecode (by decide)
  obtain ⟨e, hparse⟩ := hparse
  have hmet : met = none := by
    cases hattempt with
    | badAddress | notOpened | refused => rfl
    | accepted haddress => cases hparse.symm.trans haddress
  refine ⟨hmessages, (hfailed hmet).1, fun broker hbroker => ?_⟩
  have := (hlive broker).mp hbroker
  rw [hmet] at this
  cases this

end GatewayStep

end ModuleProxy
