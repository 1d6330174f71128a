import ModuleProxy.Proofs.Gateway.Operations

namespace ModuleProxy

def GatewayCall.sent? {γ : Type} : GatewayCall γ → Option (γ × Bytes)
  | .send channel frame _ => some (channel, frame)
  | _ => none

def sends {γ : Type} (calls : List (GatewayCall γ)) : List (γ × Bytes) :=
  calls.filterMap GatewayCall.sent?

def IsCreate (frame : Bytes) : Prop :=
  ∃ version, ControlHeader.decode frame = .ok ⟨version, ControlKind.create.code⟩

def Meets {γ : Type} (frame : Bytes) (calls : List (GatewayCall γ)) (messages : γ) : Prop :=
  ∃ request address, CreateFrame.decode frame = .ok request ∧
    request.body.messageVersion ≤ messageVersion ∧
    ChannelAddress.parse request.body.uri.text = .ok address ∧
    .openChannel .message address (.ok messages) ∈ calls ∧
    .create messages request.body.args (.ok ()) ∈ calls

inductive Answered {μ γ : Type} (frame : Bytes) (control : γ) (calls : List (GatewayCall γ))
    (g : Gateway μ γ) : Prop where
  | created {messages : γ} (hmet : Meets frame calls messages)
    (hsent : sends calls = [(control, replyFrame .created)]) (hstate : g.state = .created)
    (hmessages : g.messages = some messages)
  | createError (hunmet : ∀ messages, ¬Meets frame calls messages)
    (hsent : sends calls = [(control, replyFrame .createError)])

variable {μ γ : Type}

theorem ControlHeader.kind_eq_create_iff {header : ControlHeader} :
    header.kind = .ok .create ↔ header.code = ControlKind.create.code := by
  constructor
  · intro hkind
    unfold kind ControlKind.ofCode at hkind
    split at hkind <;> cases hkind
    assumption
  · intro hcode
    rw [kind, hcode, ControlKind.ofCode_code]

theorem isCreate_iff {frame : Bytes} {header : ControlHeader}
    (hheader : ControlHeader.decode frame = .ok header) :
    IsCreate frame ↔ header.kind = .ok .create := by
  rw [ControlHeader.kind_eq_create_iff]
  constructor
  · rintro ⟨version, hdecode⟩
    rw [hheader] at hdecode
    cases hdecode
    rfl
  · intro hcode
    refine ⟨header.version, ?_⟩
    rw [hheader, ← hcode]

theorem readRequest?_eq_some_iff {frame : Bytes} {body : Create} :
    Gateway.readRequest? frame = some body ↔
      ∃ request, CreateFrame.decode frame = .ok request ∧
        request.body.messageVersion ≤ messageVersion ∧ request.body = body := by
  unfold Gateway.readRequest?
  cases CreateFrame.decode frame with
  | error e => simp
  | ok request => simp

theorem sends_append (calls rest : List (GatewayCall γ)) :
    sends (calls ++ rest) = sends calls ++ sends rest :=
  List.filterMap_append

theorem sends_eq_nil {calls : List (GatewayCall γ)} (h : ∀ call ∈ calls, call.sent? = none) :
    sends calls = [] :=
  List.filterMap_eq_nil_iff.mpr h

theorem sends_endCalls (live : Option γ) : sends (endCalls live) = [] := by
  cases live <;> rfl

theorem Attempt.sends {request : Create} {calls : List (GatewayCall γ)} {met : Option γ}
    (h : Attempt request calls met) : sends calls = [] := by
  cases h <;> rfl

theorem sends_deliveries {calls : List (GatewayCall γ)} (h : ∀ call ∈ calls, call.IsDelivery) :
    sends calls = [] := by
  apply sends_eq_nil
  intro call hcall
  have hdelivery := h call hcall
  cases call <;> first | rfl | exact hdelivery.elim

theorem meets_deliveries {frame : Bytes} {before calls after : List (GatewayCall γ)} {messages : γ}
    (hbefore : ∀ call ∈ before, call.IsDelivery) (hafter : ∀ call ∈ after, call.IsDelivery) :
    Meets frame (before ++ (calls ++ after)) messages ↔ Meets frame calls messages := by
  have hmem : ∀ call : GatewayCall γ, ¬call.IsDelivery →
      (call ∈ before ++ (calls ++ after) ↔ call ∈ calls) := by
    intro call hcall
    have hb := mt (hbefore call) hcall
    have ha := mt (hafter call) hcall
    simp [hb, ha]
  simp only [Meets, hmem (.openChannel ..) id, hmem (.create ..) id]

theorem Attempt.created_of_mem {request : Create} {calls : List (GatewayCall γ)} {met : Option γ}
    (h : Attempt request calls met) {messages : γ} {args : Bytes}
    (hcreate : .create messages args (.ok ()) ∈ calls) : met = some messages := by
  cases h <;> simp at hcreate
  rw [hcreate.1]

theorem create_not_mem_endCalls (live : Option γ) (broker : γ) (args : Bytes)
    (result : Except Cause Unit) : .create broker args result ∉ endCalls live := by
  cases live <;> simp [endCalls]

theorem Handled.created_of_mem {live met : Option γ} {control messages : γ} {frame args : Bytes}
    {calls : List (GatewayCall γ)} (h : Handled live control frame calls met)
    (hcreate : .create messages args (.ok ()) ∈ calls) : met = some messages := by
  cases h with
  | unreadable | passed | malformed => simp at hcreate
  | started _ _ hcalls => cases hcalls _ hcreate
  | ended => exact absurd hcreate (create_not_mem_endCalls _ _ _ _)
  | answered _ _ _ hattempt =>
    rw [List.mem_append, List.mem_append] at hcreate
    obtain (hended | hattempted) | hreplied := hcreate
    · exact absurd hended (create_not_mem_endCalls _ _ _ _)
    · exact hattempt.created_of_mem hattempted
    · simp at hreplied

theorem Handled.meets_iff {live met : Option γ} {control : γ} {frame : Bytes}
    {calls : List (GatewayCall γ)} (h : Handled live control frame calls met) (messages : γ) :
    Meets frame calls messages ↔ met = some messages := by
  constructor
  · rintro ⟨request, address, _, _, _, _, hcreate⟩
    exact h.created_of_mem hcreate
  · rintro rfl
    cases h with
    | answered _ _ hrequest hattempt =>
      obtain ⟨request, hdecode, hversion, rfl⟩ := readRequest?_eq_some_iff.mp hrequest
      cases hattempt with
      | accepted haddress =>
        exact ⟨request, _, hdecode, hversion, haddress, by simp, by simp⟩

theorem Handled.sends_of_isCreate {live met : Option γ} {control : γ} {frame : Bytes}
    {calls : List (GatewayCall γ)} (h : Handled live control frame calls met)
    (hcreate : IsCreate frame) : sends calls = [(control, createReply met.isSome)] := by
  cases h with
  | unreadable hheader =>
    obtain ⟨version, hdecode⟩ := hcreate
    rw [hheader] at hdecode
    cases hdecode
  | passed hheader hkind => exact absurd ((isCreate_iff hheader).mp hcreate) hkind
  | started hheader hkind | ended hheader hkind =>
    have := (isCreate_iff hheader).mp hcreate
    rw [hkind] at this
    cases this
  | malformed => rfl
  | answered _ _ _ hattempt =>
    rw [sends_append, sends_append, sends_endCalls, hattempt.sends]
    rfl

theorem Handled.sends_of_not_isCreate {live met : Option γ} {control : γ} {frame : Bytes}
    {calls : List (GatewayCall γ)} (h : Handled live control frame calls met)
    (hcreate : ¬IsCreate frame) : sends calls = [] := by
  cases h with
  | unreadable | passed => rfl
  | started _ _ hcalls =>
    apply sends_eq_nil
    intro call hcall
    rw [hcalls call hcall]
    rfl
  | ended => exact sends_endCalls live
  | malformed hheader hkind | answered hheader hkind =>
    exact absurd ((isCreate_iff hheader).mpr hkind) hcreate

theorem Handled.answers {live met : Option γ} {control : γ} {frame : Bytes}
    {before calls after : List (GatewayCall γ)} (h : Handled live control frame calls met)
    (hbefore : ∀ call ∈ before, call.IsDelivery) (hafter : ∀ call ∈ after, call.IsDelivery)
    {g : Gateway μ γ}
    (hmet : ∀ messages, met = some messages → g.state = .created ∧ g.messages = some messages) :
    (IsCreate frame → Answered frame control (before ++ (calls ++ after)) g) ∧
      (¬IsCreate frame → sends (before ++ (calls ++ after)) = []) := by
  have hsends : sends (before ++ (calls ++ after)) = sends calls := by
    rw [sends_append, sends_append, sends_deliveries hbefore, sends_deliveries hafter,
      List.nil_append, List.append_nil]
  have hmeets : ∀ messages, Meets frame (before ++ (calls ++ after)) messages ↔
      met = some messages := by
    intro messages
    rw [meets_deliveries hbefore hafter, h.meets_iff]
  rw [hsends]
  refine ⟨fun hcreate => ?_, h.sends_of_not_isCreate⟩
  have hsent := h.sends_of_isCreate hcreate
  rw [← hsends] at hsent
  cases met with
  | none => exact .createError (by simp [hmeets]) hsent
  | some messages =>
    obtain ⟨hstate, hmessages⟩ := hmet messages rfl
    exact .created ((hmeets messages).mpr rfl) hsent hstate hmessages

end ModuleProxy
