import ModuleProxy.Proofs.Channel.Closing
import ModuleProxy.Proofs.Gateway.Steps

namespace ModuleProxy

def GatewayCall.broker? {γ : Type} : GatewayCall γ → Option γ
  | .create broker _ _ => some broker
  | _ => none

def brokers {γ : Type} (calls : List (GatewayCall γ)) : List γ :=
  calls.filterMap GatewayCall.broker?

section

variable {γ : Type} [Channels γ Sandbox]

/-- Nothing can be published through the broker: each attempt fails and changes nothing. -/
def IsDead (broker : γ) (w : Sandbox) : Prop :=
  ∀ m, ∃ cause, Publisher.publish broker m w = (.error (.publishFailure cause), w)

def Sends (broker : γ) (w : Sandbox) : Prop :=
  ∀ m frame, m.encode = .ok frame → Publisher.publish broker m w =
    ((Channels.send broker frame w).1.mapError fun e => .publishFailure (.proxy e),
      (Channels.send broker frame w).2)

/-- All brokers that were given out are dead, but for the one of a live session. -/
structure BrokersSettled {μ : Type} (g : Gateway μ γ) (calls : List (GatewayCall γ))
    (w : Sandbox) : Prop where
  distinct : (brokers calls).Nodup
  idle : g.state ≠ .created → ∀ broker ∈ brokers calls, IsDead broker w
  live : g.state = .created → ∃ ended broker, brokers calls = ended ++ [broker] ∧
    g.messages = some broker ∧ Sends broker w ∧ ∀ broker ∈ ended, IsDead broker w

theorem sends_publish (broker : γ) (w : Sandbox) : Sends broker w := by
  intro m frame hencode
  unfold Publisher.publish
  rw [hencode]
  cases hsend : Channels.send broker frame w with
  | mk result w' =>
    simp only [Publisher.publishFrame, hsend]
    cases result <;> rfl

variable [Closable γ]

open Closable

theorem isDead_of_hasClosed {broker : γ} {w : Sandbox} (h : HasClosed broker w) :
    IsDead broker w := by
  intro m
  unfold Publisher.publish
  cases m.encode with
  | error e => exact ⟨_, rfl⟩
  | ok frame =>
    obtain ⟨e, hsend⟩ := send_of_hasClosed h frame
    refine ⟨.proxy e, ?_⟩
    simp only [Publisher.publishFrame, hsend]
    rfl

structure Retired (given : List γ) (live : Option γ) (w : Sandbox) (ended : List γ) : Prop where
  given_eq : given = ended ++ live.toList
  distinct : given.Nodup
  closed : ∀ broker ∈ ended, HasClosed broker w
  has : ∀ broker, live = some broker → Has broker w

namespace Retired

variable {given ended : List γ} {live : Option γ} {broker : γ} {w w' : Sandbox}

theorem uses (h : Retired given live w ended) (huses : w.Uses w') :
    Retired given live w' ended where
  given_eq := h.given_eq
  distinct := h.distinct
  closed b hmem := hasClosed_of_uses huses (h.closed b hmem)
  has b hlive := has_of_uses huses (h.has b hlive)

theorem disconnect (h : Retired given (some broker) w ended) :
    Retired given none (Channels.disconnect broker w) (ended ++ [broker]) where
  given_eq := h.given_eq.trans (List.append_nil _).symm
  distinct := h.distinct
  closed := by
    intro b hmem
    obtain hended | hlast := List.mem_append.mp hmem
    · exact hasClosed_of_uses (uses_disconnect broker w) (h.closed b hended)
    · rw [List.mem_singleton.mp hlast]
      exact hasClosed_disconnect (h.has broker rfl)
  has := by simp

theorem has_of_mem (h : Retired given live w ended) (hmem : broker ∈ given) : Has broker w := by
  rw [h.given_eq, List.mem_append, Option.mem_toList] at hmem
  obtain hended | hlive := hmem
  · exact has_of_hasClosed (h.closed broker hended)
  · exact h.has broker hlive

theorem give (h : Retired given none w ended) {role : ChannelRole} {address : ChannelAddress}
    (hopen : Channels.openChannel role address w = (.ok broker, w')) :
    Retired (given ++ [broker]) (some broker) w' ended where
  given_eq := by
    rw [h.given_eq, Option.toList_none, List.append_nil]
    rfl
  distinct := by
    rw [List.nodup_append]
    refine ⟨h.distinct, by simp, ?_⟩
    rintro b hmem _ hnew rfl
    rw [List.mem_singleton.mp hnew] at hmem
    exact (has_open hopen).2 (h.has_of_mem hmem)
  closed b hmem := hasClosed_of_uses (uses_of_open hopen) (h.closed b hmem)
  has := by
    rintro _ ⟨⟩
    exact (has_open hopen).1

end Retired

omit [Channels γ Sandbox] [Closable γ] in
theorem brokers_append (calls rest : List (GatewayCall γ)) :
    brokers (calls ++ rest) = brokers calls ++ brokers rest :=
  List.filterMap_append

variable {μ : Type} {Good : μ → Prop}

structure KeepsBrokers (Good : μ → Prop) (calls : List (GatewayCall γ)) (g : Gateway μ γ)
    (w : Sandbox) : Prop where
  good : Good g.guest
  retired : ∃ ended, Retired (brokers calls) g.messages w ended

theorem KeepsBrokers.uses {calls : List (GatewayCall γ)} {g : Gateway μ γ} {w w' : Sandbox}
    (h : KeepsBrokers Good calls g w) (huses : w.Uses w') : KeepsBrokers Good calls g w' := by
  obtain ⟨hgood, ended, hretired⟩ := h
  exact ⟨hgood, ended, hretired.uses huses⟩

theorem KeepsBrokers.move [ProxiedModule μ γ Sandbox]
    (hmodule : Confined μ Sandbox.Uses (fun _ : γ => True) Good) {g g' : Gateway μ γ}
    {w w' : Sandbox} {before calls : List (GatewayCall γ)} (hg : g.Consistent)
    (h : KeepsBrokers Good before g w) (hmove : Move g w calls g' w') :
    KeepsBrokers Good (before ++ calls) g' w' := by
  obtain ⟨hgood, ended, hretired⟩ := h
  -- but for the last two, no move gives out a broker
  have hnone : brokers calls = [] → brokers (before ++ calls) = brokers before := by
    intro hcalls
    rw [brokers_append, hcalls, List.append_nil]
  cases hmove with
  | openFailed hopen | attach _ hopen =>
    exact ⟨hgood, ended, hnone rfl ▸ hretired.uses (uses_of_open hopen)⟩
  | send _ hsend => exact ⟨hgood, ended, hnone rfl ▸ hretired.uses (uses_of_send hsend)⟩
  | listen _ hrecv | idle _ hrecv | skip _ hrecv =>
    exact ⟨hgood, ended, hnone rfl ▸ hretired.uses (uses_of_recv hrecv)⟩
  | leave => exact ⟨hgood, ended, hnone rfl ▸ hretired.uses (uses_disconnect _ w)⟩
  | start _ hstart =>
    obtain ⟨hgood', hchange⟩ := hmodule.of_start hgood hstart
    exact ⟨hgood', ended, hnone rfl ▸ hretired.uses hchange⟩
  | deliver _ hrecv _ hreceive =>
    obtain ⟨hgood', hchange⟩ := hmodule.of_receive hgood hreceive
    exact ⟨hgood', ended, hnone rfl ▸ hretired.uses ((uses_of_recv hrecv).trans hchange)⟩
  | destroy _ hmessages hdestroy =>
    obtain ⟨hgood', hchange⟩ := hmodule.of_destroy hgood hdestroy
    rw [hmessages] at hretired
    exact ⟨hgood', _, hnone rfl ▸ (hretired.uses hchange).disconnect⟩
  | accept hne _ hopen hcreate =>
    obtain ⟨hgood', hchange⟩ := hmodule.of_create hgood trivial hcreate
    rw [hg.messages_eq_none hne] at hretired
    refine ⟨hgood', ended, ?_⟩
    rw [brokers_append]
    exact (hretired.give hopen).uses hchange
  | refuse hne hopen hcreate =>
    obtain ⟨hgood', hchange⟩ := hmodule.of_create hgood trivial hcreate
    rw [hg.messages_eq_none hne] at hretired
    have hended := ((hretired.give hopen).uses hchange).disconnect
    refine ⟨hgood', ?_⟩
    rw [brokers_append]
    dsimp only
    rw [hg.messages_eq_none hne]
    exact ⟨_, hended⟩

theorem keepsBrokers_initial {guest : μ} (hgood : Good guest) (config : ProxyConfig)
    (w : Sandbox) : KeepsBrokers Good [] ({ guest, config } : Gateway μ γ) w :=
  ⟨hgood, [], rfl, List.nodup_nil, by simp, by simp⟩

theorem KeepsBrokers.settled {calls : List (GatewayCall γ)} {g : Gateway μ γ} {w : Sandbox}
    (h : KeepsBrokers Good calls g w) (hg : g.Consistent) : BrokersSettled g calls w := by
  obtain ⟨_, ended, hretired⟩ := h
  have hgiven := hretired.given_eq
  refine ⟨hretired.distinct, ?_, ?_⟩
  · intro hne broker hmem
    rw [hgiven, hg.messages_eq_none hne, Option.toList_none, List.append_nil] at hmem
    exact isDead_of_hasClosed (hretired.closed broker hmem)
  · intro hlive
    obtain ⟨broker, hmessages⟩ := Option.isSome_iff_exists.mp (hg.created_iff.mp hlive)
    rw [hmessages] at hgiven
    exact ⟨ended, broker, hgiven, hmessages, sends_publish broker w,
      fun b hmem => isDead_of_hasClosed (hretired.closed b hmem)⟩

theorem brokersSettled_observeAll [ProxiedModule μ γ Sandbox]
    (hmodule : Confined μ Sandbox.Uses (fun _ : γ => True) Good) {guest : μ} (hgood : Good guest)
    (config : ProxyConfig) {steps : List (GatewayStep Sandbox)}
    (hsteps : ∀ step ∈ steps, step.Within Sandbox.Uses) (w : Sandbox) :
    let seen := GatewayStep.observeAll steps ({ guest, config } : Gateway μ γ) w
    BrokersSettled seen.1 seen.2.calls seen.2.world := by
  intro seen
  have hinit := keepsBrokers_initial (γ := γ) hgood config w
  obtain ⟨hg, hkept⟩ := GatewayStep.observed_invariant (w := { world := w }) steps
    (fun hg h hmove => KeepsBrokers.move hmodule hg h hmove)
    (fun change hmem _ _ _ h => h.uses (hsteps _ hmem change rfl _))
    (Gateway.consistent_initial guest config) hinit
  exact hkept.settled hg

end

/-- Over channels in memory and over sockets alike, whatever happens to a gateway and around it:
the brokers of sessions that have ended are dead, and the broker of a live session sends on the
channel that the gateway takes messages from. -/
theorem ended_brokers_dead :
    (∀ {μ : Type} [ProxiedModule μ MemoryHandle Sandbox] {Good : μ → Prop},
      Confined μ Sandbox.Uses (fun _ : MemoryHandle => True) Good →
      ∀ {guest : μ}, Good guest → ∀ (config : ProxyConfig) {steps : List (GatewayStep Sandbox)},
      (∀ step ∈ steps, step.Within Sandbox.Uses) → ∀ w : Sandbox,
      let seen := GatewayStep.observeAll steps ({ guest, config } : Gateway μ MemoryHandle) w
      BrokersSettled seen.1 seen.2.calls seen.2.world) ∧
    ∀ {μ : Type} [ProxiedModule μ SocketHandle Sandbox] {Good : μ → Prop},
      Confined μ Sandbox.Uses (fun _ : SocketHandle => True) Good →
      ∀ {guest : μ}, Good guest → ∀ (config : ProxyConfig) {steps : List (GatewayStep Sandbox)},
      (∀ step ∈ steps, step.Within Sandbox.Uses) → ∀ w : Sandbox,
      let seen := GatewayStep.observeAll steps ({ guest, config } : Gateway μ SocketHandle) w
      BrokersSettled seen.1 seen.2.calls seen.2.world :=
  ⟨brokersSettled_observeAll, brokersSettled_observeAll⟩

theorem Guest.confined_uses {γ : Type} [Channels γ Sandbox] [Closable γ] :
    Confined (Guest γ) Sandbox.Uses (fun _ => True) (Holds fun _ => True) :=
  Guest.confined (Sandbox.allows (fun files hub => .system { hub.system with files } hub)
    fun _ frame w => Closable.uses_send _ frame w)

def renewal : List (GatewayStep Sandbox) :=
  let request := ControlMessage.frame { body := .create ⟨1, ⟨0, "ipc://m"⟩, []⟩ }
  [.attach "c", .handle request,
    .elsewhere fun w => { w with memory := (w.memory.take .message "m").2 }, .handle request]

theorem renewal_within : ∀ step ∈ renewal, step.Within Sandbox.Uses := by
  intro step hstep change heq w
  subst heq
  simp only [renewal, List.mem_cons, reduceCtorEq, GatewayStep.elsewhere.injEq, List.not_mem_nil,
    false_or, or_false] at hstep
  rw [hstep]
  exact ⟨.single (.take .message "m" w.memory), .refl⟩

theorem ended_brokers_dead_echo :
    let memory := GatewayStep.observeAll renewal
      ({ guest := .echo {} } : Gateway (Guest MemoryHandle) MemoryHandle) {}
    let sockets := GatewayStep.observeAll renewal
      ({ guest := .echo {} } : Gateway (Guest SocketHandle) SocketHandle) {}
    brokers memory.2.calls = [⟨2⟩, ⟨4⟩] ∧ IsDead (⟨2⟩ : MemoryHandle) memory.2.world ∧
      memory.1.messages = some ⟨4⟩ ∧
      brokers sockets.2.calls = [⟨1⟩, ⟨2⟩] ∧ IsDead (⟨1⟩ : SocketHandle) sockets.2.world ∧
      sockets.1.messages = some ⟨2⟩ := by
  intro memory sockets
  have hmemory : brokers memory.2.calls = [⟨2⟩, ⟨4⟩] := by decide
  have hsockets : brokers sockets.2.calls = [⟨1⟩, ⟨2⟩] := by decide
  have hgood : ∀ {γ : Type}, Guest.Holds (fun _ : γ => True) (.echo {}) := by simp [Guest.Holds]
  obtain ⟨ended, broker, hgiven, hlive, _, hdead⟩ :=
    (ended_brokers_dead.1 Guest.confined_uses hgood {} renewal_within {}).live (by decide)
  obtain ⟨ended', broker', hgiven', hlive', _, hdead'⟩ :=
    (ended_brokers_dead.2 Guest.confined_uses hgood {} renewal_within {}).live (by decide)
  have hsplit : ended ++ [broker] = [⟨2⟩] ++ [⟨4⟩] := hgiven.symm.trans hmemory
  have hsplit' : ended' ++ [broker'] = [⟨1⟩] ++ [⟨2⟩] := hgiven'.symm.trans hsockets
  obtain ⟨rfl, ⟨⟩⟩ := List.append_inj' hsplit rfl
  obtain ⟨rfl, ⟨⟩⟩ := List.append_inj' hsplit' rfl
  exact ⟨hmemory, hdead _ (by simp), hlive, hsockets, hdead' _ (by simp), hlive'⟩

end ModuleProxy
