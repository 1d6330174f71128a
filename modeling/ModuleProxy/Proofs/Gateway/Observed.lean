import ModuleProxy.Proofs.Gateway.Consistency

/-!
A gateway under observation. `Observed` is a world that keeps, beside another world, the calls that
a gateway makes on its module and on its channels. A gateway does there what it does in the world
beside it.
-/

namespace ModuleProxy

inductive GatewayCall (γ : Type) where
  | openChannel (role : ChannelRole) (address : ChannelAddress) (result : Except ProxyError γ)
  | send (channel : γ) (frame : Bytes) (result : Except ProxyError Unit)
  | recv (channel : γ) (result : Except ProxyError (Option Bytes))
  | disconnect (channel : γ)
  | create (broker : γ) (args : Bytes) (result : Except Cause Unit)
  | receive (m : Message)
  | start
  | destroy

structure Observed (γ ω : Type) where
  world : ω
  calls : List (GatewayCall γ) := []

namespace Observed

variable {μ γ ω α β : Type}

def note (w : Observed γ ω) (call : GatewayCall γ) (world : ω) : Observed γ ω :=
  ⟨world, w.calls ++ [call]⟩

instance [Channels γ ω] : Channels γ (Observed γ ω) where
  openChannel role address w :=
    let step := Channels.openChannel role address w.world
    (step.1, w.note (.openChannel role address step.1) step.2)
  send channel frame w :=
    let step := Channels.send channel frame w.world
    (step.1, w.note (.send channel frame step.1) step.2)
  recv channel w :=
    let step := Channels.recv channel w.world
    (step.1, w.note (.recv channel step.1) step.2)
  supply channel w := Channels.supply channel w.world
  disconnect channel w := w.note (.disconnect channel) (Channels.disconnect channel w.world)

instance [ProxiedModule μ γ ω] : ProxiedModule μ γ (Observed γ ω) where
  create guest broker args w :=
    let step := ProxiedModule.create guest broker args w.world
    (step.1, step.2.1, w.note (.create broker args step.1) step.2.2)
  receive guest m w :=
    let step := ProxiedModule.receive guest m w.world
    (step.1, w.note (.receive m) step.2)
  destroy guest w :=
    let step := ProxiedModule.destroy guest w.world
    (step.1, w.note .destroy step.2)
  hasStart guest := ProxiedModule.hasStart ω guest
  start guest w :=
    let step := ProxiedModule.start guest w.world
    (step.1, w.note .start step.2)

def forget (result : α × Observed γ ω) : α × ω :=
  (result.1, result.2.world)

def forgetIn (result : α × β × Observed γ ω) : α × β × ω :=
  (result.1, result.2.1, result.2.2.world)

theorem recv_observed [Channels γ ω] (channel : γ) (w : Observed γ ω) :
    forget (Channels.recv channel w) = Channels.recv channel w.world := rfl

theorem create_observed [ProxiedModule μ γ ω] (guest : μ) (broker : γ) (args : Bytes)
    (w : Observed γ ω) :
    forgetIn (ProxiedModule.create guest broker args w) =
      ProxiedModule.create guest broker args w.world := rfl

theorem receive_observed [ProxiedModule μ γ ω] (guest : μ) (m : Message) (w : Observed γ ω) :
    forget (ProxiedModule.receive guest m w) = ProxiedModule.receive guest m w.world := rfl

end Observed

namespace Gateway

open Observed

variable {μ γ ω : Type} [Channels γ ω] [ProxiedModule μ γ ω]

omit [ProxiedModule μ γ ω] in
theorem openAt_observed (role : ChannelRole) (id : String) (w : Observed γ ω) :
    forget (openAt (γ := γ) role id w) = openAt role id w.world := by
  unfold openAt
  split
  · rfl
  · rfl

omit [ProxiedModule μ γ ω] in
theorem attach_observed (g : Gateway μ γ) (id : String) (w : Observed γ ω) :
    forgetIn (g.attach id w) = g.attach id w.world := by
  have hopen := openAt_observed (γ := γ) .control id w
  unfold attach
  split
  · rfl
  · rw [← hopen]
    split <;> rename_i heq <;> rw [heq] <;> rfl

omit [ProxiedModule μ γ ω] in
theorem reply_observed (g : Gateway μ γ) (succeeded : Bool) (w : Observed γ ω) :
    forget (g.reply succeeded w) = g.reply succeeded w.world := by
  unfold reply
  split <;> rfl

omit [ProxiedModule μ γ ω] in
theorem disconnectMessages_observed (g : Gateway μ γ) (w : Observed γ ω) :
    forget (g.disconnectMessages w) = g.disconnectMessages w.world := by
  unfold disconnectMessages
  split <;> rfl

theorem destroy_observed (g : Gateway μ γ) (w : Observed γ ω) :
    forget (g.destroy w) = g.destroy w.world := by
  unfold destroy
  split
  · let step := ProxiedModule.destroy g.guest w
    have hclosed := disconnectMessages_observed { g with guest := step.1 } step.2
    exact congrArg (fun r : Gateway μ γ × ω => ({ r.1 with state := .attached }, r.2)) hclosed
  · rfl

omit [Channels γ ω] in
theorem start_observed (g : Gateway μ γ) (w : Observed γ ω) :
    forget (g.start w) = g.start w.world := by
  unfold start
  have hstart : ProxiedModule.hasStart (Observed γ ω) g.guest = ProxiedModule.hasStart ω g.guest :=
    rfl
  rw [hstart]
  split <;> rfl

theorem createGuest_observed (g : Gateway μ γ) (request : Create) (w : Observed γ ω) :
    forgetIn (g.createGuest request w) = g.createGuest request w.world := by
  have hopen := openAt_observed (γ := γ) .message request.uri.text w
  unfold createGuest
  rw [← hopen]
  rcases openAt (γ := γ) .message request.uri.text w with ⟨_ | messages, w'⟩
  · rfl
  · dsimp only [forget]
    rw [← create_observed]
    rcases ProxiedModule.create g.guest messages request.args w' with ⟨_ | _, guest, w''⟩
    · rfl
    · rfl

theorem request_observed (g : Gateway μ γ) (frame : Bytes) (w : Observed γ ω) :
    forgetIn (g.create frame w) = g.create frame w.world := by
  unfold create
  split
  · rw [← reply_observed]
    rfl
  · rename_i request _
    rw [← destroy_observed]
    rcases g.destroy w with ⟨g', w'⟩
    dsimp only [forget]
    rw [← createGuest_observed]
    rcases g'.createGuest request w' with ⟨succeeded, g'', w''⟩
    dsimp only [forgetIn]
    rw [← reply_observed]
    rfl

theorem handle_observed (g : Gateway μ γ) (frame : Bytes) (w : Observed γ ω) :
    forgetIn (g.handle frame w) = g.handle frame w.world := by
  unfold handle
  split
  · rfl
  · split
    · rfl
    · split
      · exact request_observed g frame w
      · rw [← start_observed]
        rfl
      · rw [← destroy_observed]
        rfl
      · rfl
      · rfl
      · rfl

theorem deliver_observed (room supply : Nat) (g : Gateway μ γ) (messages : γ) (stats : PollStats)
    (w : Observed γ ω) :
    forgetIn (g.deliver room supply messages stats w) =
      g.deliver room supply messages stats w.world := by
  fun_induction deliver room supply g messages stats w with
  | case1 | case2 =>
    rw [deliver]
    rfl
  | case3 g stats w room supply w' hrecv | case4 g stats w room supply reason w' hrecv
  | case5 g stats w room supply e w' hrecv =>
    rw [deliver, ← recv_observed, hrecv]
    rfl
  | case6 g stats w room supply e w' hdisconnected hstream hrecv =>
    rw [deliver, ← recv_observed, hrecv]
    cases e <;> first | rfl | simp at hdisconnected hstream
  | case7 g stats w room supply frame w' hrecv e hdecode ih =>
    rw [deliver, ← recv_observed, hrecv]
    simp only [forget, hdecode]
    exact ih
  | case8 g stats w room supply frame w' hrecv m hdecode guest w'' hreceive ih =>
    rw [deliver, ← recv_observed, hrecv]
    simp only [forget, hdecode]
    rw [← receive_observed, hreceive]
    exact ih

theorem drain_observed (g : Gateway μ γ) (stats : PollStats) (w : Observed γ ω) :
    forgetIn (g.drain stats w) = g.drain stats w.world := by
  unfold drain
  split
  · rfl
  · exact deliver_observed ..

theorem pollControl_observed (g : Gateway μ γ) (frame : Bytes) (w : Observed γ ω) :
    forgetIn (g.pollControl frame w) = g.pollControl frame w.world := by
  unfold pollControl
  rw [← handle_observed]
  rcases g.handle frame w with ⟨e | _, g', w'⟩
  · cases e <;> rfl
  · rfl

theorem poll_observed (g : Gateway μ γ) (w : Observed γ ω) :
    forgetIn (g.poll w) = g.poll w.world := by
  unfold poll
  split
  · rfl
  · rename_i control _
    rw [← recv_observed]
    rcases Channels.recv control w with ⟨e | _ | frame, w'⟩
    · cases e <;> first | exact drain_observed .. | rfl
    · exact drain_observed ..
    · dsimp only [forget]
      rw [← pollControl_observed]
      rcases g.pollControl frame w' with ⟨_ | stats, g', w''⟩
      · rfl
      · exact drain_observed ..

theorem detach_observed (g : Gateway μ γ) (w : Observed γ ω) :
    forgetIn (g.detach w) = g.detach w.world := by
  unfold detach
  split
  · rfl
  · rename_i control _
    let leave (r : Gateway μ γ × ω) : Except ProxyError Unit × Gateway μ γ × ω :=
      let sent := Channels.send control (replyFrame .detach) r.2
      (sent.1, { r.1 with state := .detached }, Channels.disconnect control sent.2)
    by_cases hcreated : g.state = .created
    · let step := ProxiedModule.destroy g.guest w
      have hclosed := disconnectMessages_observed { g with guest := step.1, control := none } step.2
      simp only [if_pos hcreated]
      exact congrArg leave hclosed
    · have hclosed := disconnectMessages_observed { g with control := none } w
      simp only [if_neg hcreated]
      exact congrArg leave hclosed

end Gateway

inductive GatewayStep (ω : Type) where
  | attach (id : String)
  | handle (frame : Bytes)
  | poll
  | detach
  | elsewhere (change : ω → ω)

namespace GatewayStep

variable {μ γ ω : Type}

def observed : GatewayStep ω → GatewayStep (Observed γ ω)
  | .attach id => .attach id
  | .handle frame => .handle frame
  | .poll => .poll
  | .detach => .detach
  | .elsewhere change => .elsewhere fun w => { w with world := change w.world }

variable [Channels γ ω] [ProxiedModule μ γ ω]

def act : GatewayStep ω → Gateway μ γ → ω → Gateway μ γ × ω
  | .attach id, g, w => (g.attach id w).2
  | .handle frame, g, w => (g.handle frame w).2
  | .poll, g, w => (g.poll w).2
  | .detach, g, w => (g.detach w).2
  | .elsewhere change, g, w => (g, change w)

def actAll (steps : List (GatewayStep ω)) (g : Gateway μ γ) (w : ω) : Gateway μ γ × ω :=
  steps.foldl (fun now step => step.act now.1 now.2) (g, w)

def observeAll (steps : List (GatewayStep ω)) (g : Gateway μ γ) (w : ω) :
    Gateway μ γ × Observed γ ω :=
  actAll (steps.map observed) g { world := w }

theorem act_observed (step : GatewayStep ω) (g : Gateway μ γ) (w : Observed γ ω) :
    Observed.forget (step.observed.act g w) = step.act g w.world := by
  cases step with
  | attach id => exact congrArg Prod.snd (g.attach_observed id w)
  | handle frame => exact congrArg Prod.snd (g.handle_observed frame w)
  | poll => exact congrArg Prod.snd (g.poll_observed w)
  | detach => exact congrArg Prod.snd (g.detach_observed w)
  | elsewhere change => rfl

theorem actAll_observed (steps : List (GatewayStep ω)) (g : Gateway μ γ) (w : Observed γ ω) :
    Observed.forget (actAll (steps.map observed) g w) = actAll steps g w.world := by
  induction steps generalizing g w with
  | nil => rfl
  | cons step steps ih =>
    have hstep := step.act_observed g w
    have hrest := ih (step.observed.act g w).1 (step.observed.act g w).2
    change _ = actAll steps (step.act g w.world).1 (step.act g w.world).2
    rw [← hstep]
    exact hrest

end GatewayStep

end ModuleProxy
