import Mathlib.Logic.Relation
import ModuleProxy.Sandbox

/-!
Modules that leave alone what is not theirs: all that a confined module does to the world is of an
allowed kind, as long as it is given brokers that it may have. The modules of the catalog write
files and publish, no more.
-/

namespace ModuleProxy

section

variable {γ ω : Type}

/-- While a module is `Good` and is given brokers that are `Fit`, it changes the world in allowed
ways only, and stays good. -/
structure Confined (μ : Type) [ProxiedModule μ γ ω] (Change : ω → ω → Prop) (Fit : γ → Prop)
    (Good : μ → Prop) : Prop where
  create : ∀ {guest : μ} {broker : γ}, Good guest → Fit broker → ∀ args (w : ω),
    Good (ProxiedModule.create guest broker args w).2.1 ∧
      Change w (ProxiedModule.create guest broker args w).2.2
  receive : ∀ {guest : μ}, Good guest → ∀ m (w : ω),
    Good (ProxiedModule.receive guest m w).1 ∧ Change w (ProxiedModule.receive guest m w).2
  start : ∀ {guest : μ}, Good guest → ∀ w : ω,
    Good (ProxiedModule.start guest w).1 ∧ Change w (ProxiedModule.start guest w).2
  destroy : ∀ {guest : μ}, Good guest → ∀ w : ω,
    Good (ProxiedModule.destroy guest w).1 ∧ Change w (ProxiedModule.destroy guest w).2

namespace Confined

variable {μ : Type} [ProxiedModule μ γ ω] {Change : ω → ω → Prop} {Fit : γ → Prop}
  {Good : μ → Prop} {guest guest' : μ} {w w' : ω}

theorem of_create (h : Confined μ Change Fit Good) (hgood : Good guest) {broker : γ}
    (hfit : Fit broker) {args : Bytes} {result : Except Cause Unit}
    (hcreate : ProxiedModule.create guest broker args w = (result, guest', w')) :
    Good guest' ∧ Change w w' := by
  have hkept := h.create hgood hfit args w
  rwa [hcreate] at hkept

theorem of_receive (h : Confined μ Change Fit Good) (hgood : Good guest) {m : Message}
    (hreceive : ProxiedModule.receive guest m w = (guest', w')) : Good guest' ∧ Change w w' := by
  have hkept := h.receive hgood m w
  rwa [hreceive] at hkept

theorem of_start (h : Confined μ Change Fit Good) (hgood : Good guest)
    (hstart : ProxiedModule.start guest w = (guest', w')) : Good guest' ∧ Change w w' := by
  have hkept := h.start hgood w
  rwa [hstart] at hkept

theorem of_destroy (h : Confined μ Change Fit Good) (hgood : Good guest)
    (hdestroy : ProxiedModule.destroy guest w = (guest', w')) : Good guest' ∧ Change w w' := by
  have hkept := h.destroy hgood w
  rwa [hdestroy] at hkept

end Confined

end

namespace Sandbox

structure Within (Memory : MemoryNetwork → MemoryNetwork → Prop)
    (Hub : SocketHub → SocketHub → Prop) (w w' : Sandbox) : Prop where
  memory : Relation.ReflTransGen Memory w.memory w'.memory
  hub : Relation.ReflTransGen Hub w.hub w'.hub

variable {Memory : MemoryNetwork → MemoryNetwork → Prop} {Hub : SocketHub → SocketHub → Prop}

theorem Within.refl (w : Sandbox) : w.Within Memory Hub w :=
  ⟨.refl, .refl⟩

theorem Within.trans {w w' w'' : Sandbox} (h : w.Within Memory Hub w')
    (h' : w'.Within Memory Hub w'') : w.Within Memory Hub w'' :=
  ⟨h.memory.trans h'.memory, h.hub.trans h'.hub⟩

end Sandbox

structure Allows {β ω : Type} [Publisher β ω] [Journal ω] [FileWorld ω] (Change : ω → ω → Prop)
    (Fit : β → Prop) : Prop where
  refl : ∀ w, Change w w
  trans : ∀ {w w' w''}, Change w w' → Change w' w'' → Change w w''
  setFiles : ∀ files w, Change w (FileWorld.setFiles files w)
  log : ∀ event w, Change w (Journal.log event w)
  requestStop : ∀ w, Change w (Journal.requestStop w)
  publish : ∀ {broker}, Fit broker → ∀ frame w,
    Change w (Publisher.publishFrame broker frame w).2

section

variable {β ω : Type} [Publisher β ω] [Journal ω] [FileWorld ω] {Change : ω → ω → Prop}
  {Fit : β → Prop}

theorem Publisher.publish_change (h : Allows Change Fit) {broker : β} (hfit : Fit broker)
    (m : Message) (w : ω) : Change w (publish broker m w).2 := by
  unfold publish
  split
  · exact h.refl w
  · rename_i frame _
    have hframe := h.publish hfit frame w
    split <;> rename_i heq <;> rw [heq] at hframe <;> exact hframe

theorem Echo.receive_change (h : Allows Change Fit) {e : Echo β}
    (hfit : ∀ broker, e.broker = some broker → Fit broker) (m : Message) (w : ω) :
    Change w (e.receive m w) := by
  unfold receive
  split
  · exact h.refl w
  · rename_i broker hbroker
    exact Publisher.publish_change h (hfit broker hbroker) m w

theorem Logger.record_change (h : Allows Change Fit) (l : Logger) (members : List Member) (w : ω) :
    Change w (l.record members w) := by
  unfold record
  split
  · exact h.refl w
  · dsimp only
    split
    · exact h.refl w
    · exact h.setFiles _ w

theorem Logger.create_change (h : Allows Change Fit) (l : Logger) (args : Bytes) (w : ω) :
    Change w (l.create args w).2.2 := by
  unfold create
  split
  · exact h.refl w
  · exact h.refl w
  · split
    · exact h.refl w
    · exact h.trans (h.setFiles _ w) (record_change h ⟨some _⟩ _ _)

omit [Publisher β ω] [FileWorld ω] in
theorem Recorder.log_broker (r : Recorder β) (name : String) (detail : EventDetail) (w : ω) :
    (r.log name detail w).1.broker = r.broker := by
  unfold log
  dsimp only
  split <;> rfl

theorem Recorder.log_change (h : Allows Change Fit) (r : Recorder β) (name : String)
    (detail : EventDetail) (w : ω) : Change w (r.log name detail w).2 := by
  unfold log
  dsimp only
  split
  · dsimp only
    split
    · exact h.trans (h.log _ w) (h.requestStop _)
    · exact h.log _ w
  · exact h.log _ w

theorem Recorder.create_change (h : Allows Change Fit) (r : Recorder β) (broker : β)
    (args : Bytes) (w : ω) :
    ((r.create broker args w).2.1.broker = r.broker ∨
      (r.create broker args w).2.1.broker = some broker) ∧
      Change w (r.create broker args w).2.2 := by
  have hlog := log_change h r "create" (.bytes args) w
  unfold create
  dsimp only
  split
  · exact ⟨.inl (log_broker ..), hlog⟩
  · exact ⟨.inr rfl, hlog⟩

theorem Recorder.receive_change (h : Allows Change Fit) {r : Recorder β}
    (hfit : ∀ broker, r.broker = some broker → Fit broker) (m : Message) (w : ω) :
    (r.receive m w).1.broker = r.broker ∧ Change w (r.receive m w).2 := by
  have hlog := log_change h r "receive" (.message m) w
  have hbroker := r.log_broker "receive" (.message m) w
  unfold receive
  dsimp only
  split
  · split
    · exact ⟨hbroker, hlog⟩
    · rename_i broker hsome
      rw [hbroker] at hsome
      have hpublish := Publisher.publish_change h (hfit broker hsome) m
        (r.log "receive" (.message m) w).2
      split <;> rename_i heq <;> rw [heq] at hpublish
      · exact ⟨hbroker, h.trans hlog hpublish⟩
      · refine ⟨(log_broker ..).trans hbroker, ?_⟩
        exact h.trans (h.trans hlog hpublish) (log_change h ..)
  · exact ⟨hbroker, hlog⟩

def Guest.Holds (Fit : β → Prop) : Guest β → Prop
  | .echo e => ∀ broker, e.broker = some broker → Fit broker
  | .logger _ => True
  | .recorder r => ∀ broker, r.broker = some broker → Fit broker

theorem Guest.confined (h : Allows Change Fit) : Confined (Guest β) Change Fit (Holds Fit) where
  create := by
    intro guest broker hgood hfit args w
    cases guest with
    | echo e =>
      refine ⟨?_, h.refl w⟩
      rintro _ ⟨⟩
      exact hfit
    | logger l => exact ⟨trivial, l.create_change h args w⟩
    | recorder r =>
      obtain ⟨hbroker, hchange⟩ := r.create_change h broker args w
      refine ⟨?_, hchange⟩
      intro held hheld
      obtain hsame | hnew := hbroker
      · exact hgood held (hsame ▸ hheld)
      · cases hnew.symm.trans hheld
        exact hfit
  receive := by
    intro guest hgood m w
    cases guest with
    | echo e => exact ⟨hgood, Echo.receive_change h hgood m w⟩
    | logger l => exact ⟨trivial, l.record_change h _ w⟩
    | recorder r =>
      obtain ⟨hbroker, hchange⟩ := Recorder.receive_change h hgood m w
      exact ⟨fun held hheld => hgood held (hbroker ▸ hheld), hchange⟩
  start := by
    intro guest hgood w
    cases guest with
    | echo e | logger l => exact ⟨hgood, h.refl w⟩
    | recorder r =>
      have hbroker := r.log_broker "start" .none w
      exact ⟨fun held hheld => hgood held (hbroker ▸ hheld), r.log_change h "start" .none w⟩
  destroy := by
    intro guest hgood w
    cases guest with
    | echo e => exact ⟨by simp [ProxiedModule.destroy, Holds], h.refl w⟩
    | logger l => exact ⟨trivial, l.record_change h _ w⟩
    | recorder r =>
      have hbroker := { r with broker := none }.log_broker "destroy" .none w
      refine ⟨?_, { r with broker := none }.log_change h "destroy" .none w⟩
      intro held hheld
      cases hbroker.symm.trans hheld

end

theorem Sandbox.allows {γ : Type} [Channels γ Sandbox] {Fit : γ → Prop}
    {Memory : MemoryNetwork → MemoryNetwork → Prop} {Hub : SocketHub → SocketHub → Prop}
    (hfiles : ∀ files hub, Hub hub { hub with system.files := files })
    (hsend : ∀ {channel}, Fit channel → ∀ frame (w : Sandbox),
      w.Within Memory Hub (Channels.send channel frame w).2) :
    Allows (Within Memory Hub) Fit where
  refl := .refl
  trans := .trans
  setFiles files w := ⟨.refl, .single (hfiles files w.hub)⟩
  log _ _ := ⟨.refl, .refl⟩
  requestStop _ := ⟨.refl, .refl⟩
  publish hfit frame w := hsend hfit frame w

end ModuleProxy
