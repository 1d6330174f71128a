import ModuleProxy.Proofs.Gateway.Bookkeeping
import ModuleProxy.Proofs.Message.RoundTrip

namespace ModuleProxy

open MemoryNetwork

variable {μ : Type} [ProxiedModule μ MemoryHandle Sandbox] {Good : μ → Prop}

inductive MemoryStep where
  | gateway (step : GatewayStep Sandbox)
  | send (h : MemoryHandle) (frame : Bytes)

namespace MemoryStep

def observed : MemoryStep → GatewayStep (Observed MemoryHandle Sandbox)
  | .gateway step => step.observed
  | .send h frame => .elsewhere fun w => (Channels.send h frame w).2

/-- Others act by their own ends of channels, and peers send from theirs. -/
def IsFair : MemoryStep → Prop
  | .gateway step => step.Within Sandbox.FarUses
  | .send h _ => ¬IsNear h

def run (steps : List MemoryStep) (g : Gateway μ MemoryHandle) (w : Sandbox) :
    Gateway μ MemoryHandle × Observed MemoryHandle Sandbox :=
  GatewayStep.actAll (steps.map observed) g { world := w }

omit [ProxiedModule μ MemoryHandle Sandbox] in
theorem keepsAccounts_elsewhere {step : MemoryStep} (hfair : step.IsFair) {start : Nat}
    {g : Gateway μ MemoryHandle} {w : Observed MemoryHandle Sandbox}
    {change : Observed MemoryHandle Sandbox → Observed MemoryHandle Sandbox}
    (hchange : step.observed = .elsewhere change)
    (h : KeepsAccounts Good start w.calls g w.world) :
    KeepsAccounts Good start (change w).calls g (change w).world := by
  obtain ⟨hgood, hbooked⟩ := h
  cases step with
  | send c frame =>
    cases hchange
    exact ⟨hgood, hbooked.arrive hfair (Sandbox.memory_of_send rfl)⟩
  | gateway step =>
    cases step with
    | attach | handle | poll | detach => cases hchange
    | elsewhere own =>
      cases hchange
      have hwithin := hfair own rfl w.world
      exact ⟨hgood, hbooked.keep (keeps_of_farUses hwithin.memory hbooked.ledger.paired)⟩

theorem keepsAccounts_run (hmodule : Confined μ Sandbox.FarUses IsNear Good) {guest : μ}
    (hgood : Good guest) (config : ProxyConfig) {steps : List MemoryStep}
    (hsteps : ∀ step ∈ steps, step.IsFair) {w : Sandbox} (hw : w.memory.Paired) :
    let now := run steps { guest, config } w
    now.1.Consistent ∧
      KeepsAccounts Good w.memory.ends.size now.2.calls now.1 now.2.world := by
  apply GatewayStep.actAll_invariant
    (P := fun g (now : Observed MemoryHandle Sandbox) =>
      KeepsAccounts Good w.memory.ends.size now.calls g now.world)
    _ _ (Gateway.consistent_initial guest config) ⟨hgood, .initial hw⟩
  · intro g g' w w' calls hg h hmove
    rw [hmove.forget.2]
    exact h.move hmodule hg hmove.forget.1
  · intro change hmem g w h
    obtain ⟨step, hstep, hchange⟩ := List.mem_map.mp hmem
    exact keepsAccounts_elsewhere (hsteps step hstep) hchange h

/-- Messages are delivered in order, once, and to the session that they were sent to. Each session
has a channel of its own. What its module is given are the messages among the frames taken from
there, which are the first of those sent there; those behind them wait as long as the session
lives. A round that ends well counts what it gives and what it throws away, and leaves nothing
waiting unless it has given all that it may. -/
theorem messages_in_order (hmodule : Confined μ Sandbox.FarUses IsNear Good) {guest : μ}
    (hgood : Good guest) (config : ProxyConfig) {steps : List MemoryStep}
    (hsteps : ∀ step ∈ steps, step.IsFair) {w : Sandbox} (hw : w.memory.Paired) :
    let now := run steps { guest, config } w
    let calls := now.2.calls
    (sessions calls).Nodup ∧
      (∀ b ∈ sessions calls,
        (story calls).ofSession b = (consumed b calls).filterMap message? ∧
          consumed b calls <+: sentTo b calls) ∧
      (∀ sender m, (sender, m) ∈ (story calls).received → ∃ b ∈ sessions calls, sender = some b) ∧
      (∀ b, now.1.messages = some b → (sessions calls).getLast? = some b ∧
        sentTo b calls = consumed b calls ++ now.2.world.memory.pending b) ∧
      ∀ control stats, now.1.control = some control → (now.1.poll now.2).1 = .ok stats →
        let next := (now.1.poll now.2).2
        ∃ new, next.2.calls = calls ++ new ∧
          Gateway.Round control new stats next.1 next.2.world := by
  intro now calls
  obtain ⟨hg, hkept⟩ := keepsAccounts_run hmodule hgood config hsteps hw
  obtain ⟨hledger, hserved⟩ := hkept.booked
  refine ⟨hserved.distinct, ?_, hserved.sender, ?_, ?_⟩
  · intro b hmem
    obtain ⟨hnear, hstart, _⟩ := hserved.near b hmem
    exact ⟨hserved.received b hmem, hledger.taken b hnear hstart⟩
  · intro b hlive
    obtain ⟨hlast, hopen⟩ := hserved.live b hlive
    obtain ⟨hnear, hstart, _⟩ := hserved.near b (hserved.mem_sessions hlive)
    exact ⟨hlast, hledger.pending b hnear hstart hopen⟩
  · intro control stats hcontrol hstats
    exact Gateway.poll_round hmodule hg hkept hcontrol hstats

theorem confined_echo : Confined (Guest MemoryHandle) Sandbox.FarUses IsNear (Guest.Holds IsNear) :=
  Guest.confined (Sandbox.allows (fun _ _ => trivial)
    fun hnear frame w => ⟨.single (.publish hnear frame w.memory), .refl⟩)

def exchange : List MemoryStep :=
  let request := ControlMessage.frame { body := .create ⟨1, ⟨0, "ipc://m"⟩, []⟩ }
  let note : Message := { content := [7] }
  [.gateway (.attach "c"), .gateway (.handle request), .send ⟨3⟩ note.frame, .send ⟨3⟩ [0],
    .gateway .poll, .send ⟨3⟩ note.frame, .gateway (.handle request), .send ⟨5⟩ [0]]

def offered : Gateway (Guest MemoryHandle) MemoryHandle × Observed MemoryHandle Sandbox :=
  run (exchange.take 4) { guest := .echo {} } {}

def heard (h : MemoryHandle) (w : Observed MemoryHandle Sandbox) : Observed MemoryHandle Sandbox :=
  (Channels.recv h w).2

def echoed : Observed MemoryHandle Sandbox :=
  let note : Message := { content := [7] }
  (ProxiedModule.receive offered.1.guest note (heard ⟨2⟩ (heard ⟨0⟩ offered.2))).2

theorem decode_note : Message.decode (Message.frame { content := [7] }) = .ok { content := [7] } :=
  Message.decode_of_spells (Message.spells_frame .empty (by decide))

theorem poll_offered :
    (offered.1.poll offered.2).2 = (offered.1, heard ⟨2⟩ (heard ⟨2⟩ echoed)) := by
  have hpoll := calc
    offered.1.poll offered.2
      = offered.1.deliver 256 3 ⟨2⟩ {} (heard ⟨0⟩ offered.2) := rfl
    _ = offered.1.deliver 255 2 ⟨2⟩ { messages := 1 } echoed :=
      Gateway.deliver_of_message 255 2 rfl decode_note
    _ = offered.1.deliver 255 1 ⟨2⟩ { messages := 1, discarded := 1 } (heard ⟨2⟩ echoed) :=
      Gateway.deliver_of_malformed 254 1 rfl rfl
    _ = (.ok { messages := 1, discarded := 1 }, offered.1, heard ⟨2⟩ (heard ⟨2⟩ echoed)) :=
      Gateway.deliver_of_none 254 0 rfl
  rw [hpoll]

theorem run_exchange : run exchange { guest := .echo {} } {} =
    GatewayStep.actAll ((exchange.drop 5).map observed) offered.1
      (heard ⟨2⟩ (heard ⟨2⟩ echoed)) := by
  change GatewayStep.actAll _ (offered.1.poll offered.2).2.1 (offered.1.poll offered.2).2.2 = _
  rw [poll_offered]
  rfl

theorem messages_in_order_exchange :
    let now := run exchange ({ guest := .echo {} } : Gateway (Guest MemoryHandle) MemoryHandle) {}
    (story now.2.calls).ofSession ⟨2⟩ = [{ content := [7] }] ∧
      (story now.2.calls).ofSession ⟨4⟩ = [] ∧
      now.2.world.memory.pending ⟨4⟩ = [[0]] := by
  intro now
  have hfair : ∀ step ∈ exchange, step.IsFair := by
    intro step hstep
    simp only [exchange, List.mem_cons, List.not_mem_nil, or_false] at hstep
    rcases hstep with rfl | rfl | rfl | rfl | rfl | rfl | rfl | rfl <;>
      simp [IsFair, GatewayStep.Within, IsNear]
  obtain ⟨hsessions, hconsumed, hsecond, hsent, hlive⟩ :
      sessions now.2.calls = [⟨2⟩, ⟨4⟩] ∧
      consumed ⟨2⟩ now.2.calls = [Message.frame { content := [7] }, [0]] ∧
      consumed ⟨4⟩ now.2.calls = [] ∧ sentTo ⟨4⟩ now.2.calls = [[0]] ∧
      now.1.messages = some ⟨4⟩ := by
    rw [show now = _ from run_exchange]
    decide +kernel
  have hfirst : (consumed ⟨2⟩ now.2.calls).filterMap message? = [{ content := [7] }] := by
    rw [hconsumed, List.filterMap_cons, message?, decode_note]
    rfl
  have hgood : Guest.Holds IsNear (.echo {} : Guest MemoryHandle) := by simp [Guest.Holds]
  obtain ⟨_, hreceived, _, hpending, _⟩ :=
    messages_in_order confined_echo hgood {} hfair (w := {}) paired_empty
  have hwaiting := (hpending ⟨4⟩ hlive).2
  rw [hsent, hsecond, List.nil_append] at hwaiting
  have hmem : ∀ b ∈ [⟨2⟩, ⟨4⟩], b ∈ sessions now.2.calls := by
    rw [hsessions]
    exact fun _ h => h
  have hnone := (hreceived ⟨4⟩ (hmem _ (by simp))).1
  rw [hsecond, List.filterMap_nil] at hnone
  exact ⟨(hreceived ⟨2⟩ (hmem _ (by simp))).1.trans hfirst, hnone, hwaiting.symm⟩

end MemoryStep

end ModuleProxy
