import ModuleProxy.Proofs.Channel.Ends
import ModuleProxy.Proofs.Gateway.Steps

namespace ModuleProxy

open MemoryNetwork

variable {μ : Type} [ProxiedModule μ MemoryHandle Sandbox]

namespace GatewayCall

def receipt? : GatewayCall MemoryHandle → Option Message
  | .receive m => some m
  | _ => none

def useless? (control : MemoryHandle) : GatewayCall MemoryHandle → Option Bytes
  | .recv c (.ok (some frame)) =>
    let useful :=
      if c = control then (ControlHeader.decode frame).isOk else (Message.decode frame).isOk
    if useful then none else some frame
  | _ => none

end GatewayCall

def receipts (calls : List (GatewayCall MemoryHandle)) : List Message :=
  calls.filterMap GatewayCall.receipt?

def useless (control : MemoryHandle) (calls : List (GatewayCall MemoryHandle)) : List Bytes :=
  calls.filterMap (GatewayCall.useless? control)

structure Tally (control : MemoryHandle) (calls : List (GatewayCall MemoryHandle))
    (before after : PollStats) : Prop where
  messages : after.messages = before.messages + (receipts calls).length
  discarded : after.discarded = before.discarded + (useless control calls).length

theorem Tally.append {control : MemoryHandle} {calls rest : List (GatewayCall MemoryHandle)}
    {before between after : PollStats} (h : Tally control calls before between)
    (hrest : Tally control rest between after) : Tally control (calls ++ rest) before after := by
  have hmessages := h.messages
  have hdiscarded := h.discarded
  refine ⟨?_, ?_⟩
  · rw [hrest.messages, hmessages, receipts, receipts, receipts, List.filterMap_append,
      List.length_append, Nat.add_assoc]
  · rw [hrest.discarded, hdiscarded, useless, useless, useless, List.filterMap_append,
      List.length_append, Nat.add_assoc]

theorem tally_nil (control : MemoryHandle) (stats : PollStats) : Tally control [] stats stats :=
  ⟨rfl, rfl⟩

structure Delivered (control : MemoryHandle) (room : Nat) (b : MemoryHandle)
    (calls : List (GatewayCall MemoryHandle)) (before after : PollStats) (w : Sandbox) : Prop where
  tally : Tally control calls before after
  bounded : (receipts calls).length ≤ room
  emptied : (receipts calls).length < room → w.memory.pending b = []

namespace Delivered

variable {control b : MemoryHandle} {room : Nat} {calls : List (GatewayCall MemoryHandle)}
  {before after : PollStats} {w : Sandbox} {frame : Bytes}

theorem of_no_frame (control : MemoryHandle) (room : Nat) (stats : PollStats) {w' : Sandbox}
    {result : Except ProxyError (Option Bytes)} (hrecv : w.memory.recv b = (result, w'.memory))
    (hnone : ∀ frame, result ≠ .ok (some frame)) :
    Delivered control room b [.recv b result] stats stats w' := by
  obtain ⟨heq, hempty⟩ := recv_of_no_frame hrecv hnone
  refine ⟨⟨rfl, ?_⟩, Nat.zero_le _, fun _ => by rwa [heq]⟩
  match result with
  | .error _ | .ok none => rfl
  | .ok (some frame) => exact absurd rfl (hnone frame)

theorem discard (hne : b ≠ control) {e : FormatError} (hdecode : Message.decode frame = .error e)
    (h : Delivered control room b calls { before with discarded := before.discarded + 1 } after w) :
    Delivered control room b (.recv b (.ok (some frame)) :: calls) before after w := by
  have huseless : useless control [.recv b (.ok (some frame))] = [frame] := by
    simp [useless, GatewayCall.useless?, hne, hdecode, Except.isOk, Except.toBool]
  have htally : Tally control [.recv b (.ok (some frame))] before
      { before with discarded := before.discarded + 1 } := ⟨rfl, by rw [huseless]; rfl⟩
  exact ⟨htally.append h.tally, h.bounded, h.emptied⟩

theorem give (hne : b ≠ control) {m : Message} (hdecode : Message.decode frame = .ok m)
    (h : Delivered control room b calls { before with messages := before.messages + 1 } after w) :
    Delivered control (room + 1) b (.recv b (.ok (some frame)) :: .receive m :: calls) before after
      w := by
  have huseless : useless control [.recv b (.ok (some frame)), .receive m] = [] := by
    simp [useless, GatewayCall.useless?, hne, hdecode, Except.isOk, Except.toBool]
  have htally : Tally control [.recv b (.ok (some frame)), .receive m] before
      { before with messages := before.messages + 1 } := ⟨rfl, by rw [huseless]; rfl⟩
  have hreceipts : receipts (.recv b (.ok (some frame)) :: .receive m :: calls) =
      m :: receipts calls := rfl
  refine ⟨htally.append h.tally, ?_, ?_⟩ <;> rw [hreceipts, List.length_cons]
  · exact Nat.succ_le_succ h.bounded
  · intro hlt
    exact h.emptied (Nat.lt_of_succ_lt_succ hlt)

end Delivered

theorem memory_of_observed_recv {c : MemoryHandle} {result : Except ProxyError (Option Bytes)}
    {w w' : Observed MemoryHandle Sandbox} (h : Channels.recv c w = (result, w')) :
    w.world.memory.recv c = (result, w'.world.memory) ∧ w'.calls = w.calls ++ [.recv c result] :=
  ⟨Sandbox.memory_of_recv (Observed.of_recv h).1, (Observed.of_recv h).2⟩

namespace Gateway

theorem deliver_delivered {control b : MemoryHandle} (hne : b ≠ control) (room supply : Nat)
    (g : Gateway μ MemoryHandle) (stats : PollStats) (w : Observed MemoryHandle Sandbox)
    (hsupply : (w.world.memory.pending b).length < supply) :
    ∃ calls stats', (g.deliver room supply b stats w).1 = .ok stats' ∧
      (g.deliver room supply b stats w).2.2.calls = w.calls ++ calls ∧
      Delivered control room b calls stats stats' (g.deliver room supply b stats w).2.2.world := by
  -- by the recursion of the loop; the supply is always more than what waits, so that only an empty
  -- channel or the last of the room ends it
  fun_induction deliver room supply g b stats w with
  | case1 g stats w supply =>
    exact ⟨[], _, rfl, by simp, tally_nil .., Nat.le_refl _, by simp [receipts]⟩
  | case2 => simp at hsupply
  | case3 g stats w room supply w' hrecv | case4 g stats w room supply reason w' hrecv =>
    obtain ⟨hmemory, hcalls⟩ := memory_of_observed_recv hrecv
    exact ⟨_, _, rfl, hcalls, .of_no_frame control _ _ hmemory (by simp)⟩
  | case5 g stats w room supply e w' hrecv =>
    obtain ⟨reason, ⟨⟩⟩ := reason_of_recv (memory_of_observed_recv hrecv).1
  | case6 g stats w room supply e w' hdisconnected hstream hrecv =>
    obtain ⟨reason, rfl⟩ := reason_of_recv (memory_of_observed_recv hrecv).1
    exact absurd rfl (hdisconnected reason)
  | case7 g stats w room supply frame w' hrecv e hdecode ih =>
    obtain ⟨hmemory, hcalls⟩ := memory_of_observed_recv hrecv
    obtain ⟨waiting, hlook, hturns⟩ := turns_recv hmemory
    rw [pending, hlook] at hsupply
    obtain ⟨calls, stats', hresult, hcalls', hdelivered⟩ := ih (by
      rw [pending, hturns.look_self]
      exact Nat.lt_of_succ_lt_succ hsupply)
    refine ⟨_, stats', hresult, ?_, hdelivered.discard hne hdecode⟩
    rw [hcalls', hcalls, List.append_assoc]
    rfl
  | case8 g stats w room supply frame w' hrecv m hdecode guest w'' hreceive ih =>
    obtain ⟨hmemory, hcalls⟩ := memory_of_observed_recv hrecv
    obtain ⟨calls, stats', hresult, hcalls', hdelivered⟩ :=
      ih (length_pending_lt_supply w''.world.memory _)
    refine ⟨_, stats', hresult, ?_, hdelivered.give hne hdecode⟩
    rw [hcalls', (Observed.of_receive hreceive).2, hcalls, List.append_assoc, List.append_assoc]
    rfl

structure Drained (control : MemoryHandle) (g : Gateway μ MemoryHandle)
    (calls : List (GatewayCall MemoryHandle)) (before after : PollStats) (w : Sandbox) : Prop where
  tally : Tally control calls before after
  bounded : (receipts calls).length ≤ messagesPerPoll
  emptied : (receipts calls).length < messagesPerPoll →
    ∀ b, g.messages = some b → w.memory.pending b = []

theorem drain_drained {control : MemoryHandle} {g : Gateway μ MemoryHandle}
    (hne : ∀ b, g.messages = some b → b ≠ control) (stats : PollStats)
    (w : Observed MemoryHandle Sandbox) :
    ∃ calls stats', (g.drain stats w).1 = .ok stats' ∧
      (g.drain stats w).2.2.calls = w.calls ++ calls ∧
      Drained control (g.drain stats w).2.1 calls stats stats' (g.drain stats w).2.2.world := by
  obtain ⟨guest, hguest⟩ := drain_fst g stats w
  rw [hguest]
  unfold drain
  cases hmessages : g.messages with
  | none =>
    exact ⟨[], stats, rfl, by simp, tally_nil control stats, Nat.zero_le _, by simp⟩
  | some b =>
    obtain ⟨calls, stats', hresult, hcalls, hdelivered⟩ := deliver_delivered (hne b hmessages)
      messagesPerPoll _ g stats w (length_pending_lt_supply w.world.memory b)
    refine ⟨calls, stats', hresult, hcalls, hdelivered.tally, hdelivered.bounded, ?_⟩
    rintro hlt _ ⟨⟩
    exact hdelivered.emptied hlt

omit [ProxiedModule μ MemoryHandle Sandbox] in
theorem reply_ne_format (g : Gateway μ MemoryHandle) (succeeded : Bool) (w : Sandbox)
    (e : FormatError) : (g.reply succeeded w).1 ≠ .error (.format e) := by
  unfold reply
  split
  · simp
  · rename_i control _
    intro herror
    obtain ⟨reason, ⟨⟩⟩ := reason_of_send (Sandbox.memory_of_send (Prod.ext herror rfl))

theorem handle_ne_format (g : Gateway μ MemoryHandle) {frame : Bytes} {header : ControlHeader}
    (hheader : ControlHeader.decode frame = .ok header) (w : Sandbox) (e : FormatError) :
    (g.handle frame w).1 ≠ .error (.format e) := by
  unfold handle
  simp only [hheader]
  split
  · simp
  · split
    · unfold create
      split
      · exact reply_ne_format _ _ _ _
      · exact reply_ne_format _ _ _ _
    all_goals simp

structure Round (control : MemoryHandle) (calls : List (GatewayCall MemoryHandle))
    (stats : PollStats) (g : Gateway μ MemoryHandle) (w : Sandbox) : Prop where
  messages : stats.messages = (receipts calls).length
  discarded : stats.discarded = (useless control calls).length
  bounded : stats.messages ≤ messagesPerPoll
  emptied : stats.messages < messagesPerPoll →
    ∀ b, g.messages = some b → w.memory.pending b = []

omit [ProxiedModule μ MemoryHandle Sandbox] in
theorem Drained.round {control : MemoryHandle} {g : Gateway μ MemoryHandle}
    {calls rest : List (GatewayCall MemoryHandle)} {before after : PollStats} {w : Sandbox}
    (htally : Tally control calls {} before) (hreceipts : receipts calls = [])
    (h : Drained control g rest before after w) : Round control (calls ++ rest) after g w := by
  have hall : receipts (calls ++ rest) = receipts rest := by
    rw [receipts, List.filterMap_append]
    exact congrArg (· ++ receipts rest) hreceipts
  have hmessages : after.messages = (receipts (calls ++ rest)).length :=
    (htally.append h.tally).messages.trans (Nat.zero_add _)
  refine ⟨hmessages, (htally.append h.tally).discarded.trans (Nat.zero_add _), ?_, ?_⟩ <;>
    rw [hmessages, hall]
  · exact h.bounded
  · exact h.emptied

end Gateway

theorem Attempt.not_delivery {γ : Type} {request : Create} {calls : List (GatewayCall γ)}
    {met : Option γ} (h : Attempt request calls met) : ∀ call ∈ calls, ¬call.IsDelivery := by
  cases h <;> simp [GatewayCall.IsDelivery]

theorem Handled.not_delivery {γ : Type} {live met : Option γ} {control : γ} {frame : Bytes}
    {calls : List (GatewayCall γ)} (h : Handled live control frame calls met) :
    ∀ call ∈ calls, ¬call.IsDelivery := by
  have hended : ∀ call ∈ endCalls live, ¬call.IsDelivery := by
    cases live <;> simp [endCalls, GatewayCall.IsDelivery]
  cases h with
  | unreadable | passed | malformed => simp [GatewayCall.IsDelivery]
  | started _ _ hcalls =>
    intro call hcall
    rw [hcalls call hcall]
    exact id
  | ended => exact hended
  | answered _ _ _ hattempt =>
    intro call hcall
    rw [List.mem_append, List.mem_append] at hcall
    obtain (hend | hattempted) | hreplied := hcall
    · exact hended call hend
    · exact hattempt.not_delivery call hattempted
    · rw [List.mem_singleton.mp hreplied]
      exact id

namespace Gateway

theorem pollControl_tally {g : Gateway μ MemoryHandle} {live met : Option MemoryHandle}
    {control : MemoryHandle} (hcontrol : g.control = some control) {frame : Bytes}
    {calls : List (GatewayCall MemoryHandle)} (hhandled : Handled live control frame calls met)
    {w : Sandbox} {stats : PollStats} (hstats : (g.pollControl frame w).1 = .ok stats) :
    Tally control (.recv control (.ok (some frame)) :: calls) {} stats := by
  have hcalls := hhandled.not_delivery
  have hrest : Tally control calls stats stats :=
    ⟨by rw [receipts, GatewayCall.filterMap_eq_nil hcalls]; rfl,
      by rw [useless, GatewayCall.filterMap_eq_nil hcalls]; rfl⟩
  have hfirst : Tally control [.recv control (.ok (some frame))] {} stats := by
    unfold pollControl at hstats
    cases hheader : ControlHeader.decode frame with
    | error e =>
      have huseless : useless control [.recv control (.ok (some frame))] = [frame] := by
        simp [useless, GatewayCall.useless?, hheader, Except.isOk, Except.toBool]
      have hhandle : (g.handle frame w).1 = .error (.format e) := by
        simp only [handle, hcontrol, hheader]
      split at hstats <;> rename_i hresult <;> rw [hresult] at hhandle
      · cases hhandle
      · cases hstats
        exact ⟨rfl, by rw [huseless]; rfl⟩
      · cases hstats
    | ok header =>
      have huseless : useless control [.recv control (.ok (some frame))] = [] := by
        simp [useless, GatewayCall.useless?, hheader, Except.isOk, Except.toBool]
      have hhandle := handle_ne_format g hheader w
      split at hstats <;> rename_i hresult <;> rw [hresult] at hhandle
      · cases hstats
        exact ⟨rfl, by rw [huseless]; rfl⟩
      · exact absurd rfl (hhandle _)
      · cases hstats
  exact hfirst.append hrest

end Gateway

end ModuleProxy
