import ModuleProxy.Proofs.Gateway.Accounts
import ModuleProxy.Proofs.Gateway.Rounds

namespace ModuleProxy

open MemoryNetwork

variable {μ : Type} [ProxiedModule μ MemoryHandle Sandbox] {Good : μ → Prop}

structure KeepsAccounts (Good : μ → Prop) (start : Nat) (calls : List (GatewayCall MemoryHandle))
    (g : Gateway μ MemoryHandle) (w : Sandbox) : Prop where
  good : Good g.guest
  booked : Booked start calls g.control g.messages w.memory

namespace KeepsAccounts

variable {start : Nat} {before calls : List (GatewayCall MemoryHandle)}
  {g g' : Gateway μ MemoryHandle} {w w' : Sandbox}

theorem move (hmodule : Confined μ Sandbox.FarUses IsNear Good) (hg : g.Consistent)
    (h : KeepsAccounts Good start before g w) (hmove : Move g w calls g' w') :
    KeepsAccounts Good start (before ++ calls) g' w' := by
  obtain ⟨hgood, hbooked⟩ := h
  -- the calls of a move are booked first; what the module does meanwhile keeps near ends
  cases hmove with
  | openFailed hopen => cases (Sandbox.memory_of_open hopen).1
  | attach hnone hopen =>
    obtain ⟨⟨⟩, hmemory⟩ := Sandbox.memory_of_open hopen
    rw [hnone] at hbooked
    refine ⟨hgood, ?_⟩
    rw [hmemory]
    exact (hbooked.quiet (quiet_openChannel ..)).attach ..
  | send hcontrol hsend =>
    rename_i control frame result
    have hnear := (hbooked.served.held control hcontrol).1
    have hkeeps := keeps_publish hbooked.ledger.paired hnear frame
    rw [Sandbox.memory_of_send hsend] at hkeeps
    exact ⟨hgood, (hbooked.quiet (quiet_send hnear ..)).keep hkeeps⟩
  | listen hcontrol hrecv =>
    rename_i control result
    have hmemory := Sandbox.memory_of_recv hrecv
    rw [hcontrol] at hbooked
    refine ⟨hgood, ?_⟩
    rw [hcontrol]
    by_cases hframe : ∃ frame, result = .ok (some frame)
    · obtain ⟨frame, rfl⟩ := hframe
      exact hbooked.listen hmemory
    · have hnone : ∀ frame, result ≠ .ok (some frame) := by simpa using hframe
      rw [(recv_of_no_frame hmemory hnone).1]
      exact hbooked.quiet (quiet_recv control hnone)
  | start _ hstart =>
    obtain ⟨hgood', hchange⟩ := hmodule.of_start hgood hstart
    have hquiet : Quiet [.start] := ⟨⟨fun _ => rfl, rfl, fun _ => rfl⟩, fun _ _ => rfl⟩
    exact ⟨hgood', (hbooked.quiet hquiet).keep
      (keeps_of_farUses hchange.memory hbooked.ledger.paired)⟩
  | destroy _ hmessages hdestroy =>
    obtain ⟨hgood', hchange⟩ := hmodule.of_destroy hgood hdestroy
    rw [hmessages] at hbooked
    exact ⟨hgood', (hbooked.keep (keeps_of_farUses hchange.memory hbooked.ledger.paired)).finish⟩
  | accept hne hcontrol hopen hcreate =>
    rename_i address args
    obtain ⟨⟨⟩, hmemory⟩ := Sandbox.memory_of_open hopen
    rw [hg.messages_eq_none hne] at hbooked
    have haccepted := hbooked.accept address args
    rw [← hmemory] at haccepted
    obtain ⟨hgood', hchange⟩ := hmodule.of_create hgood hbooked.ledger.paired.even hcreate
    exact ⟨hgood', haccepted.keep (keeps_of_farUses hchange.memory haccepted.ledger.paired)⟩
  | refuse hne hopen hcreate =>
    rename_i address args cause
    obtain ⟨⟨⟩, hmemory⟩ := Sandbox.memory_of_open hopen
    rw [hg.messages_eq_none hne] at hbooked
    obtain ⟨hgood', hchange⟩ := hmodule.of_create hgood hbooked.ledger.paired.even hcreate
    have hopened := keeps_openChannel hbooked.ledger.paired .message address
    rw [← hmemory] at hopened
    have hkeeps := keeps_of_farUses hchange.memory hopened.paired
    rw [hmemory] at hkeeps
    refine ⟨hgood', ?_⟩
    dsimp only
    rw [hg.messages_eq_none hne]
    exact hbooked.refuse address args cause hkeeps
  | idle _ hrecv hnone =>
    have hmemory := (recv_of_no_frame (Sandbox.memory_of_recv hrecv) hnone).1
    refine ⟨hgood, ?_⟩
    rw [hmemory]
    exact hbooked.quiet (quiet_recv _ hnone)
  | skip hmessages hrecv hdecode =>
    rw [hmessages] at hbooked
    refine ⟨hgood, ?_⟩
    rw [hmessages]
    exact hbooked.skip (Sandbox.memory_of_recv hrecv) hdecode
  | deliver hmessages hrecv hdecode hreceive =>
    obtain ⟨hgood', hchange⟩ := hmodule.of_receive hgood hreceive
    rw [hmessages] at hbooked
    have hserved := hbooked.deliver (Sandbox.memory_of_recv hrecv) hdecode
    refine ⟨hgood', ?_⟩
    dsimp only
    rw [hmessages]
    exact hserved.keep (keeps_of_farUses hchange.memory hserved.ledger.paired)
  | leave hcontrol hnone =>
    rw [hcontrol, hnone] at hbooked
    refine ⟨hgood, ?_⟩
    dsimp only
    rw [hnone]
    exact hbooked.leave

end KeepsAccounts

namespace Gateway

theorem poll_round (hmodule : Confined μ Sandbox.FarUses IsNear Good) {start : Nat}
    {g : Gateway μ MemoryHandle} (hg : g.Consistent) {w : Observed MemoryHandle Sandbox}
    (h : KeepsAccounts Good start w.calls g w.world) {control : MemoryHandle}
    (hcontrol : g.control = some control) {stats : PollStats}
    (hstats : (g.poll w).1 = .ok stats) :
    ∃ calls, (g.poll w).2.2.calls = w.calls ++ calls ∧
      Round control calls stats (g.poll w).2.1 (g.poll w).2.2.world := by
  have hne : ∀ {calls} {g' : Gateway μ MemoryHandle} {w' : Sandbox}, g'.control = some control →
      KeepsAccounts Good start calls g' w' → ∀ b, g'.messages = some b → b ≠ control := by
    rintro calls g' w' hcontrol' hkept b hlive rfl
    exact (hkept.booked.served.held b hcontrol').2.2 (hkept.booked.served.mem_sessions hlive)
  unfold poll at hstats ⊢
  simp only [hcontrol] at hstats ⊢
  rcases hrecv : Channels.recv control w with ⟨result, w'⟩
  rw [hrecv] at hstats
  obtain ⟨hmemory, hcalls⟩ := memory_of_observed_recv hrecv
  have hlisten : Move g w [.recv control result] g w' := .listen hcontrol hrecv
  match result with
  | .error e =>
    obtain ⟨reason, rfl⟩ := reason_of_recv hmemory
    cases hstats
  | .ok none =>
    obtain ⟨calls, stats', hresult, hcalls', hdrained⟩ := drain_drained (hne hcontrol h) {} w'
    cases hstats.symm.trans hresult
    refine ⟨[.recv control (.ok none)] ++ calls, ?_, hdrained.round ⟨rfl, rfl⟩ rfl⟩
    rw [hcalls', hcalls, List.append_assoc]
  | .ok (some frame) =>
    -- the frame may end a session and begin another, so the accounts that the deliveries need are
    -- those after it
    obtain ⟨handled, met, hmoves, hhandled, _⟩ := handle_moves hg hcontrol frame w'
    have hheard := Moves.step hlisten hmoves
    have hkept := hheard.invariant
      (P := fun g (w : Observed MemoryHandle Sandbox) => KeepsAccounts Good start w.calls g w.world)
      (fun hg hkept hmove => hmove.forget.2 ▸ hkept.move hmodule hg hmove.forget.1) hg h
    have hcontrol' := (handle_control g frame w').trans hcontrol
    have hobserved := congrArg Prod.fst (pollControl_observed g frame w')
    rw [← pollControl_snd] at hheard hkept hcontrol'
    rcases hpoll : g.pollControl frame w' with ⟨_ | stats₀, g', w''⟩ <;>
      rw [hpoll] at hheard hkept hcontrol' hobserved <;> dsimp only at hstats ⊢ <;>
      rw [hpoll] at hstats ⊢
    · cases hstats
    · have htally := pollControl_tally hcontrol hhandled hobserved.symm
      have hreceipts : receipts handled = [] :=
        GatewayCall.filterMap_eq_nil hhandled.not_delivery
      obtain ⟨calls, stats', hresult, hcalls', hdrained⟩ :=
        drain_drained (hne hcontrol' hkept) stats₀ w''
      cases hstats.symm.trans hresult
      refine ⟨_, ?_, hdrained.round htally hreceipts⟩
      rw [hcalls', hheard.forget.2, List.append_assoc]
      rfl

end Gateway

end ModuleProxy
