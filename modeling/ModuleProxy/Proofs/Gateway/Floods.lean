import ModuleProxy.Proofs.Gateway.Takings

namespace ModuleProxy

open MemoryNetwork

namespace Gateway

variable {μ : Type} [ProxiedModule μ MemoryHandle Sandbox]

theorem deliver_takings {b : MemoryHandle} (room supply : Nat) (g : Gateway μ MemoryHandle)
    (stats : PollStats) (w : Observed MemoryHandle Sandbox) (hroom : room ≠ 0)
    (hsupply : (w.world.memory.pending b).length < supply)
    (hwaiting : ∀ frame ∈ w.world.memory.pending b, isMessage frame = false) :
    ∃ calls, (g.deliver room supply b stats w).2.2.calls = w.calls ++ calls ∧
      takings calls = w.world.memory.pending b := by
  -- by the recursion of the loop; what is taken uses up no room, so that only the empty channel
  -- ends it
  fun_induction deliver room supply g b stats w with
  | case1 => exact absurd rfl hroom
  | case2 => simp at hsupply
  | case3 g stats w room supply w' hrecv | case4 g stats w room supply reason w' hrecv
  | case5 g stats w room supply e w' hrecv | case6 g stats w room supply e w' _ _ hrecv =>
    obtain ⟨hmemory, hcalls⟩ := memory_of_observed_recv hrecv
    obtain ⟨_, hempty⟩ := recv_of_no_frame hmemory (by simp)
    exact ⟨_, hcalls, by rw [hempty]; rfl⟩
  | case7 g stats w room supply frame w' hrecv e hdecode ih =>
    obtain ⟨hmemory, hcalls⟩ := memory_of_observed_recv hrecv
    obtain ⟨waiting, hlook, hturns⟩ := turns_recv hmemory
    have hpending : w.world.memory.pending b = frame :: waiting := congrArg Prod.fst hlook
    have hpending' : w'.world.memory.pending b = waiting := congrArg Prod.fst hturns.look_self
    rw [hpending] at hsupply hwaiting
    rw [hpending'] at ih
    obtain ⟨calls, hcalls', htakings⟩ := ih hroom (Nat.lt_of_succ_lt_succ hsupply)
      fun frame hmem => hwaiting frame (List.mem_cons_of_mem _ hmem)
    refine ⟨.recv b (.ok (some frame)) :: calls, ?_, ?_⟩
    · rw [hcalls', hcalls, List.append_assoc]
      rfl
    · rw [hpending, ← htakings]
      rfl
  | case8 g stats w room supply frame w' hrecv m hdecode guest w'' hreceive ih =>
    obtain ⟨waiting, hlook, _⟩ := turns_recv (memory_of_observed_recv hrecv).1
    have hpending : w.world.memory.pending b = frame :: waiting := congrArg Prod.fst hlook
    have hframe := hwaiting frame (by simp [hpending])
    rw [isMessage_of_ok hdecode] at hframe
    cases hframe

theorem poll_takings {g : Gateway μ MemoryHandle} {control b : MemoryHandle}
    (hcontrol : g.control = some control) (hmessages : g.messages = some b)
    {w : Observed MemoryHandle Sandbox} (hidle : (w.world.memory.recv control).1 = .ok none)
    (hwaiting : ∀ frame ∈ w.world.memory.pending b, isMessage frame = false) :
    ∃ calls, (g.poll w).2.2.calls = w.calls ++ .recv control (.ok none) :: calls ∧
      takings calls = w.world.memory.pending b := by
  rcases hrecv : Channels.recv control w with ⟨result, w'⟩
  obtain ⟨hmemory, hcalls⟩ := memory_of_observed_recv hrecv
  obtain rfl : result = .ok none := by rw [← hidle, hmemory]
  have hsame := (recv_of_no_frame hmemory (by simp)).1
  rw [← hsame] at hwaiting ⊢
  obtain ⟨calls, hcalls', htakings⟩ := deliver_takings messagesPerPoll _ g {} w' (by decide)
    (length_pending_lt_supply w'.world.memory b) hwaiting
  refine ⟨calls, ?_, htakings⟩
  simp only [poll, hcontrol, hrecv, drain, hmessages]
  rw [← List.singleton_append, ← List.append_assoc, ← hcalls]
  exact hcalls'

end Gateway

namespace MemoryStep

def flood (n : Nat) : List MemoryStep :=
  let request := ControlMessage.frame { body := .create ⟨1, ⟨0, "ipc://m"⟩, []⟩ }
  [.gateway (.attach "c"), .gateway (.handle request)] ++ List.replicate n (.send ⟨3⟩ [0])

def floodedEcho (n : Nat) :
    Gateway (Guest MemoryHandle) MemoryHandle × Observed MemoryHandle Sandbox :=
  run (flood n) { guest := .echo {} } {}

theorem floodedEcho_succ (n : Nat) :
    floodedEcho (n + 1) =
      ((floodedEcho n).1, (Channels.send (⟨3⟩ : MemoryHandle) [0] (floodedEcho n).2).2) := by
  simp only [floodedEcho, run, flood, List.replicate_succ', ← List.append_assoc, List.map_append,
    GatewayStep.actAll, List.foldl_append]
  rfl

structure Flooded (n : Nat)
    (now : Gateway (Guest MemoryHandle) MemoryHandle × Observed MemoryHandle Sandbox) : Prop where
  state : now.1.state = .created
  control : now.1.control = some ⟨0⟩
  messages : now.1.messages = some ⟨2⟩
  opened : ∀ i < 4, now.2.world.memory.isOpen ⟨i⟩ = true
  idle : now.2.world.memory.pending ⟨0⟩ = []
  waiting : now.2.world.memory.pending ⟨2⟩ = List.replicate n [0]

theorem flooded_floodedEcho (n : Nat) : Flooded n (floodedEcho n) := by
  induction n with
  | zero => exact ⟨rfl, rfl, rfl, by decide, rfl, rfl⟩
  | succ n ih =>
    obtain ⟨hstate, hcontrol, hmessages, hopened, hidle, hwaiting⟩ := ih
    have hsend := send_of_open (hopened 3 (by decide)) (hopened 2 (by decide)) [0]
    have hmemory : (floodedEcho (n + 1)).2.world.memory =
        (floodedEcho n).2.world.memory.modifyEnd ⟨2⟩ fun e =>
          { e with inbox := e.inbox.push [0] } := by
      rw [floodedEcho_succ]
      exact congrArg Prod.snd hsend
    refine ⟨?_, ?_, ?_, ?_, ?_, ?_⟩
    · rwa [floodedEcho_succ]
    · rwa [floodedEcho_succ]
    · rwa [floodedEcho_succ]
    · intro i hi
      rw [hmemory, isOpen_modifyEnd _ _ _ (fun e => { e with inbox := e.inbox.push [0] })]
      · exact hopened i hi
      · exact fun _ => rfl
    · rw [hmemory, pending_modifyEnd_of_ne _ _ _ _ (by decide)]
      exact hidle
    · rw [hmemory, pending_push (hopened 2 (by decide)), hwaiting, List.replicate_succ']

theorem poll_floodedEcho (n : Nat) :
    ∃ batch, ((floodedEcho n).1.poll (floodedEcho n).2).2.2.calls =
        (floodedEcho n).2.calls ++ .recv ⟨0⟩ (.ok none) :: batch ∧
      takings batch = List.replicate n [0] := by
  obtain ⟨_, hcontrol, hmessages, hopened, hidle, hwaiting⟩ := flooded_floodedEcho n
  have hheard : ((floodedEcho n).2.world.memory.recv ⟨0⟩).1 = .ok none := by
    have hpeer : (floodedEcho n).2.world.memory.isOpen (peer ⟨0⟩) = true := hopened 1 (by decide)
    rw [recv_of_open (hopened 0 (by decide)), hidle, if_neg (by simp [hpeer])]
    rfl
  rw [← hwaiting]
  apply Gateway.poll_takings hcontrol hmessages hheard
  intro frame hmem
  rw [hwaiting] at hmem
  rw [List.eq_of_mem_replicate hmem]
  rfl

/-- The peer of this session gets a round to take one frame more than `messagesPerPoll`. -/
theorem floodedEcho_exceeds :
    let now := floodedEcho (Gateway.messagesPerPoll + 1)
    now.1.state = .created ∧
      now.2.world.memory.pending ⟨2⟩ = List.replicate (Gateway.messagesPerPoll + 1) [0] ∧
      ∃ batch, (now.1.poll now.2).2.2.calls = now.2.calls ++ .recv ⟨0⟩ (.ok none) :: batch ∧
        Gateway.messagesPerPoll < (takings batch).length := by
  obtain ⟨hstate, _, _, _, _, hwaiting⟩ := flooded_floodedEcho (Gateway.messagesPerPoll + 1)
  obtain ⟨batch, hcalls, htakings⟩ := poll_floodedEcho (Gateway.messagesPerPoll + 1)
  refine ⟨hstate, hwaiting, batch, hcalls, ?_⟩
  rw [htakings, List.length_replicate]
  exact Nat.lt_succ_self _

end MemoryStep

end ModuleProxy
