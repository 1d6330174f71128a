import ModuleProxy.Proofs.Channel.Closing
import ModuleProxy.Proofs.Lookup

namespace ModuleProxy

namespace MemoryNetwork

/-- What can be done without sending to a near end or taking from it: near ends are published on,
far ends are taken, heard and left, and channels are opened. -/
inductive FarUse : MemoryNetwork → MemoryNetwork → Prop where
  | publish {h : MemoryHandle} (hnear : IsNear h) (frame : Bytes) (n : MemoryNetwork) :
    FarUse n (n.send h frame).2
  | recv {h : MemoryHandle} (hfar : ¬IsNear h) (n : MemoryNetwork) : FarUse n (n.recv h).2
  | disconnect {h : MemoryHandle} (hfar : ¬IsNear h) (n : MemoryNetwork) :
    FarUse n (n.disconnect h)
  | share {h : MemoryHandle} (hfar : ¬IsNear h) (n : MemoryNetwork) : FarUse n (n.share h)
  | release {h : MemoryHandle} (hfar : ¬IsNear h) (n : MemoryNetwork) : FarUse n (n.release h)
  | openChannel (role : ChannelRole) (address : ChannelAddress) (n : MemoryNetwork) :
    FarUse n (n.openChannel role address).2
  | take (role : ChannelRole) (id : String) (n : MemoryNetwork) : FarUse n (n.take role id).2

structure Paired (n : MemoryNetwork) : Prop where
  even : n.ends.size % 2 = 0
  far : ∀ key h, (key, h) ∈ n.parked → ¬IsNear h

theorem paired_empty : Paired {} :=
  ⟨rfl, by simp⟩

structure Keeps (n n' : MemoryNetwork) : Prop where
  size_le : n.ends.size ≤ n'.ends.size
  look_eq : ∀ b, IsNear b → n'.look b = n.look b
  paired : n'.Paired

theorem keeps_modifyEnd {n : MemoryNetwork} (hn : n.Paired) {h : MemoryHandle} (hfar : ¬IsNear h)
    (f : MemoryEnd → MemoryEnd) : Keeps n (n.modifyEnd h f) where
  size_le := by simp [modifyEnd]
  look_eq _ hnear := n.look_modifyEnd_of_ne (index_ne hnear hfar) f
  paired := ⟨by simpa [modifyEnd] using hn.even, hn.far⟩

namespace Keeps

variable {n n' n'' : MemoryNetwork}

theorem refl (hn : n.Paired) : Keeps n n :=
  ⟨Nat.le_refl _, fun _ _ => rfl, hn⟩

theorem trans (h : Keeps n n') (h' : Keeps n' n'') : Keeps n n'' :=
  ⟨Nat.le_trans h.size_le h'.size_le,
    fun b hnear => (h'.look_eq b hnear).trans (h.look_eq b hnear), h'.paired⟩

end Keeps

theorem keeps_release {n : MemoryNetwork} (hn : n.Paired) {h : MemoryHandle} (hfar : ¬IsNear h) :
    Keeps n (n.release h) := by
  have hfewer := keeps_modifyEnd hn hfar fun e => { e with holders := e.holders - 1 }
  unfold release
  dsimp only
  split
  · exact hfewer.trans (keeps_modifyEnd hfewer.paired hfar _)
  · exact hfewer

theorem keeps_pair {n : MemoryNetwork} (hn : n.Paired) : Keeps n n.pair.2 where
  size_le := by simp [pair]
  look_eq b _ := n.look_pair b
  paired := by
    refine ⟨?_, hn.far⟩
    have := hn.even
    simp only [pair, Array.size_append, List.size_toArray, List.length_cons, List.length_nil]
    omega

theorem keeps_parked {n : MemoryNetwork} (hn : n.Paired)
    {parked : List ((ChannelRole × List String) × MemoryHandle)}
    (hfar : ∀ key h, (key, h) ∈ parked → ¬IsNear h) : Keeps n { n with parked } :=
  ⟨Nat.le_refl _, fun _ _ => rfl, hn.even, hfar⟩

theorem far_of_parked {n : MemoryNetwork} (hn : n.Paired) {key : ChannelRole × List String}
    {h : MemoryHandle} (hlookup : n.parked.lookup key = some h) : ¬IsNear h :=
  hn.far key h (mem_of_lookup hlookup)

theorem keeps_openChannel {n : MemoryNetwork} (hn : n.Paired) (role : ChannelRole)
    (address : ChannelAddress) : Keeps n (n.openChannel role address).2 := by
  have hpair := keeps_pair hn
  have hfar : ∀ k h, (k, h) ∈ (key role address, (⟨n.ends.size + 1⟩ : MemoryHandle)) ::
      n.parked.filter (·.1 != key role address) → ¬IsNear h := by
    intro k h hmem
    obtain heq | hold := List.mem_cons.mp hmem
    · have := hn.even
      cases heq
      simp only [IsNear]
      omega
    · exact hn.far k h (List.mem_filter.mp hold).1
  unfold openChannel
  dsimp only
  split
  · exact hpair.trans (keeps_parked hpair.paired hfar)
  · rename_i old hold
    have hreleased := keeps_release hpair.paired (far_of_parked hpair.paired hold)
    refine (hpair.trans hreleased).trans (keeps_parked hreleased.paired ?_)
    rw [parked_release]
    exact hfar

theorem near_openChannel {n : MemoryNetwork} (hn : n.Paired) (role : ChannelRole)
    (address : ChannelAddress) :
    IsNear ⟨n.ends.size⟩ ∧ n.ends.size < (n.openChannel role address).2.ends.size := by
  have hsize := n.size_openChannel role address
  exact ⟨hn.even, by omega⟩

theorem keeps_take {n : MemoryNetwork} (hn : n.Paired) (role : ChannelRole) (id : String) :
    Keeps n (n.take role id).2 := by
  unfold take
  split
  · exact .refl hn
  · dsimp only
    split
    · exact .refl hn
    · exact keeps_parked hn fun k h hmem => hn.far k h (List.mem_filter.mp hmem).1

theorem keeps_publish {n : MemoryNetwork} (hn : n.Paired) {h : MemoryHandle} (hnear : IsNear h)
    (frame : Bytes) : Keeps n (n.send h frame).2 := by
  obtain ⟨_, _, hsend⟩ | ⟨_, _, hsend⟩ := n.send_cases h frame
  · rw [hsend]
    exact keeps_modifyEnd hn (not_isNear_peer hnear) _
  · rw [hsend]
    exact .refl hn

theorem keeps_hear {n : MemoryNetwork} (hn : n.Paired) {h : MemoryHandle} (hfar : ¬IsNear h) :
    Keeps n (n.recv h).2 := by
  obtain ⟨e, frame, inbox, _, _, _, hrecv⟩ | ⟨_, ⟨_, hrecv⟩ | ⟨_, hrecv⟩⟩ := n.recv_cases h
  · rw [hrecv]
    exact keeps_modifyEnd hn hfar _
  · rw [hrecv]
    exact .refl hn
  · rw [hrecv]
    exact .refl hn

theorem FarUse.keeps {n n' : MemoryNetwork} (h : FarUse n n') (hn : n.Paired) : Keeps n n' := by
  cases h with
  | publish hnear frame => exact keeps_publish hn hnear frame
  | recv hfar => exact keeps_hear hn hfar
  | disconnect hfar => exact keeps_modifyEnd hn hfar _
  | share hfar => exact keeps_modifyEnd hn hfar _
  | release hfar => exact keeps_release hn hfar
  | openChannel role address => exact keeps_openChannel hn role address
  | take role id => exact keeps_take hn role id

theorem keeps_of_farUses {n n' : MemoryNetwork} (h : Relation.ReflTransGen FarUse n n')
    (hn : n.Paired) : Keeps n n' := by
  induction h with
  | refl => exact .refl hn
  | tail _ huse ih => exact ih.trans (huse.keeps ih.paired)

structure Turns (n n' : MemoryNetwork) (b : MemoryHandle) (now : List Bytes × Bool) : Prop where
  size_le : n.ends.size ≤ n'.ends.size
  look_self : n'.look b = now
  look_eq : ∀ b', IsNear b' → b' ≠ b → n'.look b' = n.look b'
  paired : n.Paired → n'.Paired

theorem turns_modifyEnd {n : MemoryNetwork} {b : MemoryHandle} {e : MemoryEnd}
    (he : n.ends[b.index]? = some e) (f : MemoryEnd → MemoryEnd) :
    Turns n (n.modifyEnd b f) b
      (if (f e).isOpen then (f e).inbox.toList else [], (f e).isOpen) where
  size_le := by simp [modifyEnd]
  look_self := by simp [look, modifyEnd, Array.getElem?_modify, he]
  look_eq b' _ hne := by
    apply n.look_modifyEnd_of_ne
    intro heq
    exact hne (congrArg MemoryHandle.mk heq.symm)
  paired hn := ⟨by simpa [modifyEnd] using hn.even, hn.far⟩

theorem turns_recv {n n' : MemoryNetwork} {b : MemoryHandle} {frame : Bytes}
    (hrecv : n.recv b = (.ok (some frame), n')) :
    ∃ rest, n.look b = (frame :: rest, true) ∧ Turns n n' b (rest, true) := by
  obtain ⟨e, first, inbox, he, hopen, hlist, heq⟩ | ⟨_, ⟨_, heq⟩ | ⟨_, heq⟩⟩ := n.recv_cases b
  · cases hrecv.symm.trans heq
    refine ⟨inbox.toList, by simp [look, he, hopen, hlist], ?_⟩
    have hturns := turns_modifyEnd he fun e => { e with inbox }
    simpa [hopen] using hturns
  · cases hrecv.symm.trans heq
  · cases hrecv.symm.trans heq

theorem turns_disconnect {n : MemoryNetwork} {b : MemoryHandle}
    (hlt : b.index < n.ends.size) : Turns n (n.disconnect b) b ([], false) := by
  have hturns := turns_modifyEnd (Array.getElem?_eq_getElem hlt)
    fun e => { e with isOpen := false, inbox := {} }
  simpa [disconnect] using hturns

theorem send_of_far {n n' : MemoryNetwork} {h : MemoryHandle} {frame : Bytes}
    {result : Except ProxyError Unit} (hsend : n.send h frame = (result, n')) :
    (result = .ok () ∧ (n.look (peer h)).2 = true ∧ (peer h).index < n.ends.size ∧
        Turns n n' (peer h) (n.pending (peer h) ++ [frame], true)) ∨
      (result ≠ .ok () ∧ n' = n) := by
  obtain ⟨_, hpeer, heq⟩ | ⟨_, _, heq⟩ := n.send_cases h frame
  · obtain ⟨e, he, hopen⟩ := isOpen_eq_true_iff.mp hpeer
    have hturns := turns_modifyEnd he fun e => { e with inbox := e.inbox.push frame }
    have hpending : n.pending (peer h) = e.inbox.toList := by simp [pending, look, he, hopen]
    cases hsend.symm.trans heq
    refine .inl ⟨rfl, by simp [look, he, hopen], (Array.getElem?_eq_some_iff.mp he).1, ?_⟩
    simpa [hopen, hpending] using hturns
  · cases hsend.symm.trans heq
    exact .inr ⟨by simp, rfl⟩

end MemoryNetwork

def Sandbox.FarUses : Sandbox → Sandbox → Prop :=
  Within MemoryNetwork.FarUse fun _ _ => True

namespace Sandbox

variable {w w' : Sandbox}

theorem memory_of_open {role : ChannelRole} {address : ChannelAddress}
    {result : Except ProxyError MemoryHandle}
    (h : Channels.openChannel role address w = (result, w')) :
    result = .ok ⟨w.memory.ends.size⟩ ∧ w'.memory = (w.memory.openChannel role address).2 := by
  obtain ⟨rfl, rfl⟩ := Prod.mk.inj h
  exact ⟨rfl, rfl⟩

theorem memory_of_send {c : MemoryHandle} {frame : Bytes} {result : Except ProxyError Unit}
    (h : Channels.send c frame w = (result, w')) :
    w.memory.send c frame = (result, w'.memory) := by
  obtain ⟨rfl, rfl⟩ := Prod.mk.inj h
  rfl

theorem memory_of_recv {c : MemoryHandle} {result : Except ProxyError (Option Bytes)}
    (h : Channels.recv c w = (result, w')) : w.memory.recv c = (result, w'.memory) := by
  obtain ⟨rfl, rfl⟩ := Prod.mk.inj h
  rfl

end Sandbox

end ModuleProxy
