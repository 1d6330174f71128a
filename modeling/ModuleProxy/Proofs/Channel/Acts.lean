import ModuleProxy.Proofs.Channel.Ages
import ModuleProxy.Proofs.Channel.Traffic

namespace ModuleProxy.MemoryNetwork

def after (n : MemoryNetwork) : TrafficAct → MemoryNetwork
  | .pair => n.pair.2
  | .send h frame => (n.send h frame).2
  | .publish h m => (Publisher.publish h m n).2
  | .recv h => (n.recv h).2
  | .disconnect h => n.disconnect h
  | .share h => n.share h
  | .drop h => n.release h

structure TouchesOnly (h : MemoryHandle) (n n' : MemoryNetwork) : Prop where
  parked_eq : n'.parked = n.parked
  size_eq : n'.ends.size = n.ends.size
  getElem?_eq : ∀ b ≠ h, n'.ends[b.index]? = n.ends[b.index]?
  pending_eq_nil : n.pending h = [] → n'.pending h = []

variable {n n' n'' : MemoryNetwork} {h b : MemoryHandle}

namespace TouchesOnly

theorem refl (h : MemoryHandle) (n : MemoryNetwork) : TouchesOnly h n n :=
  ⟨rfl, rfl, fun _ _ => rfl, id⟩

theorem trans (h₁ : TouchesOnly h n n') (h₂ : TouchesOnly h n' n'') : TouchesOnly h n n'' where
  parked_eq := h₂.parked_eq.trans h₁.parked_eq
  size_eq := h₂.size_eq.trans h₁.size_eq
  getElem?_eq b hb := (h₂.getElem?_eq b hb).trans (h₁.getElem?_eq b hb)
  pending_eq_nil := h₂.pending_eq_nil ∘ h₁.pending_eq_nil

theorem modifyEnd {f : MemoryEnd → MemoryEnd}
    (hpending : n.pending h = [] → (n.modifyEnd h f).pending h = []) :
    TouchesOnly h n (n.modifyEnd h f) where
  parked_eq := rfl
  size_eq := n.size_modifyEnd h f
  getElem?_eq b hb := by rw [getElem?_modifyEnd, if_neg hb.symm]
  pending_eq_nil := hpending

theorem recount (n : MemoryNetwork) (h : MemoryHandle) (count : Nat → Nat) :
    TouchesOnly h n (n.modifyEnd h fun e => { e with holders := count e.holders }) :=
  modifyEnd fun hnil => by
    rw [n.pending_modifyEnd h h]
    · exact hnil
    · exact fun _ => rfl
    · exact fun _ => rfl

theorem disconnect (n : MemoryNetwork) (h : MemoryHandle) : TouchesOnly h n (n.disconnect h) := by
  refine modifyEnd fun _ => ?_
  rw [pending, look, getElem?_modifyEnd, if_pos rfl]
  cases n.ends[h.index]? <;> rfl

theorem release (n : MemoryNetwork) (h : MemoryHandle) : TouchesOnly h n (n.release h) := by
  unfold MemoryNetwork.release
  dsimp only
  split
  · exact (recount n h (· - 1)).trans (disconnect _ h)
  · exact recount n h (· - 1)

theorem recv (n : MemoryNetwork) (h : MemoryHandle) : TouchesOnly h n (n.recv h).2 := by
  obtain ⟨result, n', hrecv⟩ : ∃ result n', n.recv h = (result, n') := ⟨_, _, rfl⟩
  rw [hrecv]
  by_cases hframe : ∃ frame, result = .ok (some frame)
  · obtain ⟨frame, rfl⟩ := hframe
    obtain ⟨inbox, -, hpending, rfl⟩ := recv_some hrecv
    refine modifyEnd fun hnil => ?_
    rw [hnil] at hpending
    cases hpending
  · obtain ⟨rfl, -⟩ := recv_of_no_frame hrecv fun frame heq => hframe ⟨frame, heq⟩
    exact refl h n'

theorem pending_nil (ht : TouchesOnly h n n') (hb : n.pending b = []) : n'.pending b = [] := by
  by_cases heq : b = h
  · exact heq ▸ ht.pending_eq_nil (heq ▸ hb)
  · rw [pending, look, ht.getElem?_eq b heq]
    exact hb

end TouchesOnly

inductive ActedAt (h : MemoryHandle) (n : MemoryNetwork) : MemoryNetwork → Prop where
  | own {n' : MemoryNetwork} (htouches : TouchesOnly h n n') : ActedAt h n n'
  | sent (frame : Bytes) (hopen : n.isOpen h = true) (hpeer : n.isOpen (peer h) = true) :
    ActedAt h n (n.modifyEnd (peer h) fun e => { e with inbox := e.inbox.push frame })

namespace ActedAt

theorem send (n : MemoryNetwork) (h : MemoryHandle) (frame : Bytes) :
    ActedAt h n (n.send h frame).2 := by
  by_cases hopen : n.isOpen h = true ∧ n.isOpen (peer h) = true
  · rw [send_of_open hopen.1 hopen.2]
    exact .sent frame hopen.1 hopen.2
  · rcases hsend : n.send h frame with ⟨e | _, n'⟩
    · rw [send_of_error hsend]
      exact .own (.refl h n)
    · exact absurd ((n.send_ok_iff h frame).mp (by rw [hsend])) hopen

theorem publish (n : MemoryNetwork) (h : MemoryHandle) (m : Message) :
    ActedAt h n (Publisher.publish h m n).2 := by
  obtain hsame | ⟨frame, hframe⟩ := n.publish_cases h m
  · rw [hsame]
    exact .own (.refl h n)
  · rw [hframe]
    exact send n h frame

theorem after (n : MemoryNetwork) {a : TrafficAct} (ha : a.end? = some h) :
    ActedAt h n (n.after a) := by
  cases a with
  | pair => cases ha
  | send h frame =>
    cases ha
    exact send n h frame
  | publish h m =>
    cases ha
    exact publish n h m
  | recv h =>
    cases ha
    exact .own (.recv n h)
  | disconnect h =>
    cases ha
    exact .own (.disconnect n h)
  | share h =>
    cases ha
    exact .own (.recount n h (· + 1))
  | drop h =>
    cases ha
    exact .own (.release n h)

theorem parked_eq (ha : ActedAt h n n') : n'.parked = n.parked := by
  cases ha with
  | own htouches => exact htouches.parked_eq
  | sent frame hopen hpeer => rfl

theorem size_eq (ha : ActedAt h n n') : n'.ends.size = n.ends.size := by
  cases ha with
  | own htouches => exact htouches.size_eq
  | sent frame hopen hpeer => exact n.size_modifyEnd _ _

theorem getElem?_eq (ha : ActedAt h n n') (hb : b ≠ h) (hpeer : b ≠ peer h) :
    n'.ends[b.index]? = n.ends[b.index]? := by
  cases ha with
  | own htouches => exact htouches.getElem?_eq b hb
  | sent => rw [getElem?_modifyEnd, if_neg hpeer.symm]

theorem isOpen_eq (ha : ActedAt h n n') (hb : b ≠ h) : n'.isOpen b = n.isOpen b := by
  cases ha with
  | own htouches => rw [isOpen, htouches.getElem?_eq b hb, isOpen]
  | sent => exact isOpen_modifyEnd _ _ _ _ fun _ => rfl

theorem holders_eq (ha : ActedAt h n n') (hb : b ≠ h) : n'.holders b = n.holders b := by
  cases ha with
  | own htouches => rw [holders, htouches.getElem?_eq b hb, holders]
  | sent => exact holders_modifyEnd _ _ _ _ fun _ => rfl

theorem pending_nil (ha : ActedAt h n n') (hquiet : h ≠ peer b ∨ n.isOpen (peer b) = false)
    (hnil : n.pending b = []) : n'.pending b = [] := by
  cases ha with
  | own htouches => exact htouches.pending_nil hnil
  | sent frame hopen hpeer =>
    have hne : peer h ≠ b := by
      rintro rfl
      rw [peer_peer, hopen] at hquiet
      exact hquiet.elim (fun hne => hne rfl) nofun
    rw [pending_modifyEnd_of_ne _ _ _ _ hne]
    exact hnil

end ActedAt

theorem ages_publish (n : MemoryNetwork) (h : MemoryHandle) (m : Message) :
    Ages IsClosedEnd n.ends (Publisher.publish h m n).2.ends := by
  obtain hsame | ⟨frame, hframe⟩ := n.publish_cases h m
  · rw [hsame]
    exact .refl _ _
  · rw [hframe]
    exact n.ages_send h frame

theorem ages_after (n : MemoryNetwork) (a : TrafficAct) :
    Ages IsClosedEnd n.ends (n.after a).ends := by
  cases a with
  | pair => exact .append _ _
  | send h frame => exact n.ages_send h frame
  | publish h m => exact n.ages_publish h m
  | recv h => exact n.ages_recv h
  | disconnect h => exact .modify _ _ fun _ _ => rfl
  | share h => exact .modify _ _ fun _ hclosed => hclosed
  | drop h => exact n.ages_release h

end ModuleProxy.MemoryNetwork
