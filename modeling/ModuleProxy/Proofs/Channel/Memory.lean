import ModuleProxy.Channel.Memory

namespace ModuleProxy.MemoryNetwork

def IsNear (h : MemoryHandle) : Prop :=
  h.index % 2 = 0

instance (h : MemoryHandle) : Decidable (IsNear h) :=
  inferInstanceAs (Decidable (_ = _))

/-- What can be taken at an end, and whether it is open. One that is not there yet is seen as it
will be. -/
def look (n : MemoryNetwork) (h : MemoryHandle) : List Bytes × Bool :=
  match n.ends[h.index]? with
  | none => ([], true)
  | some e => (if e.isOpen then e.inbox.toList else [], e.isOpen)

def pending (n : MemoryNetwork) (h : MemoryHandle) : List Bytes :=
  (n.look h).1

def holders (n : MemoryNetwork) (h : MemoryHandle) : Nat :=
  (n.ends[h.index]?.map (·.holders)).getD 0

theorem peer_of_near {h : MemoryHandle} (hnear : IsNear h) : peer h = ⟨h.index + 1⟩ :=
  congrArg MemoryHandle.mk (if_pos hnear)

theorem not_isNear_peer {h : MemoryHandle} (hnear : IsNear h) : ¬IsNear (peer h) := by
  rw [peer_of_near hnear]
  simp only [IsNear] at hnear ⊢
  omega

theorem isNear_peer {h : MemoryHandle} (hfar : ¬IsNear h) : IsNear (peer h) := by
  simp only [IsNear] at hfar
  simp only [IsNear, peer, hfar, ↓reduceIte]
  omega

theorem index_ne {b h : MemoryHandle} (hnear : IsNear b) (hfar : ¬IsNear h) :
    h.index ≠ b.index := by
  simp only [IsNear] at hnear hfar
  omega

variable (n : MemoryNetwork) (h b : MemoryHandle) (f : MemoryEnd → MemoryEnd)

@[simp] theorem peer_peer : peer (peer h) = h := by
  obtain ⟨index⟩ := h
  simp only [peer, MemoryHandle.mk.injEq]
  split <;> split <;> omega

theorem index_ne_of_ne {h b : MemoryHandle} (hne : h ≠ b) : h.index ≠ b.index :=
  fun heq => hne (congrArg MemoryHandle.mk heq)

theorem isOpen_eq_true_iff {n : MemoryNetwork} {h : MemoryHandle} :
    n.isOpen h = true ↔ ∃ e, n.ends[h.index]? = some e ∧ e.isOpen = true := by
  unfold isOpen
  cases n.ends[h.index]? <;> simp

theorem getElem?_modifyEnd :
    (n.modifyEnd h f).ends[b.index]? =
      if h = b then n.ends[b.index]?.map f else n.ends[b.index]? := by
  rw [modifyEnd, Array.getElem?_modify]
  by_cases heq : h = b
  · simp [heq]
  · simp [heq, index_ne_of_ne heq]

@[simp] theorem size_modifyEnd : (n.modifyEnd h f).ends.size = n.ends.size :=
  Array.size_modify

theorem isOpen_modifyEnd (hopen : ∀ e, (f e).isOpen = e.isOpen) :
    (n.modifyEnd h f).isOpen b = n.isOpen b := by
  rw [isOpen, getElem?_modifyEnd, isOpen]
  split <;> simp [Function.comp_def, hopen]

theorem look_modifyEnd_of_ne (n : MemoryNetwork) {b h : MemoryHandle} (hne : h.index ≠ b.index)
    (f : MemoryEnd → MemoryEnd) : (n.modifyEnd h f).look b = n.look b := by
  simp only [look, modifyEnd, Array.getElem?_modify, if_neg hne]

theorem pending_modifyEnd_of_ne (hne : h ≠ b) : (n.modifyEnd h f).pending b = n.pending b := by
  rw [pending, n.look_modifyEnd_of_ne (index_ne_of_ne hne), pending]

theorem pending_modifyEnd (hopen : ∀ e, (f e).isOpen = e.isOpen)
    (hinbox : ∀ e, (f e).inbox = e.inbox) : (n.modifyEnd h f).pending b = n.pending b := by
  by_cases heq : h = b
  · subst heq
    rw [pending, pending, look, look, getElem?_modifyEnd, if_pos rfl]
    cases n.ends[h.index]? with
    | none => rfl
    | some e => simp only [Option.map_some, hopen, hinbox]
  · exact n.pending_modifyEnd_of_ne h b f heq

theorem pending_of_open {n : MemoryNetwork} {h : MemoryHandle} {e : MemoryEnd}
    (he : n.ends[h.index]? = some e) (hopen : e.isOpen = true) :
    n.pending h = e.inbox.toList := by
  simp [pending, look, he, hopen]

theorem pending_push {n : MemoryNetwork} {h : MemoryHandle} (hopen : n.isOpen h = true)
    (frame : Bytes) :
    (n.modifyEnd h fun e => { e with inbox := e.inbox.push frame }).pending h =
      n.pending h ++ [frame] := by
  obtain ⟨e, he, hopen⟩ := isOpen_eq_true_iff.mp hopen
  have hnow : (n.modifyEnd h fun e => { e with inbox := e.inbox.push frame }).ends[h.index]? =
      some { e with inbox := e.inbox.push frame } := by
    rw [getElem?_modifyEnd, if_pos rfl, he, Option.map_some]
  rw [pending_of_open hnow hopen, pending_of_open he hopen, Fifo.toList_push]

theorem holders_modifyEnd (hholders : ∀ e, (f e).holders = e.holders) :
    (n.modifyEnd h f).holders b = n.holders b := by
  rw [holders, getElem?_modifyEnd, holders]
  split <;> simp [Function.comp_def, hholders]

theorem holders_recount {n : MemoryNetwork} {h : MemoryHandle} (hlt : h.index < n.ends.size)
    (count : Nat → Nat) :
    (n.modifyEnd h fun e => { e with holders := count e.holders }).holders h =
      count (n.holders h) := by
  simp [holders, getElem?_modifyEnd, Array.getElem?_eq_getElem hlt]

theorem isOpen_disconnect (n : MemoryNetwork) (h : MemoryHandle) :
    (n.disconnect h).isOpen h = false := by
  rw [isOpen, disconnect, getElem?_modifyEnd, if_pos rfl]
  cases n.ends[h.index]? <;> rfl

theorem lt_of_holders_pos {n : MemoryNetwork} {h : MemoryHandle} (hheld : 0 < n.holders h) :
    h.index < n.ends.size := by
  refine Nat.lt_of_not_le fun hle => ?_
  simp [holders, Array.getElem?_eq_none hle] at hheld

theorem ne_of_isOpen {n : MemoryNetwork} {h b : MemoryHandle} (hopen : n.isOpen h = true)
    (hb : n.ends.size ≤ b.index) : b ≠ h := by
  obtain ⟨e, he, -⟩ := isOpen_eq_true_iff.mp hopen
  rintro rfl
  exact Nat.not_lt.mpr hb (Array.getElem?_eq_some_iff.mp he).1

theorem getElem?_pair (n : MemoryNetwork) (h : MemoryHandle) :
    n.pair.2.ends[h.index]? =
      if h.index < n.ends.size then n.ends[h.index]?
      else if h.index < n.ends.size + 2 then some {} else none := by
  rw [MemoryNetwork.pair]
  split
  · exact Array.getElem?_append_left ‹_›
  · rw [Array.getElem?_append_right (Nat.le_of_not_lt ‹_›)]
    split
    · obtain hzero | hone : h.index - n.ends.size = 0 ∨ h.index - n.ends.size = 1 := by omega
      · rw [hzero]
        rfl
      · rw [hone]
        rfl
    · exact Array.getElem?_eq_none (by simp; omega)

theorem size_pair (n : MemoryNetwork) : n.pair.2.ends.size = n.ends.size + 2 := by
  simp [pair]

theorem look_pair (n : MemoryNetwork) (b : MemoryHandle) : n.pair.2.look b = n.look b := by
  simp only [look, pair]
  obtain hlt | hge := Nat.lt_or_ge b.index n.ends.size
  · rw [Array.getElem?_append_left hlt]
  · rw [Array.getElem?_append_right hge, Array.getElem?_eq_none hge]
    rcases b.index - n.ends.size with _ | _ | _ <;> rfl

theorem release_of_last {n : MemoryNetwork} {h : MemoryHandle} (hlast : n.holders h = 1)
    (hlt : h.index < n.ends.size) :
    n.release h =
      (n.modifyEnd h fun e => { e with holders := e.holders - 1 }).disconnect h := by
  have hnone := holders_recount hlt (· - 1)
  rw [hlast] at hnone
  rw [release]
  exact if_pos hnone

theorem release_of_shared {n : MemoryNetwork} {h : MemoryHandle} (hmore : 1 < n.holders h)
    (hlt : h.index < n.ends.size) :
    n.release h = n.modifyEnd h fun e => { e with holders := e.holders - 1 } := by
  have hsome := holders_recount hlt (· - 1)
  rw [release]
  refine if_neg fun hnone => ?_
  have heq := hsome.symm.trans hnone
  omega

@[simp] theorem parked_release (n : MemoryNetwork) (h : MemoryHandle) :
    (n.release h).parked = n.parked := by
  unfold release
  dsimp only
  split <;> rfl

theorem size_release (n : MemoryNetwork) (h : MemoryHandle) :
    (n.release h).ends.size = n.ends.size := by
  unfold release
  dsimp only
  split <;> simp [disconnect, modifyEnd]

theorem size_openChannel (n : MemoryNetwork) (role : ChannelRole) (address : ChannelAddress) :
    (n.openChannel role address).2.ends.size = n.ends.size + 2 := by
  unfold openChannel
  dsimp only
  split <;> simp [pair, size_release]

end ModuleProxy.MemoryNetwork
