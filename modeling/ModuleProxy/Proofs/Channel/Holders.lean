import ModuleProxy.Proofs.Channel.Acts

namespace ModuleProxy

open MemoryNetwork

@[simp] def TrafficAct.isShare (h : MemoryHandle) : TrafficAct → Bool
  | .share b => b = h
  | _ => false

@[simp] def TrafficAct.isDrop (h : MemoryHandle) : TrafficAct → Bool
  | .drop b => b = h
  | _ => false

namespace MemoryNetwork

variable {n : MemoryNetwork} {h : MemoryHandle}

theorem holders_send (n : MemoryNetwork) (b : MemoryHandle) (frame : Bytes) (h : MemoryHandle) :
    (n.send b frame).2.holders h = n.holders h := by
  obtain ⟨_, _, hsend⟩ | ⟨_, _, hsend⟩ := n.send_cases b frame
  · rw [hsend]
    exact holders_modifyEnd _ _ _ _ fun _ => rfl
  · rw [hsend]

theorem holders_recv (n : MemoryNetwork) (b h : MemoryHandle) :
    (n.recv b).2.holders h = n.holders h := by
  obtain ⟨e, frame, inbox, _, _, _, hrecv⟩ | ⟨_, ⟨_, hrecv⟩ | ⟨_, hrecv⟩⟩ := n.recv_cases b
  · rw [hrecv]
    exact holders_modifyEnd _ _ _ _ fun _ => rfl
  · rw [hrecv]
  · rw [hrecv]

theorem holders_release (hheld : 0 < n.holders h) : (n.release h).holders h = n.holders h - 1 := by
  have hlt := lt_of_holders_pos hheld
  obtain hlast | hmore := Nat.eq_or_lt_of_le (Nat.succ_le_of_lt hheld)
  · rw [release_of_last hlast.symm hlt, disconnect, holders_modifyEnd,
      holders_recount hlt (· - 1)]
    exact fun _ => rfl
  · rw [release_of_shared hmore hlt, holders_recount hlt (· - 1)]

theorem holders_pair (hlt : h.index < n.ends.size) : n.pair.2.holders h = n.holders h := by
  rw [holders, getElem?_pair, if_pos hlt, holders]

theorem holders_after {a : TrafficAct} (hheld : ∀ b ∈ a.end?, 0 < n.holders b)
    (hlt : h.index < n.ends.size) :
    (n.after a).holders h + (if a.isDrop h then 1 else 0) =
      n.holders h + (if a.isShare h then 1 else 0) := by
  cases a with
  | pair => simp [after, holders_pair hlt]
  | send b frame => simp [after, holders_send]
  | publish b m =>
    obtain hsame | ⟨frame, hframe⟩ := n.publish_cases b m
    · simp [after, hsame]
    · simp [after, hframe, holders_send]
  | recv b => simp [after, holders_recv]
  | disconnect b =>
    have hkept : (n.disconnect b).holders h = n.holders h :=
      holders_modifyEnd _ _ _ _ fun _ => rfl
    simp [after, hkept]
  | share b =>
    by_cases hb : b = h
    · subst hb
      have hmore : (n.share b).holders b = n.holders b + 1 := holders_recount hlt (· + 1)
      simp [after, hmore]
    · have hkept := (ActedAt.after n (a := .share b) rfl).holders_eq (Ne.symm hb)
      simp [hb, hkept]
  | drop b =>
    by_cases hb : b = h
    · subst hb
      have hheld : 0 < n.holders b := hheld b rfl
      simp only [after, TrafficAct.isDrop, TrafficAct.isShare, holders_release hheld, decide_true,
        Bool.false_eq_true, ↓reduceIte]
      omega
    · have hkept := (ActedAt.after n (a := .drop b) rfl).holders_eq (Ne.symm hb)
      simp [hb, hkept]

end MemoryNetwork

namespace Traffic

/-- Those acts that are done. The others are at ends that nobody holds by then. -/
def done (x : Traffic) : List TrafficAct → List TrafficAct
  | [] => []
  | a :: acts =>
    if ∀ h ∈ a.end?, x.Held h then a :: done (x.act a) acts else done (x.act a) acts

variable (x : Traffic) (h : MemoryHandle)

theorem network_actAt (a : TrafficAct) : (x.actAt a).network = x.network.after a := by
  cases a with
  | send b frame =>
    simp only [actAt, after, give]
    split <;> simp_all
  | publish b m =>
    simp only [actAt, after, give]
    split <;> simp_all
  | recv b =>
    simp only [actAt, after, take]
    split <;> simp_all
  | pair | disconnect | share | drop => rfl

/-- An end that is not there yet is counted as it will be made, with one holder. -/
def count : Nat :=
  if h.index < x.network.ends.size then x.network.holders h else 1

theorem count_actAt {a : TrafficAct} (hheld : ∀ b ∈ a.end?, x.Held b) :
    (x.actAt a).count h + (if a.isDrop h then 1 else 0) =
      x.count h + (if a.isShare h then 1 else 0) := by
  by_cases hlt : h.index < x.network.ends.size
  · have hgrown : h.index < (x.network.after a).ends.size := (x.network.ages_after a).lt_size hlt
    rw [count, network_actAt, if_pos hgrown, count, if_pos hlt, holders_after hheld hlt]
  · cases ha : a.end? with
    | none =>
      cases a with
      | pair =>
        rw [count, count, if_neg hlt, network_actAt, after, holders, getElem?_pair, if_neg hlt,
          size_pair]
        split <;> rfl
      | _ => cases ha
    | some b =>
      have hb : b ≠ h := by
        rintro rfl
        exact hlt (lt_of_holders_pos (hheld b ha))
      have hsame := (ActedAt.after x.network ha).size_eq
      have hneither : a.isDrop h = false ∧ a.isShare h = false := by
        cases a <;> cases ha <;> simp [hb]
      rw [count, network_actAt, hsame, if_neg hlt, count, if_neg hlt, hneither.1, hneither.2]

theorem mem_disconnected_actAt (a : TrafficAct) :
    h ∈ (x.actAt a).disconnected ↔ .disconnect h = a ∨ h ∈ x.disconnected := by
  cases a with
  | disconnect b => simp [actAt]
  | send b frame =>
    simp only [actAt, give]
    split <;> simp
  | publish b m =>
    simp only [actAt, give]
    split <;> simp
  | recv b =>
    simp only [actAt, take]
    split <;> simp
  | pair | share | drop => simp [actAt]

theorem count_foldl (acts : List TrafficAct) :
    (acts.foldl act x).count h + (x.done acts).countP (·.isDrop h) =
      x.count h + (x.done acts).countP (·.isShare h) := by
  induction acts generalizing x with
  | nil => rfl
  | cons a acts ih =>
    have hrest := ih (x.act a)
    rw [List.foldl_cons, done]
    split
    · rename_i hheld
      have hfirst := x.count_actAt h hheld
      rw [act, if_pos hheld] at hrest ⊢
      rw [List.countP_cons, List.countP_cons]
      omega
    · rename_i hheld
      rw [act, if_neg hheld] at hrest ⊢
      exact hrest

theorem mem_disconnected_foldl (acts : List TrafficAct) :
    h ∈ (acts.foldl act x).disconnected ↔
      .disconnect h ∈ x.done acts ∨ h ∈ x.disconnected := by
  induction acts generalizing x with
  | nil => simp [done]
  | cons a acts ih =>
    rw [List.foldl_cons, ih, done]
    split
    · rename_i hheld
      rw [act, if_pos hheld, mem_disconnected_actAt, List.mem_cons, or_left_comm, or_assoc]
    · rename_i hheld
      rw [act, if_neg hheld]

/-- An end has the holder it was made with, one more for each share and one less for each drop. -/
theorem holders_actAll (acts : List TrafficAct)
    (hlt : h.index < (actAll acts).network.ends.size) :
    (actAll acts).network.holders h + (done {} acts).countP (·.isDrop h) =
      1 + (done {} acts).countP (·.isShare h) := by
  have hcount : (actAll acts).count h + _ = count {} h + _ := count_foldl {} h acts
  have hmade : count {} h = 1 := rfl
  rwa [count, if_pos hlt, hmade] at hcount

theorem over_actAll_iff (acts : List TrafficAct)
    (hlt : h.index < (actAll acts).network.ends.size) :
    (actAll acts).Over h ↔ .disconnect h ∈ done {} acts ∨
      (done {} acts).countP (·.isDrop h) = 1 + (done {} acts).countP (·.isShare h) := by
  have hdisconnected : h ∈ (actAll acts).disconnected ↔ .disconnect h ∈ done {} acts := by
    rw [actAll, mem_disconnected_foldl]
    simp
  have hholders := holders_actAll h acts hlt
  rw [Over, hdisconnected]
  refine or_congr Iff.rfl ?_
  omega

end Traffic

end ModuleProxy
