import ModuleProxy.Proofs.Channel.Passing
import ModuleProxy.Proofs.Channel.Traffic

namespace ModuleProxy

open MemoryNetwork

namespace Traffic

structure Tallied (x : Traffic) : Prop where
  even : x.network.ends.size % 2 = 0
  isOpen_iff : ∀ h, x.network.isOpen h = true ↔ ¬x.Over h
  arrives : ∀ h, x.network.isOpen h = true →
    x.got h ++ x.network.pending h = x.sent (peer h)
  unused : ∀ h : MemoryHandle, x.network.ends.size ≤ h.index →
    x.sent h = [] ∧ x.got h = [] ∧ h ∉ x.disconnected

theorem tallied_initial : Tallied {} where
  even := rfl
  isOpen_iff h := by simp [isOpen, Over, holders]
  arrives h hopen := by simp [isOpen] at hopen
  unused h _ := ⟨rfl, rfl, List.not_mem_nil⟩

namespace Tallied

variable {x : Traffic} {h : MemoryHandle}

theorem alter (hx : Tallied x) (b : MemoryHandle) (f : MemoryEnd → MemoryEnd)
    (sent got : MemoryHandle → List Bytes) (hopen : ∀ e, (f e).isOpen = e.isOpen)
    (hheld : (x.network.modifyEnd b f).holders b = 0 ↔ x.network.holders b = 0)
    (harrives : ∀ h, x.network.isOpen h = true →
      got h ++ (x.network.modifyEnd b f).pending h = sent (peer h))
    (hunused : ∀ h : MemoryHandle, x.network.ends.size ≤ h.index → sent h = [] ∧ got h = []) :
    Tallied { x with network := x.network.modifyEnd b f, sent, got } where
  even := by simpa using hx.even
  isOpen_iff h := by
    have hholders : (x.network.modifyEnd b f).holders h = 0 ↔ x.network.holders h = 0 := by
      by_cases heq : b = h
      · exact heq ▸ hheld
      · rw [holders, getElem?_modifyEnd, if_neg heq, holders]
    rw [isOpen_modifyEnd _ _ _ _ hopen, hx.isOpen_iff, Over, Over, hholders]
  arrives h hh := harrives h (by rwa [isOpen_modifyEnd _ _ _ _ hopen] at hh)
  unused h hh := by
    rw [size_modifyEnd] at hh
    exact ⟨(hunused h hh).1, (hunused h hh).2, (hx.unused h hh).2.2⟩

theorem close (hx : Tallied x) (b : MemoryHandle) {network : MemoryNetwork}
    {disconnected : List MemoryHandle} (hsize : network.ends.size = x.network.ends.size)
    (hclosed : network.isOpen b = false)
    (hothers : ∀ h ≠ b, network.ends[h.index]? = x.network.ends[h.index]?)
    (hover : b ∈ disconnected ∨ network.holders b = 0)
    (hlist : ∀ h ≠ b, h ∈ disconnected ↔ h ∈ x.disconnected) (hb : b.index < x.network.ends.size) :
    Tallied { x with network, disconnected } where
  even := hsize ▸ hx.even
  isOpen_iff h := by
    by_cases heq : h = b
    · subst heq
      simp [hclosed, Over, hover]
    · have hopen := hx.isOpen_iff h
      simp only [isOpen, Over, holders, hothers h heq, hlist h heq] at hopen ⊢
      exact hopen
  arrives h hh := by
    -- what waited at `b` is gone, but of an end that is closed nothing is said
    have hne : h ≠ b := by
      rintro rfl
      exact absurd hh (by simp [hclosed])
    have hopen : x.network.isOpen h = true := by
      rwa [isOpen, hothers h hne] at hh
    have harrives := hx.arrives h hopen
    rwa [pending, look, ← hothers h hne] at harrives
  unused h hh := by
    rw [hsize] at hh
    have hne : h ≠ b := by
      rintro rfl
      omega
    have hunused := hx.unused h hh
    exact ⟨hunused.1, hunused.2.1, fun hmem => hunused.2.2 ((hlist h hne).mp hmem)⟩

theorem send (hx : Tallied x) (h : MemoryHandle) (frame : Bytes) :
    Tallied (x.actAt (.send h frame)) := by
  rw [actAt]
  rcases hsend : x.network.send h frame with ⟨e | _, n⟩
  · rw [send_of_error hsend]
    exact hx
  · obtain ⟨hopen, hpeer⟩ := (send_ok_iff x.network h frame).mp (by rw [hsend])
    rw [send_of_open hopen hpeer] at hsend
    cases hsend
    apply hx.alter (peer h)
    · exact fun e => rfl
    · rw [holders_modifyEnd]
      exact fun e => rfl
    · intro b hb
      -- the frame waits at the peer, behind what waits there already
      by_cases heq : b = peer h
      · subst heq
        rw [pending_push hb, peer_peer, Function.update_self, ← List.append_assoc,
          hx.arrives _ hb, peer_peer]
      · have hne : peer b ≠ h := fun hpeer => heq (by rw [← hpeer, peer_peer])
        rw [pending_modifyEnd_of_ne _ _ _ _ (Ne.symm heq), Function.update_of_ne hne,
          hx.arrives b hb]
    · intro b hb
      rw [Function.update_of_ne (ne_of_isOpen hopen hb)]
      exact ⟨(hx.unused b hb).1, (hx.unused b hb).2.1⟩

theorem actAt_publish (x : Traffic) (h : MemoryHandle) (m : Message) :
    x.actAt (.publish h m) =
      match m.encode with
      | .ok frame => x.actAt (.send h frame)
      | .error _ => x := by
  rw [actAt]
  cases hframe : m.encode with
  | error e =>
    rw [publish_of_unwritten _ h hframe]
    rfl
  | ok frame =>
    dsimp only
    rw [actAt]
    rcases hsend : x.network.send h frame with ⟨e | _, n⟩
    · rw [publish_of_unsent hframe hsend]
      rfl
    · rw [publish_of_sent hframe hsend]
      rfl

theorem recv (hx : Tallied x) (h : MemoryHandle) : Tallied (x.actAt (.recv h)) := by
  rw [actAt]
  rcases hrecv : x.network.recv h with ⟨e | _ | frame, n⟩
  · rw [(recv_of_no_frame hrecv (by simp)).1]
    exact hx
  · rw [(recv_of_no_frame hrecv (by simp)).1]
    exact hx
  · obtain ⟨inbox, hopen, hpending, rfl⟩ := recv_some hrecv
    apply hx.alter h
    · exact fun e => rfl
    · rw [holders_modifyEnd]
      exact fun e => rfl
    · intro b hb
      have harrives := hx.arrives b hb
      by_cases heq : b = h
      · subst heq
        obtain ⟨e, he, hopen⟩ := isOpen_eq_true_iff.mp hb
        have hnow : (x.network.modifyEnd b fun e => { e with inbox }).ends[b.index]? =
            some { e with inbox } := by
          rw [getElem?_modifyEnd, if_pos rfl, he, Option.map_some]
        rw [pending_of_open hnow hopen, Function.update_self, ← harrives, hpending,
          List.append_assoc]
        rfl
      · rw [pending_modifyEnd_of_ne _ _ _ _ (Ne.symm heq), Function.update_of_ne heq]
        exact harrives
    · intro b hb
      rw [Function.update_of_ne (ne_of_isOpen hopen hb)]
      exact ⟨(hx.unused b hb).1, (hx.unused b hb).2.1⟩

theorem disconnect (hx : Tallied x) (hheld : x.Held h) : Tallied (x.actAt (.disconnect h)) := by
  apply hx.close h
  · exact size_modifyEnd ..
  · exact isOpen_disconnect ..
  · intro b hb
    rw [MemoryNetwork.disconnect, getElem?_modifyEnd, if_neg (Ne.symm hb)]
  · exact .inl List.mem_cons_self
  · intro b hb
    simp [hb]
  · exact lt_of_holders_pos hheld

theorem hold (hx : Tallied x) (hheld : x.Held h) (count : Nat → Nat)
    (hcount : count (x.network.holders h) ≠ 0) :
    Tallied { x with
      network := x.network.modifyEnd h fun e => { e with holders := count e.holders } } := by
  apply hx.alter h
  · exact fun e => rfl
  · rw [holders_recount (lt_of_holders_pos hheld)]
    exact iff_of_false hcount (Nat.ne_of_gt hheld)
  · intro b hb
    rw [pending_modifyEnd]
    · exact hx.arrives b hb
    · exact fun e => rfl
    · exact fun e => rfl
  · exact fun b hb => ⟨(hx.unused b hb).1, (hx.unused b hb).2.1⟩

theorem drop (hx : Tallied x) (hheld : x.Held h) : Tallied (x.actAt (.drop h)) := by
  have hlt := lt_of_holders_pos hheld
  obtain hlast | hmore := Nat.eq_or_lt_of_le (Nat.succ_le_of_lt hheld)
  · rw [actAt, release_of_last hlast.symm hlt]
    apply hx.close h
    · simp [MemoryNetwork.disconnect]
    · exact isOpen_disconnect ..
    · intro b hb
      rw [MemoryNetwork.disconnect, getElem?_modifyEnd, if_neg (Ne.symm hb), getElem?_modifyEnd,
        if_neg (Ne.symm hb)]
    · right
      have hlast : x.network.holders h = 1 := hlast.symm
      rw [MemoryNetwork.disconnect, holders_modifyEnd, holders_recount hlt (· - 1), hlast]
      exact fun e => rfl
    · exact fun b hb => Iff.rfl
    · exact hlt
  · rw [actAt, release_of_shared hmore hlt]
    exact hx.hold hheld (· - 1) (by omega)

theorem pair (hx : Tallied x) : Tallied (x.actAt .pair) := by
  have heven := hx.even
  have hsize : x.network.pair.2.ends.size = x.network.ends.size + 2 := by
    simp [MemoryNetwork.pair]
  refine ⟨?_, fun h => ?_, fun h hopen => ?_, fun h hle => ?_⟩
  · simp only [actAt, hsize]
    omega
  · have hbefore := hx.isOpen_iff h
    simp only [actAt, isOpen, Over, holders, getElem?_pair] at hbefore ⊢
    split
    · exact hbefore
    · have hunused := (hx.unused h (Nat.le_of_not_lt ‹_›)).2.2
      split <;> simp [hunused]
  · simp only [actAt, isOpen, getElem?_pair] at hopen
    simp only [actAt, pending, look_pair]
    split at hopen
    · exact hx.arrives h hopen
    · -- the peer of a new end is new as well, for the ends before it stand in pairs
      have hge := Nat.le_of_not_lt ‹_›
      have hpeer : x.network.ends.size ≤ (peer h).index := by
        simp only [peer]
        split <;> omega
      rw [(hx.unused h hge).2.1, (hx.unused _ hpeer).1, look, Array.getElem?_eq_none hge]
      rfl
  · simp only [actAt, hsize] at hle
    exact hx.unused h (by omega)

theorem act (hx : Tallied x) (a : TrafficAct) : Tallied (x.act a) := by
  rw [Traffic.act]
  split
  · rename_i hheld
    cases a with
    | pair => exact hx.pair
    | send h frame => exact hx.send h frame
    | publish h m =>
      rw [actAt_publish]
      split
      · exact hx.send h _
      · exact hx
    | recv h => exact hx.recv h
    | disconnect h => exact hx.disconnect (hheld h rfl)
    | share h => exact hx.hold (hheld h rfl) (· + 1) (Nat.succ_ne_zero _)
    | drop h => exact hx.drop (hheld h rfl)
  · exact hx

end Tallied

theorem tallied_actAll (acts : List TrafficAct) : Tallied (actAll acts) := by
  suffices ∀ x, Tallied x → Tallied (acts.foldl act x) from this {} tallied_initial
  induction acts with
  | nil => exact fun x hx => hx
  | cons a acts ih => exact fun x hx => ih (x.act a) (hx.act a)

/-- Whatever was done at the ends of pairs, by whoever holds them: a frame can be sent from an end
just while neither it nor its peer is over, and one that cannot be sent changes nothing. An end that
is not over has got what its peer has sent, but for what waits there; it learns that the peer is
over when nothing does. -/
theorem pairs_deliver (acts : List TrafficAct) (h : MemoryHandle) :
    let x := actAll acts
    let n := x.network
    (∀ frame, (n.send h frame).1 = .ok () ↔ ¬x.Over h ∧ ¬x.Over (peer h)) ∧
      (∀ m frame, m.encode = .ok frame →
        ((Publisher.publish h m n).1 = .ok () ↔ ¬x.Over h ∧ ¬x.Over (peer h))) ∧
      (∀ frame, (n.send h frame).1 ≠ .ok () → (n.send h frame).2 = n) ∧
      (∀ m, (Publisher.publish h m n).1 ≠ .ok () → (Publisher.publish h m n).2 = n) ∧
      (¬x.Over h → x.got h ++ n.pending h = x.sent (peer h) ∧
        (n.recv h).1 =
          if n.pending h = [] ∧ x.Over (peer h) then .error peerGoneError
          else .ok (n.pending h).head?) ∧
      (x.Over h → n.recv h = (.error closedError, n)) := by
  intro x n
  have hx : Tallied x := tallied_actAll acts
  have hopen : n.isOpen h = true ↔ ¬x.Over h := hx.isOpen_iff h
  have hpeer : n.isOpen (peer h) = true ↔ ¬x.Over (peer h) := hx.isOpen_iff (peer h)
  rw [← hopen, ← hpeer]
  refine ⟨n.send_ok_iff h, fun m frame hframe => publish_ok_iff n h hframe, ?_,
    publish_of_error n h, ?_, ?_⟩
  · intro frame herror
    rcases hsend : n.send h frame with ⟨e | _, n'⟩
    · exact send_of_error hsend
    · exact absurd (by rw [hsend]) herror
  · intro hh
    refine ⟨hx.arrives h hh, ?_⟩
    have hover : x.Over (peer h) ↔ n.isOpen (peer h) = false := by
      rw [← Bool.not_eq_true, hpeer, not_not]
    rw [recv_of_open hh]
    simp only [hover]
  · intro hover
    apply recv_of_closed
    rw [← Bool.not_eq_true, hopen, not_not]
    exact hover

example : (actAll [.pair, .send ⟨0⟩ [7], .drop ⟨0⟩, .send ⟨1⟩ [8], .recv ⟨1⟩]).got ⟨1⟩ = [[7]] :=
  rfl

end Traffic

end ModuleProxy
