import Mathlib.Logic.Relation
import ModuleProxy.Proofs.Channel.Passing

namespace ModuleProxy

def Ages {α : Type} (Closed : α → Prop) (a a' : Array α) : Prop :=
  ∀ (i : Nat) (e : α), a[i]? = some e → ∃ e', a'[i]? = some e' ∧ (Closed e → Closed e')

def ClosedAt {α : Type} (Closed : α → Prop) (a : Array α) (i : Nat) : Prop :=
  ∃ e, a[i]? = some e ∧ Closed e

namespace Ages

variable {α : Type} {Closed : α → Prop} {a a' a'' : Array α}

theorem refl (Closed : α → Prop) (a : Array α) : Ages Closed a a :=
  fun _ e he => ⟨e, he, id⟩

theorem trans (h : Ages Closed a a') (h' : Ages Closed a' a'') : Ages Closed a a'' := by
  intro i e he
  obtain ⟨e', he', hclosed⟩ := h i e he
  obtain ⟨e'', he'', hclosed'⟩ := h' i e' he'
  exact ⟨e'', he'', hclosed' ∘ hclosed⟩

theorem closedAt (h : Ages Closed a a') {i : Nat} (hclosed : ClosedAt Closed a i) :
    ClosedAt Closed a' i := by
  obtain ⟨e, he, hclosed⟩ := hclosed
  obtain ⟨e', he', hkept⟩ := h i e he
  exact ⟨e', he', hkept hclosed⟩

theorem lt_size (h : Ages Closed a a') {i : Nat} (hlt : i < a.size) : i < a'.size := by
  obtain ⟨e', he', _⟩ := h i a[i] (Array.getElem?_eq_getElem hlt)
  exact (Array.getElem?_eq_some_iff.mp he').1

theorem modify (a : Array α) (i : Nat) {f : α → α} (hf : ∀ e, Closed e → Closed (f e)) :
    Ages Closed a (a.modify i f) := by
  intro j e he
  rw [Array.getElem?_modify, he]
  split
  · exact ⟨f e, rfl, hf e⟩
  · exact ⟨e, rfl, id⟩

theorem append (a rest : Array α) : Ages Closed a (a ++ rest) := by
  intro i e he
  have hlt := (Array.getElem?_eq_some_iff.mp he).1
  exact ⟨e, (Array.getElem?_append_left hlt).trans he, id⟩

theorem of_reflTransGen {S : Type} {f : S → Array α} {R : S → S → Prop}
    (hR : ∀ {s s'}, R s s' → Ages Closed (f s) (f s')) {s s' : S}
    (h : Relation.ReflTransGen R s s') : Ages Closed (f s) (f s') := by
  induction h with
  | refl => exact .refl Closed (f s)
  | tail _ hstep ih => exact ih.trans (hR hstep)

end Ages

namespace MemoryNetwork

inductive Use : MemoryNetwork → MemoryNetwork → Prop where
  | openChannel (role : ChannelRole) (address : ChannelAddress) (n : MemoryNetwork) :
    Use n (n.openChannel role address).2
  | take (role : ChannelRole) (id : String) (n : MemoryNetwork) : Use n (n.take role id).2
  | send (h : MemoryHandle) (frame : Bytes) (n : MemoryNetwork) : Use n (n.send h frame).2
  | recv (h : MemoryHandle) (n : MemoryNetwork) : Use n (n.recv h).2
  | disconnect (h : MemoryHandle) (n : MemoryNetwork) : Use n (n.disconnect h)
  | share (h : MemoryHandle) (n : MemoryNetwork) : Use n (n.share h)
  | release (h : MemoryHandle) (n : MemoryNetwork) : Use n (n.release h)

def IsClosedEnd (e : MemoryEnd) : Prop :=
  e.isOpen = false

theorem ages_release (n : MemoryNetwork) (h : MemoryHandle) :
    Ages IsClosedEnd n.ends (n.release h).ends := by
  have hreleased : Ages IsClosedEnd n.ends
      (n.modifyEnd h fun e => { e with holders := e.holders - 1 }).ends :=
    .modify _ _ fun _ hclosed => hclosed
  unfold release
  dsimp only
  split
  · exact hreleased.trans (.modify _ _ fun _ _ => rfl)
  · exact hreleased

theorem ages_openChannel (n : MemoryNetwork) (role : ChannelRole) (address : ChannelAddress) :
    Ages IsClosedEnd n.ends (n.openChannel role address).2.ends := by
  have hpair : Ages IsClosedEnd n.ends n.pair.2.ends := .append _ _
  unfold openChannel
  dsimp only
  split
  · exact hpair
  · exact hpair.trans (ages_release _ _)

theorem ages_take (n : MemoryNetwork) (role : ChannelRole) (id : String) :
    Ages IsClosedEnd n.ends (n.take role id).2.ends := by
  unfold take
  split
  · exact .refl _ _
  · dsimp only
    split <;> exact .refl _ _

theorem ages_send (n : MemoryNetwork) (h : MemoryHandle) (frame : Bytes) :
    Ages IsClosedEnd n.ends (n.send h frame).2.ends := by
  obtain ⟨_, _, hsend⟩ | ⟨_, _, hsend⟩ := n.send_cases h frame
  · rw [hsend]
    exact .modify _ _ fun _ hclosed => hclosed
  · rw [hsend]
    exact .refl _ _

theorem ages_recv (n : MemoryNetwork) (h : MemoryHandle) :
    Ages IsClosedEnd n.ends (n.recv h).2.ends := by
  obtain ⟨e, frame, inbox, _, _, _, hrecv⟩ | ⟨_, ⟨_, hrecv⟩ | ⟨_, hrecv⟩⟩ := n.recv_cases h
  · rw [hrecv]
    exact .modify _ _ fun _ hclosed => hclosed
  · rw [hrecv]
    exact .refl _ _
  · rw [hrecv]
    exact .refl _ _

theorem Use.ages {n n' : MemoryNetwork} (h : Use n n') : Ages IsClosedEnd n.ends n'.ends := by
  cases h with
  | openChannel role address => exact n.ages_openChannel role address
  | take role id => exact n.ages_take role id
  | send handle frame => exact n.ages_send handle frame
  | recv handle => exact n.ages_recv handle
  | disconnect handle => exact .modify _ _ fun _ _ => rfl
  | share handle => exact .modify _ _ fun _ hclosed => hclosed
  | release handle => exact n.ages_release handle

theorem ages_of_uses {n n' : MemoryNetwork} (h : Relation.ReflTransGen Use n n') :
    Ages IsClosedEnd n.ends n'.ends :=
  .of_reflTransGen (f := MemoryNetwork.ends) Use.ages h

theorem closedAt_disconnect {n : MemoryNetwork} {h : MemoryHandle} (hlt : h.index < n.ends.size) :
    ClosedAt IsClosedEnd (n.disconnect h).ends h.index := by
  have hget := Array.getElem?_eq_getElem hlt
  refine ⟨{ n.ends[h.index] with isOpen := false, inbox := {} }, ?_, rfl⟩
  rw [disconnect, modifyEnd, Array.getElem?_modify, if_pos rfl, hget, Option.map_some]

theorem send_of_closedAt {n : MemoryNetwork} {h : MemoryHandle}
    (hclosed : ClosedAt IsClosedEnd n.ends h.index) (frame : Bytes) :
    n.send h frame = (.error closedError, n) := by
  obtain ⟨e, he, hopen⟩ := hclosed
  rw [IsClosedEnd] at hopen
  simp [send, isOpen, he, hopen]

end MemoryNetwork

end ModuleProxy
