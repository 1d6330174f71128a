import ModuleProxy.Proofs.Channel.Closing

namespace ModuleProxy

namespace SocketSystem

def unread (s : SocketSystem) (id : StreamId) : Bytes :=
  (s.ends[id]?.map (·.incoming.toList)).getD []

def waitingAt (s : SocketSystem) (listener : ListenerId) : List StreamId :=
  (s.listeners[listener]?.map (·.waiting)).getD []

/-- A near end was given to one who connected; its peer, a far end, waits at a listener or was
accepted there. -/
def IsNear (id : Nat) : Prop :=
  id % 2 = 0

instance (id : Nat) : Decidable (IsNear id) :=
  inferInstanceAs (Decidable (_ = _))

theorem peer_of_near {id : Nat} (h : IsNear id) : (peer id : Nat) = id + 1 :=
  if_pos h

theorem peer_of_far {id : Nat} (h : ¬IsNear id) : (peer id : Nat) = id - 1 :=
  if_neg h

theorem not_isNear_peer {id : Nat} (h : IsNear id) : ¬IsNear (peer id) := by
  rw [peer_of_near h]
  simp only [IsNear] at h ⊢
  omega

theorem peer_lt {id n : Nat} (hfar : ¬IsNear id) (h : id < n) : peer id < n := by
  rw [peer_of_far hfar]
  exact Nat.lt_of_le_of_lt (Nat.sub_le id 1) h

theorem isNear_peer {id : Nat} (hfar : ¬IsNear id) : IsNear (peer id) := by
  rw [peer_of_far hfar]
  simp only [IsNear] at hfar ⊢
  omega

theorem peer_peer (id : StreamId) : peer (peer id) = id := by
  by_cases hnear : IsNear id
  · rw [peer_of_far (not_isNear_peer hnear), peer_of_near hnear]
    rfl
  · rw [peer_of_near (isNear_peer hnear), peer_of_far hnear]
    simp only [IsNear] at hnear
    exact Nat.sub_add_cancel (Nat.pos_of_ne_zero fun hzero => hnear (by rw [hzero]))

theorem peer_eq_iff {id id' : StreamId} : peer id = id' ↔ id = peer id' := by
  constructor
  · rintro rfl
    exact (peer_peer id).symm
  · rintro rfl
    exact peer_peer id'

section

variable (s : SocketSystem) (id id' : StreamId) (f : StreamEnd → StreamEnd)

theorem getElem?_modifyEnd :
    (s.modifyEnd id f).ends[id']? = if id = id' then s.ends[id']?.map f else s.ends[id']? := by
  rw [modifyEnd, Array.getElem?_modify]

@[simp] theorem size_modifyEnd : (s.modifyEnd id f).ends.size = s.ends.size :=
  Array.size_modify

theorem unread_modifyEnd_of_ne (h : id ≠ id') : (s.modifyEnd id f).unread id' = s.unread id' := by
  rw [unread, getElem?_modifyEnd, if_neg h, unread]

theorem unread_modifyEnd_of_incoming (h : ∀ e, (f e).incoming = e.incoming) :
    (s.modifyEnd id f).unread id' = s.unread id' := by
  rw [unread, getElem?_modifyEnd, unread]
  split
  · rw [Option.map_map]
    simp only [Function.comp_def, h]
  · rfl

theorem isShut_modifyEnd_of_ne (h : id ≠ id') : (s.modifyEnd id f).isShut id' = s.isShut id' := by
  rw [isShut, getElem?_modifyEnd, if_neg h, isShut]

theorem isShut_modifyEnd (hshut : ∀ e, (f e).isShut = e.isShut) :
    (s.modifyEnd id f).isShut id' = s.isShut id' := by
  rw [isShut, getElem?_modifyEnd, isShut]
  split
  · rw [Option.map_map]
    simp only [Function.comp_def, hshut]
  · rfl

theorem holders_modifyEnd (hholders : ∀ e, (f e).holders = e.holders) :
    (s.modifyEnd id f).holders id' = s.holders id' := by
  rw [holders, getElem?_modifyEnd, holders]
  split
  · rw [Option.map_map]
    simp only [Function.comp_def, hholders]
  · rfl

theorem isSevered_modifyEnd (hholders : ∀ e, (f e).holders = e.holders)
    (hshut : ∀ e, (f e).isShut = e.isShut) :
    (s.modifyEnd id f).isSevered id' = s.isSevered id' := by
  simp only [isSevered, s.holders_modifyEnd id _ f hholders, s.isShut_modifyEnd id _ f hshut]

end

def IsLeft (s : SocketSystem) (id : StreamId) : Prop :=
  s.holders (peer id) = 0 ∨ s.isShut (peer id) = true

theorem isSevered_iff {s : SocketSystem} {id : StreamId} :
    s.isSevered id = true ↔ s.IsLeft id ∨ s.isShut id = true := by
  simp only [isSevered, IsLeft, Bool.or_eq_true, beq_iff_eq]
  rw [or_assoc, or_assoc, or_comm (a := s.isShut id = true)]

structure Wears (s s' : SocketSystem) : Prop where
  held : Ages (fun e : StreamEnd => e.holders = 0) s.ends s'.ends
  shut : Ages (fun e : StreamEnd => e.isShut = true) s.ends s'.ends

namespace Wears

variable {s s' s'' : SocketSystem}

theorem refl (s : SocketSystem) : Wears s s :=
  ⟨.refl _ _, .refl _ _⟩

theorem trans (h : Wears s s') (h' : Wears s' s'') : Wears s s'' :=
  ⟨h.held.trans h'.held, h.shut.trans h'.shut⟩

theorem modifyEnd (s : SocketSystem) (id : StreamId) {f : StreamEnd → StreamEnd}
    (hheld : ∀ e, e.holders = 0 → (f e).holders = 0)
    (hshut : ∀ e, e.isShut = true → (f e).isShut = true) : Wears s (s.modifyEnd id f) :=
  ⟨.modify _ _ hheld, .modify _ _ hshut⟩

theorem holders_eq_zero (h : Wears s s') {id : StreamId} (hlt : id < s.ends.size)
    (hheld : s.holders id = 0) : s'.holders id = 0 := by
  obtain ⟨e, he, hkept⟩ := h.held _ _ (Array.getElem?_eq_getElem hlt)
  simp only [holders, Array.getElem?_eq_getElem hlt, he, Option.map_some,
    Option.getD_some] at hheld ⊢
  exact hkept hheld

theorem isShut (h : Wears s s') {id : StreamId} (hlt : id < s.ends.size)
    (hshut : s.isShut id = true) : s'.isShut id = true := by
  obtain ⟨e, he, hkept⟩ := h.shut _ _ (Array.getElem?_eq_getElem hlt)
  simp only [SocketSystem.isShut, Array.getElem?_eq_getElem hlt, he, Option.map_some,
    Option.getD_some] at hshut ⊢
  exact hkept hshut

theorem isLeft (h : Wears s s') {id : StreamId} (hpeer : peer id < s.ends.size)
    (hleft : s.IsLeft id) : s'.IsLeft id :=
  hleft.imp (h.holders_eq_zero hpeer) (h.isShut hpeer)

end Wears

end SocketSystem

end ModuleProxy
