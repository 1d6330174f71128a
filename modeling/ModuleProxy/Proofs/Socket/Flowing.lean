import ModuleProxy.Proofs.Socket.Street

namespace ModuleProxy

open SocketSystem

namespace Street

variable {came : List StreamId} {l : ListenerId} {taken : List StreamId} {x : Street}
  {id : StreamId}

theorem Flowing.keep (h : Flowing came l taken x) {system : SocketSystem}
    (hsize : system.ends.size = x.system.ends.size)
    (hwaiting : system.waitingAt = x.system.waitingAt)
    (hunread : ∀ id, id ∉ taken → system.unread id = x.system.unread id)
    (hshut : ∀ id, id ∉ taken → system.isShut id = x.system.isShut id) :
    Flowing came l taken { x with system } where
  came_sub := hwaiting ▸ h.came_sub
  paired := hsize ▸ h.paired
  ordered := hwaiting ▸ h.ordered
  far := by
    rw [hwaiting, hsize]
    exact h.far
  fresh id hfar hid := (h.fresh id hfar hid).trans (hunread id hid).symm
  unshut := by
    rw [hwaiting]
    intro id hid
    have hnot : id ∉ taken := fun htaken =>
      Nat.lt_irrefl id ((List.pairwise_append.mp h.ordered).2.2 id htaken id hid)
    exact (hshut id hnot).trans (h.unshut id hid)

theorem Flowing.accept (h : Flowing came l taken x) {system : SocketSystem}
    (haccept : x.system.accept? l = (some id, system)) :
    Flowing came l (taken ++ [id]) { x with system } ∧ Drawn { x with system } id [] ∧
      Goes x { x with system } := by
  obtain ⟨hends, hwaiting⟩ := accept?_eq_some haccept
  have hqueue : taken ++ [id] ++ system.waitingAt l = taken ++ x.system.waitingAt l := by
    rw [hwaiting, List.append_assoc, List.singleton_append]
  have hfirst : id ∈ x.system.waitingAt l := by
    rw [hwaiting]
    exact List.mem_cons_self
  have hunread : system.unread = x.system.unread := by
    funext id
    rw [unread, hends, unread]
  have hshut : system.isShut = x.system.isShut := by
    funext id
    rw [isShut, hends, isShut]
  refine ⟨⟨hqueue ▸ h.came_sub, hends ▸ h.paired, hqueue ▸ h.ordered, ?_, ?_, ?_⟩, ⟨?_, ?_⟩, ?_,
    fun _ _ _ _ => rfl⟩
  · rw [hqueue]
    exact hends ▸ h.far
  · intro id' hfar hid
    rw [hunread]
    exact h.fresh id' hfar fun htaken => hid (List.mem_append_left _ htaken)
  · rw [hshut]
    intro id' hid
    apply h.unshut
    rw [hwaiting]
    exact List.mem_cons_of_mem _ hid
  · have hfar := (h.far id (List.mem_append_right _ hfirst)).1
    have hnot : id ∉ taken := fun htaken =>
      Nat.lt_irrefl id ((List.pairwise_append.mp h.ordered).2.2 id htaken id hfirst)
    rw [hunread]
    exact h.fresh id hfar hnot
  · rw [hshut]
    exact h.unshut id hfirst
  · constructor <;> rw [hends] <;> exact .refl _ _

theorem Flowing.refuse (h : Flowing came l taken x) (id : StreamId) :
    Flowing came l taken { x with system := x.system.close id } ∧
      Goes x { x with system := x.system.close id } :=
  ⟨h.keep (size_close ..) rfl (fun _ _ => unread_close ..) fun _ _ => isShut_close ..,
    wears_close .., fun _ _ _ _ => rfl⟩

theorem Flowing.hangUp (h : Flowing came l taken x) (hid : id ∈ taken) :
    Flowing came l taken { x with system := x.system.hangUp id } ∧
      Goes x { x with system := x.system.hangUp id } ∧ (x.system.hangUp id).isShut id = true := by
  refine ⟨h.keep (size_hangUp ..) rfl (fun _ _ => unread_hangUp ..) fun id' hnot => ?_,
    ⟨wears_hangUp .., fun _ _ _ _ => rfl⟩, ?_⟩
  · apply isShut_hangUp_of_ne
    rintro rfl
    exact hnot hid
  · rw [SocketSystem.hangUp, isShut_close, shutdown, isShut, getElem?_modifyEnd, if_pos rfl]
    cases x.system.ends[id]? <;> rfl

theorem Flowing.read (h : Flowing came l taken x) (hid : id ∈ taken) {got : Bytes}
    (hdrawn : Drawn x id got) (n : Nat) :
    let r := x.system.read n id
    Flowing came l taken { x with system := r.2 } ∧
      Drawn { x with system := r.2 } id (got ++ r.1.toOption.getD []) ∧
      Goes x { x with system := r.2 } := by
  intro r
  have hat := readAt_read n x.system id
  refine ⟨h.keep hat.size_eq hat.waitingAt_eq ?_ fun id' _ => hat.isShut_eq id', ⟨?_, ?_⟩,
    hat.wears, fun _ _ _ _ => rfl⟩
  · intro id' hnot
    apply hat.unread_eq
    rintro rfl
    exact hnot hid
  · rw [List.append_assoc, unread_read]
    exact hdrawn.sent_eq
  · exact (hat.isShut_eq id).trans hdrawn.unshut

end Street

end ModuleProxy
