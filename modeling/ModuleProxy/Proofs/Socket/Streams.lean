import ModuleProxy.Proofs.Socket.Ends

namespace ModuleProxy

namespace SocketSystem

variable {s s' : SocketSystem} {bytes : Bytes} {id : StreamId}

def arrive (s : SocketSystem) (bytes : Bytes) (id : StreamId) : SocketSystem :=
  if bytes = [] then s
  else s.modifyEnd (peer id) fun e => { e with incoming := e.incoming.append bytes }

theorem write_of_open (hne : bytes ≠ []) (hopen : s.isSevered id = false) :
    s.write bytes id = (.ok bytes.length, s.arrive bytes id) := by
  simp [write, hne, hopen, arrive]

theorem write_of_severed (hne : bytes ≠ []) (hsevered : s.isSevered id = true) :
    s.write bytes id = (.error .brokenPipe, s) := by
  simp [write, hne, hsevered]

@[simp] theorem arrive_nil (s : SocketSystem) (id : StreamId) : s.arrive [] id = s := rfl

@[simp] theorem size_arrive (s : SocketSystem) (bytes : Bytes) (id : StreamId) :
    (s.arrive bytes id).ends.size = s.ends.size := by
  unfold arrive
  split
  · rfl
  · exact s.size_modifyEnd _ _

@[simp] theorem waitingAt_arrive (s : SocketSystem) (bytes : Bytes) (id : StreamId) :
    (s.arrive bytes id).waitingAt = s.waitingAt := by
  unfold arrive
  split <;> rfl

@[simp] theorem isSevered_arrive (s : SocketSystem) (bytes : Bytes) (id id' : StreamId) :
    (s.arrive bytes id).isSevered id' = s.isSevered id' := by
  unfold arrive
  split
  · rfl
  · exact s.isSevered_modifyEnd _ _ _ (fun _ => rfl) fun _ => rfl

@[simp] theorem isShut_arrive (s : SocketSystem) (bytes : Bytes) (id id' : StreamId) :
    (s.arrive bytes id).isShut id' = s.isShut id' := by
  unfold arrive
  split
  · rfl
  · exact s.isShut_modifyEnd _ _ _ fun _ => rfl

theorem wears_arrive (s : SocketSystem) (bytes : Bytes) (id : StreamId) :
    Wears s (s.arrive bytes id) := by
  unfold arrive
  split
  · exact .refl s
  · exact .modifyEnd s _ (fun _ h => h) fun _ h => h

theorem unread_arrive (hlt : peer id < s.ends.size) (bytes : Bytes) (id' : StreamId) :
    (s.arrive bytes id).unread id' =
      s.unread id' ++ if peer id = id' then bytes else [] := by
  unfold arrive
  split
  · rename_i hnil
    simp [hnil]
  · by_cases h : peer id = id'
    · subst h
      simp [unread, getElem?_modifyEnd, Array.getElem?_eq_getElem hlt]
    · rw [unread_modifyEnd_of_ne _ _ _ _ h, if_neg h, List.append_nil]

theorem unread_arrive_of_ne {id' : StreamId} (h : peer id ≠ id') (bytes : Bytes) :
    (s.arrive bytes id).unread id' = s.unread id' := by
  unfold arrive
  split
  · rfl
  · exact s.unread_modifyEnd_of_ne _ _ _ h

theorem wears_close (s : SocketSystem) (id : StreamId) : Wears s (s.close id) :=
  .modifyEnd s _ (fun e h => by simp [h]) fun _ h => h

theorem wears_shutdown (s : SocketSystem) (id : StreamId) : Wears s (s.shutdown id) :=
  .modifyEnd s _ (fun _ h => h) fun _ _ => rfl

theorem wears_hangUp (s : SocketSystem) (id : StreamId) : Wears s (s.hangUp id) :=
  (wears_shutdown s id).trans (wears_close ..)

theorem unread_close (s : SocketSystem) (id id' : StreamId) :
    (s.close id).unread id' = s.unread id' :=
  s.unread_modifyEnd_of_incoming _ _ _ fun _ => rfl

theorem unread_shutdown (s : SocketSystem) (id id' : StreamId) :
    (s.shutdown id).unread id' = s.unread id' :=
  s.unread_modifyEnd_of_incoming _ _ _ fun _ => rfl

theorem unread_hangUp (s : SocketSystem) (id id' : StreamId) :
    (s.hangUp id).unread id' = s.unread id' := by
  rw [hangUp, unread_close, unread_shutdown]

@[simp] theorem size_close (s : SocketSystem) (id : StreamId) :
    (s.close id).ends.size = s.ends.size :=
  s.size_modifyEnd _ _

@[simp] theorem size_hangUp (s : SocketSystem) (id : StreamId) :
    (s.hangUp id).ends.size = s.ends.size := by
  simp [hangUp, shutdown]

@[simp] theorem waitingAt_hangUp (s : SocketSystem) (id : StreamId) :
    (s.hangUp id).waitingAt = s.waitingAt := rfl

theorem isShut_close (s : SocketSystem) (id id' : StreamId) :
    (s.close id).isShut id' = s.isShut id' :=
  s.isShut_modifyEnd _ _ _ fun _ => rfl

@[simp] theorem isShut_hangUp (s : SocketSystem) (id : StreamId) :
    (s.hangUp id).isShut id = true := by
  rw [hangUp, isShut_close, isShut, shutdown, getElem?_modifyEnd, if_pos rfl]
  cases s.ends[id]? <;> rfl

theorem isShut_hangUp_of_ne {id' : StreamId} (h : id ≠ id') :
    (s.hangUp id).isShut id' = s.isShut id' := by
  rw [hangUp, isShut_close]
  exact s.isShut_modifyEnd_of_ne _ _ _ h

theorem waitingAt_modifyListener (s : SocketSystem) (listener l : ListenerId)
    (f : Listener → Listener) :
    (s.modifyListener listener f).waitingAt l =
      if listener = l then (s.listeners[l]?.map fun e => (f e).waiting).getD []
      else s.waitingAt l := by
  rw [waitingAt, modifyListener, Array.getElem?_modify]
  split
  · rw [Option.map_map]
    rfl
  · rfl

theorem accept?_eq_some {listener : ListenerId} (h : s.accept? listener = (some id, s')) :
    s'.ends = s.ends ∧ s.waitingAt listener = id :: s'.waitingAt listener := by
  unfold accept? at h
  split at h
  · cases h
  · rename_i l hl
    split at h
    · cases h
    · rename_i first waiting hwaiting
      cases h
      refine ⟨rfl, ?_⟩
      rw [waitingAt_modifyListener, if_pos rfl, waitingAt, hl]
      exact hwaiting

theorem accept?_eq_none {listener : ListenerId} (h : s.accept? listener = (none, s')) :
    s' = s := by
  unfold accept? at h
  split at h
  · cases h
    rfl
  · split at h <;> cases h
    rfl

theorem waitingAt_of_accept?_none {listener : ListenerId}
    (h : s.accept? listener = (none, s')) : s.waitingAt listener = [] := by
  unfold accept? at h
  rw [waitingAt]
  split at h
  · rename_i hnone
    rw [hnone]
    rfl
  · rename_i l hl
    split at h
    · rename_i hwaiting
      rw [hl]
      exact hwaiting
    · cases h

structure ReadAt (id : StreamId) (s s' : SocketSystem) : Prop where
  size_eq : s'.ends.size = s.ends.size
  waitingAt_eq : s'.waitingAt = s.waitingAt
  wears : Wears s s'
  unread_eq : ∀ id', id ≠ id' → s'.unread id' = s.unread id'
  isShut_eq : ∀ id', s'.isShut id' = s.isShut id'

theorem ReadAt.refl (id : StreamId) (s : SocketSystem) : ReadAt id s s :=
  ⟨rfl, rfl, .refl s, fun _ _ => rfl, fun _ => rfl⟩

theorem ReadAt.trans {s'' : SocketSystem} (h : ReadAt id s s') (h' : ReadAt id s' s'') :
    ReadAt id s s'' where
  size_eq := h'.size_eq.trans h.size_eq
  waitingAt_eq := h'.waitingAt_eq.trans h.waitingAt_eq
  wears := h.wears.trans h'.wears
  unread_eq id' hne := (h'.unread_eq id' hne).trans (h.unread_eq id' hne)
  isShut_eq id' := (h'.isShut_eq id').trans (h.isShut_eq id')

theorem readAt_read (n : Nat) (s : SocketSystem) (id : StreamId) :
    ReadAt id s (s.read n id).2 := by
  unfold read
  split
  · exact .refl id s
  · split
    · exact .refl id s
    · exact ⟨s.size_modifyEnd _ _, rfl, .modifyEnd s _ (fun _ h => h) fun _ h => h,
        fun id' hne => s.unread_modifyEnd_of_ne _ _ _ hne,
        fun id' => s.isShut_modifyEnd _ _ _ fun _ => rfl⟩

theorem unread_read (n : Nat) (s : SocketSystem) (id : StreamId) :
    (s.read n id).1.toOption.getD [] ++ (s.read n id).2.unread id = s.unread id := by
  unfold read
  split
  · rfl
  · rename_i e he
    split
    · split <;> rfl
    · obtain ⟨htaken, hleft⟩ := e.incoming.splitAt_eq n
      simp [Except.toOption, unread, getElem?_modifyEnd, he, htaken, hleft]

theorem read_error {n : Nat} {e : IoError} (hlt : id < s.ends.size)
    (h : s.read n id = (.error e, s')) :
    e = .wouldBlock ∧ s' = s ∧ s.unread id = [] ∧ s.isSevered id = false := by
  simp only [read, Array.getElem?_eq_getElem hlt] at h
  split at h
  · rename_i hempty
    have hnothing : s.unread id = [] := by
      rw [unread, Array.getElem?_eq_getElem hlt]
      exact s.ends[id].incoming.isEmpty_iff.mp hempty
    split at h
    · cases h
    · rename_i hopen
      cases h
      exact ⟨rfl, rfl, hnothing, Bool.eq_false_iff.mpr hopen⟩
  · cases h

theorem read_nil {n : Nat} (hn : 0 < n) (h : (s.read n id).1 = .ok []) :
    s.unread id = [] ∧ s.isSevered id = true := by
  unfold read at h
  split at h
  · cases h
  · rename_i e he
    rw [unread, he]
    split at h
    · rename_i hempty
      dsimp only at h
      split at h
      · exact ⟨e.incoming.isEmpty_iff.mp hempty, ‹_›⟩
      · cases h
    · rename_i hsome
      have htaken := Except.ok.inj h
      rw [(e.incoming.splitAt_eq n).1, List.take_eq_nil_iff] at htaken
      obtain rfl | hnil := htaken
      · exact absurd hn (Nat.lt_irrefl 0)
      · exact absurd (e.incoming.isEmpty_iff.mpr hnil) hsome

end SocketSystem

end ModuleProxy
