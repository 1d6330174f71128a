import ModuleProxy.Proofs.Socket.Streams

namespace ModuleProxy

namespace SocketSystem

variable {s : SocketSystem} {id : StreamId}

theorem unread_duplicate (s : SocketSystem) (id id' : StreamId) :
    (s.duplicate id).unread id' = s.unread id' :=
  s.unread_modifyEnd_of_incoming _ _ _ fun _ => rfl

theorem write_eq (s : SocketSystem) (bytes : Bytes) (id : StreamId) :
    (s.write bytes id).2 = s ∨ (s.write bytes id).2 = s.arrive bytes id := by
  by_cases hnil : bytes = []
  · exact .inl (by simp [write, hnil])
  · cases hsevered : s.isSevered id with
    | true => exact .inl (by rw [write_of_severed hnil hsevered])
    | false => exact .inr (by rw [write_of_open hnil hsevered])

theorem foldl_close (ids : List StreamId) (s : SocketSystem) :
    (ids.foldl close s).ends.size = s.ends.size ∧ Wears s (ids.foldl close s) ∧
      ∀ id, (ids.foldl close s).unread id = s.unread id := by
  induction ids generalizing s with
  | nil => exact ⟨rfl, .refl s, fun _ => rfl⟩
  | cons first ids ih =>
    obtain ⟨hsize, hwears, hunread⟩ := ih (s.close first)
    exact ⟨hsize.trans (s.size_close first), (wears_close s first).trans hwears,
      fun id => (hunread id).trans (s.unread_close first id)⟩

theorem closeListener_ends (s : SocketSystem) (listener : ListenerId) :
    (s.closeListener listener).ends.size = s.ends.size ∧ Wears s (s.closeListener listener) ∧
      ∀ id, (s.closeListener listener).unread id = s.unread id := by
  unfold closeListener
  split
  · exact ⟨rfl, .refl s, fun _ => rfl⟩
  · split
    · exact ⟨rfl, .refl s, fun _ => rfl⟩
    · rename_i l _ _
      dsimp only
      generalize (if s.ownsPath listener l = true then _ else s.files : FileTree) = files
      obtain ⟨hsize, hwears, hunread⟩ := foldl_close l.waiting { s with files }
      exact ⟨hsize, ⟨hwears.held, hwears.shut⟩, hunread⟩

theorem unread_pair (s : SocketSystem) (id : StreamId) : s.pair.2.unread id = s.unread id := by
  simp only [unread, pair]
  obtain hlt | hge := Nat.lt_or_ge id s.ends.size
  · rw [Array.getElem?_append_left hlt]
  · rw [Array.getElem?_append_right hge, Array.getElem?_eq_none hge]
    rcases id - s.ends.size with _ | _ | _ <;> rfl

theorem wears_pair (s : SocketSystem) : Wears s s.pair.2 :=
  ⟨.append _ _, .append _ _⟩

theorem isShut_pair {s : SocketSystem} {id : StreamId}
    (h : id < s.ends.size ∧ s.isShut id = false ∨ id = s.ends.size + 1) :
    s.pair.2.isShut id = false := by
  obtain ⟨hlt, hopen⟩ | rfl := h
  · rwa [isShut, pair, Array.getElem?_append_left hlt]
  · simp [isShut, pair]

theorem connect_eq (s : SocketSystem) (path : String) :
    (s.connect path).2 = s ∨ ∃ listener, (s.connect path).2 =
      s.pair.2.modifyListener listener fun l =>
        { l with waiting := l.waiting ++ [s.ends.size + 1] } := by
  unfold connect
  split
  · exact .inl rfl
  · exact .inr ⟨_, rfl⟩

theorem wears_duplicate (h : 0 < s.holders id) : Wears s (s.duplicate id) := by
  refine ⟨?_, .modify _ _ fun _ hshut => hshut⟩
  intro i e he
  rw [duplicate, getElem?_modifyEnd, he]
  split
  · rename_i heq
    subst heq
    rw [holders, he] at h
    exact ⟨_, rfl, fun hnone => absurd h (Nat.not_lt.mpr (Nat.le_of_eq hnone))⟩
  · exact ⟨e, rfl, fun h => h⟩

end SocketSystem

end ModuleProxy
