import Mathlib.Logic.Function.Basic
import ModuleProxy.Proofs.Socket.Connections

namespace ModuleProxy

open SocketSystem

inductive PeerMove where
  | connect (path : String)
  | write (id : StreamId) (bytes : Bytes)
  | shutdown (id : StreamId)
  | close (id : StreamId)

structure Street where
  system : SocketSystem
  sent : StreamId → Bytes

def SocketSystem.IsHeld (s : SocketSystem) (id : StreamId) : Prop :=
  IsNear id ∧ 0 < s.holders id

instance (s : SocketSystem) (id : StreamId) : Decidable (s.IsHeld id) :=
  inferInstanceAs (Decidable (_ ∧ _))

namespace Street

def write (x : Street) (id : StreamId) (bytes : Bytes) : Street :=
  match x.system.write bytes id with
  | (.error _, system) => { x with system }
  | (.ok _, system) =>
    ⟨system, Function.update x.sent (peer id) (x.sent (peer id) ++ bytes)⟩

def move (x : Street) : PeerMove → Street
  | .connect path => { x with system := (x.system.connect path).2 }
  | .write id bytes => if x.system.IsHeld id then x.write id bytes else x
  | .shutdown id => if x.system.IsHeld id then { x with system := x.system.shutdown id } else x
  | .close id => if x.system.IsHeld id then { x with system := x.system.close id } else x

/-- The far ends that were taken at a listener, and those that wait there: they came in this order,
these among them, and of what was sent to those that were not taken nothing has been read. -/
structure Flowing (came : List StreamId) (l : ListenerId) (taken : List StreamId) (x : Street) :
    Prop where
  came_sub : came ⊆ taken ++ x.system.waitingAt l
  paired : x.system.ends.size % 2 = 0
  ordered : (taken ++ x.system.waitingAt l).Pairwise (· < ·)
  far : ∀ id ∈ taken ++ x.system.waitingAt l, ¬IsNear id ∧ id < x.system.ends.size
  fresh : ∀ id, ¬IsNear id → id ∉ taken → x.sent id = x.system.unread id
  unshut : ∀ id ∈ x.system.waitingAt l, x.system.isShut id = false

structure Drawn (x : Street) (id : StreamId) (got : Bytes) : Prop where
  sent_eq : x.sent id = got ++ x.system.unread id
  unshut : x.system.isShut id = false

theorem Drawn.isSevered_iff {x : Street} {id : StreamId} {got : Bytes} (h : Drawn x id got) :
    x.system.isSevered id = true ↔ x.system.IsLeft id := by
  rw [SocketSystem.isSevered_iff, h.unshut]
  simp

structure Goes (x x' : Street) : Prop where
  wears : Wears x.system x'.system
  frozen : ∀ id, ¬IsNear id → id < x.system.ends.size → x.system.isShut id = true →
    x'.sent id = x.sent id

theorem Goes.refl (x : Street) : Goes x x :=
  ⟨.refl _, fun _ _ _ _ => rfl⟩

theorem Goes.isShut {x x' : Street} (h : Goes x x') {id : StreamId} (hlt : id < x.system.ends.size)
    (hshut : x.system.isShut id = true) :
    id < x'.system.ends.size ∧ x'.system.isShut id = true :=
  ⟨h.wears.shut.lt_size hlt, h.wears.isShut hlt hshut⟩

theorem Goes.trans {x x' x'' : Street} (h : Goes x x') (h' : Goes x' x'') : Goes x x'' := by
  refine ⟨h.wears.trans h'.wears, fun id hfar hlt hshut => ?_⟩
  obtain ⟨hlt', hshut'⟩ := h.isShut hlt hshut
  exact (h'.frozen id hfar hlt' hshut').trans (h.frozen id hfar hlt hshut)

structure Passes (x x' : Street) : Prop where
  goes : Goes x x'
  flowing : ∀ {came l taken}, Flowing came l taken x → Flowing came l taken x'
  drawn : ∀ {id got}, ¬IsNear id → id < x.system.ends.size → Drawn x id got → Drawn x' id got

theorem Passes.refl (x : Street) : Passes x x :=
  ⟨.refl x, id, fun _ _ => id⟩

theorem Passes.trans {x x' x'' : Street} (h : Passes x x') (h' : Passes x' x'') :
    Passes x x'' where
  goes := h.goes.trans h'.goes
  flowing hx := h'.flowing (h.flowing hx)
  drawn hfar hlt hx :=
    h'.drawn hfar (h.goes.wears.held.lt_size hlt) (h.drawn hfar hlt hx)

theorem waitingAt_connected (s : SocketSystem) (listener l : ListenerId) :
    let s' := s.pair.2.modifyListener listener fun e =>
      { e with waiting := e.waiting ++ [s.ends.size + 1] }
    s'.waitingAt l = s.waitingAt l ∨ s'.waitingAt l = s.waitingAt l ++ [s.ends.size + 1] := by
  intro s'
  rw [waitingAt_modifyListener]
  split
  · simp only [waitingAt, pair]
    cases s.listeners[l]? with
    | none => exact .inl rfl
    | some e => exact .inr rfl
  · exact .inl rfl

theorem passes_connected (x : Street) (listener : ListenerId) :
    Passes x { x with
      system := x.system.pair.2.modifyListener listener fun e =>
        { e with waiting := e.waiting ++ [x.system.ends.size + 1] } } := by
  have hsize : x.system.pair.2.ends.size = x.system.ends.size + 2 := by simp [pair]
  have hshut : ∀ id < x.system.ends.size, x.system.isShut id = false →
      x.system.pair.2.isShut id = false := fun id hlt hopen => isShut_pair (.inl ⟨hlt, hopen⟩)
  constructor
  case goes => exact ⟨⟨(wears_pair _).held, (wears_pair _).shut⟩, fun _ _ _ _ => rfl⟩
  case drawn =>
    intro id got _ hlt hx
    refine ⟨?_, hshut id hlt hx.unshut⟩
    exact hx.sent_eq.trans (congrArg (got ++ ·) (unread_pair x.system id).symm)
  case flowing =>
    intro came l taken hx
    have hpaired := hx.paired
    have hnew : ¬IsNear (x.system.ends.size + 1) := by
      rw [IsNear]
      omega
    have hfresh : ∀ id, ¬IsNear id → id ∉ taken → x.sent id = x.system.pair.2.unread id :=
      fun id hfar hid => (hx.fresh id hfar hid).trans (unread_pair x.system id).symm
    have hold : ∀ id ∈ x.system.waitingAt l, x.system.pair.2.isShut id = false :=
      fun id hid => hshut id (hx.far id (List.mem_append_right _ hid)).2 (hx.unshut id hid)
    obtain hsame | hlast := waitingAt_connected x.system listener l
    · refine ⟨hsame ▸ hx.came_sub, ?_, hsame ▸ hx.ordered, ?_, hfresh, hsame ▸ hold⟩
      · exact (congrArg (· % 2) hsize).trans (by omega)
      · intro id hid
        rw [hsame] at hid
        exact ⟨(hx.far id hid).1, hsize ▸ Nat.lt_add_right 2 (hx.far id hid).2⟩
    · refine ⟨?_, ?_, ?_, ?_, hfresh, ?_⟩
      · rw [hlast, ← List.append_assoc]
        exact List.subset_append_of_subset_left _ hx.came_sub
      · exact (congrArg (· % 2) hsize).trans (by omega)
      · rw [hlast, ← List.append_assoc, List.pairwise_append]
        refine ⟨hx.ordered, List.pairwise_singleton _ _, ?_⟩
        intro id hid id' hid'
        rw [List.mem_singleton.mp hid']
        exact Nat.lt_succ_of_lt (hx.far id hid).2
      · intro id hid
        rw [hlast, ← List.append_assoc, List.mem_append, List.mem_singleton] at hid
        obtain hid | rfl := hid
        · exact ⟨(hx.far id hid).1, hsize ▸ Nat.lt_add_right 2 (hx.far id hid).2⟩
        · exact ⟨hnew, hsize ▸ Nat.lt_succ_self _⟩
      · intro id hid
        rw [hlast, List.mem_append, List.mem_singleton] at hid
        obtain hid | rfl := hid
        · exact hold id hid
        · exact isShut_pair (.inr rfl)

theorem passes_connect (x : Street) (path : String) : Passes x (x.move (.connect path)) := by
  rw [move]
  obtain hsame | ⟨listener, hconnected⟩ := x.system.connect_eq path
  · rw [hsame]
    exact .refl x
  · rw [hconnected]
    exact x.passes_connected listener

theorem passes_arrive (x : Street) {id : StreamId} (bytes : Bytes)
    (hlt : peer id < x.system.ends.size) (hopen : x.system.isShut (peer id) = false) :
    Passes x ⟨x.system.arrive bytes id,
      Function.update x.sent (peer id) (x.sent (peer id) ++ bytes)⟩ := by
  -- what is read at an end is sent to it, and both grow by the same
  have hsent : ∀ {id' got}, x.sent id' = got ++ x.system.unread id' →
      Function.update x.sent (peer id) (x.sent (peer id) ++ bytes) id' =
        got ++ (x.system.arrive bytes id).unread id' := by
    intro id' got hsent
    by_cases heq : id' = peer id
    · subst heq
      rw [Function.update_self, unread_arrive hlt, if_pos rfl, hsent, List.append_assoc]
    · rw [Function.update_of_ne heq, unread_arrive_of_ne (Ne.symm heq), hsent]
  constructor
  case goes =>
    refine ⟨wears_arrive .., fun id' _ _ hshut => Function.update_of_ne ?_ _ _⟩
    rintro rfl
    rw [hopen] at hshut
    cases hshut
  case drawn =>
    intro id' got _ _ hx
    exact ⟨hsent hx.sent_eq, (isShut_arrive ..).trans hx.unshut⟩
  case flowing =>
    intro came l taken hx
    have hwaiting : (x.system.arrive bytes id).waitingAt = x.system.waitingAt :=
      waitingAt_arrive ..
    refine ⟨hwaiting ▸ hx.came_sub, ?_, hwaiting ▸ hx.ordered, ?_, ?_, ?_⟩
    · rw [size_arrive]
      exact hx.paired
    · rw [hwaiting, size_arrive]
      exact hx.far
    · exact fun id' hfar hid => @hsent id' [] (hx.fresh id' hfar hid)
    · rw [hwaiting]
      exact fun id' hid => (isShut_arrive ..).trans (hx.unshut id' hid)

theorem passes_write (x : Street) (id : StreamId) (bytes : Bytes) :
    Passes x (x.write id bytes) := by
  by_cases hnil : bytes = []
  · have hsame : x.write id bytes = x := by
      simp [write, hnil, SocketSystem.write]
    rw [hsame]
    exact .refl x
  · cases hsevered : x.system.isSevered id with
    | true =>
      rw [write, write_of_severed hnil hsevered]
      exact .refl x
    | false =>
      rw [write, write_of_open hnil hsevered]
      have hopen : x.system.holders (peer id) ≠ 0 ∧ x.system.isShut (peer id) = false := by
        simp only [isSevered, Bool.or_eq_false_iff, beq_eq_false_iff_ne] at hsevered
        exact ⟨hsevered.1.1, hsevered.2⟩
      refine x.passes_arrive bytes ?_ hopen.2
      apply Decidable.byContradiction
      intro hge
      rw [holders, Array.getElem?_eq_none (Nat.le_of_not_lt hge)] at hopen
      exact hopen.1 rfl

theorem passes_leave (x : Street) {id : StreamId} {f : StreamEnd → StreamEnd} (hnear : IsNear id)
    (hincoming : ∀ e, (f e).incoming = e.incoming)
    (hwears : Wears x.system (x.system.modifyEnd id f)) :
    Passes x { x with system := x.system.modifyEnd id f } := by
  have hunread : ∀ id', x.system.unread id' = (x.system.modifyEnd id f).unread id' :=
    fun id' => (x.system.unread_modifyEnd_of_incoming id id' f hincoming).symm
  have hshut : ∀ {id'}, ¬IsNear id' → x.system.isShut id' = false →
      (x.system.modifyEnd id f).isShut id' = false := by
    intro id' hfar hopen
    rw [isShut_modifyEnd_of_ne, hopen]
    rintro rfl
    exact hfar hnear
  constructor
  case goes => exact ⟨hwears, fun _ _ _ _ => rfl⟩
  case drawn =>
    intro id' got hfar _ hx
    exact ⟨hx.sent_eq.trans (congrArg (got ++ ·) (hunread id')), hshut hfar hx.unshut⟩
  case flowing =>
    intro came l taken hx
    refine ⟨hx.came_sub, (congrArg (· % 2) (size_modifyEnd ..)).trans hx.paired, hx.ordered, ?_, ?_,
      ?_⟩
    · intro id' hid
      exact ⟨(hx.far id' hid).1, (size_modifyEnd ..).symm ▸ (hx.far id' hid).2⟩
    · exact fun id' hfar hid => (hx.fresh id' hfar hid).trans (hunread id')
    · exact fun id' hid => hshut (hx.far id' (List.mem_append_right _ hid)).1 (hx.unshut id' hid)

theorem passes_move (x : Street) (m : PeerMove) : Passes x (x.move m) := by
  cases m with
  | connect path => exact x.passes_connect path
  | write id bytes =>
    rw [move]
    split
    · exact x.passes_write id bytes
    · exact .refl x
  | shutdown id =>
    rw [move]
    split
    · exact x.passes_leave (And.left ‹_›) (fun _ => rfl) (wears_shutdown ..)
    · exact .refl x
  | close id =>
    rw [move]
    split
    · exact x.passes_leave (And.left ‹_›) (fun _ => rfl) (wears_close ..)
    · exact .refl x

theorem passes_moves (moves : List PeerMove) (x : Street) : Passes x (moves.foldl move x) := by
  induction moves generalizing x with
  | nil => exact .refl x
  | cons m moves ih => exact (x.passes_move m).trans (ih _)

end Street

end ModuleProxy
