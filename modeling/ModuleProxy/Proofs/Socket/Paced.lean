import ModuleProxy.Proofs.Socket.Shown
import ModuleProxy.Proofs.Socket.Flowing

/-!
Sockets among peers that act at any time, also while a call waits: they come, write and go before
each call of the system, and a read may be put off or give less than there is. What is written at an
end arrives in order at its peer, and the end of the stream after it.
-/

namespace ModuleProxy

open SocketSystem

structure Delay where
  error : IoError
  passing : error.kind = .interrupted ∨ SocketChannel.isTimeout error = true

/-- What peers do before a call of the system; and for a read, whether it is put off, and how many
bytes more than one it may give. -/
structure Turn where
  moves : List PeerMove := []
  delay : Option Delay := none
  share : Option Nat := none

def Turn.most (turn : Turn) (n : Nat) : Nat :=
  match turn.share with
  | none => n
  | some more => min n (more + 1)

theorem Turn.most_pos (turn : Turn) {n : Nat} (h : 0 < n) : 0 < turn.most n := by
  unfold most
  split <;> omega

structure Paced where
  street : Street
  turns : List Turn := []

namespace Paced

def tick (w : Paced) : Turn × Paced :=
  match w.turns with
  | [] => ({}, w)
  | turn :: turns => (turn, ⟨turn.moves.foldl Street.move w.street, turns⟩)

def withSystem (w : Paced) (system : SocketSystem) : Paced :=
  { w with street := { w.street with system } }

theorem tick_still {w : Paced} (h : w.turns = []) : w.tick = ({}, w) := by
  rw [tick, h]

theorem turns_tick {w : Paced} (h : w.turns = []) : w.tick.2.turns = [] := by
  rw [tick_still h]
  exact h

theorem turns_lt_of_delay {w : Paced} {d : Delay} (h : w.tick.1.delay = some d) :
    w.tick.2.turns.length < w.turns.length := by
  unfold tick at h ⊢
  split
  · rename_i hturns
    rw [hturns] at h
    cases h
  · rename_i hturns
    simp [hturns]

def read (id : StreamId) (n : Nat) (w : Paced) : Except IoError Bytes × Paced :=
  match w.tick.1.delay with
  | some d => (.error d.error, w.tick.2)
  | none =>
    let given := w.tick.2.street.system.read (w.tick.1.most n) id
    (given.1, w.tick.2.withSystem given.2)

theorem patience_lt_of_read {id : StreamId} {n : Nat} {w : Paced} {e : IoError}
    (h : (w.read id n).1 = .error e) (hi : e.kind = .interrupted) :
    (w.read id n).2.turns.length < w.turns.length := by
  unfold read at h ⊢
  cases hdelay : w.tick.1.delay with
  | some d => exact turns_lt_of_delay hdelay
  | none =>
    rw [hdelay] at h
    exact absurd hi (kind_ne_interrupted_of_read h)

instance : Sockets Paced where
  accept listener w := (Sockets.accept listener w.tick.2.street.system).map id w.tick.2.withSystem
  ready limits stream w :=
    (Sockets.ready limits stream w.tick.2.street.system).map id w.tick.2.withSystem
  bound _ w := (.ok (), w.tick.2)
  read := read
  write stream bytes w :=
    (Sockets.write stream bytes w.tick.2.street.system).map id w.tick.2.withSystem
  flush _ w := (.ok (), w.tick.2)
  hangUp stream w := w.withSystem (w.street.system.hangUp stream)
  closeListener listener w := w.withSystem (w.street.system.closeListener listener)
  patience _ w := w.turns.length
  read_patience_lt := patience_lt_of_read
  write_patience_lt {stream bytes w e} h ht := by
    have hlasting : e.isTransient = false :=
      isTransient_of_write (s := w.tick.2.street.system) h
    simp [hlasting] at ht
  flush_patience_lt h := by cases h

theorem shows_still (sent : StreamId → Bytes) :
    Shows fun s : SocketSystem => ({ street := ⟨s, sent⟩ } : Paced) where
  accept _ _ := rfl
  ready _ _ _ := rfl
  bound _ _ := rfl
  read _ _ _ := rfl
  write _ _ _ := rfl
  flush _ _ := rfl
  hangUp _ _ := rfl
  closeListener _ _ := rfl

open Street

variable {came : List StreamId} {l : ListenerId} {taken : List StreamId} {id : StreamId}
  {got : Bytes} {w w' : Paced}

theorem passes_tick (w : Paced) : Passes w.street w.tick.2.street := by
  unfold tick
  split
  · exact .refl _
  · exact passes_moves ..

theorem accept_cases (hflow : Flowing came l taken w.street) :
    ∃ w', (w.turns = [] → w'.turns = []) ∧ Goes w.street w'.street ∧
      ((Sockets.accept l w = (.ok none, w') ∧ Flowing came l taken w'.street ∧
        (w.turns = [] → w'.street = w.street ∧ w.street.system.waitingAt l = [])) ∨
      ∃ id, Sockets.accept l w = (.ok (some id), w') ∧ Flowing came l (taken ++ [id]) w'.street ∧
        Drawn w'.street id [] ∧
        (w.turns = [] → (w.street.system.waitingAt l).head? = some id)) := by
  have hpass := w.passes_tick
  have hnow := hpass.flowing hflow
  have hform : Sockets.accept l w = (.ok (w.tick.2.street.system.accept? l).1,
      w.tick.2.withSystem (w.tick.2.street.system.accept? l).2) := rfl
  have hstill : w.turns = [] → w.tick.2.street = w.street := fun h => by rw [tick_still h]
  rcases haccept : w.tick.2.street.system.accept? l with ⟨_ | id, s⟩ <;> rw [haccept] at hform
  · rw [accept?_eq_none haccept] at hform
    refine ⟨w.tick.2, turns_tick, hpass.goes, .inl ⟨hform, hnow, fun h => ?_⟩⟩
    have hnobody := waitingAt_of_accept?_none haccept
    rw [hstill h] at hnobody
    exact ⟨hstill h, hnobody⟩
  · obtain ⟨htaken, hdrawn, hgoes⟩ := hnow.accept haccept
    refine ⟨w.tick.2.withSystem s, turns_tick, hpass.goes.trans hgoes,
      .inr ⟨id, hform, htaken, hdrawn, fun h => ?_⟩⟩
    rw [← hstill h, (accept?_eq_some haccept).2]
    rfl

theorem ready_cases (limits : FrameLimits) (hflow : Flowing came l taken w.street)
    (hid : id ∈ taken) (hdrawn : Drawn w.street id got) :
    ∃ w', (w.turns = [] → w'.turns = []) ∧ Flowing came l taken w'.street ∧
      Goes w.street w'.street ∧
      ((∃ e, Sockets.ready limits id w = (.error (.stream (.io e)), w') ∧
        checkTimeouts limits = .error e) ∨
      Sockets.ready limits id w = (.ok (), w') ∧ Drawn w'.street id got) := by
  have hpass := w.passes_tick
  have hnow := hpass.flowing hflow
  obtain ⟨hfar, hlt⟩ := hflow.far id (List.mem_append_left _ hid)
  cases htimes : checkTimeouts limits with
  | error e =>
    obtain ⟨hrefused, hgoes⟩ := hnow.refuse id
    refine ⟨w.tick.2.withSystem (w.tick.2.street.system.close id), turns_tick, hrefused,
      hpass.goes.trans hgoes, .inl ⟨e, ?_, rfl⟩⟩
    simp only [Sockets.ready, htimes]
    rfl
  | ok _ =>
    refine ⟨w.tick.2, turns_tick, hnow, hpass.goes, .inr ⟨?_, hpass.drawn hfar hlt hdrawn⟩⟩
    simp only [Sockets.ready, htimes]
    rfl

theorem read_cases (hflow : Flowing came l taken w.street) (hid : id ∈ taken)
    (hdrawn : Drawn w.street id got) :
    ∃ w', (w.turns = [] → w'.turns = []) ∧ Flowing came l taken w'.street ∧
      Goes w.street w'.street ∧
      ((∃ e, ByteSource.read FrameReader.readSize (OpenStream.mk id w) = (.error e, ⟨id, w'⟩) ∧
        Drawn w'.street id got ∧
        (e.kind = .interrupted ∨ SocketChannel.isTimeout e = true) ∧
        (w.turns = [] → w'.street.system.unread id = [] ∧ ¬w'.street.system.IsLeft id)) ∨
      ∃ piece, ByteSource.read FrameReader.readSize (OpenStream.mk id w) = (.ok piece, ⟨id, w'⟩) ∧
        Drawn w'.street id (got ++ piece) ∧
        (piece = [] → w'.street.system.unread id = [] ∧ w'.street.system.IsLeft id)) := by
  have hpass := w.passes_tick
  have hnow := hpass.flowing hflow
  obtain ⟨hfar, hlt⟩ := hnow.far id (List.mem_append_left _ hid)
  have hdrawn' : Drawn w.tick.2.street id got := by
    obtain ⟨hfar, hlt⟩ := hflow.far id (List.mem_append_left _ hid)
    exact hpass.drawn hfar hlt hdrawn
  have hline : ByteSource.read FrameReader.readSize (OpenStream.mk id w) =
      ((w.read id FrameReader.readSize).1, ⟨id, (w.read id FrameReader.readSize).2⟩) := rfl
  rw [hline, read]
  cases hdelay : w.tick.1.delay with
  | some d =>
    refine ⟨w.tick.2, turns_tick, hnow, hpass.goes, .inl ⟨d.error, rfl, hdrawn', d.passing, ?_⟩⟩
    intro hturns
    rw [tick, hturns] at hdelay
    cases hdelay
  | none =>
    generalize hn : w.tick.1.most FrameReader.readSize = n
    have hpos : 0 < n := hn ▸ w.tick.1.most_pos (by decide)
    obtain ⟨hread, hdrawn'', hgoes⟩ := hnow.read hid hdrawn' n
    have hunread := unread_read n w.tick.2.street.system id
    rcases hgiven : w.tick.2.street.system.read n id with ⟨e | piece, s⟩ <;>
      rw [hgiven] at hread hdrawn'' hgoes hunread <;>
      refine ⟨w.tick.2.withSystem s, turns_tick, hread, hpass.goes.trans hgoes, ?_⟩
    · obtain ⟨rfl, rfl, hnothing, hopen⟩ := read_error hlt hgiven
      refine .inl ⟨_, rfl, hdrawn', .inr (by decide), fun _ => ⟨hnothing, fun hleft => ?_⟩⟩
      rw [hdrawn'.isSevered_iff.mpr hleft] at hopen
      cases hopen
    · refine .inr ⟨piece, rfl, hdrawn'', ?_⟩
      rintro rfl
      obtain ⟨hnothing, hsevered⟩ := read_nil hpos (congrArg Prod.fst hgiven)
      refine ⟨hunread.trans hnothing, ?_⟩
      exact hgoes.wears.isLeft (peer_lt hfar hlt) (hdrawn'.isSevered_iff.mp hsevered)

theorem read_put_off (hflow : Flowing came l taken w.street) (hid : id ∈ taken)
    (hdrawn : Drawn w.street id got) {e : IoError} {line : OpenStream Paced}
    (h : ByteSource.read FrameReader.readSize (OpenStream.mk id w) = (.error e, line)) :
    ∃ w', line = ⟨id, w'⟩ ∧ (w.turns = [] → w'.turns = []) ∧ Flowing came l taken w'.street ∧
      Goes w.street w'.street ∧ Drawn w'.street id got ∧
      (e.kind = .interrupted ∨ SocketChannel.isTimeout e = true) ∧
      (w.turns = [] → w'.street.system.unread id = [] ∧ ¬w'.street.system.IsLeft id) := by
  obtain ⟨w', hturns, hflow', hgoes, hcases⟩ := read_cases hflow hid hdrawn
  obtain ⟨e', hfail, hrest⟩ | ⟨piece, hgiven, -⟩ := hcases
  · cases h.symm.trans hfail
    exact ⟨w', rfl, hturns, hflow', hgoes, hrest⟩
  · cases h.symm.trans hgiven

theorem read_given (hflow : Flowing came l taken w.street) (hid : id ∈ taken)
    (hdrawn : Drawn w.street id got) {piece : Bytes} {line : OpenStream Paced}
    (h : ByteSource.read FrameReader.readSize (OpenStream.mk id w) = (.ok piece, line)) :
    ∃ w', line = ⟨id, w'⟩ ∧ (w.turns = [] → w'.turns = []) ∧ Flowing came l taken w'.street ∧
      Goes w.street w'.street ∧ Drawn w'.street id (got ++ piece) ∧
      (piece = [] → w'.street.system.unread id = [] ∧ w'.street.system.IsLeft id) := by
  obtain ⟨w', hturns, hflow', hgoes, hcases⟩ := read_cases hflow hid hdrawn
  obtain ⟨e, hfail, -⟩ | ⟨piece', hgiven, hrest⟩ := hcases
  · cases h.symm.trans hfail
  · cases h.symm.trans hgiven
    exact ⟨w', rfl, hturns, hflow', hgoes, hrest⟩

end Paced

end ModuleProxy
