import ModuleProxy.Proofs.Socket.Traces

namespace ModuleProxy

open scoped List

variable {ω : Type}

structure Visit where
  stream : StreamId
  pieces : List Bytes := []
  frames : List Bytes := []
  cut : Option (Bytes × Bytes) := none

namespace Visit

def events (v : Visit) : List WireEvent :=
  .accepted v.stream :: v.pieces.map (.wrote v.stream)

def tried (v : Visit) : List Bytes :=
  v.frames ++ (v.cut.map fun cut => cut.1 ++ cut.2).toList

theorem frames_sublist_tried (visits : List Visit) :
    visits.flatMap frames <+ visits.flatMap tried := by
  induction visits with
  | nil => exact .refl _
  | cons v visits ih => exact (List.sublist_append_left ..).append ih

structure Sound (v : Visit) : Prop where
  written : v.pieces.flatten = v.frames.flatten ++ (v.cut.map Prod.fst).getD []
  short : ∀ cut ∈ v.cut, cut.2 ≠ []

def write (v : Visit) (pieces : List Bytes) (frame : Bytes) : Visit :=
  let v := { v with pieces := v.pieces ++ pieces }
  if pieces.flatten = frame then { v with frames := v.frames ++ [frame] }
  else { v with cut := some (pieces.flatten, frame.drop pieces.flatten.length) }

variable {v : Visit} {pieces : List Bytes} {frame : Bytes}

theorem stream_write : (v.write pieces frame).stream = v.stream := by
  unfold write
  dsimp only
  split <;> rfl

theorem cut_write (hwhole : pieces.flatten = frame) : (v.write pieces frame).cut = v.cut := by
  unfold write
  rw [if_pos hwhole]

theorem events_write :
    (v.write pieces frame).events = v.events ++ pieces.map (.wrote v.stream) := by
  unfold write
  dsimp only
  split <;> simp [events]

theorem tried_write (hcut : v.cut = none) (hbegins : pieces.flatten <+: frame) :
    (v.write pieces frame).tried = v.tried ++ [frame] := by
  unfold write
  dsimp only
  split
  · simp [tried, hcut]
  · obtain ⟨rest, rfl⟩ := hbegins
    simp [tried, hcut]

theorem Sound.write (h : v.Sound) (hcut : v.cut = none) (hbegins : pieces.flatten <+: frame) :
    (v.write pieces frame).Sound := by
  have hwritten := h.written
  rw [hcut] at hwritten
  unfold Visit.write
  dsimp only
  split
  · rename_i hwhole
    exact ⟨by simp [hwritten, hwhole, hcut], by simp [hcut]⟩
  · rename_i hshort
    obtain ⟨rest, rfl⟩ := hbegins
    refine ⟨by simp [hwritten], ?_⟩
    rintro cut ⟨rfl⟩
    simpa using hshort

end Visit

namespace Traced

variable [Sockets ω] {w w' : Traced ω}

theorem events_accept {listener : ListenerId} {result : Except ProxyError (Option StreamId)}
    (h : Sockets.accept listener w = (result, w')) :
    w'.events = w.events ++ acceptance result := by
  cases h
  rfl

theorem events_ready {limits : FrameLimits} {stream : StreamId} {result : Except ProxyError Unit}
    (h : Sockets.ready limits stream w = (result, w')) : w'.events = w.events := by
  cases h
  rfl

theorem events_bound {stream : StreamId} {result : Except ProxyError Unit}
    (h : Sockets.bound stream w = (result, w')) : w'.events = w.events := by
  cases h
  rfl

end Traced

namespace OpenStream

variable [Sockets ω] {l l' : OpenStream (Traced ω)}

theorem events_read {n : Nat} {result : Except IoError Bytes}
    (h : ByteSource.read n l = (result, l')) :
    l'.id = l.id ∧ l'.system.events = l.system.events := by
  cases h
  exact ⟨rfl, rfl⟩

theorem events_flush {result : Except IoError Unit} (h : ByteSink.flush l = (result, l')) :
    l'.id = l.id ∧ l'.system.events = l.system.events := by
  cases h
  exact ⟨rfl, rfl⟩

theorem events_write {bytes : Bytes} {result : Except IoError Nat}
    (h : ByteSink.write bytes l = (result, l')) :
    l'.id = l.id ∧ l'.system.events = l.system.events ++ Traced.piece l.id bytes result := by
  cases h
  exact ⟨rfl, rfl⟩

end OpenStream

section

variable [Sockets ω]

theorem FrameReader.events_readFrame (r : FrameReader) (l : OpenStream (Traced ω)) :
    (r.readFrame l).2.2.system.events = l.system.events := by
  fun_induction readFrame r l with
  | case1 r l | case2 r l => rfl
  | case3 r l hs e l' hread hi hlt ih => rw [ih, (OpenStream.events_read hread).2]
  | case4 r l hs e l' hread | case5 r l hs l' hread => exact (OpenStream.events_read hread).2
  | case6 r l hs b piece l' hread hlt ih => rw [ih, (OpenStream.events_read hread).2]

theorem FrameWriter.events_flush (l : OpenStream (Traced ω)) :
    (flush l).2.system.events = l.system.events := by
  fun_induction flush l with
  | case1 l l' h => exact (OpenStream.events_flush h).2
  | case2 l e l' h he hlt ih => rw [ih, (OpenStream.events_flush h).2]
  | case3 l e l' h he => exact (OpenStream.events_flush h).2

theorem FrameWriter.events_writeAll (bytes : Bytes) (l : OpenStream (Traced ω)) :
    ∃ pieces : List Bytes,
      (writeAll bytes l).2.system.events = l.system.events ++ pieces.map (.wrote l.id) ∧
        pieces.flatten <+: bytes ∧ ((writeAll bytes l).1 = .ok () → pieces.flatten = bytes) := by
  fun_induction writeAll bytes l with
  | case1 l => exact ⟨[], by simpa using events_flush l, List.nil_prefix, fun _ => rfl⟩
  | case2 l b rest l' h =>
    obtain ⟨-, hevents⟩ := OpenStream.events_write h
    exact ⟨[[]], hevents, List.nil_prefix, by simp⟩
  | case3 l b rest n l' h ih =>
    obtain ⟨hid, hevents⟩ := OpenStream.events_write h
    obtain ⟨pieces, hmore, hbegins, hall⟩ := ih
    refine ⟨(b :: rest).take (n + 1) :: pieces, ?_, ?_, fun hok => ?_⟩
    · rw [hmore, hevents, hid, List.append_assoc]
      rfl
    · obtain ⟨left, hleft⟩ := hbegins
      exact ⟨left, by simp [hleft]⟩
    · simp [hall hok]
  | case4 l b rest e l' h he hlt ih =>
    obtain ⟨hid, hevents⟩ := OpenStream.events_write h
    rwa [hid, hevents, Traced.piece, List.append_nil] at ih
  | case5 l b rest e l' h he =>
    obtain ⟨-, hevents⟩ := OpenStream.events_write h
    exact ⟨[], hevents, List.nil_prefix, by simp⟩

theorem FrameWriter.events_writeFrame (fw : FrameWriter) (frame : Bytes) (l : OpenStream (Traced ω)) :
    ∃ pieces : List Bytes,
      (fw.writeFrame frame l).2.system.events = l.system.events ++ pieces.map (.wrote l.id) ∧
        pieces.flatten <+: frame ∧
        ((fw.writeFrame frame l).1 = .ok () → pieces.flatten = frame) := by
  unfold writeFrame
  cases checkLimit fw.limit frame.length with
  | error e => exact ⟨[], (List.append_nil _).symm, List.nil_prefix, nofun⟩
  | ok _ => exact events_writeAll frame l

end

end ModuleProxy
