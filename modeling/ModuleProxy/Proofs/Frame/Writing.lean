import ModuleProxy.Frame.Script

namespace ModuleProxy

/-- A sink that shows what it has taken: of each write the bytes that it says it took. -/
class ByteLog (ω : Type) [ByteSink ω] where
  taken : ω → Bytes
  taken_of_ok : ∀ {bytes : Bytes} {w w' : ω} {n : Nat},
    ByteSink.write bytes w = (.ok n, w') → taken w' = taken w ++ bytes.take n
  taken_of_error : ∀ {bytes : Bytes} {w w' : ω} {e : IoError},
    ByteSink.write bytes w = (.error e, w') → taken w' = taken w
  taken_flush : ∀ w : ω, taken (ByteSink.flush w).2 = taken w

instance : ByteLog WriteScript where
  taken := WriteScript.taken
  taken_of_ok := by
    intro bytes w w' n h
    change w.write bytes = _ at h
    unfold WriteScript.write at h
    split at h <;> cases h
    · rw [List.take_length]
    · rw [← List.take_eq_take_min]
  taken_of_error := by
    intro bytes w w' e h
    change w.write bytes = _ at h
    unfold WriteScript.write at h
    split at h <;> cases h
    rfl
  taken_flush := by
    intro w
    change (w.flush).2.taken = w.taken
    unfold WriteScript.flush
    split <;> rfl

namespace FrameWriter

section

variable {ω : Type} [ByteSink ω] {w w' : ω} {b : UInt8} {rest : Bytes}

theorem flush_of_ok (h : ByteSink.flush w = (.ok (), w')) : flush w = (.ok (), w') := by
  rw [flush]
  split <;> rename_i hs <;> cases h.symm.trans hs
  rfl

theorem flush_of_error {e : IoError} (h : ByteSink.flush w = (.error e, w')) :
    flush w = if e.isTransient then flush w' else (.error (.io e), w') := by
  rw [flush]
  split <;> rename_i hs <;> cases h.symm.trans hs
  split <;> rfl

theorem writeAll_nil (w : ω) : writeAll [] w = flush w := by
  rw [writeAll]

theorem writeAll_of_zero (h : ByteSink.write (b :: rest) w = (.ok 0, w')) :
    writeAll (b :: rest) w = (.error .closed, w') := by
  rw [writeAll]
  split <;> rename_i hs <;> cases h.symm.trans hs
  rfl

theorem writeAll_of_piece {n : Nat} (h : ByteSink.write (b :: rest) w = (.ok (n + 1), w')) :
    writeAll (b :: rest) w = writeAll (rest.drop n) w' := by
  rw [writeAll]
  split <;> rename_i hs <;> cases h.symm.trans hs
  rfl

theorem writeAll_of_error {e : IoError} (h : ByteSink.write (b :: rest) w = (.error e, w')) :
    writeAll (b :: rest) w =
      if e.isTransient then writeAll (b :: rest) w' else (.error (.io e), w') := by
  rw [writeAll]
  split <;> rename_i hs <;> cases h.symm.trans hs
  split <;> rfl

end

variable {ω : Type} [ByteSink ω] [ByteLog ω]

open ByteLog

theorem taken_flush (w : ω) : taken (flush w).2 = taken w := by
  fun_induction flush w with
  | case1 w w' h =>
    rw [← ByteLog.taken_flush w, h]
  | case2 w e w' h he hlt ih =>
    rw [ih, ← ByteLog.taken_flush w, h]
  | case3 w e w' h he =>
    rw [← ByteLog.taken_flush w, h]

theorem taken_of_writeAll {bytes : Bytes} {w w' : ω} (h : writeAll bytes w = (.ok (), w')) :
    taken w' = taken w ++ bytes := by
  fun_induction writeAll bytes w with
  | case1 w =>
    have hflush := taken_flush w
    rw [h] at hflush
    simpa using hflush
  | case2 w b rest w'' hwrite => cases h
  | case3 w b rest n w'' hwrite ih =>
    rw [ih h, taken_of_ok hwrite, List.append_assoc]
    simp
  | case4 w b rest e w'' hwrite he hlt ih => rw [ih h, taken_of_error hwrite]
  | case5 w b rest e w'' hwrite he => cases h

omit [ByteLog ω] in
theorem writeFrame_eq_ok_iff {fw : FrameWriter} {bytes : Bytes} {w w' : ω} :
    fw.writeFrame bytes w = (.ok (), w') ↔
      bytes.length ≤ fw.limit ∧ writeAll bytes w = (.ok (), w') := by
  unfold writeFrame checkLimit
  by_cases h : bytes.length ≤ fw.limit
  · simp [h, Nat.not_lt.mpr h]
  · simp [h, Nat.lt_of_not_le h]

omit [ByteLog ω] in
theorem writeEncoded_eq_ok_iff {fw : FrameWriter} {size : Nat} {frame : Except FormatError Bytes}
    {w w' : ω} :
    fw.writeEncoded size frame w = (.ok (), w') ↔
      size ≤ fw.limit ∧ ∃ bytes, frame = .ok bytes ∧ fw.writeFrame bytes w = (.ok (), w') := by
  unfold writeEncoded checkLimit
  by_cases h : size ≤ fw.limit
  · cases frame <;> simp [h, Nat.not_lt.mpr h]
  · simp [h, Nat.lt_of_not_le h]

end FrameWriter

namespace FrameWriter

variable {ω σ : Type} [ByteSink ω] [ByteSink σ] {φ : ω → σ}

theorem flush_map (hflush : ∀ w, ByteSink.flush (φ w) = (ByteSink.flush w).map id φ) (w : ω) :
    flush (φ w) = (flush w).map id φ := by
  have hshown : ∀ {w w' result}, ByteSink.flush w = (result, w') →
      ByteSink.flush (φ w) = (result, φ w') := fun h => by rw [hflush, h, Prod.map, id]
  fun_induction flush w with
  | case1 w w' h => exact flush_of_ok (hshown h)
  | case2 w e w' h he hlt ih =>
    rw [flush_of_error (hshown h), if_pos he]
    exact ih
  | case3 w e w' h he =>
    rw [flush_of_error (hshown h), if_neg he]
    rfl

theorem writeAll_map (hflush : ∀ w, ByteSink.flush (φ w) = (ByteSink.flush w).map id φ)
    (hwrite : ∀ bytes w, ByteSink.write bytes (φ w) = (ByteSink.write bytes w).map id φ)
    (bytes : Bytes) (w : ω) : writeAll bytes (φ w) = (writeAll bytes w).map id φ := by
  have hshown : ∀ {bytes w w' result}, ByteSink.write bytes w = (result, w') →
      ByteSink.write bytes (φ w) = (result, φ w') := fun h => by rw [hwrite, h, Prod.map, id]
  fun_induction writeAll bytes w with
  | case1 w =>
    rw [writeAll]
    exact flush_map hflush w
  | case2 w b rest w' h => exact writeAll_of_zero (hshown h)
  | case3 w b rest n w' h ih =>
    rw [writeAll_of_piece (hshown h)]
    exact ih
  | case4 w b rest e w' h he hlt ih =>
    rw [writeAll_of_error (hshown h), if_pos he]
    exact ih
  | case5 w b rest e w' h he =>
    rw [writeAll_of_error (hshown h), if_neg he]
    rfl

theorem writeFrame_map (hflush : ∀ w, ByteSink.flush (φ w) = (ByteSink.flush w).map id φ)
    (hwrite : ∀ bytes w, ByteSink.write bytes (φ w) = (ByteSink.write bytes w).map id φ)
    (fw : FrameWriter) (bytes : Bytes) (w : ω) :
    fw.writeFrame bytes (φ w) = (fw.writeFrame bytes w).map id φ := by
  rw [writeFrame, writeFrame]
  cases checkLimit fw.limit bytes.length with
  | error e => rfl
  | ok _ => exact writeAll_map hflush hwrite bytes w

end FrameWriter

end ModuleProxy
