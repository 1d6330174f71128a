import ModuleProxy.Proofs.Frame.Codecs

/-!
A buffer that somebody else fills, against a reader that fetches for itself. However a stream is cut
for the one and handed out to the other, both give the frames that draining the whole stream gives,
and they differ only in what they say of an end between two frames. What is encoded onto a buffer is
what a writer would write.
-/

namespace ModuleProxy

namespace FrameReader

variable {ω : Type} [ByteSource ω] {r : FrameReader} {w : ω} {pieces : List Bytes}

def readFrames : Nat → FrameReader → ω → List RawFrame × Option StreamError
  | 0, _, _ => ([], none)
  | calls + 1, r, w =>
    match r.readFrame w with
    | (.ok f, r, w) =>
      let (frames, error) := readFrames calls r w
      (f :: frames, error)
    | (.error e, _, _) => ([], some e)

theorem readFrame_of_stream (hpieces : ∀ piece ∈ pieces, piece ≠ [])
    (hyields : Yields (pieces.map .ok) w) :
    match splitFrame (r.buffer ++ pieces.flatten) r.limit with
    | .error e => (r.readFrame w).1 = .error (.format e)
    | .ok none => (r.readFrame w).1 = .error .closed
    | .ok (some (f, rest)) => ∃ (left : List Bytes) (buffer : Bytes) (w' : ω),
        (∀ piece ∈ left, piece ≠ []) ∧ Yields (left.map .ok) w' ∧
        r.readFrame w = (.ok f, { r with buffer }, w') ∧ buffer ++ left.flatten = rest := by
  -- a piece that is read goes to the buffer, so that the whole stream stays what it was
  induction pieces generalizing r w with
  | nil =>
    rw [List.flatten_nil, List.append_nil]
    cases hs : splitFrame r.buffer r.limit with
    | error e => exact congrArg Prod.fst (readFrame_of_fault hs w)
    | ok found =>
      cases found with
      | none =>
        have hend : ByteSource.read readSize w = (.ok [], (ByteSource.read readSize w).2) :=
          Prod.ext hyields rfl
        exact congrArg Prod.fst (readFrame_of_end hs hend)
      | some taking =>
        exact ⟨[], taking.2, w, hpieces, hyields, readFrame_of_some hs w, List.append_nil _⟩
  | cons piece pieces ih =>
    obtain ⟨hpiece, hpieces'⟩ := List.forall_mem_cons.mp hpieces
    cases hs : splitFrame r.buffer r.limit with
    | error e =>
      rw [splitFrame_append_of_error hs]
      exact congrArg Prod.fst (readFrame_of_fault hs w)
    | ok found =>
      cases found with
      | none =>
        have hread : ByteSource.read readSize w = (.ok piece, (ByteSource.read readSize w).2) :=
          Prod.ext hyields.1 rfl
        rw [readFrame_of_piece hs hpiece hread, List.flatten_cons, ← List.append_assoc]
        exact ih (r := { r with buffer := r.buffer ++ piece }) hpieces' hyields.2
      | some taking =>
        rw [splitFrame_append_of_some hs]
        exact ⟨piece :: pieces, taking.2, w, hpieces, hyields, readFrame_of_some hs w, rfl⟩

theorem readFrames_of_error {e : StreamError} {calls : Nat} (h : (r.readFrame w).1 = .error e)
    (hcalls : 0 < calls) : readFrames calls r w = ([], some e) := by
  obtain ⟨calls, rfl⟩ := Nat.exists_eq_add_one_of_ne_zero (Nat.ne_of_gt hcalls)
  rw [readFrames]
  split <;> rename_i hread <;> rw [hread] at h <;> cases h
  rfl

theorem readFrames_eq_drain {limit calls : Nat} {stream : Bytes} (hlimit : r.limit = limit)
    (hpieces : ∀ piece ∈ pieces, piece ≠ []) (hyields : Yields (pieces.map .ok) w)
    (hstream : r.buffer ++ pieces.flatten = stream)
    (hcalls : (drain stream limit).frames.length < calls) :
    readFrames calls r w = ((drain stream limit).frames,
      some (((drain stream limit).error.map .format).getD .closed)) := by
  induction stream using drain_induction limit generalizing r w pieces calls with
  | none stream h =>
    have hcall := readFrame_of_stream (r := r) hpieces hyields
    rw [hstream, hlimit, h] at hcall
    rw [drain_of_none h] at hcalls ⊢
    exact readFrames_of_error hcall hcalls
  | error stream e h =>
    have hcall := readFrame_of_stream (r := r) hpieces hyields
    rw [hstream, hlimit, h] at hcall
    rw [drain_of_error h] at hcalls ⊢
    exact readFrames_of_error hcall hcalls
  | some stream f rest h ih =>
    have hcall := readFrame_of_stream (r := r) hpieces hyields
    rw [hstream, hlimit, h] at hcall
    obtain ⟨left, buffer, w', hleft, hyields', hread, hrest⟩ := hcall
    rw [drain_of_some h] at hcalls ⊢
    obtain ⟨calls, rfl⟩ := Nat.exists_eq_add_one_of_ne_zero (Nat.ne_zero_of_lt hcalls)
    have hmore := ih (r := { limit, buffer }) rfl hleft hyields' hrest
      (Nat.lt_of_succ_lt_succ hcalls)
    rw [readFrames, hread]
    dsimp only
    rw [hmore]

end FrameReader

/-- Fed with the chunks of a stream, a decoder gives the frames that a reader gives that is handed
the same bytes, in whatever pieces. Where the stream goes wrong both stop with the same error; else
the reader finds the stream closed, and so does the decoder if an incomplete frame is left, but not
if nothing is. What is encoded onto a buffer is what a writer puts into a sink; or both fail alike,
with the buffer as it was and nothing written. -/
theorem FrameCodec.agrees_with_streams {ω σ : Type} [ByteSource ω] [ByteSink σ] [ByteLog σ]
    (limit : Nat) (chunks pieces : List Bytes) (source : ω)
    (hpieces : ∀ piece ∈ pieces, piece ≠ []) (hyields : Yields (pieces.map .ok) source)
    (hsame : pieces.flatten = chunks.flatten) :
    let followed := FrameCodec.follow ⟨limit⟩ [] chunks
    let read := fun calls => FrameReader.readFrames calls { limit } source
    (∃ frames left, chunks.flatten = frames.flatMap RawFrame.bytes ++ left ∧
      ((∃ e, takeFrame left limit = (.error e, left) ∧ followed = (frames, some (.format e)) ∧
          ∀ calls, frames.length < calls → read calls = (frames, some (.format e))) ∨
        takeFrame left limit = (.ok none, left) ∧
          followed = (frames, if left = [] then none else some .closed) ∧
          ∀ calls, frames.length < calls → read calls = (frames, some .closed))) ∧
    ∀ (item : WireItem) (buffer : Bytes) (sink : σ),
      let written := FrameWriter.writeItem ⟨limit⟩ item sink
      (FrameCodec.encodeItem ⟨limit⟩ buffer item = (.ok (), buffer ++ item.frame) ∧
          written = FrameWriter.writeAll item.frame sink ∧
          ∀ sink', written = (.ok (), sink') →
            ByteLog.taken sink' = ByteLog.taken sink ++ item.frame) ∨
        ∃ e, FrameCodec.encodeItem ⟨limit⟩ buffer item = (.error (.format e), buffer) ∧
          written = (.error (.format e), sink) := by
  intro followed read
  constructor
  · let d := drain chunks.flatten limit
    have hfollowed : followed = (d.frames, d.ending) := follow_eq_drain ⟨limit⟩ [] chunks
    have hread : ∀ calls, d.frames.length < calls →
        read calls = (d.frames, some ((d.error.map .format).getD .closed)) := fun calls =>
      FrameReader.readFrames_eq_drain rfl hpieces hyields hsame
    have hleft : takeFrame d.left limit = _ := takeFrame_drain_left chunks.flatten limit
    refine ⟨d.frames, d.left, (drain_conserves chunks.flatten limit).symm, ?_⟩
    rw [hfollowed, Drained.ending]
    cases herror : d.error with
    | some e =>
      rw [herror] at hread hleft
      exact .inl ⟨e, hleft, rfl, hread⟩
    | none =>
      rw [herror] at hread hleft
      exact .inr ⟨hleft, rfl, hread⟩
  · intro item buffer sink written
    obtain ⟨hencoded, hwritten⟩ | hfailed := encodeItem_writeItem limit item buffer sink
    · refine .inl ⟨hencoded, hwritten, fun sink' hok => ?_⟩
      exact FrameWriter.taken_of_writeAll (hwritten.symm.trans hok)
    · exact .inr hfailed

theorem FrameCodec.agrees_with_streams_cut_frame :
    let chunks : List Bytes := [[0xA1, 0x6C, 1, 3, 0, 0], [0, 8, 0xA1], [0x60, 0, 0]]
    let source : ReadScript := { pieces := chunks.map .ok }
    let start : RawFrame := ⟨.control, [0xA1, 0x6C, 1, 3, 0, 0, 0, 8]⟩
    (∀ piece ∈ chunks, piece ≠ []) ∧ Yields (chunks.map .ok) source ∧
      FrameCodec.follow ⟨64⟩ [] chunks = ([start], some .closed) ∧
      ∀ calls, 1 < calls →
        FrameReader.readFrames calls { limit := 64 } source = ([start], some .closed) := by
  intro chunks source start
  have hpieces : ∀ piece ∈ chunks, piece ≠ [] := by simp [chunks]
  have hyields : Yields (chunks.map .ok) source := ⟨rfl, rfl, rfl, rfl⟩
  have hfollow : FrameCodec.follow ⟨64⟩ [] chunks = ([start], some .closed) := by cbv
  refine ⟨hpieces, hyields, hfollow, ?_⟩
  obtain ⟨⟨frames, left, -, ⟨e, -, hfault, -⟩ | ⟨-, hend, hread⟩⟩, -⟩ :=
    FrameCodec.agrees_with_streams (σ := WriteScript) 64 chunks chunks source hpieces hyields rfl
  · cases hfollow.symm.trans hfault
  · obtain rfl : [start] = frames := congrArg Prod.fst (hfollow.symm.trans hend)
    exact hread

end ModuleProxy
