import ModuleProxy.Frame.Incremental
import ModuleProxy.Proofs.Frame.Exchange

namespace ModuleProxy

def Drained.ending (d : Drained) : Option StreamError :=
  match d.error with
  | some e => some (.format e)
  | none => if d.left = [] then none else some .closed

namespace FrameCodec

variable {codec : FrameCodec} {buffer rest : Bytes} {f : RawFrame} {e : FormatError}

theorem decode_of_some (h : splitFrame buffer codec.limit = .ok (some (f, rest))) :
    codec.decode buffer = (.ok (some f), rest) := by
  simp [decode, takeFrame_of_some h, Except.mapError]

theorem decode_of_none (h : splitFrame buffer codec.limit = .ok none) :
    codec.decode buffer = (.ok none, buffer) := by
  simp [decode, takeFrame_of_none h, Except.mapError]

theorem decode_of_error (h : splitFrame buffer codec.limit = .error e) :
    codec.decode buffer = (.error (.format e), buffer) := by
  simp [decode, takeFrame_of_error h, Except.mapError]

theorem decodeEnd_of_some (h : splitFrame buffer codec.limit = .ok (some (f, rest))) :
    codec.decodeEnd buffer = (.ok (some f), rest) := by
  rw [decodeEnd, decode_of_some h]

theorem decodeEnd_nil (codec : FrameCodec) : codec.decodeEnd [] = (.ok none, []) := rfl

theorem decodeEnd_of_left (h : splitFrame buffer codec.limit = .ok none) (hleft : buffer ≠ []) :
    codec.decodeEnd buffer = (.error .closed, buffer) := by
  rw [decodeEnd, decode_of_none h]
  simp [hleft]

theorem decodeEnd_of_error (h : splitFrame buffer codec.limit = .error e) :
    codec.decodeEnd buffer = (.error (.format e), buffer) := by
  rw [decodeEnd, decode_of_error h]

theorem length_lt_of_decode (h : codec.decode buffer = (.ok (some f), rest)) :
    rest.length < buffer.length := by
  cases hs : splitFrame buffer codec.limit with
  | error e => simp [decode_of_error hs] at h
  | ok found =>
    cases found with
    | none => simp [decode_of_none hs] at h
    | some taking =>
      cases (decode_of_some hs).symm.trans h
      exact length_lt_of_splitFrame hs

theorem length_lt_of_decodeEnd (h : codec.decodeEnd buffer = (.ok (some f), rest)) :
    rest.length < buffer.length := by
  apply length_lt_of_decode (f := f)
  unfold decodeEnd at h
  split at h
  · split at h <;> cases h
  · exact h

def decodeAll (codec : FrameCodec) (buffer : Bytes) :
    List RawFrame × Option StreamError × Bytes :=
  match h : codec.decode buffer with
  | (.ok (some f), rest) =>
    have := length_lt_of_decode h
    let (frames, after) := codec.decodeAll rest
    (f :: frames, after)
  | (.ok none, rest) => ([], none, rest)
  | (.error e, rest) => ([], some e, rest)
termination_by buffer.length

def finish (codec : FrameCodec) (buffer : Bytes) : List RawFrame × Option StreamError :=
  match h : codec.decodeEnd buffer with
  | (.ok (some f), rest) =>
    have := length_lt_of_decodeEnd h
    let (frames, error) := codec.finish rest
    (f :: frames, error)
  | (.ok none, _) => ([], none)
  | (.error e, _) => ([], some e)
termination_by buffer.length

def follow (codec : FrameCodec) : Bytes → List Bytes → List RawFrame × Option StreamError
  | buffer, [] => codec.finish buffer
  | buffer, chunk :: chunks =>
    match codec.decodeAll (buffer ++ chunk) with
    | (frames, some e, _) => (frames, some e)
    | (frames, none, rest) =>
      let (more, error) := codec.follow rest chunks
      (frames ++ more, error)

theorem decodeAll_eq_drain (codec : FrameCodec) (buffer : Bytes) :
    codec.decodeAll buffer =
      ((drain buffer codec.limit).frames, (drain buffer codec.limit).error.map .format,
        (drain buffer codec.limit).left) := by
  induction buffer using drain_induction codec.limit with
  | none buffer h =>
    rw [decodeAll, drain_of_none h]
    split <;> rename_i hd <;> cases (decode_of_none h).symm.trans hd
    rfl
  | error buffer e h =>
    rw [decodeAll, drain_of_error h]
    split <;> rename_i hd <;> cases (decode_of_error h).symm.trans hd
    rfl
  | some buffer f rest h ih =>
    rw [decodeAll, drain_of_some h]
    split <;> rename_i hd <;> cases (decode_of_some h).symm.trans hd
    rw [ih]

theorem finish_eq_drain (codec : FrameCodec) (buffer : Bytes) :
    codec.finish buffer =
      ((drain buffer codec.limit).frames, (drain buffer codec.limit).ending) := by
  induction buffer using drain_induction codec.limit with
  | none buffer h =>
    rw [finish, drain_of_none h]
    by_cases hnil : buffer = []
    · subst hnil
      split <;> rename_i hd <;> cases (decodeEnd_nil codec).symm.trans hd
      rfl
    · split <;> rename_i hd <;> cases (decodeEnd_of_left h hnil).symm.trans hd
      simp [Drained.ending, hnil]
  | error buffer e h =>
    rw [finish, drain_of_error h]
    split <;> rename_i hd <;> cases (decodeEnd_of_error h).symm.trans hd
    rfl
  | some buffer f rest h ih =>
    rw [finish, drain_of_some h]
    split <;> rename_i hd <;> cases (decodeEnd_of_some h).symm.trans hd
    rw [ih]
    rfl

theorem follow_eq_drain (codec : FrameCodec) (buffer : Bytes) (chunks : List Bytes) :
    codec.follow buffer chunks =
      ((drain (buffer ++ chunks.flatten) codec.limit).frames,
        (drain (buffer ++ chunks.flatten) codec.limit).ending) := by
  induction chunks generalizing buffer with
  | nil => rw [follow, finish_eq_drain, List.flatten_nil, List.append_nil]
  | cons chunk chunks ih =>
    rw [follow, decodeAll_eq_drain, List.flatten_cons, ← List.append_assoc]
    cases herror : (drain (buffer ++ chunk) codec.limit).error with
    | some e =>
      rw [drain_append_of_error herror]
      rfl
    | none =>
      rw [drain_append (buffer ++ chunk)]
      simp only [Option.map_none, ih]
      rfl

def encodeItem (codec : FrameCodec) (buffer : Bytes) :
    WireItem → Except StreamError Unit × Bytes
  | .message m => codec.encodeMessage buffer m
  | .control m => codec.encodeControl buffer m

end FrameCodec

namespace WireItem

def encode : WireItem → Except FormatError Bytes
  | message m => m.encode
  | control m => m.encode

theorem encode_eq_ok {item : WireItem} {bytes : Bytes} (h : item.encode = .ok bytes) :
    bytes = item.frame := by
  cases item with
  | message m =>
    simp only [encode, Message.encode] at h
    split at h <;> cases h
    rfl
  | control m =>
    simp only [encode, ControlMessage.encode] at h
    split at h <;> cases h
    rfl

end WireItem

theorem FrameCodec.encodeItem_writeItem {σ : Type} [ByteSink σ] (limit : Nat) (item : WireItem)
    (buffer : Bytes) (w : σ) :
    (FrameCodec.encodeItem ⟨limit⟩ buffer item = (.ok (), buffer ++ item.frame) ∧
        FrameWriter.writeItem ⟨limit⟩ item w = FrameWriter.writeAll item.frame w) ∨
      ∃ e, FrameCodec.encodeItem ⟨limit⟩ buffer item = (.error (.format e), buffer) ∧
        FrameWriter.writeItem ⟨limit⟩ item w = (.error (.format e), w) := by
  have hencode : FrameCodec.encodeItem ⟨limit⟩ buffer item =
      FrameCodec.encodeOnto ⟨limit⟩ buffer item.encodedSize item.encode := by
    cases item <;> rfl
  have hwrite : FrameWriter.writeItem ⟨limit⟩ item w =
      FrameWriter.writeEncoded ⟨limit⟩ item.encodedSize item.encode w := by
    cases item <;> rfl
  rw [hencode, hwrite, encodeOnto.eq_def, FrameWriter.writeEncoded.eq_def, checkLimit]
  by_cases hlimit : item.encodedSize > limit
  · exact .inr ⟨.frameTooLarge item.encodedSize limit, by simp [hlimit]⟩
  · cases hitem : item.encode with
    | error e => exact .inr ⟨e, by simp [hlimit]⟩
    | ok bytes =>
      obtain rfl := WireItem.encode_eq_ok hitem
      refine .inl ?_
      simp [FrameWriter.writeFrame, checkLimit, hlimit, WireItem.length_frame]

end ModuleProxy
