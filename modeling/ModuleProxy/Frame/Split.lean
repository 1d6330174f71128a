import ModuleProxy.FormatError

namespace ModuleProxy

structure RawFrame where
  kind : FrameKind
  bytes : Bytes
  deriving DecidableEq, Repr

def nextFrame? (buffer : Bytes) (limit : Nat) : Except FormatError (Option (FrameKind × Nat)) :=
  match buffer with
  | first :: _ :: _ =>
    match FrameKind.ofBytes? buffer with
    | none => .error (.wrongSignature (if first = 0xA1 then .message else .control))
    | some kind =>
      match buffer.int32At? kind.sizeOffset with
      | none => .ok none
      | some declared =>
        if declared < kind.minSize then .error (.sizeBelowMinimum declared kind.minSize)
        else if declared.toNat > min limit maxFrameSize then
          .error (.frameTooLarge declared.toNat (min limit maxFrameSize))
        else .ok (some (kind, declared.toNat))
  | _ => .ok none

def splitFrame (buffer : Bytes) (limit : Nat) : Except FormatError (Option (RawFrame × Bytes)) :=
  match nextFrame? buffer limit with
  | .error e => .error e
  | .ok none => .ok none
  | .ok (some (kind, size)) =>
    let bytes := buffer.take size
    if bytes.length = size then .ok (some (⟨kind, bytes⟩, buffer.drop size)) else .ok none

theorem minSize_le_of_nextFrame? {buffer : Bytes} {limit size : Nat} {kind : FrameKind}
    (h : nextFrame? buffer limit = .ok (some (kind, size))) :
    kind.minSize ≤ size ∧ size ≤ min limit maxFrameSize := by
  unfold nextFrame? at h
  split at h
  · split at h
    · cases h
    · split at h
      · cases h
      · split at h
        · cases h
        · split at h
          · cases h
          · cases h
            omega
  · cases h

theorem Bytes.length_lt_of_int32At?_eq_none {bytes : Bytes} {offset : Nat}
    (h : bytes.int32At? offset = none) : bytes.length < offset + 4 := by
  simp only [Bytes.int32At?, Bytes.word32At?, Option.map_eq_none_iff] at h
  have : (bytes.drop offset).length < 4 := by
    match bytes.drop offset, h with
    | [], _ | [_], _ | [_, _], _ | [_, _, _], _ => simp
  rw [List.length_drop] at this
  omega

theorem length_lt_of_nextFrame?_eq_none {buffer : Bytes} {limit : Nat}
    (h : nextFrame? buffer limit = .ok none) : buffer.length < 8 := by
  unfold nextFrame? at h
  split at h
  · split at h
    · cases h
    · rename_i kind _
      split at h
      · rename_i hi
        have := Bytes.length_lt_of_int32At?_eq_none hi
        have : kind.sizeOffset ≤ 4 := by cases kind <;> decide
        omega
      · split at h
        · cases h
        · split at h <;> cases h
  · rename_i hshort
    match buffer, hshort with
    | [], _ | [_], _ => simp
    | _ :: _ :: _, hshort => exact absurd rfl (hshort _ _ _)

theorem splitFrame_eq_some {buffer rest : Bytes} {limit : Nat} {f : RawFrame}
    (h : splitFrame buffer limit = .ok (some (f, rest))) :
    buffer = f.bytes ++ rest ∧ f.kind.minSize ≤ f.bytes.length ∧
      f.bytes.length ≤ min limit maxFrameSize := by
  unfold splitFrame at h
  split at h
  · cases h
  · cases h
  · rename_i kind size hn
    have bounds := minSize_le_of_nextFrame? hn
    dsimp only at h
    split at h
    · rename_i hl
      cases h
      exact ⟨(List.take_append_drop size buffer).symm, by simpa [hl] using bounds⟩
    · cases h

theorem FrameKind.eight_le_minSize (kind : FrameKind) : 8 ≤ kind.minSize := by
  cases kind <;> decide

theorem length_lt_of_splitFrame {buffer rest : Bytes} {limit : Nat} {f : RawFrame}
    (h : splitFrame buffer limit = .ok (some (f, rest))) : rest.length < buffer.length := by
  have ⟨heq, hmin, _⟩ := splitFrame_eq_some h
  have := f.kind.eight_le_minSize
  rw [heq, List.length_append]
  omega

def takeFrame (buffer : Bytes) (limit : Nat) : Except FormatError (Option RawFrame) × Bytes :=
  match splitFrame buffer limit with
  | .error e => (.error e, buffer)
  | .ok none => (.ok none, buffer)
  | .ok (some (f, rest)) => (.ok (some f), rest)

theorem splitFrame_of_takeFrame {buffer rest : Bytes} {limit : Nat} {f : RawFrame}
    (h : takeFrame buffer limit = (.ok (some f), rest)) :
    splitFrame buffer limit = .ok (some (f, rest)) := by
  unfold takeFrame at h
  split at h
  · cases h
  · cases h
  · rename_i hs
    cases h
    exact hs

structure Drained where
  frames : List RawFrame
  left : Bytes
  error : Option FormatError
  deriving Repr

def drainFrom (taken : List RawFrame) (buffer : Bytes) (limit : Nat) : Drained :=
  match h : takeFrame buffer limit with
  | (.ok (some f), rest) =>
    have := length_lt_of_splitFrame (splitFrame_of_takeFrame h)
    drainFrom (f :: taken) rest limit
  | (.ok none, rest) => ⟨taken.reverse, rest, none⟩
  | (.error e, rest) => ⟨taken.reverse, rest, some e⟩
termination_by buffer.length

def drain (buffer : Bytes) (limit : Nat) : Drained :=
  drainFrom [] buffer limit

def Drained.feed (d : Drained) (piece : Bytes) (limit : Nat) : Drained :=
  let next := drain (d.left ++ piece) limit
  { next with frames := d.frames ++ next.frames }

def drainPieces (pieces : List Bytes) (limit : Nat) : Drained :=
  pieces.foldl (·.feed · limit) ⟨[], [], none⟩

end ModuleProxy
