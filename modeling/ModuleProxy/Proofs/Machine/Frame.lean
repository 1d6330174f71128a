import ModuleProxy.Proofs.Machine.Control
import ModuleProxy.Proofs.Machine.Message

namespace ModuleProxy.Machine

def nextFrame (buffer : Bytes) (limit : Nat) : Decoder (Option (FrameKind × Nat)) := do
  if buffer.length < 2 then
    return none
  -- read whether or not the signature is known
  let first ← entryAt buffer 0
  let kind ← orThrow (.wrongSignature (if first = 0xA1 then .message else .control))
    (FrameKind.ofBytes? buffer)
  match int32At? buffer kind.sizeOffset with
  | none => return none
  | some declared => do
    refuseIf (declared < kind.minSize) (.sizeBelowMinimum declared kind.minSize)
    let size := declared.toNat
    let largest := min limit maxFrameSize
    refuseIf (size > largest) (.frameTooLarge size largest)
    return some (kind, size)

def cutFrame (buffer : Bytes) (limit : Nat) : Decoder (Option (RawFrame × Bytes)) := do
  match ← nextFrame buffer limit with
  | none => return none
  | some (kind, size) =>
    if size ≤ buffer.length then
      let (bytes, rest) ← splitTo buffer size
      return some (⟨kind, bytes⟩, rest)
    else return none

section

variable {buffer : Bytes} (hlength : buffer.length < 0x8000000000000000) (limit : Nat)
include hlength

theorem agrees_nextFrame :
    Agrees (· = ·) (nextFrame buffer limit) (nextFrame? buffer limit) := by
  unfold nextFrame nextFrame?
  match hbuffer : buffer with
  | [] | [_] => exact .value rfl
  | first :: second :: rest =>
    rw [if_neg (by simp)]
    refine .step rfl ?_
    dsimp only
    cases FrameKind.ofBytes? (first :: second :: rest) with
    | none => exact .fault _
    | some kind =>
      refine .step rfl ?_
      rw [int32At?_eq (Nat.lt_trans hlength (by decide))]
      dsimp only
      cases Bytes.int32At? (first :: second :: rest) kind.sizeOffset with
      | none => exact .value rfl
      | some declared =>
        refine .refuse Iff.rfl fun _ => ?_
        refine .refuse Iff.rfl fun _ => ?_
        exact .value rfl

theorem agrees_cutFrame : Agrees (· = ·) (cutFrame buffer limit) (splitFrame buffer limit) := by
  have hsplit : splitFrame buffer limit = nextFrame? buffer limit >>= fun found =>
      match found with
      | none => .ok none
      | some (kind, size) =>
        if (buffer.take size).length = size then
          .ok (some (⟨kind, buffer.take size⟩, buffer.drop size))
        else .ok none := by
    unfold splitFrame
    match nextFrame? buffer limit with
    | .error _ | .ok none | .ok (some _) => rfl
  rw [hsplit]
  refine .bind (agrees_nextFrame hlength limit) ?_
  rintro found _ rfl
  match found with
  | none => exact .value rfl
  | some (kind, size) =>
    dsimp only
    rw [List.length_take]
    by_cases hsize : size ≤ buffer.length
    · rw [if_pos hsize, if_pos (by omega)]
      exact .step (splitTo_eq hsize) (.value rfl)
    · rw [if_neg hsize, if_neg (by omega)]
      exact .value rfl

end

/-- Whatever the bytes and the offset, no decoder traps: each gives what the one on lists gives. -/
theorem decoders_never_trap (bytes : Bytes) (hlength : bytes.length < 0x8000000000000000)
    (offset limit : Nat) :
    (decodeMessage bytes).run = .ok (Message.decode bytes) ∧
      (decodeHeader bytes).run = .ok (ControlHeader.decode bytes) ∧
      (decodeUri bytes offset).run = .ok (ChannelUri.decodeAt bytes offset) ∧
      (decodeCreate bytes).run = .ok (CreateFrame.decode bytes) ∧
      (decodeControl bytes).run = .ok (ControlMessage.decode bytes) ∧
      (nextFrame bytes limit).run = .ok (nextFrame? bytes limit) ∧
      (cutFrame bytes limit).run = .ok (splitFrame bytes limit) := by
  refine ⟨(agrees_decodeMessage hlength).run_eq, (agrees_decodeHeader bytes).run_eq, ?_,
    (agrees_decodeCreate hlength).run_eq, (agrees_decodeControl hlength).run_eq,
    (agrees_nextFrame hlength limit).run_eq, (agrees_cutFrame hlength limit).run_eq⟩
  exact ((agrees_decodeUri hlength offset).imp fun _ _ h => h.1).run_eq

def boundlessCreate : Bytes :=
  [0xA1, 0x6C, 1, 1, 0, 0, 0, 18, 1, 16, 0xFF, 0xFF, 0xFF, 0xFF, 0, 0, 0, 0]

theorem decoders_never_trap_boundlessCreate :
    boundlessCreate.length < 0x8000000000000000 ∧
      (decodeCreate boundlessCreate).run =
        .ok (.error (.truncated "channel uri" 0xFFFFFFFF 4)) := by
  have hlength : boundlessCreate.length < 0x8000000000000000 := by decide
  have hdecode : CreateFrame.decode boundlessCreate =
      .error (.truncated "channel uri" 0xFFFFFFFF 4) := by decide +kernel
  refine ⟨hlength, ?_⟩
  rw [← hdecode]
  exact (decoders_never_trap boundlessCreate hlength 9 0).2.2.2.1

end ModuleProxy.Machine
