import ModuleProxy.Control.Message
import ModuleProxy.Proofs.Machine.Basic
import ModuleProxy.Proofs.Success

namespace ModuleProxy.Machine

def decodeHeader (bytes : Bytes) : Decoder ControlHeader := do
  refuseIf (!ControlHeader.signatureFits bytes) (.wrongSignature .control)
  refuseIf (bytes.length < 4) (.truncated "control header" 4 bytes.length)
  let version ← entryAt bytes 2
  let code ← entryAt bytes 3
  return { version, code }

def decodeUri (bytes : Bytes) (offset : Nat) : Decoder (ChannelUri × Nat) := do
  let available := bytes.length - offset
  let socketType ← orThrow (.truncated "uri type" 1 available) bytes[offset]?
  let sizeAt ← add offset 1
  let declared ← orThrow (.truncated "uri length" 4 (available - 1)) (int32At? bytes sizeAt)
  let start ← add offset 5
  let size := unsigned32 declared
  let raw ← orThrow (.truncated "channel uri" size (bytes.length - start))
    (add? start size >>= slice? bytes start)
  let raw ← orThrow (.unterminatedField "channel uri") (ChannelUri.dropTerminator? raw)
  let text ← orThrow (.notUtf8 "channel uri") (Text.Utf8.decode? raw)
  let uri ← ofExcept (ChannelUri.ofTyped socketType text)
  let used ← add 5 size
  return (uri, used)

def parseCreate (bytes : Bytes) : Decoder Create := do
  let messageVersion ← orThrow (.truncated "gateway message version" 1 0) bytes[8]?
  let (uri, used) ← decodeUri bytes 9
  let sizeAt ← add 9 used
  let size ← orThrow (.truncated "args length" 4 (bytes.length - sizeAt)) (int32At? bytes sizeAt)
  let start ← add sizeAt 4
  let remaining ← sub bytes.length start
  refuseIf (size < 0) (.sizeMismatch size remaining)
  let stop ← add start size.toNat
  let args ← orThrow (.truncated "args" size.toNat remaining) (slice? bytes start stop)
  return { messageVersion, uri, args }

def readControlSize (bytes : Bytes) : Decoder Int :=
  let offset := FrameKind.control.sizeOffset
  orThrow (.truncated "total size" 4 (bytes.length - offset)) (int32At? bytes offset)

def decodeCreate (bytes : Bytes) : Decoder CreateFrame := do
  let header ← decodeHeader bytes
  refuseIf (header.code ≠ ControlKind.create.code)
    (.unexpectedControlKind ControlKind.create.name header.code)
  let declared ← readControlSize bytes
  let body ← parseCreate bytes
  ofExcept (checkDeclaredSize declared bytes.length)
  return { header, body }

def readControlBody (bytes : Bytes) : ControlKind → Decoder ControlBody
  | .create => do
    ofExcept (ControlMessage.requireSize bytes (FrameKind.control.minSize + 10))
    return .create (← parseCreate bytes)
  | .reply => do
    ofExcept (ControlMessage.requireSize bytes (FrameKind.control.minSize + 1))
    let code ← entryAt bytes FrameKind.control.minSize
    return .reply (← ofExcept (ReplyStatus.ofCode code))
  | .start => return .start
  | .destroy => return .destroy
  | .error =>
    throw (.unexpectedControlKind "create, reply, start or destroy" ControlKind.error.code)

def decodeControl (bytes : Bytes) : Decoder ControlMessage := do
  ofExcept (ControlMessage.requireSize bytes FrameKind.control.minSize)
  let header ← decodeHeader bytes
  refuseIf (header.version ≠ controlVersion) (.unsupportedVersion header.version)
  let declared ← readControlSize bytes
  ofExcept (checkDeclaredSize declared bytes.length)
  let kind ← ofExcept header.kind
  let body ← readControlBody bytes kind
  return { version := header.version, body }

theorem agrees_decodeHeader (bytes : Bytes) :
    Agrees (· = ·) (decodeHeader bytes) (ControlHeader.decode bytes) := by
  refine .refuse Iff.rfl fun _ => ?_
  match bytes with
  | [] | [_] | [_, _] | [_, _, _] => exact .fault _
  | _ :: _ :: _ :: _ :: rest =>
    refine .step (if_neg ?_) (.step rfl (.step rfl (.value rfl)))
    simp only [List.length_cons]
    omega

section

variable {α β : Type} {R : α → β → Prop}

theorem agrees_byte {bytes : Bytes} {offset : Nat} {e : FormatError} {f : UInt8 → Decoder α}
    {g : UInt8 → Except FormatError β}
    (h : ∀ b, offset < bytes.length → Agrees R (f b) (g b)) :
    Agrees R (orThrow e bytes[offset]? >>= f)
      (match bytes.drop offset with | [] => throw e | b :: _ => g b) := by
  cases hdrop : bytes.drop offset with
  | nil =>
    rw [List.getElem?_eq_none (List.drop_eq_nil_iff.mp hdrop)]
    exact .fault e
  | cons b rest =>
    have hb : bytes[offset]? = some b := by
      rw [← List.head?_drop, hdrop]
      rfl
    rw [hb]
    exact h b (List.getElem?_eq_some_iff.mp hb).1

theorem agrees_part {bytes : Bytes} {start size : Nat} {e : FormatError} {f : Bytes → Decoder α}
    {y : Except FormatError β} (hstart : start ≤ bytes.length)
    (h : start + size ≤ bytes.length → Agrees R (f ((bytes.drop start).take size)) y) :
    Agrees R (orThrow e (slice? bytes start (start + size)) >>= f)
      (if ((bytes.drop start).take size).length = size then y else throw e) := by
  rw [List.length_take, List.length_drop]
  by_cases hfits : start + size ≤ bytes.length
  · rw [if_pos (by omega), slice?, if_pos ⟨Nat.le_add_right .., hfits⟩, Nat.add_sub_cancel_left]
    exact h hfits
  · rw [if_neg (by omega), slice?, if_neg fun hslice => hfits hslice.2]
    exact .fault e

end

section

variable {bytes : Bytes} (hlength : bytes.length < 0x8000000000000000)
include hlength

theorem add?_slice? (start size : Nat) :
    (add? start size >>= slice? bytes start) = slice? bytes start (start + size) := by
  have hlimit : wordLimit = 0x10000000000000000 := rfl
  by_cases hsum : start + size < wordLimit
  · rw [add?, if_pos hsum]
    rfl
  · rw [add?, if_neg hsum, slice?, if_neg (by omega)]
    rfl

theorem agrees_decodeUri (offset : Nat) :
    Agrees (fun a b => a = b ∧ offset + a.2 ≤ bytes.length) (decodeUri bytes offset)
      (ChannelUri.decodeAt bytes offset) := by
  have hlimit : wordLimit = 0x10000000000000000 := rfl
  have hsizeAt : Bytes.word32At? (bytes.drop offset) 1 =
      (int32At? bytes (offset + 1)).map unsigned32 := by
    rw [int32At?_eq (by omega), ← word32At?_eq, Bytes.word32At?, List.drop_drop]
    rfl
  unfold decodeUri ChannelUri.decodeAt
  simp only [throw_bind_eq, pure_bind, hsizeAt, add?_slice? hlength, List.drop_drop]
  refine agrees_byte fun socketType hoffset => ?_
  refine .step (add_eq (by omega)) ?_
  cases hdeclared : int32At? bytes (offset + 1) with
  | none => exact .fault _
  | some declared =>
    rw [int32At?_eq (by omega)] at hdeclared
    have hstart := add_four_le_of_int32At? hdeclared
    refine .step rfl (.step (add_eq (by omega)) ?_)
    refine agrees_part (by omega) fun hpart => ?_
    cases ChannelUri.dropTerminator? ((bytes.drop (offset + 5)).take (unsigned32 declared)) with
    | none => exact .fault _
    | some raw =>
      refine .step rfl ?_
      dsimp only
      cases Text.Utf8.decode? raw with
      | none => exact .fault _
      | some text =>
        refine .step rfl (.bind (agrees_ofExcept _) ?_)
        rintro uri _ rfl
        exact .step (add_eq (by omega)) (.value ⟨rfl, by omega⟩)

theorem agrees_parseCreate : Agrees (· = ·) (parseCreate bytes) (Create.readBody bytes) := by
  have hlimit : wordLimit = 0x10000000000000000 := rfl
  unfold parseCreate Create.readBody
  simp only [throw_bind_eq, pure_bind]
  refine agrees_byte fun version _ => ?_
  refine .bind (agrees_decodeUri hlength 9) ?_
  rintro ⟨uri, used⟩ _ ⟨rfl, hused⟩
  refine .step (add_eq (by omega)) ?_
  dsimp only
  rw [int32At?_eq (by omega)]
  cases hsize : bytes.int32At? (9 + used) with
  | none => exact .fault _
  | some size =>
    have hstart := add_four_le_of_int32At? hsize
    have hbound := int32At?_lt hsize
    refine .step rfl (.step (add_eq (by omega)) (.step (sub_eq hstart) ?_))
    rw [List.length_drop]
    refine .refuse Iff.rfl fun _ => ?_
    refine .step (add_eq (by omega)) ?_
    exact agrees_part hstart fun _ => .value rfl

theorem agrees_readControlSize :
    Agrees (· = ·) (readControlSize bytes) (ModuleProxy.readControlSize bytes) := by
  unfold readControlSize ModuleProxy.readControlSize
  dsimp only
  rw [int32At?_eq (Nat.lt_trans hlength (by decide))]
  cases bytes.int32At? FrameKind.control.sizeOffset with
  | none => exact .fault _
  | some size => exact .value rfl

theorem agrees_decodeCreate :
    Agrees (· = ·) (decodeCreate bytes) (CreateFrame.decode bytes) := by
  unfold decodeCreate CreateFrame.decode
  simp only [throw_bind_eq]
  refine .bind (agrees_decodeHeader bytes) ?_
  rintro header _ rfl
  refine .demand Iff.rfl fun _ => ?_
  refine .bind (agrees_readControlSize hlength) ?_
  rintro declared _ rfl
  refine .bind (agrees_parseCreate hlength) ?_
  rintro body _ rfl
  exact .bind (agrees_ofExcept _) fun _ _ _ => .value rfl

theorem agrees_readControlBody (kind : ControlKind) :
    Agrees (· = ·) (readControlBody bytes kind) (ControlMessage.readBody bytes kind) := by
  cases kind with
  | create =>
    refine .bind (agrees_ofExcept _) fun _ _ _ => ?_
    refine .bind (agrees_parseCreate hlength) ?_
    rintro body _ rfl
    exact .value rfl
  | reply =>
    dsimp only [readControlBody, ControlMessage.readBody, ControlMessage.requireSize]
    cases hdrop : bytes.drop FrameKind.control.minSize with
    | nil =>
      rw [if_pos (Nat.lt_succ_of_le (List.drop_eq_nil_iff.mp hdrop))]
      exact .fault _
    | cons code rest =>
      have hcode : bytes[FrameKind.control.minSize]? = some code := by
        rw [← List.head?_drop, hdrop]
        rfl
      rw [if_neg (Nat.not_lt.mpr (List.getElem?_eq_some_iff.mp hcode).1)]
      refine .step rfl (.step (entryAt_eq hcode) ?_)
      exact .bind (agrees_ofExcept _) fun _ _ hstatus => .value (congrArg _ hstatus)
  | start => exact .value rfl
  | destroy => exact .value rfl
  | error => exact .fault _

theorem agrees_decodeControl :
    Agrees (· = ·) (decodeControl bytes) (ControlMessage.decode bytes) := by
  unfold decodeControl ControlMessage.decode
  simp only [throw_bind_eq]
  refine .bind (agrees_ofExcept _) fun _ _ _ => ?_
  refine .bind (agrees_decodeHeader bytes) ?_
  rintro header _ rfl
  refine .demand Iff.rfl fun _ => ?_
  refine .bind (agrees_readControlSize hlength) ?_
  rintro declared _ rfl
  refine .bind (agrees_ofExcept _) fun _ _ _ => ?_
  refine .bind (agrees_ofExcept _) ?_
  rintro kind _ rfl
  refine .bind (agrees_readControlBody hlength kind) ?_
  rintro body _ rfl
  exact .value rfl

end

end ModuleProxy.Machine
