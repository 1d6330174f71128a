import ModuleProxy.Proofs.Control.Records

namespace ModuleProxy

namespace Create

theorem drop_of_readBody {c : Create} {bytes : Bytes} (h : readBody bytes = .ok c) :
    c.uri.IsTyped ∧ ∃ pad, bytes.drop 8 = c.encode ++ pad := by
  unfold readBody at h
  cases hbody : bytes.drop 8 with
  | nil => simp [hbody] at h
  | cons version body =>
    simp only [hbody, throw_bind_eq, pure_bind] at h
    obtain ⟨⟨uri, used⟩, huri, h⟩ := bind_eq_ok_iff.mp h
    obtain ⟨hstands, rfl⟩ := ChannelUri.decodeAt_eq_ok_iff.mp huri
    have hrecord : body = uri.encode ++ bytes.drop (9 + uri.encodedSize) := by
      rw [← hstands.drop_eq, show bytes.drop 9 = (bytes.drop 8).drop 1 from by rw [List.drop_drop],
        hbody]
      rfl
    cases hsize : bytes.int32At? (9 + uri.encodedSize) with
    | none => simp [hsize] at h
    | some size =>
      simp only [hsize, throw_if_eq_ok_iff, throw_unless_eq_ok_iff, pure_eq_ok_iff] at h
      obtain ⟨hnonneg, hlength, rfl⟩ := h
      obtain ⟨n, rfl⟩ := Int.eq_ofNat_of_zero_le (show 0 ≤ size by omega)
      rw [Bytes.int32At?, Bytes.word32At?] at hsize
      have hfield := (Bytes.int32At?_zero_eq_natCast_iff.mp hsize).2
      rw [List.drop_drop] at hfield
      rw [Int.toNat_natCast] at hlength ⊢
      refine ⟨hstands.typed, (bytes.drop (9 + uri.encodedSize + 4)).drop n, ?_⟩
      rw [hrecord, hfield]
      simp [encode, hlength, -List.drop_drop]

theorem readBody_eq_ok_iff {c : Create} {bytes : Bytes} (hsize : bytes.length ≤ maxFrameSize) :
    readBody bytes = .ok c ↔ c.uri.IsTyped ∧ ∃ pad, bytes.drop 8 = c.encode ++ pad := by
  refine ⟨drop_of_readBody, ?_⟩
  rintro ⟨htyped, pad, hpad⟩
  have hlength := congrArg List.length hpad
  rw [List.length_drop, List.length_append, length_encode] at hlength
  simp only [maxFrameSize] at hsize
  exact readBody_of_drop htyped (by omega) hpad

end Create

theorem ControlHeader.decode_eq_ok_iff {bytes : Bytes} {header : ControlHeader} :
    decode bytes = .ok header ↔
      ∃ rest, bytes = [0xA1, 0x6C, header.version, header.code] ++ rest := by
  constructor
  · intro h
    unfold decode at h
    split at h
    · cases h
    · rename_i hsignature
      split at h
      · cases h
        simp only [signatureFits, FrameKind.signature, List.zip_cons_cons, List.zip_nil_right,
          List.all_cons, List.all_nil, Bool.and_true, Bool.not_eq_true, Bool.not_eq_false',
          Bool.and_eq_true, beq_iff_eq] at hsignature
        obtain ⟨rfl, rfl⟩ := hsignature
        exact ⟨_, rfl⟩
      · cases h
  · rintro ⟨rest, rfl⟩
    simp [decode, signatureFits, FrameKind.signature]

inductive ControlBody.Spelling : ControlBody → UInt8 → Bytes → Prop where
  | create {messageVersion socketType : UInt8} {text : String} {args : Bytes}
    (hscheme : ipcScheme.toList <+: text.toList) (hfree : '\x00' ∉ text.toList) :
    Spelling (.create ⟨messageVersion, ⟨socketType, text⟩, args⟩) 1
      ([messageVersion, socketType] ++ Bytes.be32 (Text.Utf8.size text + 1) ++
        Text.Utf8.encode text ++ [0] ++ Bytes.be32 args.length ++ args)
  | detach : Spelling (.reply .detach) 2 [0xFF]
  | created : Spelling (.reply .created) 2 [0x00]
  | createError : Spelling (.reply .createError) 2 [0x01]
  | moduleCreationError : Spelling (.reply .moduleCreationError) 2 [0x02]
  | start : Spelling .start 3 []
  | destroy : Spelling .destroy 4 []

theorem ControlBody.spelling_iff {body : ControlBody} {code : UInt8} {bytes : Bytes} :
    body.Spelling code bytes ↔
      (∀ request, body = .create request → request.uri.IsTyped) ∧ code = body.kind.code ∧
        bytes = body.encode := by
  constructor
  · intro h
    cases h with
    | create hscheme hfree =>
      refine ⟨?_, rfl, by simp [encode, Create.encode, ChannelUri.encode]⟩
      rintro _ ⟨⟩
      exact ChannelUri.isTyped_iff.mpr ⟨hscheme, hfree⟩
    | detach | created | createError | moduleCreationError | start | destroy =>
      exact ⟨by simp, rfl, rfl⟩
  · rintro ⟨htyped, rfl, rfl⟩
    cases body with
    | create request =>
      obtain ⟨hscheme, hfree⟩ := ChannelUri.isTyped_iff.mp (htyped request rfl)
      rcases request with ⟨messageVersion, ⟨socketType, text⟩, args⟩
      have hspelling : Spelling (.create ⟨messageVersion, ⟨socketType, text⟩, args⟩) 1 _ :=
        .create hscheme hfree
      simpa [encode, Create.encode, ChannelUri.encode, kind, ControlKind.code] using hspelling
    | reply status =>
      cases status
      · exact .detach
      · exact .created
      · exact .createError
      · exact .moduleCreationError
    | start => exact .start
    | destroy => exact .destroy

namespace ControlMessage

theorem requireSize_eq_ok_iff {bytes : Bytes} {minimum : Nat} {u : Unit} :
    requireSize bytes minimum = .ok u ↔ minimum ≤ bytes.length := by
  refine ⟨fun h => ?_, requireSize_eq_ok⟩
  unfold requireSize at h
  split at h
  · cases h
  · omega

theorem replyStatus_of_ofCode {code : UInt8} {status : ReplyStatus}
    (h : ReplyStatus.ofCode code = .ok status) : code = status.code := by
  unfold ReplyStatus.ofCode at h
  split at h <;> cases h <;> rfl

theorem controlKind_of_ofCode {code : UInt8} {kind : ControlKind}
    (h : ControlKind.ofCode code = .ok kind) : code = kind.code := by
  unfold ControlKind.ofCode at h
  split at h <;> cases h <;> rfl

theorem readBody_eq_ok_iff {bytes : Bytes} (hsize : bytes.length ≤ maxFrameSize)
    {kind : ControlKind} {body : ControlBody} :
    readBody bytes kind = .ok body ↔
      kind = body.kind ∧ (∀ request, body = .create request → request.uri.IsTyped) ∧
        ∃ pad, bytes.drop 8 = body.encode ++ pad := by
  constructor
  · intro h
    cases kind with
    | create =>
      simp only [readBody, bind_eq_ok_iff, pure_eq_ok_iff] at h
      obtain ⟨_, -, request, hrequest, rfl⟩ := h
      obtain ⟨htyped, hpad⟩ := Create.drop_of_readBody hrequest
      refine ⟨rfl, ?_, hpad⟩
      rintro _ ⟨⟩
      exact htyped
    | reply =>
      simp only [readBody, FrameKind.minSize] at h
      split at h
      · cases h
      · rename_i code rest hrest
        simp only [bind_eq_ok_iff, pure_eq_ok_iff] at h
        obtain ⟨status, hstatus, rfl⟩ := h
        obtain rfl := replyStatus_of_ofCode hstatus
        exact ⟨rfl, by simp, rest, hrest⟩
    | start =>
      cases h
      exact ⟨rfl, by simp, bytes.drop 8, rfl⟩
    | destroy =>
      cases h
      exact ⟨rfl, by simp, bytes.drop 8, rfl⟩
    | error => cases h
  · rintro ⟨rfl, htyped, pad, hpad⟩
    have hlength := congrArg List.length hpad
    rw [List.length_drop, List.length_append, length_encode_body] at hlength
    cases body with
    | create request =>
      have hlong : FrameKind.control.minSize + 10 ≤ bytes.length := by
        simp only [ControlBody.encodedSize, Create.encodedSize, ChannelUri.encodedSize,
          FrameKind.minSize] at hlength ⊢
        omega
      have hread := (Create.readBody_eq_ok_iff hsize).mpr ⟨htyped request rfl, pad, hpad⟩
      simp [readBody, ControlBody.kind, requireSize_eq_ok hlong, hread]
    | reply status =>
      simp [readBody, ControlBody.kind, FrameKind.minSize, hpad, ControlBody.encode,
        ReplyStatus.ofCode_code]
    | start => rfl
    | destroy => rfl

/-- The bytes are a frame of the message: its type byte and its body, with padding behind. -/
structure Spells (m : ControlMessage) (code : UInt8) (body pad bytes : Bytes) : Prop where
  version : m.version = 1
  spelling : m.body.Spelling code body
  size_le : bytes.length ≤ maxFrameSize
  layout : bytes = [0xA1, 0x6C, 1, code] ++ Bytes.be32 bytes.length ++ body ++ pad

theorem readControlSize_eq_ok_iff {bytes : Bytes} {n : Int} :
    readControlSize bytes = .ok n ↔ bytes.int32At? 4 = some n := by
  unfold readControlSize
  rw [show FrameKind.control.sizeOffset = 4 from rfl]
  split
  · rename_i h
    simp [h]
  · rename_i h
    simp [h]

theorem checkDeclaredSize_eq_ok_iff {declared : Int} {actual : Nat} {u : Unit} :
    checkDeclaredSize declared actual = .ok u ↔ declared = actual := by
  unfold checkDeclaredSize
  split
  · rename_i h
    simp [h]
  · rename_i h
    simp [h]

theorem layout_iff {version code : UInt8} {body pad bytes : Bytes} :
    (bytes.length ≤ maxFrameSize ∧
        bytes = [0xA1, 0x6C, version, code] ++ Bytes.be32 bytes.length ++ body ++ pad) ↔
      ControlHeader.decode bytes = .ok ⟨version, code⟩ ∧
        bytes.int32At? 4 = some (bytes.length : Int) ∧ bytes.drop 8 = body ++ pad := by
  rw [ControlHeader.decode_eq_ok_iff]
  constructor
  · rintro ⟨hsize, hlayout⟩
    obtain ⟨size, hlength⟩ : ∃ size, size = bytes.length := ⟨_, rfl⟩
    rw [← hlength] at hlayout hsize ⊢
    have hfield : bytes.drop 4 = Bytes.be32 size ++ (body ++ pad) := by
      rw [hlayout]
      simp
    refine ⟨⟨Bytes.be32 size ++ (body ++ pad), ?_⟩, ?_, ?_⟩
    · rw [hlayout]
      simp
    · simp only [maxFrameSize] at hsize
      exact Bytes.int32At?_of_drop hfield (by omega)
    · rw [show bytes.drop 8 = (bytes.drop 4).drop 4 from by rw [List.drop_drop], hfield]
      rfl
  · rintro ⟨⟨rest, hrest⟩, hdeclared, hpad⟩
    rw [Bytes.int32At?, Bytes.word32At?] at hdeclared
    obtain ⟨hsize, hfield⟩ := Bytes.int32At?_zero_eq_natCast_iff.mp hdeclared
    have hbehind : bytes.drop 4 = rest := by
      rw [hrest]
      rfl
    rw [List.drop_drop, hpad, hbehind] at hfield
    refine ⟨Nat.le_of_lt_succ hsize, ?_⟩
    calc bytes = [0xA1, 0x6C, version, code] ++ rest := hrest
      _ = _ := by
        rw [hfield]
        simp only [List.append_assoc]

theorem spells_of_decode {bytes : Bytes} {m : ControlMessage} (h : decode bytes = .ok m) :
    ∃ code body pad, Spells m code body pad bytes := by
  unfold decode at h
  simp only [throw_bind_eq, bind_eq_ok_iff, throw_unless_eq_ok_iff, pure_eq_ok_iff,
    requireSize_eq_ok_iff, readControlSize_eq_ok_iff, checkDeclaredSize_eq_ok_iff] at h
  obtain ⟨-, -, ⟨version, code⟩, hheader, hversion, _, hdeclared, -, rfl, kind, hkind, body, hbody,
    rfl⟩ := h
  obtain rfl : code = kind.code := controlKind_of_ofCode hkind
  obtain rfl : version = 1 := hversion
  have hmax := (layout_iff.mpr ⟨hheader, hdeclared, (List.append_nil _).symm⟩).1
  obtain ⟨rfl, htyped, pad, hpad⟩ := (readBody_eq_ok_iff hmax).mp hbody
  have hlayout := (layout_iff.mpr ⟨hheader, hdeclared, hpad⟩).2
  exact ⟨body.kind.code, body.encode, pad, rfl, ControlBody.spelling_iff.mpr ⟨htyped, rfl, rfl⟩,
    hmax, hlayout⟩

theorem Spells.eight_le_length {bytes : Bytes} {m : ControlMessage} {code : UInt8}
    {body pad : Bytes} (h : Spells m code body pad bytes) : 8 ≤ bytes.length := by
  have hlength := congrArg List.length h.layout
  simp only [List.length_append, List.length_cons, Bytes.length_be32] at hlength
  omega

theorem decode_of_spells {bytes : Bytes} {m : ControlMessage} {code : UInt8} {body pad : Bytes}
    (h : Spells m code body pad bytes) : decode bytes = .ok m := by
  have hmin : FrameKind.control.minSize ≤ bytes.length := h.eight_le_length
  obtain ⟨hversion, hspelling, hsize, hlayout⟩ := h
  obtain ⟨htyped, rfl, rfl⟩ := ControlBody.spelling_iff.mp hspelling
  obtain ⟨hheader, hdeclared, hrest⟩ := layout_iff.mp ⟨hsize, hlayout⟩
  unfold decode
  simp only [throw_bind_eq, bind_eq_ok_iff, throw_unless_eq_ok_iff, pure_eq_ok_iff,
    requireSize_eq_ok_iff, readControlSize_eq_ok_iff, checkDeclaredSize_eq_ok_iff]
  refine ⟨(), hmin, _, hheader, rfl, _, hdeclared, (), rfl, _, ControlKind.ofCode_code _, _,
    (readBody_eq_ok_iff hsize).mpr ⟨rfl, htyped, pad, hrest⟩, ?_⟩
  rw [← hversion]

theorem encode_of_spells {bytes : Bytes} {m : ControlMessage} {code : UInt8} {body pad : Bytes}
    (h : Spells m code body pad bytes) :
    m.encode = .ok ([0xA1, 0x6C, 1, code] ++ Bytes.be32 (bytes.length - pad.length) ++ body) := by
  obtain ⟨hversion, hspelling, hsize, hlayout⟩ := h
  obtain ⟨-, rfl, rfl⟩ := ControlBody.spelling_iff.mp hspelling
  have hlength : bytes.length = m.encodedSize + pad.length := by
    rw [hlayout]
    simp only [List.length_append, List.length_cons, List.length_nil, Bytes.length_be32,
      length_encode_body, encodedSize, FrameKind.minSize]
  rw [encode_of_le (by omega), frame_eq, hversion, hlength, Nat.add_sub_cancel]
  simp

/-- The strict reader accepts the spellings of control messages of version 1, padded or not, and
refuses all else. Writing again what was read leaves out the padding and says the size without
it. -/
theorem decode_padded (bytes : Bytes) :
    (∀ m, decode bytes = .ok m ↔ ∃ code body pad, Spells m code body pad bytes) ∧
    (∀ m code body pad, Spells m code body pad bytes →
      m.encode = .ok ([0xA1, 0x6C, 1, code] ++ Bytes.be32 (bytes.length - pad.length) ++ body) ∧
        (m.encode = .ok bytes ↔ pad = [])) ∧
    ((∀ m code body pad, ¬Spells m code body pad bytes) → ∃ e, decode bytes = .error e) := by
  refine ⟨fun m => ⟨spells_of_decode, ?_⟩, fun m code body pad h => ?_, fun hnone => ?_⟩
  · rintro ⟨code, body, pad, h⟩
    exact decode_of_spells h
  · have hframe := encode_of_spells h
    refine ⟨hframe, ?_⟩
    rw [hframe, Except.ok.injEq]
    constructor
    · intro heq
      have hlength := congrArg List.length heq
      have hwhole := congrArg List.length h.layout
      simp only [List.length_append, List.length_cons, List.length_nil, Bytes.length_be32] at *
      exact List.eq_nil_of_length_eq_zero (by omega)
    · rintro rfl
      have hlayout := h.layout
      rw [List.append_nil] at hlayout
      exact hlayout.symm
  · cases hd : decode bytes with
    | error e => exact ⟨e, rfl⟩
    | ok m =>
      obtain ⟨code, body, pad, h⟩ := spells_of_decode hd
      exact absurd h (hnone m code body pad)

theorem decode_padded_request :
    let m : ControlMessage := { body := .create ⟨9, ⟨7, "ipc://é"⟩, [5]⟩ }
    decode ([0xA1, 0x6C, 1, 1, 0, 0, 0, 30, 9, 7, 0, 0, 0, 9, 105, 112, 99, 58, 47, 47, 195, 169, 0,
        0, 0, 0, 1, 5] ++ [4, 4]) = .ok m ∧
      m.encode = .ok [0xA1, 0x6C, 1, 1, 0, 0, 0, 28, 9, 7, 0, 0, 0, 9, 105, 112, 99, 58, 47, 47,
        195, 169, 0, 0, 0, 0, 1, 5] := by
  intro m
  have hspells : Spells m 1
      [9, 7, 0, 0, 0, 9, 105, 112, 99, 58, 47, 47, 195, 169, 0, 0, 0, 0, 1, 5] [4, 4]
      ([0xA1, 0x6C, 1, 1, 0, 0, 0, 30, 9, 7, 0, 0, 0, 9, 105, 112, 99, 58, 47, 47, 195, 169, 0,
        0, 0, 0, 1, 5] ++ [4, 4]) :=
    ⟨rfl, .create (by decide) (by decide), by decide, by decide⟩
  obtain ⟨hdecode, hencode, -⟩ := decode_padded
    ([0xA1, 0x6C, 1, 1, 0, 0, 0, 30, 9, 7, 0, 0, 0, 9, 105, 112, 99, 58, 47, 47, 195, 169, 0,
      0, 0, 0, 1, 5] ++ [4, 4])
  exact ⟨(hdecode m).mpr ⟨_, _, _, hspells⟩, (hencode m _ _ _ hspells).1⟩

end ControlMessage

end ModuleProxy
