import ModuleProxy.Control.Message
import ModuleProxy.Proofs.Field
import ModuleProxy.Proofs.Success

namespace ModuleProxy

namespace ChannelUri

def IsTyped (uri : ChannelUri) : Prop :=
  ofTyped uri.socketType uri.text = .ok uri

theorem isTyped_of_ofTyped {socketType : UInt8} {text : String} {uri : ChannelUri}
    (h : ofTyped socketType text = .ok uri) : uri.IsTyped := by
  unfold ofTyped at h
  split at h
  · rename_i hscheme
    cases h
    exact if_pos hscheme
  · cases h

theorem length_encode (uri : ChannelUri) : uri.encode.length = uri.encodedSize := by
  simp only [encode, encodedSize, List.length_append, List.length_cons, Bytes.length_be32,
    Text.Utf8.length_encode, List.length_nil]

theorem dropTerminator?_append (bytes : Bytes) : dropTerminator? (bytes ++ [0]) = some bytes := by
  simp [dropTerminator?]

theorem decodeAt_of_drop {uri : ChannelUri} {bytes rest : Bytes} {offset : Nat}
    (huri : uri.IsTyped) (hlt : Text.Utf8.size uri.text + 1 < 0x100000000)
    (h : bytes.drop offset = uri.encode ++ rest) :
    decodeAt bytes offset = .ok (uri, uri.encodedSize) := by
  have hword : Bytes.word32At? (uri.encode ++ rest) 1 = some (Text.Utf8.size uri.text + 1) := by
    have hfield : (uri.encode ++ rest).drop 1 = Bytes.be32 (Text.Utf8.size uri.text + 1) ++
        (Text.Utf8.encode uri.text ++ 0 :: rest) := by
      simp [encode]
    exact Bytes.word32At?_of_drop hfield hlt
  have hraw : ((uri.encode ++ rest).drop 5).take (Text.Utf8.size uri.text + 1) =
      Text.Utf8.encode uri.text ++ [0] := by
    have hrest : (uri.encode ++ rest).drop 5 = Text.Utf8.encode uri.text ++ [0] ++ rest := by
      simp [encode, Bytes.be32]
    rw [hrest]
    apply List.take_left'
    simp [Text.Utf8.length_encode]
  have hlength : (Text.Utf8.encode uri.text ++ [0]).length = Text.Utf8.size uri.text + 1 := by
    simp [Text.Utf8.length_encode]
  unfold decodeAt
  simp only [h, hword, pure_bind, hraw, hlength, ↓reduceIte, dropTerminator?_append,
    Text.Utf8.decode?_encode]
  have htyped : ofTyped uri.socketType uri.text = .ok uri := huri
  simp only [encode, List.cons_append, htyped]
  rfl

end ChannelUri

namespace Create

theorem length_encode (c : Create) : c.encode.length = c.encodedSize := by
  simp only [encode, encodedSize, List.length_append, List.length_cons, Bytes.length_be32,
    ChannelUri.length_encode]
  omega

theorem readBody_of_drop {c : Create} {bytes pad : Bytes} (huri : c.uri.IsTyped)
    (hsize : c.encodedSize < 0x80000000) (h : bytes.drop 8 = c.encode ++ pad) :
    readBody bytes = .ok c := by
  have hparts : Text.Utf8.size c.uri.text + 1 < 0x100000000 ∧ c.args.length < 0x80000000 := by
    unfold encodedSize ChannelUri.encodedSize at hsize
    omega
  have hrecord : bytes.drop 9 = c.uri.encode ++ (Bytes.be32 c.args.length ++ (c.args ++ pad)) := by
    have := congrArg (List.drop 1) h
    simpa [encode] using this
  have huriAt := ChannelUri.decodeAt_of_drop huri hparts.1 hrecord
  have hargs : bytes.drop (9 + c.uri.encodedSize) =
      Bytes.be32 c.args.length ++ (c.args ++ pad) := by
    rw [← List.drop_drop, hrecord, ← ChannelUri.length_encode]
    exact List.drop_left
  have hfield := Bytes.int32At?_of_drop hargs hparts.2
  have hrest : bytes.drop (9 + c.uri.encodedSize + 4) = c.args ++ pad := by
    rw [← List.drop_drop, hargs]
    rfl
  unfold readBody
  simp only [h, encode, List.cons_append, pure_bind, huriAt, ok_bind_eq, hfield, hrest]
  have hnonneg : ¬((c.args.length : Int) < 0) := by omega
  simp [hnonneg]

end Create

namespace ControlMessage

theorem length_encode_body (body : ControlBody) : body.encode.length = body.encodedSize := by
  cases body with
  | create request => exact request.length_encode
  | reply status => rfl
  | start => rfl
  | destroy => rfl

theorem frame_eq (m : ControlMessage) :
    m.frame = 0xA1 :: 0x6C :: m.version :: m.body.kind.code ::
      (Bytes.be32 m.encodedSize ++ m.body.encode) := rfl

theorem length_frame (m : ControlMessage) : m.frame.length = m.encodedSize := by
  simp only [frame_eq, encodedSize, List.length_cons, List.length_append, Bytes.length_be32,
    length_encode_body, FrameKind.minSize]
  omega

theorem drop_frame (m : ControlMessage) : m.frame.drop 8 = m.body.encode := rfl

theorem decodeHeader_frame (m : ControlMessage) : ControlHeader.decode m.frame = .ok m.header := by
  simp [ControlHeader.decode, ControlHeader.signatureFits, FrameKind.signature, frame_eq, header]

theorem readControlSize_frame {m : ControlMessage} (hsize : m.encodedSize ≤ maxFrameSize) :
    readControlSize m.frame = .ok (m.encodedSize : Int) := by
  have hfield : m.frame.drop 4 = Bytes.be32 m.encodedSize ++ m.body.encode := rfl
  simp only [maxFrameSize] at hsize
  have hint := Bytes.int32At?_of_drop hfield (by omega)
  unfold readControlSize
  rw [show FrameKind.control.sizeOffset = 4 from rfl, hint]

theorem requireSize_eq_ok {bytes : Bytes} {minimum : Nat} (h : minimum ≤ bytes.length) :
    requireSize bytes minimum = .ok () :=
  if_neg (Nat.not_lt.mpr h)

theorem readBody_frame_of_create {m : ControlMessage} {request : Create}
    (hbody : m.body = .create request) (hsize : m.encodedSize ≤ maxFrameSize)
    (huri : request.uri.IsTyped) : Create.readBody m.frame = .ok request := by
  have hrequest : request.encodedSize < 0x80000000 := by
    simp only [encodedSize, hbody, ControlBody.encodedSize, maxFrameSize, FrameKind.minSize] at hsize
    omega
  have hdrop : m.frame.drop 8 = request.encode ++ [] := by
    rw [drop_frame, hbody, List.append_nil]
    rfl
  exact Create.readBody_of_drop huri hrequest hdrop

theorem readBody_frame {m : ControlMessage} (hsize : m.encodedSize ≤ maxFrameSize)
    (huri : ∀ request, m.body = .create request → request.uri.IsTyped) :
    readBody m.frame m.body.kind = .ok m.body := by
  have hrest := m.drop_frame
  cases hbody : m.body with
  | create request =>
    have hread := readBody_frame_of_create hbody hsize (huri request hbody)
    have hlong : FrameKind.control.minSize + 10 ≤ m.frame.length := by
      rw [length_frame, encodedSize, hbody]
      simp only [ControlBody.encodedSize, Create.encodedSize, ChannelUri.encodedSize]
      omega
    simp [readBody, ControlBody.kind, requireSize_eq_ok hlong, hread]
  | reply status =>
    rw [hbody] at hrest
    simp [readBody, ControlBody.kind, FrameKind.minSize, hrest, ControlBody.encode,
      ReplyStatus.ofCode_code]
  | start => rfl
  | destroy => rfl

theorem decode_frame {m : ControlMessage} (hversion : m.version = controlVersion)
    (hsize : m.encodedSize ≤ maxFrameSize)
    (huri : ∀ request, m.body = .create request → request.uri.IsTyped) :
    decode m.frame = .ok m := by
  have hmin : FrameKind.control.minSize ≤ m.frame.length := by
    rw [length_frame]
    exact Nat.le_add_right ..
  have hkind : m.header.kind = .ok m.body.kind := ControlKind.ofCode_code m.body.kind
  have hheader : m.header.version = controlVersion := hversion
  have hbody := readBody_frame hsize huri
  unfold decode
  simp only [requireSize_eq_ok hmin, decodeHeader_frame, ok_bind_eq, hheader, ↓reduceIte,
    readControlSize_frame hsize, checkDeclaredSize, length_frame, hkind, hbody]
  rw [← hversion]
  rfl

theorem decodeCreate_frame {m : ControlMessage} {request : Create}
    (hbody : m.body = .create request) (hsize : m.encodedSize ≤ maxFrameSize)
    (huri : request.uri.IsTyped) : CreateFrame.decode m.frame = .ok ⟨m.header, request⟩ := by
  have hcode : m.header.code = ControlKind.create.code := by rw [header, hbody]; rfl
  have hread := readBody_frame_of_create hbody hsize huri
  unfold CreateFrame.decode
  simp only [decodeHeader_frame, ok_bind_eq, hcode, ↓reduceIte, readControlSize_frame hsize, hread,
    checkDeclaredSize, length_frame]
  rfl

theorem encode_of_le {m : ControlMessage} (h : m.encodedSize ≤ maxFrameSize) :
    m.encode = .ok m.frame :=
  if_neg (Nat.not_lt.mpr h)

theorem encode_of_lt {m : ControlMessage} (h : maxFrameSize < m.encodedSize) :
    m.encode = .error (.frameTooLarge m.encodedSize maxFrameSize) :=
  if_pos h

/-- A control message that fits has a frame of the announced size, from which both readers get it
back; one that does not fit has none. -/
theorem encode_decode (m : ControlMessage) (hversion : m.version = controlVersion)
    (huri : ∀ request, m.body = .create request →
      ∃ socketType text, ChannelUri.ofTyped socketType text = .ok request.uri) :
    (m.encodedSize ≤ maxFrameSize →
      ∃ bytes, m.encode = .ok bytes ∧ bytes.length = m.encodedSize ∧ decode bytes = .ok m ∧
        ∀ request, m.body = .create request →
          CreateFrame.decode bytes = .ok ⟨m.header, request⟩) ∧
    (m.encode = .error (.frameTooLarge m.encodedSize maxFrameSize) ↔
      maxFrameSize < m.encodedSize) := by
  have huri' : ∀ request, m.body = .create request → request.uri.IsTyped := by
    intro request hbody
    obtain ⟨socketType, text, h⟩ := huri request hbody
    exact ChannelUri.isTyped_of_ofTyped h
  refine ⟨fun hsize => ⟨m.frame, encode_of_le hsize, length_frame m, decode_frame hversion hsize huri',
    fun request hbody => decodeCreate_frame hbody hsize (huri' request hbody)⟩, ?_⟩
  constructor
  · intro herror
    refine Nat.lt_of_not_le fun hle => ?_
    rw [encode_of_le hle] at herror
    cases herror
  · exact encode_of_lt

theorem encode_decode_accented_uri :
    ∃ bytes, encode { body := .create ⟨9, ⟨7, "ipc://é"⟩, [0, 1]⟩ } = .ok bytes ∧
      bytes.length = 29 ∧ decode bytes = .ok { body := .create ⟨9, ⟨7, "ipc://é"⟩, [0, 1]⟩ } ∧
      CreateFrame.decode bytes = .ok ⟨⟨1, 1⟩, ⟨9, ⟨7, "ipc://é"⟩, [0, 1]⟩⟩ := by
  have hsize : encodedSize { body := .create ⟨9, ⟨7, "ipc://é"⟩, [0, 1]⟩ } = 29 := by decide
  have huri : ChannelUri.ofTyped 7 "ipc://é" = .ok ⟨7, "ipc://é"⟩ := if_pos (by decide)
  obtain ⟨bytes, hencode, hlength, hdecode, hcreate⟩ :=
    (encode_decode { body := .create ⟨9, ⟨7, "ipc://é"⟩, [0, 1]⟩ } rfl
      (by rintro request ⟨⟩; exact ⟨7, "ipc://é", huri⟩)).1 (by rw [hsize]; decide)
  exact ⟨bytes, hencode, hlength.trans hsize, hdecode, hcreate _ rfl⟩

end ControlMessage

end ModuleProxy
