import ModuleProxy.Proofs.Control.Grammar

namespace ModuleProxy

structure CreateFrame.Spells (f : CreateFrame) (pad bytes : Bytes) : Prop where
  code : f.header.code = 1
  typed : f.body.uri.IsTyped
  size_le : bytes.length ≤ maxFrameSize
  layout : bytes =
    [0xA1, 0x6C, f.header.version, f.header.code] ++ Bytes.be32 bytes.length ++ f.body.encode ++ pad

namespace CreateFrame

variable {bytes pad : Bytes} {f : CreateFrame} {body : Create} {version : UInt8}

theorem decode_eq_ok_iff : decode bytes = .ok f ↔ ∃ pad, Spells f pad bytes := by
  obtain ⟨⟨version, code⟩, body⟩ := f
  unfold decode
  simp only [throw_bind_eq, bind_eq_ok_iff, throw_unless_eq_ok_iff, pure_eq_ok_iff,
    ControlMessage.readControlSize_eq_ok_iff, ControlMessage.checkDeclaredSize_eq_ok_iff]
  constructor
  · rintro ⟨header, hheader, hcode, _, hdeclared, request, hbody, _, rfl, heq⟩
    cases heq
    have hmax := (ControlMessage.layout_iff.mpr ⟨hheader, hdeclared, (List.append_nil _).symm⟩).1
    obtain ⟨htyped, pad, hpad⟩ := (Create.readBody_eq_ok_iff hmax).mp hbody
    exact ⟨pad, hcode, htyped, hmax, (ControlMessage.layout_iff.mpr ⟨hheader, hdeclared, hpad⟩).2⟩
  · rintro ⟨pad, hcode, htyped, hsize, hlayout⟩
    obtain ⟨hheader, hdeclared, hpad⟩ := ControlMessage.layout_iff.mp ⟨hsize, hlayout⟩
    have hbody := (Create.readBody_eq_ok_iff hsize).mpr ⟨htyped, pad, hpad⟩
    exact ⟨⟨version, code⟩, hheader, hcode, _, hdeclared, body, hbody, (), rfl, rfl⟩

theorem decode_strict_iff :
    ControlMessage.decode bytes = .ok ⟨1, .create body⟩ ↔
      ∃ pad, Spells ⟨⟨1, 1⟩, body⟩ pad bytes := by
  constructor
  · intro h
    obtain ⟨code, spelt, pad, -, hspelling, hsize, hlayout⟩ := ControlMessage.spells_of_decode h
    obtain ⟨htyped, rfl, rfl⟩ := ControlBody.spelling_iff.mp hspelling
    exact ⟨pad, rfl, htyped body rfl, hsize, hlayout⟩
  · rintro ⟨pad, -, htyped, hsize, hlayout⟩
    have hbody : ∀ request, ControlBody.create body = .create request → request.uri.IsTyped := by
      rintro request ⟨⟩
      exact htyped
    have hspelling : (ControlBody.create body).Spelling 1 body.encode :=
      ControlBody.spelling_iff.mpr ⟨hbody, rfl, rfl⟩
    have hspells : ControlMessage.Spells ⟨1, .create body⟩ 1 body.encode pad bytes :=
      ⟨rfl, hspelling, hsize, hlayout⟩
    exact ControlMessage.decode_of_spells hspells

namespace Spells

theorem eighteen_le_length (h : Spells f pad bytes) : 18 ≤ bytes.length := by
  have hlength := congrArg List.length h.layout
  simp only [List.length_append, List.length_cons, List.length_nil, Bytes.length_be32,
    Create.length_encode, Create.encodedSize, ChannelUri.encodedSize] at hlength
  omega

theorem header_eq (h : Spells f pad bytes) : ControlHeader.decode bytes = .ok f.header :=
  (ControlMessage.layout_iff.mp ⟨h.size_le, h.layout⟩).1

theorem version_iff :
    Spells ⟨⟨version, 1⟩, body⟩ pad bytes ↔
      bytes[2]? = some version ∧ Spells ⟨⟨1, 1⟩, body⟩ pad (bytes.set 2 1) := by
  constructor
  · rintro ⟨hcode, htyped, hsize, hlayout⟩
    obtain ⟨rest, hrest⟩ : ∃ rest, rest = Bytes.be32 bytes.length ++ body.encode ++ pad := ⟨_, rfl⟩
    have hbytes : bytes = [0xA1, 0x6C, version, 1] ++ rest := by
      rw [hrest, ← List.append_assoc, ← List.append_assoc]
      exact hlayout
    refine ⟨by rw [hbytes]; rfl, rfl, htyped, by rwa [List.length_set], ?_⟩
    rw [List.length_set, List.append_assoc, List.append_assoc, ← List.append_assoc (Bytes.be32 _),
      ← hrest, hbytes]
    rfl
  · rintro ⟨hversion, hcode, htyped, hsize, hlayout⟩
    rw [List.length_set] at hsize hlayout
    refine ⟨rfl, htyped, hsize, ?_⟩
    obtain ⟨hlt, hget⟩ := List.getElem?_eq_some_iff.mp hversion
    have hback : (bytes.set 2 1).set 2 version = bytes := by
      rw [List.set_set, ← hget, List.set_getElem_self]
    rw [hlayout] at hback
    exact hback.symm

end Spells

theorem decode_strict_of_version (h : Spells f pad bytes) (hversion : f.header.version ≠ 1) :
    ControlMessage.decode bytes = .error (.unsupportedVersion f.header.version) := by
  have hmin : FrameKind.control.minSize ≤ bytes.length := by
    have hlong := h.eighteen_le_length
    simp only [FrameKind.minSize]
    omega
  have hother : ¬f.header.version = controlVersion := hversion
  unfold ControlMessage.decode
  simp only [ControlMessage.requireSize_eq_ok hmin, h.header_eq, ok_bind_eq, if_neg hother]
  rfl

/-- The two readers agree on the requests of version 1. The one for requests alone also takes those
of other versions: the frames that are such a request once their version byte says 1. What it takes
is never too short for the strict reader, which refuses it for its version or not at all. -/
theorem decode_agrees (bytes : Bytes) (body : Create) :
    (ControlMessage.decode bytes = .ok ⟨1, .create body⟩ ↔ decode bytes = .ok ⟨⟨1, 1⟩, body⟩) ∧
    (∀ version, decode bytes = .ok ⟨⟨version, 1⟩, body⟩ ↔
      bytes[2]? = some version ∧
        ControlMessage.decode (bytes.set 2 1) = .ok ⟨1, .create body⟩) ∧
    ∀ header, decode bytes = .ok ⟨header, body⟩ →
      header.code = 1 ∧
        ControlMessage.requireSize bytes (FrameKind.control.minSize + 10) = .ok () ∧
        ControlMessage.decode bytes =
          if header.version = 1 then .ok ⟨1, .create body⟩
          else .error (.unsupportedVersion header.version) := by
  refine ⟨decode_strict_iff.trans decode_eq_ok_iff.symm, fun version => ?_, fun header h => ?_⟩
  · rw [decode_eq_ok_iff, decode_strict_iff, ← exists_and_left]
    exact exists_congr fun pad => Spells.version_iff
  · obtain ⟨pad, hspells⟩ := decode_eq_ok_iff.mp h
    refine ⟨hspells.code, ControlMessage.requireSize_eq_ok hspells.eighteen_le_length, ?_⟩
    obtain ⟨version, code⟩ := header
    obtain rfl : code = 1 := hspells.code
    split
    · rename_i hcurrent
      obtain rfl : version = 1 := hcurrent
      exact decode_strict_iff.mpr ⟨pad, hspells⟩
    · rename_i hother
      exact decode_strict_of_version hspells hother

example : decode [0xA1, 0x6C, 9, 1, 0, 0, 0, 26, 1, 16, 0, 0, 0, 7, 105, 112, 99, 58, 47, 47, 0,
    0, 0, 0, 0, 4] = .ok ⟨⟨9, 1⟩, ⟨1, ⟨16, "ipc://"⟩, []⟩⟩ := by
  cbv

end CreateFrame

end ModuleProxy
