import Mathlib.Data.List.Basic
import ModuleProxy.Proofs.Control.RoundTrip
import ModuleProxy.Proofs.Machine.Control

namespace ModuleProxy.ChannelUri

theorem dropTerminator?_eq_some_iff {bytes raw : Bytes} :
    dropTerminator? bytes = some raw ↔ bytes = raw ++ [0] := by
  constructor
  · intro h
    unfold dropTerminator? at h
    split at h
    · rename_i hlast
      cases h
      exact (List.dropLast_append_getLast? 0 hlast).symm
    · cases h
  · rintro rfl
    exact dropTerminator?_append raw

theorem isTyped_iff {uri : ChannelUri} :
    uri.IsTyped ↔ ipcScheme.toList <+: uri.text.toList ∧ '\x00' ∉ uri.text.toList := by
  unfold IsTyped ofTyped
  split
  · rename_i h
    simpa using h
  · rename_i h
    simpa using h

theorem eq_of_ofTyped {socketType : UInt8} {text : String} {uri : ChannelUri}
    (h : ofTyped socketType text = .ok uri) : uri = ⟨socketType, text⟩ := by
  unfold ofTyped at h
  split at h
  · cases h
    rfl
  · cases h

/-- From the offset on the bytes are the record of a URI whose size its field can tell. -/
structure StandsAt (uri : ChannelUri) (bytes : Bytes) (offset : Nat) : Prop where
  typed : uri.IsTyped
  size_lt : Text.Utf8.size uri.text + 1 < 0x100000000
  end_le : offset + uri.encodedSize ≤ bytes.length
  part : (bytes.drop offset).take uri.encodedSize = uri.encode

variable {uri : ChannelUri} {bytes rest : Bytes} {offset used : Nat}

theorem standsAt_of_drop (huri : uri.IsTyped) (hlt : Text.Utf8.size uri.text + 1 < 0x100000000)
    (h : bytes.drop offset = uri.encode ++ rest) : uri.StandsAt bytes offset := by
  have hlength := congrArg List.length h
  rw [List.length_drop, List.length_append, length_encode] at hlength
  -- A record is not empty, so the offset is within the bytes.
  have hpos : 0 < uri.encodedSize := Nat.succ_pos _
  refine ⟨huri, hlt, by omega, ?_⟩
  rw [h]
  exact List.take_left' uri.length_encode

theorem standsAt_append (huri : uri.IsTyped) (hlt : Text.Utf8.size uri.text + 1 < 0x100000000)
    (pre post : Bytes) : uri.StandsAt (pre ++ uri.encode ++ post) pre.length := by
  apply standsAt_of_drop huri hlt
  rw [List.append_assoc]
  exact List.drop_left

theorem StandsAt.drop_eq (h : uri.StandsAt bytes offset) :
    bytes.drop offset = uri.encode ++ bytes.drop (offset + uri.encodedSize) := by
  rw [← List.drop_drop, ← h.part]
  exact (List.take_append_drop _ _).symm

theorem standsAt_of_decodeAt (h : decodeAt bytes offset = .ok (uri, used)) :
    uri.StandsAt bytes offset ∧ used = uri.encodedSize := by
  unfold decodeAt at h
  cases hrecord : bytes.drop offset with
  | nil => simp [hrecord] at h
  | cons socketType record =>
    simp only [hrecord, throw_bind_eq, pure_bind] at h
    cases hsize : Bytes.word32At? (socketType :: record) 1 with
    | none => simp [hsize] at h
    | some size =>
      simp only [hsize, throw_unless_eq_ok_iff] at h
      obtain ⟨hlength, h⟩ := h
      obtain ⟨hlt, hfield⟩ := Bytes.leadingWord32?_eq_some_iff.mp hsize
      obtain ⟨behind, rfl⟩ : ∃ behind, record = Bytes.be32 size ++ behind := ⟨_, hfield⟩
      change (behind.take size).length = size at hlength
      split at h
      · cases h
      · rename_i raw hraw
        split at h
        · cases h
        · rename_i text htext
          obtain ⟨found, htyped, h⟩ := bind_eq_ok_iff.mp h
          cases h
          obtain rfl := eq_of_ofTyped htyped
          obtain rfl := Text.Utf8.eq_encode_of_decode? htext
          have hraw : behind.take size = Text.Utf8.encode text ++ [0] :=
            dropTerminator?_eq_some_iff.mp hraw
          obtain rfl : size = Text.Utf8.size text + 1 := by
            rw [← hlength, hraw, List.length_append, Text.Utf8.length_encode]
            rfl
          have hbehind : bytes.drop offset = encode ⟨socketType, text⟩ ++
              behind.drop (Text.Utf8.size text + 1) := by
            have hsplit := List.take_append_drop (Text.Utf8.size text + 1) behind
            rw [hraw] at hsplit
            rw [hrecord]
            conv_lhs => rw [← hsplit]
            simp [encode]
          exact ⟨standsAt_of_drop htyped hlt hbehind, rfl⟩

theorem decodeAt_eq_ok_iff :
    decodeAt bytes offset = .ok (uri, used) ↔ uri.StandsAt bytes offset ∧ used = uri.encodedSize := by
  constructor
  · exact standsAt_of_decodeAt
  · rintro ⟨h, rfl⟩
    exact decodeAt_of_drop h.typed h.size_lt h.drop_eq

/-- A record is read wherever it stands, whatever is before and behind it, and what is read stands
there. Reading by positions that are computed in words of 64 bits is no different. -/
theorem records_exact :
    (∀ (pre post : Bytes) (uri : ChannelUri), uri.IsTyped →
      Text.Utf8.size uri.text + 1 < 0x100000000 →
        decodeAt (pre ++ uri.encode ++ post) pre.length = .ok (uri, uri.encode.length)) ∧
    (∀ (bytes : Bytes) (offset : Nat) (uri : ChannelUri) (used : Nat),
      decodeAt bytes offset = .ok (uri, used) →
        uri.IsTyped ∧ offset + used ≤ bytes.length ∧ used = uri.encodedSize ∧
          (bytes.drop offset).take used = uri.encode) ∧
    (∀ (bytes : Bytes) (offset : Nat), bytes.length < 0x8000000000000000 →
      (Machine.decodeUri bytes offset).run = .ok (decodeAt bytes offset)) := by
  refine ⟨fun pre post uri huri hlt => ?_, fun bytes offset uri used h => ?_,
    fun bytes offset hlength => ?_⟩
  · rw [decodeAt_eq_ok_iff]
    exact ⟨standsAt_append huri hlt pre post, uri.length_encode⟩
  · obtain ⟨hstands, rfl⟩ := decodeAt_eq_ok_iff.mp h
    exact ⟨hstands.typed, hstands.end_le, rfl, hstands.part⟩
  · exact ((Machine.agrees_decodeUri hlength offset).imp fun _ _ hagrees => hagrees.1).run_eq

theorem records_exact_accented_uri :
    let uri : ChannelUri := ⟨7, "ipc://é"⟩
    let bytes : Bytes := [0xFF, 0] ++ [7, 0, 0, 0, 9, 105, 112, 99, 58, 47, 47, 195, 169, 0] ++ [0]
    decodeAt bytes 2 = .ok (uri, 14) ∧ (bytes.drop 2).take 14 = uri.encode ∧
      (Machine.decodeUri bytes 2).run = .ok (.ok (uri, 14)) := by
  intro uri bytes
  obtain ⟨hread, hstands, hmachine⟩ := records_exact
  have huri : uri.IsTyped := if_pos (by decide)
  have hencode : uri.encode = [7, 0, 0, 0, 9, 105, 112, 99, 58, 47, 47, 195, 169, 0] := by decide
  have hat : decodeAt bytes 2 = .ok (uri, 14) := by
    have h := hread [0xFF, 0] [0] uri huri (by decide)
    rwa [hencode] at h
  obtain ⟨-, -, -, hpart⟩ := hstands bytes 2 uri 14 hat
  refine ⟨hat, hpart, ?_⟩
  rw [hmachine bytes 2 (by decide), hat]

example : (Machine.decodeUri [7, 0, 0, 0, 1, 0] 0xFFFFFFFFFFFFFFFF).run =
    .ok (.error (.truncated "uri type" 1 0)) := by
  decide

end ModuleProxy.ChannelUri
