import ModuleProxy.Proofs.Foreign.Supply

namespace ModuleProxy.Foreign

variable {π : Type}

namespace CodecCall

inductive Blames (call : CodecCall π) : Fault → Prop where
  | nullPointer {name : String} (h : (name, true) ∈ call.pointers) : Blames call (.null name)
  | nullText {name : String} (h : (name, none) ∈ call.givenTexts) : Blames call (.null name)
  | noText {name : String} {raw : Bytes} (h : (name, some raw) ∈ call.givenTexts)
    (hraw : ∀ t, raw ≠ Text.Utf8.encode t) :
    Blames call (.invalid (name ++ " must be valid UTF-8"))
  | codec {e : FormatError} (h : call.Gives (.error e)) : Blames call (.format e)

namespace Blames

variable {call : CodecCall π} {f : Fault}

theorem of_pointer {α : Type} {name : String} {p : Option α} (h : pointer name p = .error f)
    (hmem : (name, p.isNone) ∈ call.pointers) : Blames call f := by
  obtain ⟨rfl, rfl⟩ := pointer_eq_error h
  exact .nullPointer hmem

theorem of_bytes {name : String} {data : Option Bytes} {size : Nat}
    (h : bytes name data size = .error f) (hmem : (name, isMissing data size) ∈ call.pointers) :
    Blames call f := by
  obtain ⟨hsize, rfl, rfl⟩ := bytes_eq_error h
  rw [isMissing_none hsize] at hmem
  exact .nullPointer hmem

theorem of_text {name : String} {given : Option Bytes} (h : text name given = .error f)
    (hmem : (name, given) ∈ call.givenTexts) : Blames call f := by
  obtain ⟨rfl, rfl⟩ | ⟨raw, rfl, hraw, rfl⟩ := text_eq_error h
  · exact .nullText hmem
  · exact .noText hmem hraw

theorem of_texts {name : String} {items : Option (List (Option Bytes))} {count : Nat}
    (h : texts name items count = .error f) (hmem : (name, isMissing items count) ∈ call.pointers)
    (htexts : ∀ given ∈ (items.getD []).take count, (name, given) ∈ call.givenTexts) :
    Blames call f := by
  obtain ⟨hcount, rfl, rfl⟩ | ⟨given, hgiven, htext⟩ := texts_eq_error h
  · rw [isMissing_none hcount] at hmem
    exact .nullPointer hmem
  · exact of_text htext (htexts given hgiven)

theorem of_codec {α : Type} {x : Except FormatError α} (h : ofFormat x = .error f)
    (hgives : ∀ e, x = .error e → call.Gives (.error e)) : Blames call f := by
  obtain ⟨e, he, rfl⟩ := ofFormat_eq_error h
  exact .codec (hgives e he)

end Blames

theorem blames_of_outcome {call : CodecCall π} {f : Fault} (h : call.outcome = .error f) :
    Blames call f := by
  cases call <;>
    simp only [outcome, bind_eq_error_iff, bytes_eq_ok_iff, texts_eq_ok_iff, text_eq_ok_iff,
      ofFormat_eq_ok_iff] at h
  case messageCreate content size keys values count out =>
    obtain hcontent | ⟨raw, hraw, hkeys | ⟨ks, hks, hvalues | ⟨vs, hvs, hproperties |
      ⟨properties, hproperties, hout | ⟨place, hplace, h⟩⟩⟩⟩⟩ := h
    · exact .of_bytes hcontent (by simp [pointers])
    · apply Blames.of_texts hkeys (by simp [pointers])
      intro given hgiven
      exact List.mem_append_left _ (List.mem_map_of_mem hgiven)
    · apply Blames.of_texts hvalues (by simp [pointers])
      intro given hgiven
      exact List.mem_append_right _ (List.mem_map_of_mem hgiven)
    · apply Blames.of_codec hproperties
      intro e he
      exact ⟨raw, ks, vs, hraw, hks, hvs, by rw [he]; rfl⟩
    · exact .of_pointer hout (by simp [pointers])
    · cases h
  case messageDecode data size out =>
    obtain hdata | ⟨given, hgiven, hm | ⟨m, hm, hout | ⟨place, hplace, h⟩⟩⟩ := h
    · exact .of_pointer hdata (by simp [pointers])
    · apply Blames.of_codec hm
      intro e he
      exact ⟨given, pointer_eq_ok_iff.mp hgiven, by rw [he]; rfl⟩
    · exact .of_pointer hout (by simp [pointers])
    · cases h
  case messageEncode handle out =>
    obtain hhandle | ⟨held, hheld, hframe | ⟨frame, hframe, hout | ⟨place, hplace, h⟩⟩⟩ := h
    · exact .of_pointer hhandle (by simp [pointers])
    · apply Blames.of_codec hframe
      intro e he
      exact ⟨held, pointer_eq_ok_iff.mp hheld, by rw [he]; rfl⟩
    · exact .of_pointer hout (by simp [pointers])
    · cases h
  case messageCopy handle out =>
    obtain hhandle | ⟨held, hheld, hout | ⟨place, hplace, h⟩⟩ := h
    · exact .of_pointer hhandle (by simp [pointers])
    · exact .of_pointer hout (by simp [pointers])
    · cases h
  case decodeHeader data size version code =>
    obtain hdata | ⟨given, hgiven, hversion | ⟨_, _, hcode | ⟨_, _, hheader |
      ⟨header, hheader, h⟩⟩⟩⟩ := h
    · exact .of_pointer hdata (by simp [pointers])
    · exact .of_pointer hversion (by simp [pointers])
    · exact .of_pointer hcode (by simp [pointers])
    · apply Blames.of_codec hheader
      intro e he
      exact ⟨given, pointer_eq_ok_iff.mp hgiven, by rw [he]; rfl⟩
    · cases h
  case decodeCreate data size version uri args =>
    obtain hdata | ⟨given, hgiven, huri | ⟨_, _, hargs | ⟨_, _, hrequest |
      ⟨request, hrequest, h⟩⟩⟩⟩ := h
    · exact .of_pointer hdata (by simp [pointers])
    · exact .of_pointer huri (by simp [pointers])
    · exact .of_pointer hargs (by simp [pointers])
    · apply Blames.of_codec hrequest
      intro e he
      exact ⟨given, pointer_eq_ok_iff.mp hgiven, by rw [he]; rfl⟩
    · cases h
  case encodeCreate uri args size out =>
    obtain huri | ⟨t, huri, hargs | ⟨raw, hraw, hchannel | ⟨channel, hchannel, hframe |
      ⟨frame, hframe, hout | ⟨place, hplace, h⟩⟩⟩⟩⟩ := h
    · exact .of_text huri (by simp [givenTexts])
    · exact .of_bytes hargs (by simp [pointers])
    · apply Blames.of_codec hchannel
      intro e he
      exact ⟨t, raw, huri, hraw, by rw [he]; rfl⟩
    · apply Blames.of_codec hframe
      intro e he
      exact ⟨t, raw, huri, hraw, by rw [hchannel, ok_bind_eq, he]; rfl⟩
    · exact .of_pointer hout (by simp [pointers])
    · cases h
  case encodeCreateReply succeeded out =>
    obtain hout | ⟨place, hplace, h⟩ := h
    · exact .of_pointer hout (by simp [pointers])
    · cases h
  case encodeDetach out =>
    obtain hout | ⟨place, hplace, h⟩ := h
    · exact .of_pointer hout (by simp [pointers])
    · cases h

end CodecCall

end ModuleProxy.Foreign
