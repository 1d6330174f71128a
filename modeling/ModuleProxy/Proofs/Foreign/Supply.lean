import ModuleProxy.Proofs.Foreign.Arguments

namespace ModuleProxy.Foreign

variable {π : Type}

namespace CodecCall

def Gives : CodecCall π → Except FormatError CodecResult → Prop
  | .messageCreate content size keys values count _, x => ∃ raw ks vs,
    AreBytes content size raw ∧ AreTexts keys count ks ∧ AreTexts values count vs ∧
      x = do
        let properties ← Properties.ofPairs (ks.zip vs)
        return .message { content := raw, properties }
  | .messageDecode data size _, x => ∃ given, data = some given ∧
    x = .message <$> Message.decode (given.take size)
  | .messageEncode h _, x => ∃ held, h = some held ∧ x = .frame <$> held.message.encode
  | .messageCopy h _, x => ∃ held, h = some held ∧ x = .ok (.message held.message)
  | .decodeHeader data size _ _, x => ∃ given, data = some given ∧
    x = .header <$> ControlHeader.decode (given.take size)
  | .decodeCreate data size _ _ _, x => ∃ given, data = some given ∧
    x = .request <$> CreateFrame.decode (given.take size)
  | .encodeCreate uri args size _, x => ∃ t raw, uri = some (Text.Utf8.encode t) ∧
    AreBytes args size raw ∧
      x = do
        let uri ← ChannelUri.ofText t
        .frame <$> ControlMessage.encode { body := .create { uri, args := raw } }
  | .encodeCreateReply succeeded _, x => x = .ok (.frame (createReply succeeded))
  | .encodeDetach _, x => x = .ok (.frame (replyFrame .detach))

def pointers : CodecCall π → List (String × Bool)
  | .messageCreate content size keys values count out =>
    [("content", isMissing content size), ("keys", isMissing keys count),
      ("values", isMissing values count), ("out", out.isNone)]
  | .messageDecode data _ out => [("data", data.isNone), ("out", out.isNone)]
  | .messageEncode h out | .messageCopy h out => [("message", h.isNone), ("out", out.isNone)]
  | .decodeHeader data _ version code =>
    [("data", data.isNone), ("out", version.isNone), ("out", code.isNone)]
  | .decodeCreate data _ _ uri args =>
    [("data", data.isNone), ("out", uri.isNone), ("out", args.isNone)]
  | .encodeCreate _ args size out => [("args", isMissing args size), ("out", out.isNone)]
  | .encodeCreateReply _ out | .encodeDetach out => [("out", out.isNone)]

def givenTexts : CodecCall π → List (String × Option Bytes)
  | .messageCreate _ _ keys values count _ =>
    ((keys.getD []).take count).map ("keys", ·) ++ ((values.getD []).take count).map ("values", ·)
  | .encodeCreate uri _ _ _ => [("uri", uri)]
  | _ => []

structure Supplied (call : CodecCall π) : Prop where
  pointers : ∀ pointer ∈ call.pointers, pointer.2 = false
  texts : ∀ given ∈ call.givenTexts, ∃ t, given.2 = some (Text.Utf8.encode t)

theorem supplied_of_outcome {call : CodecCall π} {result : CodecResult}
    (h : call.outcome = .ok result) : call.Supplied := by
  cases call with
  | messageCreate content size keys values count out =>
    simp only [outcome, bind_eq_ok_iff, bytes_eq_ok_iff, texts_eq_ok_iff, pointer_eq_ok_iff] at h
    obtain ⟨raw, hraw, ks, hks, vs, hvs, ps, hps, place, rfl, _⟩ := h
    refine ⟨?_, ?_⟩
    · simp [pointers, hraw.isMissing_eq_false, hks.isMissing_eq_false, hvs.isMissing_eq_false]
    · simp only [givenTexts, List.forall_mem_append, List.forall_mem_map]
      exact ⟨hks.exists_text, hvs.exists_text⟩
  | encodeCreate uri args size out =>
    simp only [outcome, bind_eq_ok_iff, bytes_eq_ok_iff, text_eq_ok_iff, pointer_eq_ok_iff] at h
    obtain ⟨t, rfl, raw, hraw, channel, _, frame, _, place, rfl, _⟩ := h
    refine ⟨?_, ?_⟩
    · simp [pointers, hraw.isMissing_eq_false]
    · intro given hgiven
      obtain rfl := List.mem_singleton.mp hgiven
      exact ⟨t, rfl⟩
  | messageDecode | messageEncode | messageCopy | decodeHeader | decodeCreate | encodeCreateReply
  | encodeDetach =>
    simp only [outcome, bind_eq_ok_iff, pointer_eq_ok_iff] at h
    refine ⟨?_, by simp [givenTexts]⟩
    simp only [pointers]
    grind

theorem gives_of_outcome {call : CodecCall π} {result : CodecResult}
    (h : call.outcome = .ok result) : call.Gives (.ok result) := by
  cases call <;>
    simp only [outcome, bind_eq_ok_iff, bytes_eq_ok_iff, texts_eq_ok_iff, text_eq_ok_iff,
      pointer_eq_ok_iff, ofFormat_eq_ok_iff, pure_eq_ok_iff] at h
  case messageCreate content size keys values count out =>
    obtain ⟨raw, hraw, ks, hks, vs, hvs, properties, hproperties, _, _, rfl⟩ := h
    exact ⟨raw, ks, vs, hraw, hks, hvs, by rw [hproperties]; rfl⟩
  case messageDecode data size out =>
    obtain ⟨given, hgiven, m, hm, _, _, rfl⟩ := h
    exact ⟨given, hgiven, by rw [hm]; rfl⟩
  case messageEncode handle out =>
    obtain ⟨held, hheld, frame, hframe, _, _, rfl⟩ := h
    exact ⟨held, hheld, by rw [hframe]; rfl⟩
  case messageCopy handle out =>
    obtain ⟨held, hheld, _, _, rfl⟩ := h
    exact ⟨held, hheld, rfl⟩
  case decodeHeader data size version code =>
    obtain ⟨given, hgiven, _, _, _, _, header, hheader, rfl⟩ := h
    exact ⟨given, hgiven, by rw [hheader]; rfl⟩
  case decodeCreate data size version uri args =>
    obtain ⟨given, hgiven, _, _, _, _, request, hrequest, rfl⟩ := h
    exact ⟨given, hgiven, by rw [hrequest]; rfl⟩
  case encodeCreate uri args size out =>
    obtain ⟨t, huri, raw, hraw, channel, hchannel, frame, hframe, _, _, rfl⟩ := h
    exact ⟨t, raw, huri, hraw, by rw [hchannel, ok_bind_eq, hframe]; rfl⟩
  case encodeCreateReply succeeded out =>
    obtain ⟨_, _, rfl⟩ := h
    rfl
  case encodeDetach out =>
    obtain ⟨_, _, rfl⟩ := h
    rfl

theorem outcome_of_gives {call : CodecCall π} {result : CodecResult} (hsupplied : call.Supplied)
    (h : call.Gives (.ok result)) : call.outcome = .ok result := by
  have hpointers := hsupplied.pointers
  cases call <;>
    simp only [pointers, List.forall_mem_cons, Option.isNone_eq_false_iff, Option.isSome_iff_exists]
      at hpointers <;>
    simp only [outcome, bind_eq_ok_iff, bytes_eq_ok_iff, texts_eq_ok_iff, text_eq_ok_iff,
      pointer_eq_ok_iff, ofFormat_eq_ok_iff, pure_eq_ok_iff]
  case messageCreate content size keys values count out =>
    obtain ⟨-, -, -, ⟨place, hout⟩, -⟩ := hpointers
    obtain ⟨raw, ks, vs, hraw, hks, hvs, hresult⟩ := h
    obtain ⟨properties, hproperties, hmade⟩ := bind_eq_ok_iff.mp hresult.symm
    exact ⟨raw, hraw, ks, hks, vs, hvs, properties, hproperties, place, hout,
      pure_eq_ok_iff.mp hmade⟩
  case messageDecode data size out =>
    obtain ⟨-, ⟨place, hout⟩, -⟩ := hpointers
    obtain ⟨given, hgiven, hresult⟩ := h
    obtain ⟨m, hm, hmade⟩ := map_eq_ok_iff.mp hresult.symm
    exact ⟨given, hgiven, m, hm, place, hout, hmade⟩
  case messageEncode handle out =>
    obtain ⟨-, ⟨place, hout⟩, -⟩ := hpointers
    obtain ⟨held, hheld, hresult⟩ := h
    obtain ⟨frame, hframe, hmade⟩ := map_eq_ok_iff.mp hresult.symm
    exact ⟨held, hheld, frame, hframe, place, hout, hmade⟩
  case messageCopy handle out =>
    obtain ⟨-, ⟨place, hout⟩, -⟩ := hpointers
    obtain ⟨held, hheld, hresult⟩ := h
    exact ⟨held, hheld, place, hout, Except.ok.inj hresult.symm⟩
  case decodeHeader data size version code =>
    obtain ⟨-, ⟨versionPlace, hversion⟩, ⟨codePlace, hcode⟩, -⟩ := hpointers
    obtain ⟨given, hgiven, hresult⟩ := h
    obtain ⟨header, hheader, hmade⟩ := map_eq_ok_iff.mp hresult.symm
    exact ⟨given, hgiven, versionPlace, hversion, codePlace, hcode, header, hheader, hmade⟩
  case decodeCreate data size version uri args =>
    obtain ⟨-, ⟨uriPlace, huri⟩, ⟨argsPlace, hargs⟩, -⟩ := hpointers
    obtain ⟨given, hgiven, hresult⟩ := h
    obtain ⟨request, hrequest, hmade⟩ := map_eq_ok_iff.mp hresult.symm
    exact ⟨given, hgiven, uriPlace, huri, argsPlace, hargs, request, hrequest, hmade⟩
  case encodeCreate uri args size out =>
    obtain ⟨-, ⟨place, hout⟩, -⟩ := hpointers
    obtain ⟨t, raw, huri, hraw, hresult⟩ := h
    obtain ⟨channel, hchannel, hencoded⟩ := bind_eq_ok_iff.mp hresult.symm
    obtain ⟨frame, hframe, hmade⟩ := map_eq_ok_iff.mp hencoded
    exact ⟨t, huri, raw, hraw, channel, hchannel, frame, hframe, place, hout, hmade⟩
  case encodeCreateReply succeeded out =>
    obtain ⟨⟨place, hout⟩, -⟩ := hpointers
    exact ⟨place, hout, Except.ok.inj h.symm⟩
  case encodeDetach out =>
    obtain ⟨⟨place, hout⟩, -⟩ := hpointers
    exact ⟨place, hout, Except.ok.inj h.symm⟩

theorem outcome_eq_ok_iff {call : CodecCall π} {result : CodecResult} :
    call.outcome = .ok result ↔ call.Supplied ∧ call.Gives (.ok result) := by
  constructor
  · intro h
    exact ⟨supplied_of_outcome h, gives_of_outcome h⟩
  · rintro ⟨hsupplied, hgives⟩
    exact outcome_of_gives hsupplied hgives

end CodecCall

end ModuleProxy.Foreign
