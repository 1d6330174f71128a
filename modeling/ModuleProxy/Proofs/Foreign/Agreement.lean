import ModuleProxy.Proofs.Foreign.Blame

/-!
The calls for other languages agree with the codec: such a call goes well just where it is given
what it needs and the codec succeeds, and then what the codec gives is where the caller wants it.
Any other call leaves all that as it was, and its code is that of a null pointer, of a text that is
none, or of the codec's error.
-/

namespace ModuleProxy.Foreign

variable {π : Type}

namespace Placement

/-- The result is where it was to go, a buffer without bytes as a null pointer and no length. -/
def Done : Placement π → Caller π → Prop
  | .handle place m, c => c.handles place = some (.ofMessage m)
  | .buffer place raw, c =>
    c.buffers place = if raw = [] then ⟨none, 0⟩ else ⟨some raw, raw.length⟩
  | .byte place b, c => c.bytes place = b

variable [DecidableEq π]

theorem done_apply (p : Placement π) (c : Caller π) : p.Done (p.apply c) := by
  cases p <;> simp [Done, apply, put, Buffer.ofBytes]

theorem Done.apply {p q : Placement π} {c : Caller π} (h : p.Done c) (hne : p.place ≠ q.place) :
    p.Done (q.apply c) := by
  cases p <;> cases q <;> simp_all [Done, Placement.apply, place, put]

theorem Done.applyAll {p : Placement π} {c : Caller π} (h : p.Done c)
    {placements : List (Placement π)} (hne : p.place ∉ placements.map place) :
    p.Done (applyAll placements c) := by
  induction placements generalizing c with
  | nil => exact h
  | cons q placements ih =>
    rw [List.map_cons, List.mem_cons, not_or] at hne
    exact ih (h.apply hne.1) hne.2

theorem done_applyAll {placements : List (Placement π)} (h : (placements.map place).Nodup)
    (c : Caller π) : ∀ p ∈ placements, p.Done (applyAll placements c) := by
  induction placements generalizing c with
  | nil => simp
  | cons q placements ih =>
    rw [List.map_cons, List.nodup_cons] at h
    intro p hp
    obtain rfl | hp := List.mem_cons.mp hp
    · exact (p.done_apply c).applyAll h.1
    · exact ih h.2 (q.apply c) p hp

end Placement

namespace CodecCall

def outs : CodecCall π → List π
  | .messageCreate _ _ _ _ _ out | .messageDecode _ _ out | .messageEncode _ out
  | .messageCopy _ out | .encodeCreate _ _ _ out | .encodeCreateReply _ out | .encodeDetach out =>
    out.toList
  | .decodeHeader _ _ version code => version.toList ++ code.toList
  | .decodeCreate _ _ version uri args => version.toList ++ uri.toList ++ args.toList

theorem map_place_placements {call : CodecCall π} {result : CodecResult}
    (h : call.Gives (.ok result)) :
    (call.placements result).map Placement.place = call.outs := by
  cases call
  case messageCreate content size keys values count out =>
    obtain ⟨raw, ks, vs, -, -, -, hresult⟩ := h
    obtain ⟨properties, -, hmade⟩ := bind_eq_ok_iff.mp hresult.symm
    obtain rfl := pure_eq_ok_iff.mp hmade
    simp [placements, outs, Function.comp_def, Placement.place]
  case messageDecode | messageEncode | decodeHeader | decodeCreate =>
    obtain ⟨given, -, hresult⟩ := h
    obtain ⟨made, -, rfl⟩ := map_eq_ok_iff.mp hresult.symm
    simp [placements, outs, Function.comp_def, Placement.place]
  case encodeCreate uri args size out =>
    obtain ⟨t, raw, -, -, hresult⟩ := h
    obtain ⟨channel, -, hencoded⟩ := bind_eq_ok_iff.mp hresult.symm
    obtain ⟨frame, -, rfl⟩ := map_eq_ok_iff.mp hencoded
    simp [placements, outs, Function.comp_def, Placement.place]
  case messageCopy handle out =>
    obtain ⟨held, -, hresult⟩ := h
    obtain rfl := Except.ok.inj hresult
    simp [placements, outs, Function.comp_def, Placement.place]
  case encodeCreateReply | encodeDetach =>
    obtain rfl := Except.ok.inj h
    simp [placements, outs, Function.comp_def, Placement.place]

variable [DecidableEq π]

/-- A call goes well just where it is given what it needs and the codec succeeds. What the codec
gives is then at the places for it, and nothing else has changed. A call that fails changes no
place. -/
theorem agrees_with_codec (call : CodecCall π) (c : Caller π) :
    let answer := call.make.answer c
    (answer.1 = .ok ↔ call.Supplied ∧ ∃ result, call.Gives (.ok result)) ∧
      (∀ result, answer.1 = .ok → call.Gives (.ok result) →
        answer.2 = Placement.applyAll (call.placements result) { c with lastError := "" } ∧
          (call.placements result).map Placement.place = call.outs ∧
          (call.outs.Nodup → ∀ p ∈ call.placements result, p.Done answer.2)) ∧
      (answer.1 ≠ .ok → (∃ f, Blames call f ∧ answer.1 = f.code) ∧
        answer.2 = { c with lastError := answer.2.lastError }) := by
  intro answer
  have hanswer : answer = call.settle c call.outcome := call.answer_eq_settle c
  cases houtcome : call.outcome with
  | ok result =>
    rw [houtcome] at hanswer
    obtain ⟨hsupplied, hgives⟩ := outcome_eq_ok_iff.mp houtcome
    have hok : answer.1 = .ok := congrArg Prod.fst hanswer
    refine ⟨iff_of_true hok ⟨hsupplied, result, hgives⟩, ?_, fun hne => absurd hok hne⟩
    intro result' _ hgives'
    have hsame := outcome_of_gives hsupplied hgives'
    rw [houtcome] at hsame
    cases hsame
    have hplaces := map_place_placements hgives
    have hcaller : answer.2 = _ := congrArg Prod.snd hanswer
    refine ⟨hcaller, hplaces, fun hdistinct => ?_⟩
    rw [hcaller]
    apply Placement.done_applyAll
    rwa [hplaces]
  | error f =>
    rw [houtcome] at hanswer
    have hcode : answer.1 = f.code := congrArg Prod.fst hanswer
    have hne : answer.1 ≠ .ok := hcode ▸ f.code_ne_ok
    refine ⟨iff_of_false hne ?_, fun _ hok => absurd hok hne, fun _ => ⟨?_, ?_⟩⟩
    · rintro ⟨hsupplied, result, hgives⟩
      have hok := outcome_of_gives hsupplied hgives
      rw [houtcome] at hok
      cases hok
    · exact ⟨f, blames_of_outcome houtcome, hcode⟩
    · rw [hanswer]
      rfl

end CodecCall

end ModuleProxy.Foreign
