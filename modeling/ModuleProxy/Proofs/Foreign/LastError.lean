import ModuleProxy.Proofs.Foreign.Outcome

namespace ModuleProxy.Foreign

variable {π : Type} [DecidableEq π]

inductive CodedCall (π : Type) where
  | init
  | messagePropertyAt (h : Option Handle) (index : Nat) (key value : Option π)
  | codec (call : CodecCall π)

namespace CodedCall

def make : CodedCall π → Call π Unit
  | .init => Foreign.init
  | .messagePropertyAt h index key value => Foreign.messagePropertyAt h index key value
  | .codec call => call.make

def fault? : CodedCall π → Option Fault
  | .init => none
  | .messagePropertyAt h index key value => Foreign.fault? do
    let _ ← pointer "out" key
    let _ ← pointer "out" value
    let h ← pointer "message" h
    propertyAt h index
  | .codec call => Foreign.fault? call.outcome

def together : CodedCall π → List Fault
  | .init | .messagePropertyAt .. => []
  | .codec call => call.together

end CodedCall

namespace CodecCall

omit [DecidableEq π] in
theorem outcome_of_together {call : CodecCall π} {f : Fault} {rest : List Fault}
    (h : call.together = f :: rest) : call.outcome = .error f := by
  cases call with
  | messageCreate content size keys values count out =>
    unfold outcome
    cases hcontent : bytes "content" content size <;> cases hkeys : texts "keys" keys count <;>
      cases hvalues : texts "values" values count <;>
      simp_all [together, fault?] <;> rfl
  | encodeCreate uri args size out =>
    unfold outcome
    cases huri : text "uri" uri <;> cases hargs : bytes "args" args size <;>
      simp_all [together, fault?] <;> rfl
  | _ => cases h

omit [DecidableEq π] in
theorem getLast?_together {call : CodecCall π} {f : Fault} (h : call.outcome = .error f)
    (hone : call.together.length ≤ 1) : call.together.getLast?.getD f = f := by
  cases hfaults : call.together with
  | nil => rfl
  | cons g rest =>
    have hrest : rest = [] := by simpa [hfaults] using hone
    have hfirst := outcome_of_together hfaults
    rw [h] at hfirst
    cases hfirst
    rw [hrest]
    rfl

end CodecCall

theorem nul_not_mem_shownText (f : Fault) : '\x00' ∉ f.shownText.toList := by
  simp only [Fault.shownText, String.toList_ofList, List.mem_map, not_exists, not_and]
  intro c _
  split
  · decide
  · assumption

namespace CodedCall

def Tells (fault : Option Fault) (answer : Code × Caller π) : Prop :=
  (fault = none → answer.1 = .ok ∧ answer.2.lastError = "") ∧
    ∀ f, fault = some f → answer.1 = f.code ∧ answer.2.lastError = f.shownText

omit [DecidableEq π] in
theorem tells_error (f : Fault) (c : Caller π) :
    Tells (some f) (f.code, { c with lastError := f.shownText }) := by
  refine ⟨by rintro ⟨⟩, ?_⟩
  rintro _ ⟨⟩
  exact ⟨rfl, rfl⟩

omit [DecidableEq π] in
theorem tells_check_bind {α β : Type} {x : Except Fault α} {g : α → Call π Unit}
    {k : α → Except Fault β} {c : Caller π}
    (h : ∀ a, Tells (Foreign.fault? (k a)) ((g a).answer c)) :
    Tells (Foreign.fault? (x >>= k)) ((Call.check x >>= g).answer c) := by
  cases x with
  | ok a => exact h a
  | error f => exact tells_error f c

theorem tells_messagePropertyAt (h : Option Handle) (index : Nat) (key value : Option π)
    (c : Caller π) :
    let call : CodedCall π := .messagePropertyAt h index key value
    Tells call.fault? (call.make.answer c) := by
  apply tells_check_bind
  intro keyPlace
  apply tells_check_bind
  intro valuePlace
  apply tells_check_bind
  intro h
  cases propertyAt h index with
  | error f => exact tells_error f _
  | ok entry => exact ⟨fun _ => ⟨rfl, rfl⟩, by rintro _ ⟨⟩⟩

/-- A call that goes well leaves no text. One that fails answers with the code of its first fault
and leaves the text of that, but where several arguments looked at together are wrong, the text of
the last of those. -/
theorem lastError_tells (call : CodedCall π) (c : Caller π) :
    let answer := call.make.answer c
    (call.fault? = none → answer.1 = .ok ∧ answer.2.lastError = "") ∧
      ∀ f, call.fault? = some f → answer.1 = f.code ∧ f.code ≠ .ok ∧
        answer.2.lastError = (call.together.getLast?.getD f).shownText ∧
        '\x00' ∉ answer.2.lastError.toList ∧
        (call.together.length ≤ 1 → answer.2.lastError = f.shownText) := by
  intro answer
  cases call with
  | init => exact ⟨fun _ => ⟨rfl, rfl⟩, nofun⟩
  | messagePropertyAt h index key value =>
    obtain ⟨hok, hfault⟩ := tells_messagePropertyAt h index key value c
    refine ⟨hok, fun f hf => ?_⟩
    obtain ⟨hcode, htext⟩ := hfault f hf
    refine ⟨hcode, f.code_ne_ok, htext, ?_, fun _ => htext⟩
    exact htext ▸ nul_not_mem_shownText f
  | codec call =>
    have hanswer : answer = call.settle c call.outcome := call.answer_eq_settle c
    rw [hanswer]
    cases houtcome : call.outcome with
    | ok result =>
      refine ⟨fun _ => ⟨rfl, ?_⟩, ?_⟩
      · exact Placement.lastError_applyAll _ _
      · simp [fault?, Foreign.fault?, houtcome]
    | error f =>
      refine ⟨by simp [fault?, Foreign.fault?, houtcome], fun f' hf => ?_⟩
      obtain rfl : f = f' := by simpa [fault?, Foreign.fault?, houtcome] using hf
      refine ⟨rfl, f.code_ne_ok, rfl, nul_not_mem_shownText _, fun hone => ?_⟩
      exact congrArg Fault.shownText (CodecCall.getLast?_together houtcome hone)

/-- Without content and with a key that is no text, the code is of the one and the text of the
other. -/
theorem create_leaves_other_text :
    let call : CodedCall Unit := .codec
      (.messageCreate none 3 (some [some [0xFF]]) (some [some [0x76]]) 1 (some ()))
    let answer := call.make.answer {}
    call.fault? = some (.null "content") ∧ answer.1 = (Fault.null "content").code ∧
      answer.2.lastError = "keys must be valid UTF-8" ∧
      ¬∃ f ∈ call.together, answer.1 = f.code ∧ answer.2.lastError = f.shownText := by
  decide

end CodedCall

end ModuleProxy.Foreign
