import ModuleProxy.Proofs.Foreign.Mirrors

namespace ModuleProxy.Foreign

open Text.Utf8 (encode decode?)

def deliver {π α : Type} [DecidableEq π] (made : Except Fault α) (out : Option π)
    (places : π → Option α) : π → Option α :=
  match made, out with
  | .ok a, some place => put place (some a) places
  | _, _ => places

inductive HandleSource (π : Type) where
  | create (content : Option Bytes) (size : Nat) (keys values : Option (List (Option Bytes)))
    (count : Nat)
  | decode (data : Option Bytes) (size : Nat)
  | copy (original : Option π)

inductive HandleCall (π : Type) where
  | make (source : HandleSource π) (out : Option π)
  | free (message : Option π)
  | elsewhere (change : Caller π → Caller π)

variable {π : Type} [DecidableEq π]

namespace HandleSource

def call (c : Caller π) (out : Option π) : HandleSource π → Call π Unit
  | create content size keys values count => messageCreate content size keys values count out
  | decode data size => messageDecode data size out
  | copy original => messageCopy (original.bind c.handles) out

def message (held : π → Option Message) : HandleSource π → Except Fault Message
  | create content size keys values count => do
    let content ← bytes "content" content size
    let keys ← texts "keys" keys count
    let values ← texts "values" values count
    let properties ← ofFormat (Properties.ofPairs (keys.zip values))
    return { content, properties }
  | decode data size => do
    let data ← pointer "data" data
    ofFormat (Message.decode (data.take size))
  | copy original => pointer "message" (original.bind held)

end HandleSource

namespace HandleCall

def on (c : Caller π) : HandleCall π → Caller π
  | make source out => ((source.call c out).answer c).2
  | free message => ((messageFree message).answer c).2
  | elsewhere change => { change c with handles := c.handles }

def place? : HandleCall π → Option π
  | make _ out | free out => out
  | elsewhere _ => none

/-- The messages that the handles at all places stand for after a call. -/
def keep (held : π → Option Message) : HandleCall π → π → Option Message
  | make source out => deliver (source.message held) out held
  | free message => message.elim held fun place => put place none held
  | elsewhere _ => held

def run (calls : List (HandleCall π)) : Caller π × (π → Option Message) :=
  calls.foldl (fun s call => (call.on s.1, call.keep s.2)) ({}, fun _ => none)

end HandleCall

theorem CodecCall.handles_of_outcome {call : CodecCall π} {made : Except Fault Message}
    {out : Option π}
    (houtcome : call.outcome = do
      let m ← made
      let _ ← pointer "out" out
      return .message m)
    (hplacements : ∀ m, call.placements (.message m) = out.toList.map (.handle · m))
    (c : Caller π) :
    (call.make.answer c).2.handles = deliver (Handle.ofMessage <$> made) out c.handles := by
  rw [answer_eq_settle, houtcome]
  cases made with
  | error f => rfl
  | ok m =>
    cases out with
    | none => rfl
    | some place =>
      simp only [pointer, ok_bind_eq, pure, Except.pure, settle, hplacements]
      rfl

structure Stands (c : Caller π) (held : π → Option Message) : Prop where
  handles_eq (place : π) : c.handles place = (held place).map Handle.ofMessage
  built (place : π) (m : Message) (h : held place = some m) : m.properties.Built

namespace Stands

variable {c : Caller π} {held : π → Option Message}

omit [DecidableEq π] in
theorem bind_handles (h : Stands c held) (place : Option π) :
    place.bind c.handles = (place.bind held).map Handle.ofMessage := by
  cases place with
  | none => rfl
  | some place => exact h.handles_eq place

theorem handles_make (h : Stands c held) (source : HandleSource π) (out : Option π) :
    ((source.call c out).answer c).2.handles =
      deliver (Handle.ofMessage <$> source.message held) out c.handles := by
  cases source with
  | create content size keys values count =>
    let call : CodecCall π := .messageCreate content size keys values count out
    apply call.handles_of_outcome _ (fun m => rfl)
    simp only [call, CodecCall.outcome, HandleSource.message, bind_assoc, pure_bind]
  | decode data size =>
    let call : CodecCall π := .messageDecode data size out
    apply call.handles_of_outcome _ (fun m => rfl)
    simp only [call, CodecCall.outcome, HandleSource.message, bind_assoc]
  | copy original =>
    let call : CodecCall π := .messageCopy (original.bind c.handles) out
    apply call.handles_of_outcome _ (fun m => rfl)
    simp only [call, CodecCall.outcome, HandleSource.message, h.bind_handles]
    cases original.bind held <;> rfl

omit [DecidableEq π] in
theorem built_message (h : Stands c held) {source : HandleSource π} {m : Message}
    (hm : source.message held = .ok m) : m.properties.Built := by
  cases source with
  | create content size keys values count =>
    simp only [HandleSource.message, bind_eq_ok_iff, ofFormat_eq_ok_iff, pure_eq_ok_iff] at hm
    obtain ⟨raw, -, ks, -, vs, -, properties, hproperties, rfl⟩ := hm
    exact Properties.built_of_ofPairs hproperties
  | decode data size =>
    simp only [HandleSource.message, bind_eq_ok_iff, ofFormat_eq_ok_iff] at hm
    obtain ⟨given, -, hdecode⟩ := hm
    obtain ⟨pairs, hspells, hput⟩ := Message.spells_of_decode hdecode
    rw [hput]
    exact Properties.Built.empty.putAll hspells.nulFree
  | copy original =>
    obtain ⟨place, -, hplace⟩ := Option.bind_eq_some_iff.mp (pointer_eq_ok_iff.mp hm)
    exact h.built place m hplace

theorem put (h : Stands c held) {next : Caller π} {place : π} {m? : Option Message}
    (hnext : next.handles = Foreign.put place (m?.map Handle.ofMessage) c.handles)
    (hbuilt : ∀ m, m? = some m → m.properties.Built) :
    Stands next (Foreign.put place m? held) where
  handles_eq other := by
    rw [hnext, Foreign.put, Foreign.put]
    split
    · rfl
    · exact h.handles_eq other
  built other m hm := by
    rw [Foreign.put] at hm
    split at hm
    · exact hbuilt m hm
    · exact h.built other m hm

omit [DecidableEq π] in
theorem same (h : Stands c held) {next : Caller π} (hnext : next.handles = c.handles) :
    Stands next held :=
  ⟨fun place => hnext ▸ h.handles_eq place, h.built⟩

theorem deliver (h : Stands c held) {next : Caller π} {made : Except Fault Message}
    {out : Option π}
    (hnext : next.handles = Foreign.deliver (Handle.ofMessage <$> made) out c.handles)
    (hbuilt : ∀ m, made = .ok m → m.properties.Built) :
    Stands next (Foreign.deliver made out held) := by
  cases made with
  | error f => exact h.same hnext
  | ok m =>
    cases out with
    | none => exact h.same hnext
    | some place =>
      apply h.put hnext
      rintro _ ⟨⟩
      exact hbuilt m rfl

theorem on (h : Stands c held) (call : HandleCall π) : Stands (call.on c) (call.keep held) := by
  cases call with
  | make source out => exact h.deliver (h.handles_make source out) fun m => h.built_message
  | free message =>
    cases message with
    | none => exact h
    | some place =>
      have hnext : ((HandleCall.free (some place)).on c).handles =
        Foreign.put place none c.handles := rfl
      exact h.put hnext nofun
  | elsewhere change => exact h.same rfl

end Stands

namespace HandleCall

theorem run_concat (calls : List (HandleCall π)) (call : HandleCall π) :
    run (calls ++ [call]) = (call.on (run calls).1, call.keep (run calls).2) := by
  rw [run, List.foldl_append]
  rfl

theorem stands_run (calls : List (HandleCall π)) : Stands (run calls).1 (run calls).2 := by
  induction calls using List.reverseRecOn with
  | nil => exact ⟨fun _ => rfl, nofun⟩
  | append_singleton calls call ih =>
    rw [run_concat]
    exact ih.on call

theorem keep_of_ne {held : π → Option Message} {call : HandleCall π} {place : π}
    (h : call.place? ≠ some place) : call.keep held place = held place := by
  cases call with
  | make source out =>
    change deliver (source.message held) out held place = held place
    cases source.message held with
    | error f => rfl
    | ok m =>
      cases out with
      | none => rfl
      | some other => exact if_neg fun heq => h (congrArg some heq.symm)
  | free message =>
    cases message with
    | none => rfl
    | some other => exact if_neg fun heq => h (congrArg some heq.symm)
  | elsewhere change => rfl

theorem held_of_untouched {before after : List (HandleCall π)} {place : π}
    (h : ∀ call ∈ after, call.place? ≠ some place) :
    (run (before ++ after)).2 place = (run before).2 place := by
  induction after using List.reverseRecOn with
  | nil => rw [List.append_nil]
  | append_singleton after call ih =>
    rw [List.forall_mem_append, List.forall_mem_singleton] at h
    rw [← List.append_assoc, run_concat]
    exact (keep_of_ne h.2).trans (ih h.1)

theorem exists_mirror (calls : List (HandleCall π)) {place : π} {m : Message}
    (h : (run calls).2 place = some m) :
    ∃ handle, (run calls).1.handles place = some handle ∧ handle.Mirrors π m := by
  have hstands := stands_run calls
  refine ⟨.ofMessage m, ?_, Handle.mirrors_ofMessage π (hstands.built place m h)⟩
  rw [hstands.handles_eq, h]
  rfl

/-- Whatever the calls, there are handles of just the messages that the codec gave for them and that
were not freed, and each answers as its message does. A copy goes on to do so when the original is
freed, until it is itself freed or replaced. -/
theorem handles_mirror (calls : List (HandleCall π)) :
    (∀ place, (run calls).2 place = none → (run calls).1.handles place = none) ∧
    (∀ place m, (run calls).2 place = some m →
      ∃ handle, (run calls).1.handles place = some handle ∧ handle.Mirrors π m) ∧
    ∀ original copy m, original ≠ copy → (run calls).2 original = some m →
      let freed := calls ++ [.make (.copy (some original)) (some copy), .free (some original)]
      (run freed).1.handles original = none ∧
        ∀ after, (∀ call ∈ after, call.place? ≠ some copy) →
          ∃ handle, (run (freed ++ after)).1.handles copy = some handle ∧ handle.Mirrors π m := by
  refine ⟨fun place h => ?_, fun place m => exists_mirror calls, ?_⟩
  · rw [(stands_run calls).handles_eq, h]
    rfl
  · intro original copy m hne hm freed
    have hfreed : (run freed).2 =
        put original none (deliver (pointer "message" ((run calls).2 original)) (some copy)
          (run calls).2) := by
      have hsplit : freed = calls ++ [.make (.copy (some original)) (some copy)] ++
        [.free (some original)] := List.append_cons ..
      rw [hsplit, run_concat, run_concat]
      rfl
    -- The original is freed at its own place only.
    rw [hm] at hfreed
    refine ⟨?_, fun after hafter => ?_⟩
    · rw [(stands_run freed).handles_eq, hfreed, put, if_pos rfl]
      rfl
    · apply exists_mirror
      rw [held_of_untouched hafter, hfreed, put, if_neg (Ne.symm hne)]
      exact if_pos rfl

end HandleCall

end ModuleProxy.Foreign
