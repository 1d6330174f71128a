import ModuleProxy.Foreign
import ModuleProxy.Proofs.Success

namespace ModuleProxy.Foreign

variable {π : Type} [DecidableEq π]

inductive CodecCall (π : Type) where
  | messageCreate (content : Option Bytes) (size : Nat) (keys values : Option (List (Option Bytes)))
    (count : Nat) (out : Option π)
  | messageDecode (data : Option Bytes) (size : Nat) (out : Option π)
  | messageEncode (h : Option Handle) (out : Option π)
  | messageCopy (h : Option Handle) (out : Option π)
  | decodeHeader (data : Option Bytes) (size : Nat) (version code : Option π)
  | decodeCreate (data : Option Bytes) (size : Nat) (version uri args : Option π)
  | encodeCreate (uri args : Option Bytes) (size : Nat) (out : Option π)
  | encodeCreateReply (succeeded : Bool) (out : Option π)
  | encodeDetach (out : Option π)

inductive CodecResult where
  | message (m : Message)
  | frame (raw : Bytes)
  | header (h : ControlHeader)
  | request (r : CreateFrame)

inductive Placement (π : Type) where
  | handle (place : π) (m : Message)
  | buffer (place : π) (raw : Bytes)
  | byte (place : π) (b : UInt8)

namespace Placement

def place : Placement π → π
  | .handle place _ | .buffer place _ | .byte place _ => place

def apply : Placement π → Caller π → Caller π
  | .handle place m, c => { c with handles := put place (some (.ofMessage m)) c.handles }
  | .buffer place raw, c => { c with buffers := put place (.ofBytes raw) c.buffers }
  | .byte place b, c => { c with bytes := put place b c.bytes }

def applyAll (placements : List (Placement π)) (c : Caller π) : Caller π :=
  placements.foldl (fun c p => p.apply c) c

theorem lastError_apply (p : Placement π) (c : Caller π) :
    (p.apply c).lastError = c.lastError := by
  cases p <;> rfl

theorem lastError_applyAll (placements : List (Placement π)) (c : Caller π) :
    (applyAll placements c).lastError = c.lastError := by
  induction placements generalizing c with
  | nil => rfl
  | cons p placements ih => exact (ih (p.apply c)).trans (p.lastError_apply c)

end Placement

namespace CodecCall

def make : CodecCall π → Call π Unit
  | .messageCreate content size keys values count out =>
    Foreign.messageCreate content size keys values count out
  | .messageDecode data size out => Foreign.messageDecode data size out
  | .messageEncode h out => Foreign.messageEncode h out
  | .messageCopy h out => Foreign.messageCopy h out
  | .decodeHeader data size version code => Foreign.decodeHeader data size version code
  | .decodeCreate data size version uri args => Foreign.decodeCreate data size version uri args
  | .encodeCreate uri args size out => Foreign.encodeCreate uri args size out
  | .encodeCreateReply succeeded out => Foreign.encodeCreateReply succeeded out
  | .encodeDetach out => Foreign.encodeDetach out

def outcome : CodecCall π → Except Fault CodecResult
  | .messageCreate content size keys values count out => do
    let content ← bytes "content" content size
    let keys ← texts "keys" keys count
    let values ← texts "values" values count
    let properties ← ofFormat (Properties.ofPairs (keys.zip values))
    let _ ← pointer "out" out
    return .message { content, properties }
  | .messageDecode data size out => do
    let data ← pointer "data" data
    let m ← ofFormat (Message.decode (data.take size))
    let _ ← pointer "out" out
    return .message m
  | .messageEncode h out => do
    let h ← pointer "message" h
    let frame ← ofFormat h.message.encode
    let _ ← pointer "out" out
    return .frame frame
  | .messageCopy h out => do
    let h ← pointer "message" h
    let _ ← pointer "out" out
    return .message h.message
  | .decodeHeader data size version code => do
    let data ← pointer "data" data
    let _ ← pointer "out" version
    let _ ← pointer "out" code
    let header ← ofFormat (ControlHeader.decode (data.take size))
    return .header header
  | .decodeCreate data size _ uri args => do
    let data ← pointer "data" data
    let _ ← pointer "out" uri
    let _ ← pointer "out" args
    let request ← ofFormat (CreateFrame.decode (data.take size))
    return .request request
  | .encodeCreate uri args size out => do
    let uri ← text "uri" uri
    let args ← bytes "args" args size
    let uri ← ofFormat (ChannelUri.ofText uri)
    let frame ← ofFormat (ControlMessage.encode { body := .create { uri, args } })
    let _ ← pointer "out" out
    return .frame frame
  | .encodeCreateReply succeeded out => do
    let _ ← pointer "out" out
    return .frame (createReply succeeded)
  | .encodeDetach out => do
    let _ ← pointer "out" out
    return .frame (replyFrame .detach)

def placements : CodecCall π → CodecResult → List (Placement π)
  | .messageCreate _ _ _ _ _ out, .message m | .messageDecode _ _ out, .message m
  | .messageCopy _ out, .message m => out.toList.map (.handle · m)
  | .messageEncode _ out, .frame raw | .encodeCreate _ _ _ out, .frame raw
  | .encodeCreateReply _ out, .frame raw | .encodeDetach out, .frame raw =>
    out.toList.map (.buffer · raw)
  | .decodeHeader _ _ version code, .header h =>
    version.toList.map (.byte · h.version) ++ code.toList.map (.byte · h.code)
  | .decodeCreate _ _ version uri args, .request r =>
    version.toList.map (.byte · r.body.messageVersion) ++
      uri.toList.map (.buffer · (Text.Utf8.encode r.body.uri.text)) ++
      args.toList.map (.buffer · r.body.args)
  | _, _ => []

end CodecCall

def fault? {α : Type} : Except Fault α → Option Fault
  | .ok _ => none
  | .error f => some f

/-- The faults of the arguments that a call looks at before it ends for any of them. -/
def CodecCall.together : CodecCall π → List Fault
  | .messageCreate content size keys values count _ =>
    [fault? (bytes "content" content size), fault? (texts "keys" keys count),
      fault? (texts "values" values count)].filterMap id
  | .encodeCreate uri args size _ =>
    [fault? (text "uri" uri), fault? (bytes "args" args size)].filterMap id
  | _ => []

omit [DecidableEq π] in
theorem bytes_some (name : String) (data : Bytes) (size : Nat) :
    bytes name (some data) size = .ok (data.take size) := by
  unfold bytes
  split
  · simp_all
  · rfl

@[simp] theorem pointer_eq_ok_iff {α : Type} {name : String} {p : Option α} {a : α} :
    pointer name p = .ok a ↔ p = some a := by
  cases p <;> simp [pointer]

theorem put_put {α : Type} (place : π) (a b : α) (places : π → α) :
    put place b (put place a places) = put place b places := by
  funext p
  simp only [put]
  split <;> rfl

theorem setBuffer_setBuffer (place : π) (a b : Buffer) :
    (do setBuffer place a; setBuffer place b) = setBuffer place b := by
  funext c
  simp only [setBuffer, Call.change_bind, Call.change, put_put]

theorem writeBuffer_some (place : π) (raw : Bytes) :
    writeBuffer (some place) raw = Call.change (Placement.buffer place raw).apply :=
  setBuffer_setBuffer place {} (.ofBytes raw)

namespace CodecCall

def settle (call : CodecCall π) (c : Caller π) : Except Fault CodecResult → Code × Caller π
  | .ok result => (.ok, Placement.applyAll (call.placements result) { c with lastError := "" })
  | .error f => (f.code, { c with lastError := (call.together.getLast?.getD f).shownText })

theorem settle_error {call : CodecCall π} (h : call.together = []) (f : Fault) (c : Caller π) :
    call.settle c (.error f) = (f.code, { c with lastError := f.shownText }) := by
  rw [settle, h]
  rfl

theorem answer_check_bind {call : CodecCall π} (h : call.together = []) {α : Type}
    {x : Except Fault α} {g : α → Call π Unit} {k : α → Except Fault CodecResult} {c : Caller π}
    (hnext : ∀ a, x = .ok a → (g a).answer { c with lastError := "" } = call.settle c (k a)) :
    (Call.check x >>= g).answer { c with lastError := "" } = call.settle c (x >>= k) := by
  cases x with
  | error f => exact (settle_error h f c).symm
  | ok a => exact hnext a rfl

theorem answer_writeHandle {call : CodecCall π} (h : call.together = []) {out : Option π}
    {m : Message} {c : Caller π}
    (hout : call.placements (.message m) = out.toList.map (.handle · m)) :
    (writeHandle out m).answer { c with lastError := "" } =
      call.settle c (do let _ ← pointer "out" out; return .message m) := by
  apply answer_check_bind h
  intro place hplace
  obtain rfl := pointer_eq_ok_iff.mp hplace
  simp only [settle, pure, Except.pure, hout]
  rfl

theorem answer_writeBuffer {call : CodecCall π} (h : call.together = []) {out : Option π}
    {raw : Bytes} {c : Caller π}
    (hout : call.placements (.frame raw) = out.toList.map (.buffer · raw)) :
    (writeBuffer out raw).answer { c with lastError := "" } =
      call.settle c (do let _ ← pointer "out" out; return .frame raw) := by
  cases out with
  | none => exact (settle_error h _ c).symm
  | some place =>
    simp only [writeBuffer_some, pointer, ok_bind_eq, pure, Except.pure, settle, hout]
    rfl

theorem answer_messageCreate (content : Option Bytes) (size : Nat)
    (keys values : Option (List (Option Bytes))) (count : Nat) (out : Option π) (c : Caller π) :
    let call := messageCreate content size keys values count out
    call.make.answer c = call.settle c call.outcome := by
  intro call
  cases hcontent : bytes "content" content size <;> cases hkeys : texts "keys" keys count <;>
    cases hvalues : texts "values" values count
  case ok.ok.ok raw keyTexts valueTexts =>
    have htogether : call.together = [] := by
      simp [call, together, fault?, hcontent, hkeys, hvalues]
    simp only [call, make, Foreign.messageCreate, Call.attempt_bind, outcome, hcontent, hkeys,
      hvalues, ok_bind_eq]
    apply answer_check_bind htogether
    intro properties _
    exact answer_writeHandle htogether rfl
  all_goals
    simp only [call, make, Foreign.messageCreate, Call.attempt_bind, outcome, settle, together,
      fault?, hcontent, hkeys, hvalues]
    rfl

theorem answer_encodeCreate (uri args : Option Bytes) (size : Nat) (out : Option π)
    (c : Caller π) :
    let call := encodeCreate uri args size out
    call.make.answer c = call.settle c call.outcome := by
  intro call
  cases huri : text "uri" uri <;> cases hargs : bytes "args" args size
  case ok.ok uriText raw =>
    have htogether : call.together = [] := by simp [call, together, fault?, huri, hargs]
    simp only [call, make, Foreign.encodeCreate, Call.attempt_bind, outcome, huri, hargs,
      ok_bind_eq]
    apply answer_check_bind htogether
    intro channel _
    apply answer_check_bind htogether
    intro frame _
    exact answer_writeBuffer htogether rfl
  all_goals
    simp only [call, make, Foreign.encodeCreate, Call.attempt_bind, outcome, settle, together,
      fault?, huri, hargs]
    rfl

theorem answer_eq_settle (call : CodecCall π) (c : Caller π) :
    call.make.answer c = call.settle c call.outcome := by
  cases call with
  | messageCreate content size keys values count out => exact answer_messageCreate ..
  | messageDecode data size out =>
    apply answer_check_bind rfl
    intro data _
    simp only [bytes_some, Call.check_ok_bind]
    apply answer_check_bind rfl
    intro m _
    exact answer_writeHandle rfl rfl
  | messageEncode h out =>
    apply answer_check_bind rfl
    intro h _
    apply answer_check_bind rfl
    intro frame _
    exact answer_writeBuffer rfl rfl
  | messageCopy h out =>
    apply answer_check_bind rfl
    intro h _
    exact answer_writeHandle rfl rfl
  | decodeHeader data size version code =>
    apply answer_check_bind rfl
    intro data _
    apply answer_check_bind rfl
    intro versionPlace hversion
    apply answer_check_bind rfl
    intro codePlace hcode
    simp only [bytes_some, Call.check_ok_bind]
    apply answer_check_bind rfl
    intro header _
    obtain rfl := pointer_eq_ok_iff.mp hversion
    obtain rfl := pointer_eq_ok_iff.mp hcode
    rfl
  | decodeCreate data size version uri args =>
    apply answer_check_bind rfl
    intro data _
    apply answer_check_bind rfl
    intro uriPlace huri
    apply answer_check_bind rfl
    intro argsPlace hargs
    simp only [bytes_some, Call.check_ok_bind]
    apply answer_check_bind rfl
    intro request _
    obtain rfl := pointer_eq_ok_iff.mp huri
    obtain rfl := pointer_eq_ok_iff.mp hargs
    simp only [writeBuffer_some]
    cases version <;> rfl
  | encodeCreate uri args size out => exact answer_encodeCreate ..
  | encodeCreateReply succeeded out => exact answer_writeBuffer rfl rfl
  | encodeDetach out => exact answer_writeBuffer rfl rfl

end CodecCall

end ModuleProxy.Foreign
