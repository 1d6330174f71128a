import ModuleProxy.Proofs.Control.RoundTrip
import ModuleProxy.Proofs.Frame.Writing
import ModuleProxy.Proofs.Message.RoundTrip

/-!
Writing to a sink that may take a frame in pieces, fail in passing and fail for good. Every call
offers what has not been taken yet, so that no byte is left out and none is taken twice, and where
the writing ends tells how much was taken.
-/

namespace ModuleProxy

inductive SinkCall where
  | write (offered : Bytes) (answer : Except IoError Nat)
  | flush (answer : Except IoError Unit)

def SinkCall.accepted : SinkCall → Bytes
  | write offered (.ok n) => offered.take n
  | write _ (.error _) | flush _ => []

def accepted (calls : List SinkCall) : Bytes :=
  calls.flatMap SinkCall.accepted

structure LoggedSink (ω : Type) where
  sink : ω
  calls : List SinkCall := []

variable {ω : Type} [ByteSink ω]

instance : ByteSink (LoggedSink ω) where
  write bytes w :=
    let step := ByteSink.write bytes w.sink
    (step.1, ⟨step.2, w.calls ++ [.write bytes step.1]⟩)
  flush w :=
    let step := ByteSink.flush w.sink
    (step.1, ⟨step.2, w.calls ++ [.flush step.1]⟩)
  patience w := ByteSink.patience w.sink
  write_patience_lt h ht := ByteSink.write_patience_lt h ht
  flush_patience_lt h ht := ByteSink.flush_patience_lt h ht

namespace LoggedSink

variable {w w' : LoggedSink ω}

theorem calls_write {bytes : Bytes} {answer : Except IoError Nat}
    (h : ByteSink.write bytes w = (answer, w')) : w'.calls = w.calls ++ [.write bytes answer] := by
  obtain ⟨rfl, rfl⟩ := Prod.mk.inj h
  rfl

theorem calls_flush {answer : Except IoError Unit} (h : ByteSink.flush w = (answer, w')) :
    w'.calls = w.calls ++ [.flush answer] := by
  obtain ⟨rfl, rfl⟩ := Prod.mk.inj h
  rfl

end LoggedSink

theorem IoError.kind_ne_of_lasting (e : IoError) (he : ¬e.isTransient) :
    e.kind ≠ .interrupted ∧ e.kind ≠ .wouldBlock := by
  simpa [isTransient] using he

/-- How writing ends: the last call, the result, and what has not been taken. -/
inductive WriteEnd : SinkCall → Except StreamError Unit → Bytes → Prop where
  | flushed : WriteEnd (.flush (.ok ())) (.ok ()) []
  | unflushed {e : IoError} (he : ¬e.isTransient) : WriteEnd (.flush (.error e)) (.error (.io e)) []
  | failed {left : Bytes} {e : IoError} (h : left ≠ []) (he : ¬e.isTransient) :
    WriteEnd (.write left (.error e)) (.error (.io e)) left
  | refused {left : Bytes} (h : left ≠ []) : WriteEnd (.write left (.ok 0)) (.error .closed) left

theorem WriteEnd.outcome {last : SinkCall} {result : Except StreamError Unit} {pending : Bytes}
    (h : WriteEnd last result pending) :
    (result = .ok () ∧ last = .flush (.ok ()) ∧ pending = []) ∨
      (∃ e, result = .error (.io e) ∧ e.kind ≠ .interrupted ∧ e.kind ≠ .wouldBlock ∧
        ((last = .flush (.error e) ∧ pending = []) ∨
          (last = .write pending (.error e) ∧ pending ≠ []))) ∨
      (result = .error .closed ∧ last = .write pending (.ok 0) ∧ pending ≠ []) := by
  cases h with
  | flushed => exact .inl ⟨rfl, rfl, rfl⟩
  | @unflushed e he =>
    obtain ⟨hinterrupted, hwouldBlock⟩ := e.kind_ne_of_lasting he
    exact .inr (.inl ⟨e, rfl, hinterrupted, hwouldBlock, .inl ⟨rfl, rfl⟩⟩)
  | @failed _ e hleft he =>
    obtain ⟨hinterrupted, hwouldBlock⟩ := e.kind_ne_of_lasting he
    exact .inr (.inl ⟨e, rfl, hinterrupted, hwouldBlock, .inr ⟨rfl, hleft⟩⟩)
  | refused hleft => exact .inr (.inr ⟨rfl, rfl, hleft⟩)

inductive Proceeds : Bytes → SinkCall → Bytes → Prop where
  | flushAgain {e : IoError} (he : e.isTransient) : Proceeds [] (.flush (.error e)) []
  | writeAgain {left : Bytes} {e : IoError} (he : e.isTransient) :
    Proceeds left (.write left (.error e)) left
  | piece (left : Bytes) (n : Nat) : Proceeds left (.write left (.ok n)) (left.drop n)

inductive Writing : Bytes → List SinkCall → Except StreamError Unit → Bytes → Prop where
  | ends {left : Bytes} {last : SinkCall} {result : Except StreamError Unit}
    (h : WriteEnd last result left) : Writing left [last] result left
  | proceeds {left next pending : Bytes} {call : SinkCall} {calls : List SinkCall}
    {result : Except StreamError Unit} (h : Proceeds left call next)
    (later : Writing next calls result pending) : Writing left (call :: calls) result pending

theorem accepted_cons (call : SinkCall) (calls : List SinkCall) :
    accepted (call :: calls) = call.accepted ++ accepted calls :=
  List.flatMap_cons

theorem Proceeds.accepted_append {left next : Bytes} {call : SinkCall}
    (h : Proceeds left call next) : call.accepted ++ next = left := by
  cases h with
  | flushAgain | writeAgain => rfl
  | piece _ n => exact List.take_append_drop n left

namespace Writing

variable {left pending : Bytes} {calls : List SinkCall} {result : Except StreamError Unit}

theorem accepted_append (h : Writing left calls result pending) :
    accepted calls ++ pending = left := by
  induction h with
  | ends h => cases h <;> simp [accepted, SinkCall.accepted]
  | proceeds h later ih => rw [accepted_cons, List.append_assoc, ih, h.accepted_append]

theorem offers (h : Writing left calls result pending) (before after : List SinkCall)
    (offered : Bytes) (answer : Except IoError Nat)
    (hcalls : calls = before ++ .write offered answer :: after) :
    accepted before ++ offered = left := by
  induction h generalizing before with
  | ends h =>
    cases before with
    | nil =>
      obtain ⟨rfl, -⟩ := List.cons.inj hcalls
      cases h <;> rfl
    | cons call before => simp at hcalls
  | proceeds h later ih =>
    cases before with
    | nil =>
      obtain ⟨rfl, -⟩ := List.cons.inj hcalls
      cases h <;> rfl
    | cons call before =>
      obtain ⟨rfl, hrest⟩ := List.cons.inj hcalls
      rw [accepted_cons, List.append_assoc, ih before hrest, h.accepted_append]

theorem ends_of_last (h : Writing left calls result pending) :
    ∃ last, calls.getLast? = some last ∧ WriteEnd last result pending := by
  induction h with
  | ends h => exact ⟨_, rfl, h⟩
  | proceeds h later ih =>
    obtain ⟨last, hlast, hends⟩ := ih
    exact ⟨last, by rw [List.getLast?_cons, hlast]; rfl, hends⟩

end Writing

namespace FrameWriter

def Written (left : Bytes) (w : LoggedSink ω) (out : Except StreamError Unit × LoggedSink ω) :
    Prop :=
  ∃ calls pending, out.2.calls = w.calls ++ calls ∧ Writing left calls out.1 pending

omit [ByteSink ω] in
theorem Written.later {left next : Bytes} {w w' : LoggedSink ω} {call : SinkCall}
    {out : Except StreamError Unit × LoggedSink ω} (h : Written next w' out)
    (hcall : w'.calls = w.calls ++ [call]) (hproceeds : Proceeds left call next) :
    Written left w out := by
  obtain ⟨calls, pending, hcalls, hwriting⟩ := h
  refine ⟨call :: calls, pending, ?_, .proceeds hproceeds hwriting⟩
  rw [hcalls, hcall, List.append_assoc]
  rfl

theorem written_flush (w : LoggedSink ω) : Written [] w (flush w) := by
  fun_induction flush w with
  | case1 w w' h => exact ⟨_, _, LoggedSink.calls_flush h, .ends .flushed⟩
  | case2 w e w' h he hlt ih => exact ih.later (LoggedSink.calls_flush h) (.flushAgain he)
  | case3 w e w' h he => exact ⟨_, _, LoggedSink.calls_flush h, .ends (.unflushed he)⟩

theorem written (bytes : Bytes) (w : LoggedSink ω) : Written bytes w (writeAll bytes w) := by
  fun_induction writeAll bytes w with
  | case1 w => exact written_flush w
  | case2 w b rest w' h =>
    exact ⟨_, _, LoggedSink.calls_write h, .ends (.refused (List.cons_ne_nil b rest))⟩
  | case3 w b rest n w' h ih =>
    exact ih.later (LoggedSink.calls_write h) (.piece (b :: rest) (n + 1))
  | case4 w b rest e w' h he hlt ih => exact ih.later (LoggedSink.calls_write h) (.writeAgain he)
  | case5 w b rest e w' h he =>
    exact ⟨_, _, LoggedSink.calls_write h, .ends (.failed (List.cons_ne_nil b rest) he)⟩

theorem writeEncoded_eq {σ : Type} [ByteSink σ] (fw : FrameWriter) (bytes : Bytes) (w : σ) :
    fw.writeEncoded bytes.length
        (if bytes.length > maxFrameSize then .error (.frameTooLarge bytes.length maxFrameSize)
          else .ok bytes) w =
      if bytes.length ≤ min fw.limit maxFrameSize then writeAll bytes w
      else (.error (.format (.frameTooLarge bytes.length
        (if fw.limit < bytes.length then fw.limit else maxFrameSize))), w) := by
  unfold writeEncoded writeFrame checkLimit
  by_cases hlimit : fw.limit < bytes.length
  · have hlarge : ¬bytes.length ≤ min fw.limit maxFrameSize := by omega
    simp only [gt_iff_lt, if_pos hlimit, if_neg hlarge]
  · by_cases hmax : maxFrameSize < bytes.length
    · have hlarge : ¬bytes.length ≤ min fw.limit maxFrameSize := by omega
      simp only [gt_iff_lt, if_neg hlimit, if_pos hmax, if_neg hlarge]
    · have hfits : bytes.length ≤ min fw.limit maxFrameSize := by omega
      simp only [gt_iff_lt, if_neg hlimit, if_neg hmax, if_pos hfits]

end FrameWriter

inductive WriteCall where
  | frame (bytes : Bytes)
  | message (m : Message)
  | control (m : ControlMessage)

namespace WriteCall

def on (fw : FrameWriter) : WriteCall → ω → Except StreamError Unit × ω
  | frame bytes, w => fw.writeFrame bytes w
  | message m, w => fw.writeMessage m w
  | control m, w => fw.writeControl m w

def bytes : WriteCall → Bytes
  | frame bytes => bytes
  | message m => m.frame
  | control m => m.frame

def bound (limit : Nat) : WriteCall → Nat
  | frame _ => limit
  | message _ | control _ => min limit maxFrameSize

theorem on_eq (call : WriteCall) (limit : Nat) (w : ω) :
    call.on ⟨limit⟩ w =
      if call.bytes.length ≤ call.bound limit then FrameWriter.writeAll call.bytes w
      else (.error (.format (.frameTooLarge call.bytes.length
        (if limit < call.bytes.length then limit else maxFrameSize))), w) := by
  cases call with
  | frame bytes =>
    simp only [on, FrameWriter.writeFrame, checkLimit, WriteCall.bytes, bound]
    by_cases hlimit : limit < bytes.length
    · simp [hlimit, Nat.not_le.mpr hlimit]
    · simp [hlimit, Nat.le_of_not_lt hlimit]
  | message m =>
    have hwrite := FrameWriter.writeEncoded_eq ⟨limit⟩ m.frame w
    rw [Message.length_frame] at hwrite
    simp only [on, WriteCall.bytes, bound, Message.length_frame]
    exact hwrite
  | control m =>
    have hwrite := FrameWriter.writeEncoded_eq ⟨limit⟩ m.frame w
    rw [ControlMessage.length_frame] at hwrite
    simp only [on, WriteCall.bytes, bound, ControlMessage.length_frame]
    exact hwrite

theorem on_logged (call : WriteCall) (limit : Nat) (w : LoggedSink ω) :
    call.on ⟨limit⟩ w.sink = (call.on ⟨limit⟩ w).map id LoggedSink.sink := by
  rw [on_eq, on_eq]
  split
  · exact FrameWriter.writeAll_map (φ := LoggedSink.sink) (fun _ => rfl) (fun _ _ => rfl) _ w
  · rfl

/-- Every byte is written once, whatever the sink does. A frame beyond the limit makes no call.
Else each write offers what the writes before it have not taken, and what is taken in all is the
frame up to what is pending at the end: nothing after a success, which is a successful flush after
the last byte, or if a flush failed; and something if a write failed or took nothing. What fails in
passing does not come to light. -/
theorem written_once (limit : Nat) (call : WriteCall) (w : ω) :
    let out := call.on ⟨limit⟩ (⟨w, []⟩ : LoggedSink ω)
    let calls := out.2.calls
    call.on ⟨limit⟩ w = (out.1, out.2.sink) ∧
    (call.bound limit < call.bytes.length →
      out.1 = .error (.format (.frameTooLarge call.bytes.length
        (if limit < call.bytes.length then limit else maxFrameSize))) ∧ calls = []) ∧
    (call.bytes.length ≤ call.bound limit →
      (∀ before after offered answer, calls = before ++ .write offered answer :: after →
        accepted before ++ offered = call.bytes) ∧
      ∃ last pending, calls.getLast? = some last ∧ accepted calls ++ pending = call.bytes ∧
        ((out.1 = .ok () ∧ last = .flush (.ok ()) ∧ pending = []) ∨
          (∃ e, out.1 = .error (.io e) ∧ e.kind ≠ .interrupted ∧ e.kind ≠ .wouldBlock ∧
            ((last = .flush (.error e) ∧ pending = []) ∨
              (last = .write pending (.error e) ∧ pending ≠ []))) ∨
          (out.1 = .error .closed ∧ last = .write pending (.ok 0) ∧ pending ≠ []))) := by
  intro out calls
  refine ⟨on_logged call limit ⟨w, []⟩, fun hlarge => ?_, fun hfits => ?_⟩
  · have hout : out = _ := on_eq call limit _
    rw [if_neg (Nat.not_le.mpr hlarge)] at hout
    exact ⟨congrArg Prod.fst hout, congrArg (fun out => out.2.calls) hout⟩
  · have hout : out = _ := on_eq call limit _
    rw [if_pos hfits] at hout
    obtain ⟨made, pending, hmade, hwriting⟩ :=
      FrameWriter.written call.bytes (⟨w, []⟩ : LoggedSink ω)
    rw [← hout] at hmade hwriting
    obtain rfl : calls = made := hmade
    obtain ⟨last, hlast, hends⟩ := hwriting.ends_of_last
    exact ⟨hwriting.offers, last, pending, hlast, hwriting.accepted_append, hends.outcome⟩

example :
    let sink : WriteScript :=
      { writes := [.ok 5, .error ⟨.interrupted, ""⟩],
        flushes := [.error .wouldBlock, .error .brokenPipe] }
    let out := (control { body := .start }).on {} (⟨sink, []⟩ : LoggedSink WriteScript)
    out.1 = .error (.io .brokenPipe) ∧ out.2.calls.length = 5 ∧
      accepted out.2.calls = [0xA1, 0x6C, 1, 3, 0, 0, 0, 8] := by
  cbv

end WriteCall

end ModuleProxy
