import ModuleProxy.Frame.Body
import ModuleProxy.Frame.StreamError

namespace ModuleProxy

/-- A stream to read from. A read may be interrupted only finitely often in a row. -/
class ByteSource (ω : Type) where
  read : Nat → ω → Except IoError Bytes × ω
  patience : ω → Nat
  patience_lt : ∀ {n w e}, (read n w).1 = .error e → e.kind = .interrupted →
    patience (read n w).2 < patience w

structure FrameReader where
  limit : Nat := defaultFrameLimit
  buffer : Bytes := []
  deriving DecidableEq, Repr

namespace FrameReader

def readSize : Nat := 8192

def bufferBound (limit : Nat) : Nat :=
  max 8 (min limit maxFrameSize)

theorem length_lt_bufferBound {bytes : Bytes} {limit : Nat}
    (h : splitFrame bytes limit = .ok none) : bytes.length < bufferBound limit := by
  unfold splitFrame at h
  split at h
  · cases h
  · rename_i hn
    have := length_lt_of_nextFrame?_eq_none hn
    unfold bufferBound
    omega
  · rename_i kind size hn
    have := minSize_le_of_nextFrame? hn
    dsimp only at h
    split at h
    · cases h
    · rename_i hl
      rw [List.length_take] at hl
      unfold bufferBound
      omega

/-- Reads until the buffer starts with a whole frame, and takes it off. A failure leaves what was
read in the buffer. -/
def readFrame {ω : Type} [ByteSource ω] (r : FrameReader) (w : ω) :
    Except StreamError RawFrame × FrameReader × ω :=
  match hs : splitFrame r.buffer r.limit with
  | .error e => (.error (.format e), r, w)
  | .ok (some (f, rest)) => (.ok f, { r with buffer := rest }, w)
  | .ok none =>
    match hr : ByteSource.read readSize w with
    | (.error e, w') =>
      if hi : e.kind = .interrupted then
        have : ByteSource.patience w' < ByteSource.patience w := by
          have := ByteSource.patience_lt (by rw [hr]) hi
          rwa [hr] at this
        readFrame r w'
      else (.error (.io e), r, w')
    | (.ok [], w') => (.error .closed, r, w')
    | (.ok (b :: piece), w') =>
      have := length_lt_bufferBound hs
      readFrame { r with buffer := r.buffer ++ b :: piece } w'
termination_by (bufferBound r.limit - r.buffer.length, ByteSource.patience w)
decreasing_by
  all_goals simp_wf
  · exact Prod.Lex.right _ this
  · apply Prod.Lex.left
    omega

def readMessage {ω : Type} [ByteSource ω] (r : FrameReader) (w : ω) :
    Except StreamError Message × FrameReader × ω :=
  match r.readFrame w with
  | (.error e, r, w) => (.error e, r, w)
  | (.ok f, r, w) => (f.message.mapError .format, r, w)

def readControl {ω : Type} [ByteSource ω] (r : FrameReader) (w : ω) :
    Except StreamError ControlMessage × FrameReader × ω :=
  match r.readFrame w with
  | (.error e, r, w) => (.error e, r, w)
  | (.ok f, r, w) => (f.control.mapError .format, r, w)

end FrameReader

end ModuleProxy
