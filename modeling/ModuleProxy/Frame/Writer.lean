import ModuleProxy.Frame.StreamError
import ModuleProxy.Message.Format
import ModuleProxy.Control.Message

namespace ModuleProxy

namespace IoError

def isTransient (e : IoError) : Bool :=
  e.kind == .interrupted || e.kind == .wouldBlock

end IoError

class ByteSink (ω : Type) where
  write : Bytes → ω → Except IoError Nat × ω
  flush : ω → Except IoError Unit × ω
  patience : ω → Nat
  write_patience_lt : ∀ {bytes w e}, (write bytes w).1 = .error e → e.isTransient →
    patience (write bytes w).2 < patience w
  flush_patience_lt : ∀ {w e}, (flush w).1 = .error e → e.isTransient →
    patience (flush w).2 < patience w

structure FrameWriter where
  limit : Nat := defaultFrameLimit
  deriving DecidableEq, Repr

namespace FrameWriter

variable {ω : Type} [ByteSink ω]

def flush (w : ω) : Except StreamError Unit × ω :=
  match h : ByteSink.flush w with
  | (.ok (), w') => (.ok (), w')
  | (.error e, w') =>
    if he : e.isTransient then
      have : ByteSink.patience w' < ByteSink.patience w := by
        have := ByteSink.flush_patience_lt (by rw [h]) he
        rwa [h] at this
      flush w'
    else (.error (.io e), w')
termination_by ByteSink.patience w

def writeAll (bytes : Bytes) (w : ω) : Except StreamError Unit × ω :=
  match bytes with
  | [] => flush w
  | b :: rest =>
    match h : ByteSink.write (b :: rest) w with
    | (.ok 0, w') => (.error .closed, w')
    | (.ok (n + 1), w') => writeAll (rest.drop n) w'
    | (.error e, w') =>
      if he : e.isTransient then
        have : ByteSink.patience w' < ByteSink.patience w := by
          have := ByteSink.write_patience_lt (by rw [h]) he
          rwa [h] at this
        writeAll (b :: rest) w'
      else (.error (.io e), w')
termination_by (bytes.length, ByteSink.patience w)
decreasing_by
  all_goals simp_wf
  · apply Prod.Lex.left
    omega
  · exact Prod.Lex.right _ this

def writeFrame (fw : FrameWriter) (bytes : Bytes) (w : ω) : Except StreamError Unit × ω :=
  match checkLimit fw.limit bytes.length with
  | .error e => (.error e, w)
  | .ok () => writeAll bytes w

def writeEncoded (fw : FrameWriter) (size : Nat) (frame : Except FormatError Bytes) (w : ω) :
    Except StreamError Unit × ω :=
  match checkLimit fw.limit size with
  | .error e => (.error e, w)
  | .ok () =>
    match frame with
    | .error e => (.error (.format e), w)
    | .ok bytes => fw.writeFrame bytes w

def writeMessage (fw : FrameWriter) (m : Message) (w : ω) : Except StreamError Unit × ω :=
  fw.writeEncoded m.encodedSize m.encode w

def writeControl (fw : FrameWriter) (m : ControlMessage) (w : ω) : Except StreamError Unit × ω :=
  fw.writeEncoded m.encodedSize m.encode w

end FrameWriter

end ModuleProxy
