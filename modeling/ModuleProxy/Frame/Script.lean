import ModuleProxy.Frame.Reader
import ModuleProxy.Frame.Writer

namespace ModuleProxy

/-- What reads find: bytes, of which a read may leave some, or a failure. An empty piece is an end
of the stream that passes. -/
structure ReadScript where
  pieces : List (Except IoError Bytes)
  reads : Nat := 0

namespace ReadScript

def read (n : Nat) (s : ReadScript) : Except IoError Bytes × ReadScript :=
  match s.pieces with
  | [] => (.ok [], { s with reads := s.reads + 1 })
  | .error e :: pieces => (.error e, { pieces, reads := s.reads + 1 })
  | .ok piece :: pieces =>
    match piece.drop n with
    | [] => (.ok piece, { pieces, reads := s.reads + 1 })
    | left => (.ok (piece.take n), { pieces := .ok left :: pieces, reads := s.reads + 1 })

def feed (s : ReadScript) (piece : Except IoError Bytes) : ReadScript :=
  { s with pieces := s.pieces ++ [piece] }

instance : ByteSource ReadScript where
  read := read
  patience s := s.pieces.length
  patience_lt := by
    intro n s e h _
    unfold read at *
    split at h
    · simp at h
    · rename_i heq
      simp [heq]
    · split at h <;> simp at h

end ReadScript

structure WriteScript where
  writes : List (Except IoError Nat) := []
  flushes : List (Except IoError Unit) := []
  taken : Bytes := []
  writeCalls : Nat := 0
  flushCalls : Nat := 0

namespace WriteScript

def write (bytes : Bytes) (s : WriteScript) : Except IoError Nat × WriteScript :=
  match s.writes with
  | [] =>
    (.ok bytes.length,
      { s with taken := s.taken ++ bytes, writeCalls := s.writeCalls + 1 })
  | .error e :: writes => (.error e, { s with writes, writeCalls := s.writeCalls + 1 })
  | .ok n :: writes =>
    (.ok (min n bytes.length),
      { s with writes, taken := s.taken ++ bytes.take n, writeCalls := s.writeCalls + 1 })

def flush (s : WriteScript) : Except IoError Unit × WriteScript :=
  match s.flushes with
  | [] => (.ok (), { s with flushCalls := s.flushCalls + 1 })
  | result :: flushes => (result, { s with flushes, flushCalls := s.flushCalls + 1 })

instance : ByteSink WriteScript where
  write := write
  flush := flush
  patience s := s.writes.length + s.flushes.length
  write_patience_lt := by
    intro bytes s e h _
    unfold write at *
    split at h
    · simp at h
    · rename_i heq
      simp [heq]
    · simp at h
  flush_patience_lt := by
    intro s e h _
    unfold flush at *
    split at h
    · simp at h
    · rename_i heq
      simp [heq]

end WriteScript

end ModuleProxy
