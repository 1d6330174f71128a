import ModuleProxy.Frame.Reader
import ModuleProxy.Frame.Writer
import ModuleProxy.ProxyError

namespace ModuleProxy

abbrev StreamId := Nat

abbrev ListenerId := Nat

/-- What a channel asks of the system. Calls may fail in passing only finitely often in a row. -/
class Sockets (ω : Type) where
  accept : ListenerId → ω → Except ProxyError (Option StreamId) × ω
  ready : FrameLimits → StreamId → ω → Except ProxyError Unit × ω
  bound : StreamId → ω → Except ProxyError Unit × ω
  read : StreamId → Nat → ω → Except IoError Bytes × ω
  write : StreamId → Bytes → ω → Except IoError Nat × ω
  flush : StreamId → ω → Except IoError Unit × ω
  hangUp : StreamId → ω → ω
  closeListener : ListenerId → ω → ω
  patience : StreamId → ω → Nat
  read_patience_lt : ∀ {id n w e}, (read id n w).1 = .error e → e.kind = .interrupted →
    patience id (read id n w).2 < patience id w
  write_patience_lt : ∀ {id bytes w e}, (write id bytes w).1 = .error e → e.isTransient →
    patience id (write id bytes w).2 < patience id w
  flush_patience_lt : ∀ {id w e}, (flush id w).1 = .error e → e.isTransient →
    patience id (flush id w).2 < patience id w

structure OpenStream (ω : Type) where
  id : StreamId
  system : ω

namespace OpenStream

variable {ω : Type} [Sockets ω]

instance : ByteSource (OpenStream ω) where
  read n w := ((Sockets.read w.id n w.system).1, { w with system := (Sockets.read w.id n w.system).2 })
  patience w := Sockets.patience w.id w.system
  patience_lt h hi := Sockets.read_patience_lt h hi

instance : ByteSink (OpenStream ω) where
  write bytes w :=
    ((Sockets.write w.id bytes w.system).1,
      { w with system := (Sockets.write w.id bytes w.system).2 })
  flush w := ((Sockets.flush w.id w.system).1, { w with system := (Sockets.flush w.id w.system).2 })
  patience w := Sockets.patience w.id w.system
  write_patience_lt h ht := Sockets.write_patience_lt h ht
  flush_patience_lt h ht := Sockets.flush_patience_lt h ht

end OpenStream

end ModuleProxy
