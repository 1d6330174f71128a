import ModuleProxy.Proofs.Socket.Shown

namespace ModuleProxy

inductive WireEvent where
  | accepted (id : StreamId)
  | wrote (id : StreamId) (bytes : Bytes)
  deriving DecidableEq, Repr

structure Traced (ω : Type) where
  world : ω
  events : List WireEvent := []

variable {ω : Type}

namespace Traced

def note (w : Traced ω) (events : List WireEvent) (world : ω) : Traced ω :=
  ⟨world, w.events ++ events⟩

def acceptance : Except ProxyError (Option StreamId) → List WireEvent
  | .ok (some id) => [.accepted id]
  | .ok none | .error _ => []

def piece (id : StreamId) (bytes : Bytes) : Except IoError Nat → List WireEvent
  | .ok n => [.wrote id (bytes.take n)]
  | .error _ => []

instance [Sockets ω] : Sockets (Traced ω) where
  accept listener w :=
    let step := Sockets.accept listener w.world
    (step.1, w.note (acceptance step.1) step.2)
  ready limits stream w :=
    (Sockets.ready limits stream w.world).map id fun world => { w with world }
  bound stream w := (Sockets.bound stream w.world).map id fun world => { w with world }
  read stream n w := (Sockets.read stream n w.world).map id fun world => { w with world }
  write stream bytes w :=
    let step := Sockets.write stream bytes w.world
    (step.1, w.note (piece stream bytes step.1) step.2)
  flush stream w := (Sockets.flush stream w.world).map id fun world => { w with world }
  hangUp id w := { w with world := Sockets.hangUp id w.world }
  closeListener listener w := { w with world := Sockets.closeListener listener w.world }
  patience id w := Sockets.patience id w.world
  read_patience_lt h hi := Sockets.read_patience_lt h hi
  write_patience_lt h ht := Sockets.write_patience_lt h ht
  flush_patience_lt h ht := Sockets.flush_patience_lt h ht

end Traced

theorem Traced.shows_world [Sockets ω] : Shows (Traced.world : Traced ω → ω) where
  accept _ _ := rfl
  ready _ _ _ := rfl
  bound _ _ := rfl
  read _ _ _ := rfl
  write _ _ _ := rfl
  flush _ _ := rfl
  hangUp _ _ := rfl
  closeListener _ _ := rfl

end ModuleProxy
