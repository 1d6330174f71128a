import Mathlib.Logic.Function.Basic
import ModuleProxy.Module.Basic
import ModuleProxy.Proofs.Channel.Memory

/-!
Pairs of ends within a program, used by whoever holds them. Each end gets what its peer has sent, in
order and to the last frame, for as long as it is open; and frames can be sent while both are.
-/

namespace ModuleProxy

structure Traffic where
  network : MemoryNetwork := {}
  sent : MemoryHandle → List Bytes := fun _ => []
  got : MemoryHandle → List Bytes := fun _ => []
  disconnected : List MemoryHandle := []

inductive TrafficAct where
  | pair
  | send (h : MemoryHandle) (frame : Bytes)
  | publish (h : MemoryHandle) (m : Message)
  | recv (h : MemoryHandle)
  | disconnect (h : MemoryHandle)
  | share (h : MemoryHandle)
  | drop (h : MemoryHandle)

namespace Traffic

def Held (x : Traffic) (h : MemoryHandle) : Prop :=
  0 < x.network.holders h

/-- Disconnected, or let go of by the last of its holders. -/
def Over (x : Traffic) (h : MemoryHandle) : Prop :=
  h ∈ x.disconnected ∨ x.network.holders h = 0

instance (x : Traffic) (h : MemoryHandle) : Decidable (x.Held h) :=
  inferInstanceAs (Decidable (_ < _))

instance (x : Traffic) (h : MemoryHandle) : Decidable (x.Over h) :=
  inferInstanceAs (Decidable (_ ∨ _))

def give (x : Traffic) (h : MemoryHandle) (frames : List Bytes)
    (after : Except ProxyError Unit × MemoryNetwork) : Traffic :=
  match after with
  | (.ok (), network) =>
    { x with network, sent := Function.update x.sent h (x.sent h ++ frames) }
  | (.error _, network) => { x with network }

def take (x : Traffic) (h : MemoryHandle)
    (after : Except ProxyError (Option Bytes) × MemoryNetwork) : Traffic :=
  match after with
  | (.ok (some frame), network) =>
    { x with network, got := Function.update x.got h (x.got h ++ [frame]) }
  | (.ok none, network) | (.error _, network) => { x with network }

def actAt (x : Traffic) : TrafficAct → Traffic
  | .pair => { x with network := x.network.pair.2 }
  | .send h frame => x.give h [frame] (x.network.send h frame)
  | .publish h m => x.give h m.encode.toOption.toList (Publisher.publish h m x.network)
  | .recv h => x.take h (x.network.recv h)
  | .disconnect h =>
    { x with network := x.network.disconnect h, disconnected := h :: x.disconnected }
  | .share h => { x with network := x.network.share h }
  | .drop h => { x with network := x.network.release h }

end Traffic

def TrafficAct.end? : TrafficAct → Option MemoryHandle
  | .pair => none
  | .send h _ | .publish h _ | .recv h | .disconnect h | .share h | .drop h => some h

namespace Traffic

def act (x : Traffic) (a : TrafficAct) : Traffic :=
  if ∀ h ∈ a.end?, x.Held h then x.actAt a else x

def actAll (acts : List TrafficAct) : Traffic :=
  acts.foldl act {}

end Traffic

end ModuleProxy
