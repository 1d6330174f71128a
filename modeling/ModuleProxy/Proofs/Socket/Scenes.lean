import Mathlib.Logic.Function.Basic
import ModuleProxy.Proofs.Socket.Serving

namespace ModuleProxy

open SocketSystem

inductive Fate where
  | written (id : StreamId)
  | dropped
  | lost (id : StreamId)
  deriving DecidableEq, Repr

/-- A channel among sockets, with the frames that it took and what its peers have read so far. -/
structure Scene where
  channel : SocketChannel
  system : SocketSystem
  accepted : List Bytes := []
  heard : StreamId → Bytes := fun _ => []

inductive SceneAct where
  | send (frame : Bytes)
  | recv
  | disconnect
  | connect (path : String)
  | read (id : StreamId) (n : Nat)
  | write (id : StreamId) (bytes : Bytes)
  | shutdown (id : StreamId)
  | close (id : StreamId)
  | duplicate (id : StreamId)
  | changeFiles (files : FileTree)

namespace Scene

def MayAct (x : Scene) (id : StreamId) : Prop :=
  IsNear id ∧ 0 < x.system.holders id

instance (x : Scene) (id : StreamId) : Decidable (x.MayAct id) :=
  inferInstanceAs (Decidable (_ ∧ _))

def next (x : Scene) (after : SocketChannel × SocketSystem) : Scene :=
  { x with channel := after.1, system := after.2 }

def act (x : Scene) : SceneAct → Scene
  | .send frame =>
    let (result, after) := x.channel.send frame x.system
    match result with
    | .ok () => { x with accepted := x.accepted ++ [frame] }.next after
    | .error _ => x.next after
  | .recv => x.next (x.channel.recv x.system).2
  | .disconnect => x.next (x.channel.disconnect x.system)
  | .connect path => { x with system := (x.system.connect path).2 }
  | .read id n =>
    if x.MayAct id then
      { x with
        system := (x.system.read n id).2
        heard := Function.update x.heard id
          (x.heard id ++ (x.system.read n id).1.toOption.getD []) }
    else x
  | .write id bytes => if x.MayAct id then { x with system := (x.system.write bytes id).2 } else x
  | .shutdown id => if x.MayAct id then { x with system := x.system.shutdown id } else x
  | .close id => if x.MayAct id then { x with system := x.system.close id } else x
  | .duplicate id => if x.MayAct id then { x with system := x.system.duplicate id } else x
  | .changeFiles files => { x with system.files := files }

def actAll (acts : List SceneAct) (x : Scene) : Scene :=
  acts.foldl act x

def waiting (x : Scene) : List StreamId :=
  (x.channel.listener.map x.system.waitingAt).getD []

def peers (x : Scene) : List StreamId :=
  (x.channel.connection.map (·.stream)).toList ++ x.waiting

end Scene

def writtenTo (id : StreamId) (settled : List (Bytes × Fate)) : Bytes :=
  settled.flatMap fun entry => if entry.2 = .written id then entry.1 else []

def lostAt (settled : List (Bytes × Fate)) : List StreamId :=
  settled.filterMap fun
    | (_, .lost id) => some id
    | _ => none

/-- The frames taken are those settled, each with its fate, and after them those in the outbox.
`before` is what could be read at near ends at first. -/
structure Accounted (before : StreamId → Bytes) (x : Scene) (settled : List (Bytes × Fate)) :
    Prop where
  accepted_eq : x.accepted = settled.map Prod.fst ++ x.channel.outbox
  fits : ∀ frame ∈ x.channel.outbox, frame.length ≤ x.channel.limits.maxSize
  arrived : ∀ id, IsNear id →
    x.heard id ++ x.system.unread id = before id ++ writtenTo (peer id) settled
  dropped : ∀ frame, (frame, .dropped) ∈ settled → x.channel.listener = none
  left : ∀ id ∈ lostAt settled, x.system.IsLeft id
  quiet : ∀ id, id ∈ lostAt settled ∨ id ∈ x.waiting ∨ x.system.ends.size ≤ id →
    writtenTo id settled = []
  paired : x.system.ends.size % 2 = 0
  ordered : (lostAt settled ++ x.peers).Pairwise (· < ·)
  far : ∀ id ∈ lostAt settled ++ x.peers, ¬IsNear id ∧ id < x.system.ends.size
  unshut : ∀ id ∈ x.peers, x.system.isShut id = false
  served : ∀ frame id, (frame, .written id) ∈ settled → ¬IsNear id ∧ id < x.system.ends.size

section

variable (id : StreamId) (settled rest : List (Bytes × Fate)) (frame : Bytes) (fate : Fate)

@[simp] theorem writtenTo_append :
    writtenTo id (settled ++ rest) = writtenTo id settled ++ writtenTo id rest :=
  List.flatMap_append

@[simp] theorem writtenTo_singleton :
    writtenTo id [(frame, fate)] = if fate = .written id then frame else [] := by
  simp [writtenTo]

@[simp] theorem lostAt_append : lostAt (settled ++ rest) = lostAt settled ++ lostAt rest :=
  List.filterMap_append

@[simp] theorem lostAt_written : lostAt [(frame, .written id)] = [] := rfl

@[simp] theorem lostAt_lost : lostAt [(frame, .lost id)] = [id] := rfl

theorem writtenTo_map_dropped (frames : List Bytes) :
    writtenTo id (frames.map fun frame => (frame, .dropped)) = [] := by
  simp [writtenTo]

theorem lostAt_map_dropped (frames : List Bytes) :
    lostAt (frames.map fun frame => (frame, .dropped)) = [] := by
  simp [lostAt]

end

end ModuleProxy
