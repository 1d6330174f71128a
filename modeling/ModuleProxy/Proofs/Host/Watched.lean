import ModuleProxy.Proofs.Gateway.Sessions
import ModuleProxy.Proofs.Host.Erasure

namespace ModuleProxy

/-- An instance, and how many were loaded before it. -/
structure Loaded (μ : Type) where
  serial : Nat
  guest : μ

inductive HostCall where
  | load (found : Bool)
  | on (serial : Nat) (call : ModuleCall)
  deriving DecidableEq, Repr

namespace HostCall

def loads (calls : List HostCall) : Nat :=
  calls.count (.load true)

def onInstance? (serial : Nat) : HostCall → Option ModuleCall
  | .load _ => none
  | .on n call => if n = serial then some call else none

def onInstance (serial : Nat) (calls : List HostCall) : List ModuleCall :=
  calls.filterMap (onInstance? serial)

theorem loads_append (calls more : List HostCall) :
    loads (calls ++ more) = loads calls + loads more :=
  List.count_append

theorem onInstance_append (serial : Nat) (calls more : List HostCall) :
    onInstance serial (calls ++ more) = onInstance serial calls ++ onInstance serial more :=
  List.filterMap_append

end HostCall

structure Watched (ω : Type) where
  world : ω
  calls : List HostCall := []

namespace Watched

variable {μ ω : Type}

def note (w : Watched ω) (call : HostCall) (world : ω) : Watched ω :=
  ⟨world, w.calls ++ [call]⟩

instance [ProxiedModule μ NativeHandle ω] :
    ProxiedModule (Loaded μ) NativeHandle (Watched ω) where
  create m broker args w :=
    let step := ProxiedModule.create m.guest broker args w.world
    (step.1, { m with guest := step.2.1 }, w.note (.on m.serial (.create step.1.isOk)) step.2.2)
  receive m message w :=
    let step := ProxiedModule.receive m.guest message w.world
    ({ m with guest := step.1 }, w.note (.on m.serial .receive) step.2)
  destroy m w :=
    let step := ProxiedModule.destroy m.guest w.world
    ({ m with guest := step.1 }, w.note (.on m.serial .destroy) step.2)
  hasStart m := ProxiedModule.hasStart ω m.guest
  start m w :=
    let step := ProxiedModule.start m.guest w.world
    ({ m with guest := step.1 }, w.note (.on m.serial .start) step.2)

def loader (load : ω → Except Cause μ × ω) (w : Watched ω) :
    Except Cause (Loaded μ) × Watched ω :=
  let step := load w.world
  match step.1 with
  | .error cause => (.error cause, w.note (.load false) step.2)
  | .ok guest => (.ok ⟨HostCall.loads w.calls, guest⟩, w.note (.load true) step.2)

theorem loader_error {load : ω → Except Cause μ × ω} {w : Watched ω} {cause : Cause} {world : ω}
    (h : load w.world = (.error cause, world)) :
    loader load w = (.error cause, w.note (.load false) world) := by
  simp only [loader, h]

theorem loader_ok {load : ω → Except Cause μ × ω} {w : Watched ω} {guest : μ} {world : ω}
    (h : load w.world = (.ok guest, world)) :
    loader load w = (.ok ⟨HostCall.loads w.calls, guest⟩, w.note (.load true) world) := by
  simp only [loader, h]

theorem create_eq [ProxiedModule μ NativeHandle ω] {m : Loaded μ} {broker : NativeHandle}
    {args : Bytes} {w : Watched ω} {result : Except Cause Unit} {guest : μ} {world : ω}
    (h : ProxiedModule.create m.guest broker args w.world = (result, guest, world)) :
    ProxiedModule.create m broker args w =
      (result, { m with guest }, w.note (.on m.serial (.create result.isOk)) world) := by
  simp only [ProxiedModule.create, h]

def erasure [ProxiedModule μ NativeHandle ω] : Erasure (Loaded μ) (Watched ω) μ ω where
  guest := Loaded.guest
  world := Watched.world
  create_eq _ _ _ _ := rfl
  receive_eq _ _ _ := rfl
  destroy_eq _ _ := rfl
  hasStart_eq _ := rfl
  start_eq _ _ := rfl

theorem loads_loader [ProxiedModule μ NativeHandle ω] (load : ω → Except Cause μ × ω) :
    erasure.Loads (loader load) load := by
  intro w
  rcases hload : load w.world with ⟨cause | guest, world⟩
  · rw [loader_error hload]
    exact hload
  · rw [loader_ok hload]
    exact hload

end Watched

namespace ModuleHost

variable {μ ω α : Type}

def unnumbered (h : ModuleHost (Loaded μ)) : ModuleHost μ where
  modules := h.modules.map Loaded.guest

def unwatched (r : α × ModuleHost (Loaded μ) × Watched ω) : α × ModuleHost μ × ω :=
  (r.1, r.2.1.unnumbered, r.2.2.world)

variable [ProxiedModule μ NativeHandle ω]

theorem create_watched (h : ModuleHost (Loaded μ)) (id : ModuleId) (broker : UInt64)
    (load : ω → Except Cause μ × ω) (args : Bytes) (w : Watched ω) :
    unwatched (h.create id broker (Watched.loader load) args w) =
      h.unnumbered.create id broker load args w.world :=
  Watched.erasure.create h id w (Watched.loads_loader load) broker args

end ModuleHost

namespace HostStep

variable {μ ω : Type}

def watched : HostStep μ ω → HostStep (Loaded μ) (Watched ω)
  | .create id broker load args => .create id broker (Watched.loader load) args
  | .receive id frame => .receive id frame
  | .start id => .start id
  | .destroy id => .destroy id
  | .elsewhere change => .elsewhere fun w => { w with world := change w.world }

variable [ProxiedModule μ NativeHandle ω]

def watchAll (steps : List (HostStep μ ω)) (w : ω) : ModuleHost (Loaded μ) × Watched ω :=
  actAll (steps.map watched) {} { world := w }

theorem matches_watched (step : HostStep μ ω) : Watched.erasure.Matches step.watched step := by
  cases step with
  | create id broker load args => exact .create (Watched.loads_loader load) id broker args
  | receive id frame => exact .receive id frame
  | start id => exact .start id
  | destroy id => exact .destroy id
  | elsewhere change => exact .elsewhere fun _ => rfl

theorem actAll_watched (steps : List (HostStep μ ω)) (h : ModuleHost (Loaded μ))
    (w : Watched ω) :
    ((actAll (steps.map watched) h w).1.unnumbered, (actAll (steps.map watched) h w).2.world) =
      actAll steps h.unnumbered w.world :=
  Erasure.actAll matches_watched steps h w

end HostStep

end ModuleProxy
