import ModuleProxy.Proofs.Host.Watched

namespace ModuleProxy

variable {μ ω : Type}

structure Granted (ω : Type) where
  world : ω
  grants : List NativeHandle := []

namespace Granted

instance [ProxiedModule μ NativeHandle ω] : ProxiedModule μ NativeHandle (Granted ω) where
  create m broker args w :=
    let step := ProxiedModule.create m broker args w.world
    (step.1, step.2.1, { world := step.2.2, grants := w.grants ++ [broker] })
  receive m message w :=
    let step := ProxiedModule.receive m message w.world
    (step.1, { w with world := step.2 })
  destroy m w :=
    let step := ProxiedModule.destroy m w.world
    (step.1, { w with world := step.2 })
  hasStart m := ProxiedModule.hasStart ω m
  start m w :=
    let step := ProxiedModule.start m w.world
    (step.1, { w with world := step.2 })

def loader (load : ω → Except Cause μ × ω) (w : Granted ω) : Except Cause μ × Granted ω :=
  ((load w.world).1, { w with world := (load w.world).2 })

theorem loader_eq {load : ω → Except Cause μ × ω} {w : Granted ω} {result : Except Cause μ}
    {world : ω} (h : load w.world = (result, world)) :
    loader load w = (result, { w with world }) := by
  rw [loader, h]

theorem create_eq [ProxiedModule μ NativeHandle ω] {m m' : μ} {broker : NativeHandle}
    {args : Bytes} {w : Granted ω} {result : Except Cause Unit} {world : ω}
    (h : ProxiedModule.create m broker args w.world = (result, m', world)) :
    ProxiedModule.create m broker args w =
      (result, m', { world, grants := w.grants ++ [broker] }) := by
  simp only [ProxiedModule.create, h]

end Granted

namespace HostStep

def granting : HostStep μ ω → HostStep μ (Granted ω)
  | .create id broker load args => .create id broker (Granted.loader load) args
  | .receive id frame => .receive id frame
  | .start id => .start id
  | .destroy id => .destroy id
  | .elsewhere change => .elsewhere fun w => { w with world := change w.world }

def offer? : HostStep μ ω → Option NativeHandle
  | .create id broker _ _ => some ⟨broker, id⟩
  | _ => none

end HostStep

namespace Granted

variable [ProxiedModule μ NativeHandle ω]

def erasure : Erasure μ (Granted ω) μ ω where
  guest := id
  world := Granted.world
  create_eq _ _ _ _ := rfl
  receive_eq _ _ _ := rfl
  destroy_eq _ _ := rfl
  hasStart_eq _ := rfl
  start_eq _ _ := rfl

theorem host_erasure (h : ModuleHost μ) : (erasure (ω := ω)).host h = h :=
  congrArg ModuleHost.mk h.modules.map_id

theorem loads_loader (load : ω → Except Cause μ × ω) : erasure.Loads (loader load) load := by
  intro w
  rcases hload : load w.world with ⟨_ | _, world⟩
  all_goals
    rw [loader_eq hload]
    exact hload

end Granted

namespace HostStep

variable [ProxiedModule μ NativeHandle ω]

theorem matches_granting (step : HostStep μ ω) : Granted.erasure.Matches step.granting step := by
  cases step with
  | create id broker load args => exact .create (Granted.loads_loader load) id broker args
  | receive id frame => exact .receive id frame
  | start id => exact .start id
  | destroy id => exact .destroy id
  | elsewhere change => exact .elsewhere fun _ => rfl

theorem actAll_granting (steps : List (HostStep μ ω)) (h : ModuleHost μ) (w : Granted ω) :
    ((actAll (steps.map granting) h w).1, (actAll (steps.map granting) h w).2.world) =
      actAll steps h w.world := by
  have hrun := Erasure.actAll matches_granting steps h w
  simp only [Granted.host_erasure] at hrun
  exact hrun

end HostStep

end ModuleProxy
