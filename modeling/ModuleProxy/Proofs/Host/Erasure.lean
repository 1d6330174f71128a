import ModuleProxy.Host.Basic
import ModuleProxy.Proofs.Host.Registry

/-!
Hosts that note something beside their instances or beside the world, and what is left of them when
it is forgotten. `Erasure` says of each call on an instance that the notes change nothing; so they
change no operation of a host and no run.
-/

namespace ModuleProxy

inductive HostStep (μ ω : Type) where
  | create (id : ModuleId) (broker : UInt64) (load : ω → Except Cause μ × ω) (args : Bytes)
  | receive (id : ModuleId) (frame : Bytes)
  | start (id : ModuleId)
  | destroy (id : ModuleId)
  | elsewhere (change : ω → ω)

namespace HostStep

variable {μ ω : Type}

def id? : HostStep μ ω → Option ModuleId
  | .create id .. | .receive id _ | .start id | .destroy id => some id
  | .elsewhere _ => none

variable [ProxiedModule μ NativeHandle ω]

def act : HostStep μ ω → ModuleHost μ → ω → ModuleHost μ × ω
  | .create id broker load args, h, w => (h.create id broker load args w).2
  | .receive id frame, h, w => (h.receive id frame w).2
  | .start id, h, w => (h.start id w).2
  | .destroy id, h, w => (h.destroy id w).2
  | .elsewhere change, h, w => (h, change w)

def actAll (steps : List (HostStep μ ω)) (h : ModuleHost μ) (w : ω) : ModuleHost μ × ω :=
  steps.foldl (fun now step => step.act now.1 now.2) (h, w)

end HostStep

namespace ModuleHost

variable {μ ω : Type} [ProxiedModule μ NativeHandle ω] {h : ModuleHost μ} {id : ModuleId}
  {broker : UInt64} {load : ω → Except Cause μ × ω} {args : Bytes} {w w' w'' : ω} {cause : Cause}
  {guest guest' : μ}

theorem create_of_not_loaded (hload : load (h.destroy id w).2.2 = (.error cause, w')) :
    h.create id broker load args w =
      (.error (.moduleCreate cause), (h.destroy id w).2.1, w') := by
  simp only [create, hload]

theorem create_of_refused (hload : load (h.destroy id w).2.2 = (.ok guest, w'))
    (hcreate : ProxiedModule.create guest (⟨broker, id⟩ : NativeHandle) args w' =
      (.error cause, guest', w'')) :
    h.create id broker load args w =
      (.error (.moduleCreate cause), (h.destroy id w).2.1, w'') := by
  simp only [create, hload, hcreate]

theorem create_of_accepted (hload : load (h.destroy id w).2.2 = (.ok guest, w'))
    (hcreate : ProxiedModule.create guest (⟨broker, id⟩ : NativeHandle) args w' =
      (.ok (), guest', w'')) :
    h.create id broker load args w =
      (.ok (), ⟨(h.destroy id w).2.1.modules.insertWithId id guest'⟩, w'') := by
  simp only [create, hload, hcreate]

end ModuleHost

structure Erasure (ν ξ μ ω : Type) [ProxiedModule ν NativeHandle ξ]
    [ProxiedModule μ NativeHandle ω] where
  guest : ν → μ
  world : ξ → ω
  create_eq : ∀ m (broker : NativeHandle) args w,
    let step := ProxiedModule.create m broker args w
    ProxiedModule.create (guest m) broker args (world w) = (step.1, guest step.2.1, world step.2.2)
  receive_eq : ∀ m message w,
    let step := ProxiedModule.receive m message w
    ProxiedModule.receive (guest m) message (world w) = (guest step.1, world step.2)
  destroy_eq : ∀ m w,
    let step := ProxiedModule.destroy m w
    ProxiedModule.destroy (guest m) (world w) = (guest step.1, world step.2)
  hasStart_eq : ∀ m, ProxiedModule.hasStart ω (guest m) = ProxiedModule.hasStart ξ m
  start_eq : ∀ m w,
    let step := ProxiedModule.start m w
    ProxiedModule.start (guest m) (world w) = (guest step.1, world step.2)

namespace Erasure

variable {ν ξ μ ω α : Type} [ProxiedModule ν NativeHandle ξ] [ProxiedModule μ NativeHandle ω]
  (e : Erasure ν ξ μ ω)

def host (h : ModuleHost ν) : ModuleHost μ where
  modules := h.modules.map e.guest

def result (r : α × ModuleHost ν × ξ) : α × ModuleHost μ × ω :=
  (r.1, e.host r.2.1, e.world r.2.2)

def Loads (load' : ξ → Except Cause ν × ξ) (load : ω → Except Cause μ × ω) : Prop :=
  ∀ w, load (e.world w) = ((load' w).1.map e.guest, e.world (load' w).2)

variable (h : ModuleHost ν) (id : ModuleId) (w : ξ)

theorem get?_host : (e.host h).modules.get? id = (h.modules.get? id).map e.guest :=
  Registry.get?_map ..

theorem destroy : e.result (h.destroy id w) = (e.host h).destroy id (e.world w) := by
  unfold ModuleHost.destroy
  rw [get?_host]
  cases h.modules.get? id with
  | none => rfl
  | some m =>
    simp only [Option.map_some, e.destroy_eq, host, Registry.erase_map]
    rfl

theorem create {load' : ξ → Except Cause ν × ξ} {load : ω → Except Cause μ × ω}
    (hloads : e.Loads load' load) (broker : UInt64) (args : Bytes) :
    e.result (h.create id broker load' args w) =
      (e.host h).create id broker load args (e.world w) := by
  have hgone := e.destroy h id w
  have hsame := (congrArg (fun gone => load gone.2.2) hgone).symm.trans (hloads _)
  rcases hload : load' (h.destroy id w).2.2 with ⟨cause | m, w'⟩
  all_goals rw [hload] at hsame
  · rw [ModuleHost.create_of_not_loaded hload, ModuleHost.create_of_not_loaded hsame, ← hgone]
    rfl
  · have hnative := e.create_eq m ⟨broker, id⟩ args w'
    rcases hcreate : ProxiedModule.create m (⟨broker, id⟩ : NativeHandle) args w' with
      ⟨cause | _, m', w''⟩
    all_goals rw [hcreate] at hnative
    · rw [ModuleHost.create_of_refused hload hcreate, ModuleHost.create_of_refused hsame hnative,
        ← hgone]
      rfl
    · rw [ModuleHost.create_of_accepted hload hcreate, ModuleHost.create_of_accepted hsame hnative,
        ← hgone]
      simp only [result, host, ← Registry.insertWithId_map]

theorem receive (frame : Bytes) :
    e.result (h.receive id frame w) = (e.host h).receive id frame (e.world w) := by
  unfold ModuleHost.receive
  rw [get?_host]
  cases h.modules.get? id with
  | none => rfl
  | some m =>
    dsimp only [Option.map_some]
    cases Message.decode frame with
    | error _ => rfl
    | ok message => simp only [e.receive_eq, result, host, ← Registry.insertWithId_map]

theorem start : e.result (h.start id w) = (e.host h).start id (e.world w) := by
  unfold ModuleHost.start
  rw [get?_host]
  cases h.modules.get? id with
  | none => rfl
  | some m =>
    simp only [Option.map_some, e.hasStart_eq]
    split
    · simp only [e.start_eq, result, host, ← Registry.insertWithId_map]
    · rfl

inductive Matches : HostStep ν ξ → HostStep μ ω → Prop where
  | create {load' : ξ → Except Cause ν × ξ} {load : ω → Except Cause μ × ω}
    (hloads : e.Loads load' load) (id : ModuleId) (broker : UInt64) (args : Bytes) :
    Matches (.create id broker load' args) (.create id broker load args)
  | receive (id : ModuleId) (frame : Bytes) : Matches (.receive id frame) (.receive id frame)
  | start (id : ModuleId) : Matches (.start id) (.start id)
  | destroy (id : ModuleId) : Matches (.destroy id) (.destroy id)
  | elsewhere {change' : ξ → ξ} {change : ω → ω}
    (hchange : ∀ w, e.world (change' w) = change (e.world w)) :
    Matches (.elsewhere change') (.elsewhere change)

variable {e} {step' : HostStep ν ξ} {step : HostStep μ ω}

theorem Matches.act (hmatch : e.Matches step' step) (h : ModuleHost ν) (w : ξ) :
    (e.host (step'.act h w).1, e.world (step'.act h w).2) =
      step.act (e.host h) (e.world w) := by
  cases hmatch with
  | create hloads id broker args => exact congrArg Prod.snd (e.create h id w hloads broker args)
  | receive id frame => exact congrArg Prod.snd (e.receive h id w frame)
  | start id => exact congrArg Prod.snd (e.start h id w)
  | destroy id => exact congrArg Prod.snd (e.destroy h id w)
  | elsewhere hchange => exact congrArg (Prod.mk (e.host h)) (hchange w)

theorem actAll {noting : HostStep μ ω → HostStep ν ξ}
    (hmatches : ∀ step, e.Matches (noting step) step) (steps : List (HostStep μ ω))
    (h : ModuleHost ν) (w : ξ) :
    let after := HostStep.actAll (steps.map noting) h w
    (e.host after.1, e.world after.2) = HostStep.actAll steps (e.host h) (e.world w) := by
  induction steps generalizing h w with
  | nil => rfl
  | cons step steps ih =>
    have hstep := (hmatches step).act h w
    have hrest := ih ((noting step).act h w).1 ((noting step).act h w).2
    change _ = HostStep.actAll steps (step.act (e.host h) (e.world w)).1
      (step.act (e.host h) (e.world w)).2
    rw [← hstep]
    exact hrest

end Erasure

end ModuleProxy
