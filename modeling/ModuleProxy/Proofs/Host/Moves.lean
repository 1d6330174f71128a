import ModuleProxy.Proofs.Host.Watched
import Mathlib.Logic.Relation

namespace ModuleProxy

variable {μ ω : Type}

inductive HostMove (id : ModuleId) :
    ModuleHost (Loaded μ) × List HostCall → ModuleHost (Loaded μ) × List HostCall → Prop where
  | destroy {h : ModuleHost (Loaded μ)} {calls : List HostCall} {m : Loaded μ}
    (hget : h.modules.get? id = some m) :
    HostMove id (h, calls)
      ({ h with modules := h.modules.erase id }, calls ++ [.on m.serial .destroy])
  | loadFailed {h : ModuleHost (Loaded μ)} {calls : List HostCall} :
    HostMove id (h, calls) (h, calls ++ [.load false])
  | refuse {h : ModuleHost (Loaded μ)} {calls : List HostCall} :
    HostMove id (h, calls)
      (h, calls ++ [.load true, .on (HostCall.loads calls) (.create false)])
  | accept {h : ModuleHost (Loaded μ)} {calls : List HostCall} {m : Loaded μ}
    (hfree : h.modules.get? id = none) (hserial : m.serial = HostCall.loads calls) :
    HostMove id (h, calls)
      ({ h with modules := h.modules.insertWithId id m },
        calls ++ [.load true, .on (HostCall.loads calls) (.create true)])
  | work {h : ModuleHost (Loaded μ)} {calls : List HostCall} {m m' : Loaded μ} {call : ModuleCall}
    (hget : h.modules.get? id = some m) (hserial : m'.serial = m.serial) (hcall : call.IsWork) :
    HostMove id (h, calls)
      ({ h with modules := h.modules.insertWithId id m' }, calls ++ [.on m.serial call])

abbrev HostMoves (id : ModuleId) :
    ModuleHost (Loaded μ) × List HostCall → ModuleHost (Loaded μ) × List HostCall → Prop :=
  Relation.ReflTransGen (HostMove id)

namespace ModuleHost

variable [ProxiedModule μ NativeHandle ω]

theorem get?_destroy (h : ModuleHost (Loaded μ)) (id : ModuleId) (w : Watched ω) :
    (h.destroy id w).2.1.modules.get? id = none := by
  unfold destroy
  split
  · assumption
  · simp [Registry.get?_erase]

theorem calls_destroy (h : ModuleHost (Loaded μ)) (id : ModuleId) (w : Watched ω) :
    (h.destroy id w).2.2.calls =
      w.calls ++ ((h.modules.get? id).map fun m => .on m.serial .destroy).toList := by
  unfold destroy
  cases h.modules.get? id with
  | none => simp
  | some m => rfl

theorem loads_destroy (h : ModuleHost (Loaded μ)) (id : ModuleId) (w : Watched ω) :
    HostCall.loads (h.destroy id w).2.2.calls = HostCall.loads w.calls := by
  rw [calls_destroy, HostCall.loads_append]
  cases h.modules.get? id <;> simp [HostCall.loads]

/-- A creation fails to load, or what it loads refuses, or that is what there is under the number.
It goes from where the destruction of what was there before leaves it. -/
theorem create_cases (h : ModuleHost (Loaded μ)) (id : ModuleId) (broker : UInt64)
    (load : ω → Except Cause μ × ω) (args : Bytes) (w : Watched ω) :
    let gone := (h.destroy id w).2
    let made := h.create id broker (Watched.loader load) args w
    (∃ cause, made.1 = .error (.moduleCreate cause) ∧ made.2.1 = gone.1 ∧
      made.2.2.calls = gone.2.calls ++ [.load false]) ∨
    (∃ cause, made.1 = .error (.moduleCreate cause) ∧ made.2.1 = gone.1 ∧
      made.2.2.calls = gone.2.calls ++
        [.load true, .on (HostCall.loads gone.2.calls) (.create false)]) ∨
    ∃ m : Loaded μ, m.serial = HostCall.loads gone.2.calls ∧ made.1 = .ok () ∧
      made.2.1 = { gone.1 with modules := gone.1.modules.insertWithId id m } ∧
      made.2.2.calls = gone.2.calls ++
        [.load true, .on (HostCall.loads gone.2.calls) (.create true)] := by
  intro gone made
  rcases hload : load gone.2.world with ⟨cause | guest, world⟩
  · have hmade : made = _ := create_of_not_loaded (Watched.loader_error hload)
    rw [hmade]
    exact .inl ⟨cause, rfl, rfl, rfl⟩
  · let native : NativeHandle := ⟨broker, id⟩
    have hloader := Watched.loader_ok hload
    rcases hcreate : ProxiedModule.create guest native args world with ⟨cause | _, guest', world'⟩
    · have hmade : made = _ := create_of_refused hloader (Watched.create_eq hcreate)
      rw [hmade]
      exact .inr (.inl ⟨cause, rfl, rfl, by simp [Watched.note, Except.isOk, Except.toBool]⟩)
    · have hmade : made = _ := create_of_accepted hloader (Watched.create_eq hcreate)
      rw [hmade]
      exact .inr (.inr ⟨⟨HostCall.loads gone.2.calls, guest'⟩, rfl, rfl, rfl,
        by simp [Watched.note, Except.isOk, Except.toBool]⟩)

theorem moves_destroy (h : ModuleHost (Loaded μ)) (id : ModuleId) (w : Watched ω) :
    HostMoves id (h, w.calls) ((h.destroy id w).2.1, (h.destroy id w).2.2.calls) := by
  unfold destroy
  cases hget : h.modules.get? id with
  | none => exact .refl
  | some m => exact .single (.destroy hget)

theorem moves_create (h : ModuleHost (Loaded μ)) (id : ModuleId) (broker : UInt64)
    (load : ω → Except Cause μ × ω) (args : Bytes) (w : Watched ω) :
    let made := h.create id broker (Watched.loader load) args w
    HostMoves id (h, w.calls) (made.2.1, made.2.2.calls) := by
  intro made
  apply (h.moves_destroy id w).tail
  obtain ⟨cause, -, hhost, hcalls⟩ | ⟨cause, -, hhost, hcalls⟩ | ⟨m, hserial, -, hhost, hcalls⟩ :=
    h.create_cases id broker load args w <;> rw [hhost, hcalls]
  · exact .loadFailed
  · exact .refuse
  · exact .accept (h.get?_destroy id w) hserial

theorem moves_receive (h : ModuleHost (Loaded μ)) (id : ModuleId) (frame : Bytes)
    (w : Watched ω) :
    let taken := h.receive id frame w
    HostMoves id (h, w.calls) (taken.2.1, taken.2.2.calls) := by
  unfold receive
  cases hget : h.modules.get? id with
  | none => exact .refl
  | some m =>
    cases hdecode : Message.decode frame with
    | error e => exact .refl
    | ok message => exact .single (.work hget rfl (.inr rfl))

theorem moves_start (h : ModuleHost (Loaded μ)) (id : ModuleId) (w : Watched ω) :
    HostMoves id (h, w.calls) ((h.start id w).2.1, (h.start id w).2.2.calls) := by
  unfold start
  cases hget : h.modules.get? id with
  | none => exact .refl
  | some m =>
    dsimp only
    split
    · exact .single (.work hget rfl (.inl rfl))
    · exact .refl

end ModuleHost

namespace HostStep

variable [ProxiedModule μ NativeHandle ω]

theorem moves_act {step : HostStep μ ω} {id : ModuleId} (h : step.id? = some id)
    (host : ModuleHost (Loaded μ)) (w : Watched ω) :
    let after := step.watched.act host w
    HostMoves id (host, w.calls) (after.1, after.2.calls) := by
  cases step with
  | elsewhere change => cases h
  | create id broker load args =>
    obtain rfl := Option.some.inj h
    exact host.moves_create id broker load args w
  | receive id frame =>
    obtain rfl := Option.some.inj h
    exact host.moves_receive id frame w
  | start id =>
    obtain rfl := Option.some.inj h
    exact host.moves_start id w
  | destroy id =>
    obtain rfl := Option.some.inj h
    exact host.moves_destroy id w

end HostStep

end ModuleProxy
