import ModuleProxy.Proofs.Host.Lives

namespace ModuleProxy

variable {μ ω : Type}

open HostCall

def Untouched (other : ModuleId) (now after : ModuleHost (Loaded μ) × List HostCall) : Prop :=
  after.1.modules.get? other = now.1.modules.get? other ∧
    ∀ m, now.1.modules.get? other = some m →
      onInstance m.serial after.2 = onInstance m.serial now.2

theorem HostMove.untouched {id other : ModuleId} (hne : other ≠ id)
    {now after : ModuleHost (Loaded μ) × List HostCall} (hl : Lives now.1 now.2)
    (hmove : HostMove id now after) : Untouched other now after := by
  cases hmove with
  | destroy hget =>
    refine ⟨by simp [Registry.get?_erase, hne], fun m hm => ?_⟩
    simp [onInstance, onInstance?, hl.serial_ne hne.symm hget hm]
  | loadFailed =>
    refine ⟨rfl, fun m hm => ?_⟩
    simp [onInstance, onInstance?]
  | refuse =>
    refine ⟨rfl, fun m hm => ?_⟩
    have hlt := hl.lt_loads (ModuleHost.serialAt_of_get? hm)
    simp [onInstance, onInstance?, Nat.ne_of_gt hlt]
  | accept =>
    refine ⟨by simp [Registry.get?_insertWithId, hne], fun m hm => ?_⟩
    have hlt := hl.lt_loads (ModuleHost.serialAt_of_get? hm)
    simp [onInstance, onInstance?, Nat.ne_of_gt hlt]
  | work hget =>
    refine ⟨by simp [Registry.get?_insertWithId, hne], fun m hm => ?_⟩
    simp [onInstance, onInstance?, hl.serial_ne hne.symm hget hm]

theorem HostMoves.untouched {id other : ModuleId} (hne : other ≠ id)
    {now after : ModuleHost (Loaded μ) × List HostCall} (hl : Lives now.1 now.2)
    (hmoves : HostMoves id now after) : Untouched other now after := by
  induction hmoves with
  | refl => exact ⟨rfl, fun _ _ => rfl⟩
  | tail hbefore hmove ih =>
    obtain ⟨hget, hcalls⟩ := HostMove.untouched hne (hl.moves hbefore) hmove
    refine ⟨hget.trans ih.1, fun m hm => ?_⟩
    rw [hcalls m (ih.1.trans hm), ih.2 m hm]

variable [ProxiedModule μ NativeHandle ω]

namespace ModuleHost

theorem create_tells (h : ModuleHost (Loaded μ)) (id : ModuleId) (broker : UInt64)
    (load : ω → Except Cause μ × ω) (args : Bytes) (w : Watched ω) :
    let made := h.create id broker (Watched.loader load) args w
    ∃ tried, made.2.2.calls =
        w.calls ++ ((h.modules.get? id).map fun m => .on m.serial .destroy).toList ++ tried ∧
      ((∃ cause, made.1 = .error (.moduleCreate cause) ∧ made.2.1.modules.get? id = none ∧
          (tried = [.load false] ∨
            tried = [.load true, .on (loads w.calls) (.create false)])) ∨
        made.1 = .ok () ∧ made.2.1.serialAt id = some (loads w.calls) ∧
          tried = [.load true, .on (loads w.calls) (.create true)]) := by
  intro made
  have hfree := h.get?_destroy id w
  rw [← h.calls_destroy, ← h.loads_destroy id w]
  obtain ⟨cause, hresult, hhost, hcalls⟩ | ⟨cause, hresult, hhost, hcalls⟩ |
    ⟨m, hserial, hresult, hhost, hcalls⟩ := h.create_cases id broker load args w
  · exact ⟨_, hcalls, .inl ⟨cause, hresult, by rw [hhost, hfree], .inl rfl⟩⟩
  · exact ⟨_, hcalls, .inl ⟨cause, hresult, by rw [hhost, hfree], .inr rfl⟩⟩
  · refine ⟨_, hcalls, .inr ⟨hresult, ?_, rfl⟩⟩
    rw [hhost, serialAt_insertWithId, if_pos rfl, hserial]

theorem receive_of_malformed {h : ModuleHost μ} {id : ModuleId} {frame : Bytes} {e : FormatError}
    (hlive : h.modules.get? id ≠ none) (hframe : Message.decode frame = .error e) (w : ω) :
    h.receive id frame w = (.error (.format e), h, w) := by
  obtain ⟨m, hget⟩ := Option.ne_none_iff_exists'.mp hlive
  simp only [receive, hget, hframe]

end ModuleHost

namespace HostStep

theorem lives_act {h : ModuleHost (Loaded μ)} {w : Watched ω} (hl : Lives h w.calls)
    (step : HostStep μ ω) :
    let after := step.watched.act h w
    Lives after.1 after.2.calls := by
  cases hid : step.id? with
  | some id => exact hl.moves (moves_act hid h w)
  | none =>
    cases step with
    | elsewhere change => exact hl
    | _ => cases hid

theorem untouched_act {h : ModuleHost (Loaded μ)} {w : Watched ω} (hl : Lives h w.calls)
    {step : HostStep μ ω} {other : ModuleId} (hne : step.id? ≠ some other) :
    let after := step.watched.act h w
    Untouched other (h, w.calls) (after.1, after.2.calls) := by
  cases hid : step.id? with
  | some id =>
    have hother : other ≠ id := fun heq => hne (heq ▸ hid)
    exact HostMoves.untouched hother hl (moves_act hid h w)
  | none =>
    cases step with
    | elsewhere change => exact ⟨rfl, fun _ _ => rfl⟩
    | _ => cases hid

theorem lives_actAll {h : ModuleHost (Loaded μ)} {w : Watched ω} (hl : Lives h w.calls)
    (steps : List (HostStep μ ω)) :
    let after := actAll (steps.map watched) h w
    Lives after.1 after.2.calls := by
  induction steps generalizing h w with
  | nil => exact hl
  | cons step steps ih => exact ih (lives_act hl step)

/-- Whatever happens to a host, every instance that it loads has one of the lives, and those that
it keeps are the ones created and not destroyed. Whatever happens next leaves what is under other
numbers; a creation destroys what it replaces before it loads, and leaves nothing under the number
where it fails; and a frame that is none does not come to a module. -/
theorem instances_live_once (steps : List (HostStep μ ω)) (w : ω) :
    let plain := actAll steps {} w
    let now := watchAll steps w
    (now.1.unnumbered, now.2.world) = plain ∧ Lives now.1 now.2.calls ∧
      (∀ (step : HostStep μ ω) (other : ModuleId), step.id? ≠ some other →
        let after := step.watched.act now.1 now.2
        Untouched other (now.1, now.2.calls) (after.1, after.2.calls)) ∧
      (∀ id broker load args,
        let made := now.1.create id broker (Watched.loader load) args now.2
        ModuleHost.unwatched made = plain.1.create id broker load args plain.2 ∧
          ∃ tried, made.2.2.calls = now.2.calls ++
              ((now.1.modules.get? id).map fun m => .on m.serial .destroy).toList ++ tried ∧
            ((∃ cause, made.1 = .error (.moduleCreate cause) ∧
                made.2.1.modules.get? id = none ∧ (tried = [.load false] ∨
                  tried = [.load true, .on (loads now.2.calls) (.create false)])) ∨
              made.1 = .ok () ∧ made.2.1.serialAt id = some (loads now.2.calls) ∧
                tried = [.load true, .on (loads now.2.calls) (.create true)])) ∧
      ∀ id frame e, now.1.modules.get? id ≠ none → Message.decode frame = .error e →
        now.1.receive id frame now.2 = (.error (.format e), now.1, now.2) := by
  intro plain now
  have hplain : (now.1.unnumbered, now.2.world) = plain := actAll_watched steps {} { world := w }
  have hlives : Lives now.1 now.2.calls := lives_actAll .initial steps
  refine ⟨hplain, hlives, ?_, ?_, ?_⟩
  · intro step other hne
    exact untouched_act hlives hne
  · intro id broker load args made
    refine ⟨?_, now.1.create_tells id broker load args now.2⟩
    rw [← hplain]
    exact now.1.create_watched id broker load args now.2
  · intro id frame e hlive hframe
    exact ModuleHost.receive_of_malformed hlive hframe now.2

end HostStep

end ModuleProxy
