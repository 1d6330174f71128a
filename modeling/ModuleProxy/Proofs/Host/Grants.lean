import ModuleProxy.Proofs.Host.Granted
import ModuleProxy.Proofs.Host.Instances
import ModuleProxy.Sandbox

namespace ModuleProxy

variable {μ ω : Type}

namespace ModuleHost

variable [ProxiedModule μ NativeHandle ω] (h : ModuleHost (Loaded μ)) (id : ModuleId)
  (w : Watched (Granted ω))

theorem grants_destroy : (h.destroy id w).2.2.world.grants = w.world.grants := by
  unfold destroy
  cases h.modules.get? id <;> rfl

theorem grants_create (broker : UInt64) (load : ω → Except Cause μ × ω) (args : Bytes) :
    let made := h.create id broker (Watched.loader (Granted.loader load)) args w
    ∃ added, made.2.2.world.grants = w.world.grants ++ added ∧
      List.Sublist added [⟨broker, id⟩] ∧
      HostCall.loads made.2.2.calls = HostCall.loads w.calls + added.length := by
  intro made
  rw [← h.grants_destroy id w, ← h.loads_destroy id w]
  rcases hload : load (h.destroy id w).2.2.world.world with ⟨cause | guest, world⟩
  · have hmade : made = _ :=
      create_of_not_loaded (Watched.loader_error (Granted.loader_eq hload))
    rw [hmade]
    exact ⟨[], by simp [Watched.note], List.nil_sublist _, by simp [Watched.note, HostCall.loads]⟩
  · let native : NativeHandle := ⟨broker, id⟩
    have hloader := Watched.loader_ok (Granted.loader_eq hload)
    rcases hcreate : ProxiedModule.create guest native args world with ⟨cause | _, guest', world'⟩
    · have hmade : made = _ :=
        create_of_refused hloader (Watched.create_eq (Granted.create_eq hcreate))
      rw [hmade]
      exact ⟨[native], rfl, .refl _, by simp [Watched.note, HostCall.loads]⟩
    · have hmade : made = _ :=
        create_of_accepted hloader (Watched.create_eq (Granted.create_eq hcreate))
      rw [hmade]
      exact ⟨[native], rfl, .refl _, by simp [Watched.note, HostCall.loads]⟩

theorem grants_receive (frame : Bytes) :
    let taken := (h.receive id frame w).2.2
    taken.world.grants = w.world.grants ∧
      HostCall.loads taken.calls = HostCall.loads w.calls := by
  unfold receive
  cases h.modules.get? id with
  | none => exact ⟨rfl, rfl⟩
  | some m =>
    cases Message.decode frame with
    | error e => exact ⟨rfl, rfl⟩
    | ok message =>
      refine ⟨rfl, ?_⟩
      simp [ProxiedModule.receive, Watched.note, HostCall.loads]

theorem grants_start :
    let started := (h.start id w).2.2
    started.world.grants = w.world.grants ∧
      HostCall.loads started.calls = HostCall.loads w.calls := by
  unfold start
  cases h.modules.get? id with
  | none => exact ⟨rfl, rfl⟩
  | some m =>
    dsimp only
    split
    · refine ⟨rfl, ?_⟩
      simp [ProxiedModule.start, Watched.note, HostCall.loads]
    · exact ⟨rfl, rfl⟩

end ModuleHost

def Fresh (id : ModuleId) (now after : ModuleHost (Loaded μ) × List HostCall) : Prop :=
  HostCall.loads now.2 ≤ HostCall.loads after.2 ∧
    ∀ other n, after.1.serialAt other = some n → now.1.serialAt other = some n ∨
      other = id ∧ HostCall.loads now.2 ≤ n ∧ n < HostCall.loads after.2

theorem HostMove.fresh {id : ModuleId} {now after : ModuleHost (Loaded μ) × List HostCall}
    (hmove : HostMove id now after) : Fresh id now after := by
  cases hmove with
  | destroy hget =>
    refine ⟨by simp [HostCall.loads], fun other n hserial => .inl ?_⟩
    rw [ModuleHost.serialAt_erase, Option.ite_none_left_eq_some] at hserial
    exact hserial.2
  | loadFailed => exact ⟨by simp [HostCall.loads], fun other n hserial => .inl hserial⟩
  | refuse => exact ⟨by simp [HostCall.loads], fun other n hserial => .inl hserial⟩
  | accept hfree hnew =>
    refine ⟨by simp [HostCall.loads], fun other n hserial => ?_⟩
    rw [ModuleHost.serialAt_insertWithId, hnew] at hserial
    split at hserial
    · cases hserial
      exact .inr ⟨‹_›, Nat.le_refl _, by simp [HostCall.loads]⟩
    · exact .inl hserial
  | work hget hsame hcall =>
    refine ⟨by simp [HostCall.loads], fun other n hserial => .inl ?_⟩
    rw [ModuleHost.serialAt_insertWithId, hsame] at hserial
    split at hserial
    · rename_i hother
      rw [hother, ModuleHost.serialAt_of_get? hget, hserial]
    · exact hserial

theorem HostMoves.fresh {id : ModuleId} {now after : ModuleHost (Loaded μ) × List HostCall}
    (hmoves : HostMoves id now after) : Fresh id now after := by
  induction hmoves with
  | refl => exact ⟨Nat.le_refl _, fun other n hserial => .inl hserial⟩
  | tail hbefore hmove ih =>
    obtain ⟨hle, hnew⟩ := ih
    obtain ⟨hle', hnew'⟩ := HostMove.fresh hmove
    refine ⟨Nat.le_trans hle hle', fun other n hserial => ?_⟩
    obtain hmid | ⟨rfl, hge, hlt⟩ := hnew' other n hserial
    · obtain hold | ⟨rfl, hge, hlt⟩ := hnew other n hmid
      · exact .inl hold
      · exact .inr ⟨rfl, hge, Nat.lt_of_lt_of_le hlt hle'⟩
    · exact .inr ⟨rfl, Nat.le_trans hle hge, hlt⟩

theorem NativeHandle.publish_eq [NativeBroker ω] (broker : NativeHandle) (m : Message) (w : ω) :
    let told frame := NativeBroker.publish broker.broker broker.source frame w
    Publisher.publish broker m w =
      match m.encode with
      | .error e => (.error (.publishFailure (.format e)), w)
      | .ok frame => ((told frame).1.mapError .publishFailure, (told frame).2) := by
  intro told
  rw [Publisher.publish]
  cases m.encode with
  | error e => rfl
  | ok frame =>
    rcases htold : told frame with ⟨cause | _, after⟩
    all_goals
      simp only [Publisher.publishFrame, told] at htold ⊢
      rw [htold]
      rfl

namespace HostStep

theorem source_of_offer? {step : HostStep μ ω} {broker : NativeHandle}
    (hoffer : step.offer? = some broker) : step.granting.id? = some broker.source := by
  cases step <;> cases hoffer
  rfl

variable [ProxiedModule μ NativeHandle ω]

structure Grants (h : ModuleHost (Loaded μ)) (w : Watched (Granted ω))
    (offers : List NativeHandle) : Prop where
  length_eq : w.world.grants.length = HostCall.loads w.calls
  sublist : w.world.grants.Sublist offers
  source : ∀ id n, h.serialAt id = some n → ∃ broker, w.world.grants[n]? = some ⟨broker, id⟩

theorem grants_act (step : HostStep μ ω) (h : ModuleHost (Loaded μ)) (w : Watched (Granted ω)) :
    let after := (step.granting.watched.act h w).2
    ∃ added, after.world.grants = w.world.grants ++ added ∧
      added.Sublist step.offer?.toList ∧
      HostCall.loads after.calls = HostCall.loads w.calls + added.length := by
  cases step with
  | create id broker load args => exact h.grants_create id w broker load args
  | receive id frame =>
    obtain ⟨hgrants, hloads⟩ := h.grants_receive id w frame
    exact ⟨[], hgrants.trans (List.append_nil _).symm, .slnil, hloads⟩
  | start id =>
    obtain ⟨hgrants, hloads⟩ := h.grants_start id w
    exact ⟨[], hgrants.trans (List.append_nil _).symm, .slnil, hloads⟩
  | destroy id =>
    have hgrants := h.grants_destroy id w
    exact ⟨[], hgrants.trans (List.append_nil _).symm, .slnil, h.loads_destroy id w⟩
  | elsewhere change => exact ⟨[], (List.append_nil _).symm, .slnil, rfl⟩

theorem fresh_act (step : HostStep μ ω) (h : ModuleHost (Loaded μ)) (w : Watched (Granted ω)) :
    let after := step.granting.watched.act h w
    ∀ id n, after.1.serialAt id = some n → h.serialAt id = some n ∨
      step.granting.id? = some id ∧ HostCall.loads w.calls ≤ n ∧
        n < HostCall.loads after.2.calls := by
  intro after id n hserial
  cases hid : step.granting.id? with
  | some id =>
    obtain hold | ⟨rfl, hnew⟩ := (moves_act hid h w).fresh.2 _ _ hserial
    · exact .inl hold
    · exact .inr ⟨rfl, hnew⟩
  | none =>
    cases step with
    | elsewhere change => exact .inl hserial
    | _ => cases hid

theorem Grants.act {h : ModuleHost (Loaded μ)} {w : Watched (Granted ω)}
    {offers : List NativeHandle} (hg : Grants h w offers) (step : HostStep μ ω) :
    let after := step.granting.watched.act h w
    Grants after.1 after.2 (offers ++ step.offer?.toList) := by
  obtain ⟨added, hgrants, hadded, hloads⟩ := step.grants_act h w
  refine ⟨?_, ?_, fun id n hserial => ?_⟩
  · rw [hgrants, List.length_append, hg.length_eq, hloads]
  · rw [hgrants]
    exact hg.sublist.append hadded
  · rw [hgrants]
    obtain hold | ⟨hid, hge, hlt⟩ := fresh_act step h w id n hserial
    · obtain ⟨broker, hbroker⟩ := hg.source id n hold
      exact ⟨broker, by rw [List.getElem?_append_left (List.getElem?_eq_some_iff.mp hbroker).1,
        hbroker]⟩
    · rw [hloads] at hlt
      cases hoffer : step.offer? with
      | none =>
        rw [hoffer] at hadded
        rw [List.sublist_nil.mp hadded] at hlt
        exact absurd hlt (Nat.not_lt.mpr hge)
      | some broker =>
        rw [hoffer] at hadded
        have hone := hadded.length_le
        simp only [Option.toList_some, List.length_singleton] at hone
        obtain rfl : n = w.world.grants.length := by
          have := hg.length_eq
          omega
        obtain rfl := hadded.eq_of_length (by simp; omega)
        have hsource := hid.symm.trans (source_of_offer? hoffer)
        cases hsource
        exact ⟨broker.broker, by simp⟩

theorem grants_actAll (steps : List (HostStep μ ω)) {h : ModuleHost (Loaded μ)}
    {w : Watched (Granted ω)} {offers : List NativeHandle} (hg : Grants h w offers) :
    let after := actAll ((steps.map granting).map watched) h w
    Grants after.1 after.2 (offers ++ steps.filterMap offer?) := by
  induction steps generalizing h w offers with
  | nil => rwa [List.filterMap_nil, List.append_nil]
  | cons step steps ih =>
    have hoffers : (step :: steps).filterMap offer? =
        step.offer?.toList ++ steps.filterMap offer? := by
      cases hoffer : step.offer? <;> simp [hoffer]
    rw [hoffers, ← List.append_assoc]
    exact ih (hg.act step)

variable [NativeBroker ω]

/-- Every instance is given one broker, for the number that it is created under, and the host takes
none back. Whatever has become of the instance, what is published on its broker is taken to the
native broker, and it depends on that alone whether this goes well. -/
theorem brokers_outlive (steps : List (HostStep μ ω)) (w : ω) :
    let plain := actAll steps {} w
    let now := watchAll (steps.map granting) { world := w }
    let grants := now.2.world.grants
    (now.1.unnumbered, now.2.world.world) = plain ∧ Lives now.1 now.2.calls ∧
      grants.length = HostCall.loads now.2.calls ∧ grants.Sublist (steps.filterMap offer?) ∧
      (∀ id n, now.1.serialAt id = some n → ∃ broker, grants[n]? = some ⟨broker, id⟩) ∧
      ∀ broker ∈ grants, ∀ m : Message,
        let told frame := NativeBroker.publish broker.broker broker.source frame plain.2
        Publisher.publish broker m plain.2 =
          match m.encode with
          | .error e => (.error (.publishFailure (.format e)), plain.2)
          | .ok frame => ((told frame).1.mapError .publishFailure, (told frame).2) := by
  intro plain now grants
  have hplain : (now.1.unnumbered, now.2.world.world) = plain := by
    have hwatched : (now.1.unnumbered, now.2.world) = actAll (steps.map granting) {} _ :=
      actAll_watched (steps.map granting) {} { world := { world := w } }
    have hgranted := actAll_granting steps {} { world := w }
    rw [← hwatched] at hgranted
    exact hgranted
  have hgrants : Grants now.1 now.2 ([] ++ steps.filterMap offer?) :=
    grants_actAll steps ⟨rfl, .slnil, by simp [ModuleHost.serialAt]⟩
  refine ⟨hplain, lives_actAll .initial _, hgrants.length_eq, hgrants.sublist, hgrants.source, ?_⟩
  exact fun broker _ m => broker.publish_eq m plain.2

theorem ended_brokers_publish :
    let recorder : Guest NativeHandle := .recorder { settings := { name := "r" } }
    let load : Sandbox → Except Cause (Guest NativeHandle) × Sandbox := fun w => (.ok recorder, w)
    let steps := [.create 1 7 load [], .destroy 1, .create 2 7 load [], .create 2 8 load [],
      .create 3 9 load Recorder.refusal]
    let now := watchAll (steps.map granting) { world := {} }
    let w := now.2.world.world
    let m : Message := { content := [5] }
    HostCall.onInstance 0 now.2.calls = [.create true, .destroy] ∧
      HostCall.onInstance 1 now.2.calls = [.create true, .destroy] ∧
      HostCall.onInstance 3 now.2.calls = [.create false] ∧
      now.2.world.grants = [⟨7, 1⟩, ⟨7, 2⟩, ⟨8, 2⟩, ⟨9, 3⟩] ∧
      ∃ frame, m.encode = .ok frame ∧
        ∀ stale ∈ [((⟨7, 1⟩ : NativeHandle), "7/module-1"), (⟨7, 2⟩, "7/module-2"),
            (⟨9, 3⟩, "9/module-3")],
          Publisher.publish stale.1 m w =
            (.ok (), { w with events := w.events.push ⟨"publish", stale.2, .bytes frame⟩ }) := by
  refine ⟨rfl, rfl, rfl, rfl, _, rfl, ?_⟩
  simp only [List.forall_mem_cons]
  exact ⟨rfl, rfl, rfl, nofun⟩

end HostStep

end ModuleProxy
