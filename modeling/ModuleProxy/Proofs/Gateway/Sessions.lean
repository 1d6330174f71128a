import ModuleProxy.Proofs.Gateway.Steps

namespace ModuleProxy

inductive ModuleCall where
  | create (accepted : Bool)
  | receive
  | start
  | destroy
  deriving DecidableEq, Repr

def ModuleCall.IsWork (call : ModuleCall) : Prop :=
  call = .start ∨ call = .receive

/-- The words of `(create→error | create→ok (start | receive)* destroy)*`. -/
inductive Sessions : List ModuleCall → Prop where
  | none : Sessions []
  | refused {rest : List ModuleCall} (h : Sessions rest) : Sessions (.create false :: rest)
  | served {work rest : List ModuleCall} (hwork : ∀ call ∈ work, call.IsWork)
    (h : Sessions rest) : Sessions (.create true :: (work ++ .destroy :: rest))

def InSession (calls : List ModuleCall) : Prop :=
  ∃ before work, Sessions before ∧ (∀ call ∈ work, call.IsWork) ∧
    calls = before ++ .create true :: work

theorem Sessions.append {before after : List ModuleCall} (hbefore : Sessions before)
    (hafter : Sessions after) : Sessions (before ++ after) := by
  induction hbefore with
  | none => exact hafter
  | refused h ih => exact ih.refused
  | served hwork h ih =>
    rw [List.cons_append, List.append_assoc, List.cons_append]
    exact ih.served hwork

theorem Sessions.refuse {calls : List ModuleCall} (h : Sessions calls) :
    Sessions (calls ++ [.create false]) :=
  h.append Sessions.none.refused

theorem Sessions.accept {calls : List ModuleCall} (h : Sessions calls) :
    InSession (calls ++ [.create true]) :=
  ⟨calls, [], h, by simp, rfl⟩

theorem InSession.work {calls : List ModuleCall} (h : InSession calls) {call : ModuleCall}
    (hcall : call.IsWork) : InSession (calls ++ [call]) := by
  obtain ⟨before, work, hbefore, hwork, rfl⟩ := h
  refine ⟨before, work ++ [call], hbefore, ?_, by simp⟩
  intro c hc
  rcases List.mem_append.mp hc with hc | hc
  · exact hwork c hc
  · rw [List.mem_singleton.mp hc]
    exact hcall

theorem InSession.finish {calls : List ModuleCall} (h : InSession calls) :
    Sessions (calls ++ [.destroy]) := by
  obtain ⟨before, work, hbefore, hwork, rfl⟩ := h
  have hlast := hbefore.append (Sessions.none.served hwork)
  simpa using hlast

theorem count_of_work {work : List ModuleCall} (h : ∀ call ∈ work, call.IsWork) (call : ModuleCall)
    (hcall : ¬call.IsWork) : work.count call = 0 := by
  apply List.count_eq_zero.mpr
  intro hmem
  exact hcall (h call hmem)

theorem Sessions.count_create {calls : List ModuleCall} (h : Sessions calls) :
    calls.count (.create true) = calls.count .destroy := by
  induction h with
  | none => rfl
  | refused h ih => simpa using ih
  | served hwork h ih =>
    have hcreate := count_of_work hwork (.create true) (by simp [ModuleCall.IsWork])
    have hdestroy := count_of_work hwork .destroy (by simp [ModuleCall.IsWork])
    simp [List.count_append, hcreate, hdestroy, ih]

theorem InSession.count_create {calls : List ModuleCall} (h : InSession calls) :
    calls.count (.create true) = calls.count .destroy + 1 := by
  have hlast := h.finish.count_create
  simpa [List.count_append] using hlast

theorem Sessions.not_inSession {calls : List ModuleCall} (h : Sessions calls) :
    ¬InSession calls := by
  intro hin
  have := h.count_create
  have := hin.count_create
  omega

theorem InSession.exists_sessions {calls : List ModuleCall} (h : InSession calls) :
    ∃ rest, Sessions (calls ++ rest) :=
  ⟨_, h.finish⟩

def GatewayCall.onModule? {γ : Type} : GatewayCall γ → Option ModuleCall
  | .create _ _ result => some (.create result.isOk)
  | .receive _ => some .receive
  | .start => some .start
  | .destroy => some .destroy
  | .openChannel .. | .send .. | .recv .. | .disconnect .. => none

def Observed.moduleCalls {γ ω : Type} (w : Observed γ ω) : List ModuleCall :=
  w.calls.filterMap GatewayCall.onModule?

namespace Gateway

variable {μ γ ω : Type}

structure Tracks (g : Gateway μ γ) (w : Observed γ ω) : Prop where
  live : g.state = .created → InSession w.moduleCalls
  idle : g.state ≠ .created → Sessions w.moduleCalls

theorem tracks_initial (guest : μ) (config : ProxyConfig) (w : ω) :
    Tracks ({ guest, config } : Gateway μ γ) { world := w } :=
  ⟨fun h => by simp at h, fun _ => .none⟩

namespace Tracks

variable {g g' : Gateway μ γ} {w w' : Observed γ ω}

theorem congr (h : Tracks g w) (hstate : g'.state = g.state)
    (hcalls : w'.moduleCalls = w.moduleCalls) : Tracks g' w' := by
  refine ⟨?_, ?_⟩ <;> rw [hstate, hcalls]
  · exact h.live
  · exact h.idle

theorem work (h : Tracks g w) (hcreated : g.state = .created) (hstate : g'.state = g.state)
    {call : ModuleCall} (hcall : call.IsWork) (hcalls : w'.moduleCalls = w.moduleCalls ++ [call]) :
    Tracks g' w' := by
  rw [hcreated] at hstate
  refine ⟨fun _ => ?_, fun hne => absurd hstate hne⟩
  rw [hcalls]
  exact (h.live hcreated).work hcall

theorem between (hne : g'.state ≠ .created) (hsessions : Sessions w'.moduleCalls) :
    Tracks g' w' :=
  ⟨fun hlive => absurd hlive hne, fun _ => hsessions⟩

theorem move [Channels γ ω] [ProxiedModule μ γ ω] (h : Tracks g w) (hg : g.Consistent)
    {calls : List (GatewayCall γ)} (hmove : Move g w calls g' w') : Tracks g' w' := by
  have hcalls : w'.moduleCalls = w.moduleCalls ++ calls.filterMap GatewayCall.onModule? := by
    rw [Observed.moduleCalls, hmove.forget.2, List.filterMap_append]
    rfl
  cases hmove with
  | openFailed | send | listen | idle | skip => exact h.congr rfl (hcalls.trans (List.append_nil _))
  | attach hnone =>
    have hidle : g.state ≠ .created := by
      rw [hg.detached_iff.mpr hnone]
      exact nofun
    have hsame := hcalls.trans (List.append_nil w.moduleCalls)
    refine between nofun ?_
    rw [hsame]
    exact h.idle hidle
  | start hlive => exact h.work hlive rfl (.inl rfl) hcalls
  | destroy hlive =>
    refine between nofun ?_
    rw [hcalls]
    exact (h.live hlive).finish
  | accept hidle =>
    refine ⟨fun _ => ?_, fun hne => absurd rfl hne⟩
    rw [hcalls]
    exact (h.idle hidle).accept
  | refuse hidle =>
    refine between hidle ?_
    rw [hcalls]
    exact (h.idle hidle).refuse
  | deliver hmessages =>
    have hlive : g.state = .created := by simp [hg.created_iff, hmessages]
    exact h.work hlive rfl (.inr rfl) hcalls
  | leave _ hnone =>
    have hidle : g.state ≠ .created := by simp [hg.created_iff, hnone]
    have hsame := hcalls.trans (List.append_nil w.moduleCalls)
    refine between nofun ?_
    rw [hsame]
    exact h.idle hidle

end Tracks

end Gateway

namespace GatewayStep

open Gateway

variable {μ γ ω : Type} [Channels γ ω] [ProxiedModule μ γ ω]

theorem tracks_actAll {g : Gateway μ γ} {w : Observed γ ω} (h : Tracks g w) (hg : g.Consistent)
    (steps : List (GatewayStep ω)) :
    Tracks (actAll (steps.map observed) g w).1 (actAll (steps.map observed) g w).2 := by
  refine (actAll_invariant (P := Tracks) (fun hg h hmove => h.move hg hmove) ?_ hg h).2
  intro change hmem g w h
  obtain ⟨step, _, heq⟩ := List.mem_map.mp hmem
  cases step with
  | elsewhere own =>
    cases heq
    exact h.congr rfl rfl
  | attach | handle | poll | detach => cases heq

/-- The calls on a module are sessions, the last of which may be open still: it is while the
gateway says that a module is created. -/
theorem moduleCalls_sessions (guest : μ) (config : ProxyConfig) (steps : List (GatewayStep ω))
    (w : ω) :
    let seen := observeAll steps ({ guest, config } : Gateway μ γ) w
    (seen.1, seen.2.world) = actAll steps { guest, config } w ∧
      (∃ rest, Sessions (seen.2.moduleCalls ++ rest)) ∧
      (InSession seen.2.moduleCalls ↔ seen.1.state = .created) ∧
      (Sessions seen.2.moduleCalls ↔ seen.1.state ≠ .created) := by
  intro seen
  have htracks : Tracks seen.1 seen.2 :=
    tracks_actAll (tracks_initial guest config w) (consistent_initial guest config) steps
  refine ⟨actAll_observed steps { guest, config } { world := w }, ?_⟩
  by_cases hcreated : seen.1.state = .created
  · have hin := htracks.live hcreated
    refine ⟨hin.exists_sessions, by simp [hin, hcreated], ?_⟩
    constructor
    · intro hsessions
      exact absurd hin hsessions.not_inSession
    · intro hne
      exact absurd hcreated hne
  · have hsessions := htracks.idle hcreated
    refine ⟨⟨[], by rwa [List.append_nil]⟩, ?_, by simp [hsessions, hcreated]⟩
    constructor
    · intro hin
      exact absurd hin hsessions.not_inSession
    · intro hlive
      exact absurd hlive hcreated

end GatewayStep

end ModuleProxy
