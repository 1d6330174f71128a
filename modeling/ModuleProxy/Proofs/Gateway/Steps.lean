import ModuleProxy.Proofs.Gateway.Operations

namespace ModuleProxy

variable {μ γ ω : Type} [Channels γ ω] [ProxiedModule μ γ ω]

namespace GatewayStep

def Within (Change : ω → ω → Prop) (step : GatewayStep ω) : Prop :=
  ∀ change, step = .elsewhere change → ∀ w, Change w (change w)

theorem act_of_control_eq_none {g : Gateway μ γ} (hcontrol : g.control = none)
    (step : GatewayStep ω) (hattach : ∀ id, step ≠ .attach id)
    (hown : ∀ change, step ≠ .elsewhere change) (w : ω) : step.act g w = (g, w) := by
  cases step with
  | attach id => exact absurd rfl (hattach id)
  | handle frame => simp only [act, Gateway.handle, hcontrol]
  | poll => simp only [act, Gateway.poll, hcontrol]
  | detach => simp only [act, Gateway.detach, hcontrol]
  | elsewhere change => exact absurd rfl (hown change)

theorem act_moves {g : Gateway μ γ} (hg : g.Consistent) (step : GatewayStep ω)
    (hown : ∀ change, step ≠ .elsewhere change) (w : ω) :
    ∃ calls, Moves g w calls (step.act g w).1 (step.act g w).2 := by
  by_cases hattach : ∃ id, step = .attach id
  · obtain ⟨id, rfl⟩ := hattach
    obtain ⟨calls, hmoves, _⟩ := g.attach_moves id w
    exact ⟨calls, hmoves⟩
  · cases hcontrol : g.control with
    | none =>
      rw [act_of_control_eq_none hcontrol step (by simpa using hattach) hown]
      exact ⟨[], .none⟩
    | some control =>
      cases step with
      | attach id => exact absurd ⟨id, rfl⟩ hattach
      | handle frame =>
        obtain ⟨calls, _, hmoves, _⟩ := Gateway.handle_moves hg hcontrol frame w
        exact ⟨calls, hmoves⟩
      | poll =>
        obtain ⟨_, _, _, hmoves, _⟩ := Gateway.poll_moves hg hcontrol w
        exact ⟨_, hmoves⟩
      | detach => exact ⟨_, Gateway.detach_moves hg hcontrol w⟩
      | elsewhere change => exact absurd rfl (hown change)

theorem act_cases {g : Gateway μ γ} (hg : g.Consistent) (step : GatewayStep ω) (w : ω) :
    (∃ calls, Moves g w calls (step.act g w).1 (step.act g w).2) ∨
      ∃ change, step = .elsewhere change := by
  by_cases hown : ∀ change, step ≠ .elsewhere change
  · exact .inl (act_moves hg step hown w)
  · exact .inr (by simpa using hown)

theorem consistent_act {g : Gateway μ γ} (hg : g.Consistent) (step : GatewayStep ω) (w : ω) :
    (step.act g w).1.Consistent := by
  obtain ⟨calls, hmoves⟩ | ⟨change, rfl⟩ := act_cases hg step w
  · exact hmoves.consistent hg
  · exact hg

theorem consistent_actAll {g : Gateway μ γ} (hg : g.Consistent) (steps : List (GatewayStep ω))
    (w : ω) : (actAll steps g w).1.Consistent := by
  induction steps generalizing g w with
  | nil => exact hg
  | cons step steps ih => exact ih (consistent_act hg step w) _

theorem actAll_invariant {P : Gateway μ γ → ω → Prop} {steps : List (GatewayStep ω)}
    (hmove : ∀ {g g' : Gateway μ γ} {w w' : ω} {calls : List (GatewayCall γ)}, g.Consistent →
      P g w → Move g w calls g' w' → P g' w')
    (helsewhere : ∀ change, .elsewhere change ∈ steps → ∀ {g : Gateway μ γ} {w : ω},
      P g w → P g (change w))
    {g : Gateway μ γ} {w : ω} (hg : g.Consistent) (hP : P g w) :
    (actAll steps g w).1.Consistent ∧ P (actAll steps g w).1 (actAll steps g w).2 := by
  induction steps generalizing g w with
  | nil => exact ⟨hg, hP⟩
  | cons step steps ih =>
    have hkept : P (step.act g w).1 (step.act g w).2 := by
      obtain ⟨calls, hmoves⟩ | ⟨change, rfl⟩ := act_cases hg step w
      · exact hmoves.invariant hmove hg hP
      · exact helsewhere change List.mem_cons_self hP
    exact ih (fun change hmem => helsewhere change (List.mem_cons_of_mem step hmem))
      (consistent_act hg step w) hkept

theorem observed_invariant {P : List (GatewayCall γ) → Gateway μ γ → ω → Prop}
    (steps : List (GatewayStep ω))
    (hmove : ∀ {before calls : List (GatewayCall γ)} {g g' : Gateway μ γ} {w w' : ω},
      g.Consistent → P before g w → Move g w calls g' w' → P (before ++ calls) g' w')
    (helsewhere : ∀ change, .elsewhere change ∈ steps →
      ∀ {calls : List (GatewayCall γ)} {g : Gateway μ γ} {w : ω}, P calls g w → P calls g (change w))
    {g : Gateway μ γ} {w : Observed γ ω} (hg : g.Consistent) (hP : P w.calls g w.world) :
    let seen := actAll (steps.map observed) g w
    seen.1.Consistent ∧ P seen.2.calls seen.1 seen.2.world := by
  apply actAll_invariant (P := fun g (w : Observed γ ω) => P w.calls g w.world) _ _ hg hP
  · intro g g' w w' calls hg hP h
    rw [h.forget.2]
    exact hmove hg hP h.forget.1
  · intro change hmem g w hP
    obtain ⟨step, hstep, heq⟩ := List.mem_map.mp hmem
    cases step with
    | elsewhere own =>
      cases heq
      exact helsewhere own hstep hP
    | attach | handle | poll | detach => cases heq

end GatewayStep

end ModuleProxy
