import ModuleProxy.Proofs.Gateway.Sends
import ModuleProxy.Proofs.Gateway.Steps

namespace ModuleProxy

variable {μ γ ω : Type}

def WasOpened (channel : γ) (calls : List (GatewayCall γ)) : Prop :=
  ∃ address, .openChannel .control address (.ok channel) ∈ calls

structure OnlyOpened (g : Gateway μ γ) (calls : List (GatewayCall γ)) : Prop where
  held : ∀ control, g.control = some control → WasOpened control calls
  sent : ∀ channel frame, (channel, frame) ∈ sends calls → WasOpened channel calls

theorem WasOpened.append {channel : γ} {calls : List (GatewayCall γ)} (h : WasOpened channel calls)
    (rest : List (GatewayCall γ)) : WasOpened channel (calls ++ rest) := by
  obtain ⟨address, hmem⟩ := h
  exact ⟨address, List.mem_append_left rest hmem⟩

theorem OnlyOpened.append {g g' : Gateway μ γ} {calls : List (GatewayCall γ)}
    (h : OnlyOpened g calls) {rest : List (GatewayCall γ)}
    (hcontrol : ∀ control, g'.control = some control →
      g.control = some control ∨ WasOpened control (calls ++ rest))
    (hsends : ∀ channel frame, (channel, frame) ∈ sends rest → g.control = some channel) :
    OnlyOpened g' (calls ++ rest) := by
  refine ⟨?_, ?_⟩
  · intro control hheld
    obtain hbefore | hopened := hcontrol control hheld
    · exact (h.held control hbefore).append rest
    · exact hopened
  · intro channel frame hsent
    rw [sends_append] at hsent
    obtain hbefore | hnew := List.mem_append.mp hsent
    · exact (h.sent channel frame hbefore).append rest
    · exact (h.held channel (hsends channel frame hnew)).append rest

theorem OnlyOpened.move [Channels γ ω] [ProxiedModule μ γ ω] {g g' : Gateway μ γ} {w w' : ω}
    {before calls : List (GatewayCall γ)} (h : OnlyOpened g before) (hmove : Move g w calls g' w') :
    OnlyOpened g' (before ++ calls) := by
  cases hmove with
  | openFailed | listen | start | destroy | accept | refuse | idle | skip | deliver =>
    exact h.append (fun control hheld => .inl hheld) (by simp [sends, GatewayCall.sent?])
  | attach hnone hopen =>
    apply h.append _ (by simp [sends, GatewayCall.sent?])
    rintro control ⟨⟩
    exact .inr ⟨_, List.mem_append_right before List.mem_cons_self⟩
  | send hcontrol hsend =>
    apply h.append fun control hheld => .inl hheld
    intro channel frame hmem
    obtain ⟨rfl, rfl⟩ : channel = _ ∧ frame = _ := by simpa [sends, GatewayCall.sent?] using hmem
    exact hcontrol
  | leave => exact h.append (fun control hheld => by cases hheld) (by simp [sends, GatewayCall.sent?])

namespace GatewayStep

variable [Channels γ ω]

variable [ProxiedModule μ γ ω]

end GatewayStep

end ModuleProxy
