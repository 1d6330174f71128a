import ModuleProxy.Proofs.Channel.Parking

namespace ModuleProxy

open MemoryNetwork

namespace Parking

namespace Settled

variable {p : Parking}

theorem take_eq (hp : p.Settled) (role : ChannelRole) (id : String) :
    (p.network.take role id).1 = match ChannelAddress.parse id with
      | .error _ => none
      | .ok address => p.owed role address := by
  cases hparse : ChannelAddress.parse id with
  | error e => rw [take_of_error hparse]
  | ok address => rw [take_of_ok hparse, hp.lookup_eq]

theorem lost_openAt (hp : p.Settled) {role : ChannelRole} {address : ChannelAddress}
    {near : MemoryHandle} (howed : p.owed role address = some (peer near)) :
    (p.act (.openAt role address)).network.Lost near := by
  rw [← hp.lookup_eq] at howed
  have hparked : peer near ∈ p.network.parked.map (·.2) := List.mem_map_of_mem (mem_of_lookup howed)
  obtain ⟨-, hheld, hnil⟩ := hp.fresh _ hparked
  have hlt := hp.index_lt hparked
  rw [peer_peer] at hnil
  rw [Parking.act, openChannel_eq]
  refine ⟨?_, p.network.pending_replaced _ hnil⟩
  have hpair : p.network.pair.2.holders (peer near) = 1 := by
    rw [holders, getElem?_pair, if_pos hlt]
    exact hheld
  have hlt' : (peer near).index < p.network.pair.2.ends.size := by
    rw [size_pair]
    omega
  dsimp only
  rw [replaced, howed]
  dsimp only
  rw [release_of_last hpair hlt']
  exact closedAt_disconnect (by rwa [size_modifyEnd])

end Settled

theorem lost_act {p : Parking} {h : MemoryHandle} (hlost : p.network.Lost h) (a : ParkingAct) :
    (p.act a).network.Lost h := by
  obtain ⟨hclosed, hnil⟩ := hlost
  cases a with
  | openAt role address =>
    refine ⟨(p.network.ages_openChannel role address).closedAt hclosed, ?_⟩
    rw [act, openChannel_eq]
    exact p.network.pending_replaced _ hnil
  | take role id =>
    refine ⟨(p.network.ages_take role id).closedAt hclosed, ?_⟩
    rw [act]
    cases hparse : ChannelAddress.parse id with
    | error e =>
      rw [take_of_error hparse]
      exact hnil
    | ok address =>
      rw [take_of_ok hparse]
      exact hnil
  | act a =>
    rw [act]
    split
    · refine ⟨(p.network.ages_after a).closedAt hclosed, ?_⟩
      cases ha : a.end? with
      | none =>
        cases a with
        | pair =>
          dsimp only [after]
          rw [pending, look_pair]
          exact hnil
        | _ => cases ha
      | some b =>
        exact (ActedAt.after p.network ha).pending_nil (.inr (isOpen_of_closedAt hclosed)) hnil
    · exact ⟨hclosed, hnil⟩

theorem lost_foldl {p : Parking} {h : MemoryHandle} (hlost : p.network.Lost h)
    (acts : List ParkingAct) : (acts.foldl act p).network.Lost h := by
  induction acts generalizing p with
  | nil => exact hlost
  | cons a acts ih => exact ih (lost_act hlost a)

theorem getElem?_openAt {p : Parking} (hp : p.Settled) {role : ChannelRole}
    {address : ChannelAddress} {h : MemoryHandle} (hlt : h.index < p.network.ends.size)
    (hother : p.owed role address ≠ some h) :
    (p.act (.openAt role address)).network.ends[h.index]? = p.network.ends[h.index]? := by
  rw [← hp.lookup_eq] at hother
  rw [act, openChannel_eq]
  dsimp only
  rw [getElem?_replaced _ hother, getElem?_pair, if_pos hlt]

theorem ends_take (p : Parking) (role : ChannelRole) (id : String) :
    (p.act (.take role id)).network.ends = p.network.ends := by
  rw [act]
  cases hparse : ChannelAddress.parse id with
  | error e => rw [take_of_error hparse]
  | ok address => rw [take_of_ok hparse]

/-- The address that `id` names, if it names one, is of another role or path. -/
def Elsewhere (role : ChannelRole) (address : ChannelAddress) (role' : ChannelRole) (id : String) :
    Prop :=
  ∀ address', ChannelAddress.parse id = .ok address' → ¬(role' = role ∧ address' == address)

theorem Elsewhere.key_ne {role role' : ChannelRole} {address address' : ChannelAddress}
    {id : String} (helse : Elsewhere role address role' id)
    (hparse : ChannelAddress.parse id = .ok address') :
    key role' address' ≠ key role address := by
  intro hkey
  have hsame := concerns_iff_key.mpr hkey.symm
  rw [Bool.and_eq_true, beq_iff_eq] at hsame
  exact helse address' hparse hsame

theorem take_openAt_of_elsewhere {p : Parking} (hp : p.Settled) {role role' : ChannelRole}
    {address : ChannelAddress} {id : String} (helse : Elsewhere role address role' id) :
    ((p.act (.openAt role address)).network.take role' id).1 = (p.network.take role' id).1 := by
  rw [(hp.openAt role address).take_eq, hp.take_eq]
  cases hparse : ChannelAddress.parse id with
  | error e => rfl
  | ok address' =>
    rw [act, openChannel_eq]
    exact (owed_opened p _ role' role address' address _).trans (if_neg (helse.key_ne hparse))

theorem take_take_of_elsewhere {p : Parking} (hp : p.Settled) {role role' : ChannelRole}
    {id id' : String}
    (helse : ∀ address, ChannelAddress.parse id = .ok address → Elsewhere role address role' id') :
    ((p.act (.take role id)).network.take role' id').1 = (p.network.take role' id').1 := by
  rw [(hp.take role id).take_eq, hp.take_eq]
  cases hparse' : ChannelAddress.parse id' with
  | error e => rfl
  | ok address' =>
    rw [act]
    cases hparse : ChannelAddress.parse id with
    | error e => exact owed_asked_of_error p _ _ _ _ hparse
    | ok address =>
      have hne := (helse address hparse).key_ne hparse'
      exact (owed_asked p _ _ _ _ hparse).trans (if_neg hne)

theorem take_act {p : Parking} (hp : p.Settled) (a : TrafficAct) (role : ChannelRole)
    (id : String) :
    ((p.act (.act a)).network.take role id).1 = (p.network.take role id).1 := by
  have howed : (p.act (.act a)).owed = p.owed := by
    rw [act]
    split <;> rfl
  rw [(hp.act (.act a)).take_eq, hp.take_eq, howed]

theorem getElem?_act (p : Parking) {a : TrafficAct} {h b : MemoryHandle} (ha : a.end? = some h)
    (hb : b ≠ h) (hpeer : b ≠ peer h) :
    (p.act (.act a)).network.ends[b.index]? = p.network.ends[b.index]? := by
  rw [act]
  split
  · exact (ActedAt.after p.network ha).getElem?_eq hb hpeer
  · rfl

/-- Whatever was opened, taken and done at ends before: who asks for a far end by role and name gets
that of the last channel opened for the role at the same path, if nobody has asked since, and else
nothing. To open such a channel again closes the far end, and the near end is disconnected from then
on. What is opened, taken or done at ends elsewhere changes neither what can be taken nor any other
channel. -/
theorem far_ends_kept (acts : List ParkingAct) :
    let p := acts.foldl act {}
    (∀ role id, (p.network.take role id).1 =
      match ChannelAddress.parse id with
      | .error _ => none
      | .ok address => p.owed role address) ∧
    (∀ role address near, p.owed role address = some (peer near) →
      p.network.isOpen (peer near) = true ∧
      (p.act (.openAt role address)).network.isOpen (peer near) = false ∧
      ∀ later : List ParkingAct,
        (later.foldl act (p.act (.openAt role address))).network.Disconnected near) ∧
    (∀ role address,
      (∀ role' id, Elsewhere role address role' id →
        ((p.act (.openAt role address)).network.take role' id).1 = (p.network.take role' id).1) ∧
      ∀ h, h.index < p.network.ends.size → p.owed role address ≠ some h →
        (p.act (.openAt role address)).network.ends[h.index]? = p.network.ends[h.index]?) ∧
    (∀ role id,
      (∀ role' id', (∀ address, ChannelAddress.parse id = .ok address →
          Elsewhere role address role' id') →
        ((p.act (.take role id)).network.take role' id').1 = (p.network.take role' id').1) ∧
      (p.act (.take role id)).network.ends = p.network.ends) ∧
    ∀ a,
      (∀ role id, ((p.act (.act a)).network.take role id).1 = (p.network.take role id).1) ∧
      ∀ h b, a.end? = some h → b ≠ h → b ≠ peer h →
        (p.act (.act a)).network.ends[b.index]? = p.network.ends[b.index]? := by
  intro p
  have hp : p.Settled := Settled.initial.foldl acts
  refine ⟨hp.take_eq, ?_, ?_, ?_, ?_⟩
  · intro role address near howed
    have hlost := hp.lost_openAt howed
    have hparked := List.mem_map_of_mem (f := Prod.snd)
      (mem_of_lookup ((hp.lookup_eq _ _).trans howed))
    exact ⟨(hp.fresh _ hparked).1, isOpen_of_closedAt hlost.1,
      fun later => (lost_foldl hlost later).disconnected⟩
  · exact fun role address =>
      ⟨fun _ _ => take_openAt_of_elsewhere hp, fun _ => getElem?_openAt hp⟩
  · exact fun role id => ⟨fun _ _ => take_take_of_elsewhere hp, ends_take p role id⟩
  · exact fun a => ⟨take_act hp a, fun _ _ => getElem?_act p⟩

theorem far_ends_kept_two_roles :
    let p := [.openAt .control ⟨"a/b"⟩, .openAt .message ⟨"a/b"⟩, .act (.send ⟨0⟩ [7])].foldl act {}
    (p.network.take .control "ipc://a//b/").1 = some ⟨1⟩ ∧
      (p.act (.openAt .control ⟨"a//b"⟩)).network.Disconnected ⟨0⟩ := by
  obtain ⟨htake, hreopen, -⟩ := far_ends_kept
    [.openAt .control ⟨"a/b"⟩, .openAt .message ⟨"a/b"⟩, .act (.send ⟨0⟩ [7])]
  exact ⟨(htake _ _).trans rfl, (hreopen .control ⟨"a//b"⟩ ⟨0⟩ rfl).2.2 []⟩

end Parking

end ModuleProxy
