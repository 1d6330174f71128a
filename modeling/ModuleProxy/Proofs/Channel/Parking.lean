import Mathlib.Data.List.Nodup
import ModuleProxy.Proofs.Channel.Opening
import ModuleProxy.Proofs.Lookup

/-!
Far ends that are parked until somebody takes them. Who opens a channel and who takes its far end
know each other only by the role and the address of the channel; all of them, and all copies of what
they open channels with, share one network.
-/

namespace ModuleProxy

open MemoryNetwork

inductive ParkingEvent where
  | opened (role : ChannelRole) (address : ChannelAddress) (near : MemoryHandle)
  | asked (role : ChannelRole) (id : String)

inductive ParkingAct where
  | openAt (role : ChannelRole) (address : ChannelAddress)
  | take (role : ChannelRole) (id : String)
  | act (a : TrafficAct)

structure Parking where
  network : MemoryNetwork := {}
  history : List ParkingEvent := []

/-- What was done with channels of this role, at this address under any of its names. -/
def ParkingEvent.concerns (role : ChannelRole) (address : ChannelAddress) : ParkingEvent → Bool
  | .opened role' address' _ => role' == role && address' == address
  | .asked role' id =>
    match ChannelAddress.parse id with
    | .ok address' => role' == role && address' == address
    | .error _ => false

namespace Parking

/-- The far end of the channel that was opened last for a role and an address, unless somebody asked
for it since. -/
def owed (p : Parking) (role : ChannelRole) (address : ChannelAddress) : Option MemoryHandle :=
  match p.history.find? (ParkingEvent.concerns role address) with
  | some (.opened _ _ near) => some (peer near)
  | _ => none

def act (p : Parking) : ParkingAct → Parking
  | .openAt role address =>
    let (near, network) := p.network.openChannel role address
    { network, history := .opened role address near :: p.history }
  | .take role id =>
    { network := (p.network.take role id).2, history := .asked role id :: p.history }
  | .act a =>
    if ∀ h ∈ a.end?, 0 < p.network.holders h ∧ h ∉ p.network.parked.map (·.2) then
      { p with network := p.network.after a }
    else p

structure Settled (p : Parking) : Prop where
  even : p.network.ends.size % 2 = 0
  lookup_eq : ∀ role address, p.network.parked.lookup (key role address) = p.owed role address
  handles : (p.network.parked.map (·.2)).Nodup
  fresh : ∀ h ∈ p.network.parked.map (·.2), p.network.isOpen h = true ∧ p.network.holders h = 1 ∧
    p.network.pending (peer h) = []

theorem concerns_iff_key {role role' : ChannelRole} {address address' : ChannelAddress} :
    (role' == role && address' == address) = true ↔ key role address = key role' address' := by
  have haddress : (address' == address) = (Text.Path.components address'.path ==
      Text.Path.components address.path) := rfl
  rw [Bool.and_eq_true, beq_iff_eq, haddress, beq_iff_eq, key, key, Prod.mk.injEq,
    eq_comm (a := role), eq_comm (b := Text.Path.components address'.path)]

theorem owed_opened (p : Parking) (network : MemoryNetwork) (role role' : ChannelRole)
    (address address' : ChannelAddress) (near : MemoryHandle) :
    Parking.owed ⟨network, .opened role' address' near :: p.history⟩ role address =
      if key role address = key role' address' then some (peer near) else p.owed role address := by
  rw [owed, List.find?_cons]
  by_cases hkey : key role address = key role' address'
  · rw [if_pos hkey]
    simp only [ParkingEvent.concerns, concerns_iff_key.mpr hkey]
  · rw [if_neg hkey]
    simp only [ParkingEvent.concerns, Bool.eq_false_iff.mpr (mt concerns_iff_key.mp hkey)]
    rfl

theorem owed_asked (p : Parking) (network : MemoryNetwork) (role role' : ChannelRole)
    (address : ChannelAddress) {address' : ChannelAddress} {id : String}
    (hparse : ChannelAddress.parse id = .ok address') :
    Parking.owed ⟨network, .asked role' id :: p.history⟩ role address =
      if key role address = key role' address' then none else p.owed role address := by
  rw [owed, List.find?_cons]
  by_cases hkey : key role address = key role' address'
  · rw [if_pos hkey]
    simp only [ParkingEvent.concerns, hparse, concerns_iff_key.mpr hkey]
  · rw [if_neg hkey]
    simp only [ParkingEvent.concerns, hparse,
      Bool.eq_false_iff.mpr (mt concerns_iff_key.mp hkey)]
    rfl

theorem owed_asked_of_error (p : Parking) (network : MemoryNetwork) (role role' : ChannelRole)
    (address : ChannelAddress) {id : String} {e : EndpointError}
    (hparse : ChannelAddress.parse id = .error e) :
    Parking.owed ⟨network, .asked role' id :: p.history⟩ role address = p.owed role address := by
  rw [owed, List.find?_cons]
  simp only [ParkingEvent.concerns, hparse]
  rfl

namespace Settled

variable {p : Parking}

theorem initial : Settled {} where
  even := rfl
  lookup_eq _ _ := rfl
  handles := List.nodup_nil
  fresh := nofun

theorem index_lt (hp : p.Settled) {h : MemoryHandle} (hh : h ∈ p.network.parked.map (·.2)) :
    h.index < p.network.ends.size := by
  obtain ⟨e, he, -⟩ := isOpen_eq_true_iff.mp (hp.fresh h hh).1
  exact (Array.getElem?_eq_some_iff.mp he).1

theorem pair (hp : p.Settled) : Settled { p with network := p.network.pair.2 } where
  even := by
    have heven := hp.even
    rw [size_pair]
    omega
  lookup_eq := hp.lookup_eq
  handles := hp.handles
  fresh h hh := by
    obtain ⟨hopen, hheld, hnil⟩ := hp.fresh h hh
    have hsame : p.network.pair.2.ends[h.index]? = p.network.ends[h.index]? := by
      rw [getElem?_pair, if_pos (hp.index_lt hh)]
    refine ⟨?_, ?_, ?_⟩
    · rw [isOpen, hsame]
      exact hopen
    · rw [holders, hsame]
      exact hheld
    · rw [pending, look_pair]
      exact hnil

theorem actedAt (hp : p.Settled) {h : MemoryHandle} (hh : h ∉ p.network.parked.map (·.2))
    {network : MemoryNetwork} (ha : ActedAt h p.network network) :
    Settled { p with network } where
  even := ha.size_eq ▸ hp.even
  lookup_eq role address := by
    dsimp only
    rw [ha.parked_eq]
    exact hp.lookup_eq role address
  handles := ha.parked_eq ▸ hp.handles
  fresh f hf := by
    dsimp only at hf ⊢
    rw [ha.parked_eq] at hf
    have hne : f ≠ h := by
      rintro rfl
      exact hh hf
    obtain ⟨hopen, hheld, hnil⟩ := hp.fresh f hf
    refine ⟨(ha.isOpen_eq hne).trans hopen, (ha.holders_eq hne).trans hheld, ?_⟩
    exact ha.pending_nil (.inl (by rw [peer_peer]; exact hne.symm)) hnil

theorem take (hp : p.Settled) (role : ChannelRole) (id : String) :
    Settled (p.act (.take role id)) := by
  rw [act]
  cases hparse : ChannelAddress.parse id with
  | error e =>
    rw [take_of_error hparse]
    refine ⟨hp.even, fun role' address => ?_, hp.handles, hp.fresh⟩
    rw [owed_asked_of_error p _ _ _ _ hparse]
    exact hp.lookup_eq role' address
  | ok address =>
    rw [take_of_ok hparse]
    have hsub := (List.filter_sublist (p := fun entry => entry.1 != key role address)
      (l := p.network.parked)).map Prod.snd
    refine ⟨hp.even, fun role' address' => ?_, hp.handles.sublist hsub,
      fun h hh => hp.fresh h (hsub.mem hh)⟩
    rw [owed_asked p _ _ _ _ hparse, ← hp.lookup_eq]
    exact lookup_filter_ne _ _ _

theorem lookup_ne_of_mem (hp : p.Settled) {k k' : ChannelRole × List String} {h : MemoryHandle}
    (hmem : (k', h) ∈ p.network.parked) (hne : k' ≠ k) : p.network.parked.lookup k ≠ some h := by
  intro hlookup
  have hsame := List.inj_on_of_nodup_map hp.handles hmem (mem_of_lookup hlookup) rfl
  exact hne (congrArg Prod.fst hsame)

theorem openAt (hp : p.Settled) (role : ChannelRole) (address : ChannelAddress) :
    Settled (p.act (.openAt role address)) := by
  have hsize := p.network.size_openChannel role address
  have hpeer : peer ⟨p.network.ends.size⟩ = ⟨p.network.ends.size + 1⟩ := peer_of_near hp.even
  rw [openChannel_eq] at hsize
  rw [act, openChannel_eq]
  constructor
  · have heven := hp.even
    dsimp only at hsize ⊢
    omega
  · intro role' address'
    rw [owed_opened, ← hp.lookup_eq, hpeer, lookup_cons_eq_ite, lookup_filter_ne]
    dsimp only
    split <;> rfl
  · have hsub := (List.filter_sublist (p := fun entry => entry.1 != key role address)
      (l := p.network.parked)).map Prod.snd
    refine List.nodup_cons.mpr ⟨fun hmem => ?_, hp.handles.sublist hsub⟩
    have hlt := hp.index_lt (hsub.mem hmem)
    dsimp only at hlt
    omega
  · intro h hh
    obtain rfl | hh := List.mem_cons.mp hh
    · have hvacant : p.network.parked.lookup (key role address) ≠
          some ⟨p.network.ends.size + 1⟩ := by
        intro hlookup
        have hlt := hp.index_lt (List.mem_map_of_mem (mem_of_lookup hlookup))
        dsimp only at hlt
        omega
      have hmade : (p.network.replaced (key role address)).ends[p.network.ends.size + 1]? =
          some {} := by
        rw [getElem?_replaced (b := ⟨p.network.ends.size + 1⟩) _ hvacant,
          getElem?_pair, if_neg (by simp), if_pos (by simp)]
      have hnil : p.network.pending ⟨p.network.ends.size⟩ = [] := by
        rw [pending, look, Array.getElem?_eq_none (Nat.le_refl _)]
      rw [← hpeer, peer_peer, hpeer]
      refine ⟨?_, ?_, p.network.pending_replaced _ hnil⟩
      · simp only [isOpen, hmade]
        rfl
      · simp only [holders, hmade]
        rfl
    · obtain ⟨⟨k', h⟩, hentry, rfl⟩ := List.mem_map.mp hh
      obtain ⟨hmem, hne⟩ := List.mem_filter.mp hentry
      have hparked : h ∈ p.network.parked.map (·.2) := List.mem_map_of_mem hmem
      obtain ⟨hopen, hheld, hnil⟩ := hp.fresh h hparked
      have hsame : (p.network.replaced (key role address)).ends[h.index]? =
          p.network.ends[h.index]? := by
        rw [getElem?_replaced _ (hp.lookup_ne_of_mem hmem (by simpa using hne)),
          getElem?_pair, if_pos (hp.index_lt hparked)]
      refine ⟨?_, ?_, p.network.pending_replaced _ hnil⟩
      · simp only [isOpen, hsame]
        exact hopen
      · simp only [holders, hsame]
        exact hheld

theorem act (hp : p.Settled) (a : ParkingAct) : Settled (p.act a) := by
  cases a with
  | openAt role address => exact hp.openAt role address
  | take role id => exact hp.take role id
  | act a =>
    rw [Parking.act]
    split
    · rename_i hmine
      cases ha : a.end? with
      | none =>
        cases a with
        | pair => exact hp.pair
        | _ => cases ha
      | some h => exact hp.actedAt (hmine h ha).2 (.after p.network ha)
    · exact hp

theorem foldl (hp : p.Settled) (acts : List ParkingAct) : Settled (acts.foldl Parking.act p) := by
  induction acts generalizing p with
  | nil => exact hp
  | cons a acts ih => exact ih (hp.act a)

end Settled

end Parking

end ModuleProxy
