import ModuleProxy.Proofs.Gateway.Served

namespace ModuleProxy

open MemoryNetwork

structure Booked (start : Nat) (calls : List (GatewayCall MemoryHandle))
    (control messages : Option MemoryHandle) (n : MemoryNetwork) : Prop where
  ledger : Ledger start calls n
  served : Served start calls control messages n

namespace Booked

variable {start : Nat} {calls rest : List (GatewayCall MemoryHandle)}
  {control messages : Option MemoryHandle} {n n' : MemoryNetwork} {b : MemoryHandle}
  {frame : Bytes} {m : Message}

theorem initial (hn : n.Paired) : Booked n.ends.size [] none none n :=
  ⟨.initial hn, .initial n⟩

theorem keep (h : Booked start calls control messages n) (hkeeps : n.Keeps n') :
    Booked start calls control messages n' :=
  ⟨h.ledger.keep hkeeps, h.served.keep hkeeps⟩

theorem quiet (h : Booked start calls control messages n) (hquiet : Quiet rest) :
    Booked start (calls ++ rest) control messages n :=
  ⟨h.ledger.same hquiet.consumed_eq hquiet.sentTo_eq, h.served.unseen hquiet.toUnseen⟩

theorem attach (h : Booked start calls none messages n) (role : ChannelRole)
    (address : ChannelAddress) :
    Booked start calls (some ⟨n.ends.size⟩) messages (n.openChannel role address).2 := by
  obtain ⟨hnear, hlt⟩ := near_openChannel h.ledger.paired role address
  have hkeeps := keeps_openChannel h.ledger.paired role address
  exact ⟨h.ledger.keep hkeeps, h.served.hold hnear (Nat.le_refl _) hlt hkeeps⟩

theorem listen (h : Booked start calls (some b) messages n)
    (hrecv : n.recv b = (.ok (some frame), n')) :
    Booked start (calls ++ [.recv b (.ok (some frame))]) (some b) messages n' := by
  obtain ⟨hnear, hlt, hnew⟩ := h.served.held b rfl
  obtain ⟨waiting, hlook, hturns⟩ := turns_recv hrecv
  refine ⟨h.ledger.take hnear hlt hlook hturns ?_ ?_ fun _ => rfl, ?_⟩
  · simp [consumed, GatewayCall.taken?]
  · intro b' hne
    simp [consumed, GatewayCall.taken?, hne.symm]
  · apply h.served.listen.network hturns.size_le
    intro b' hlive hopen
    have hmem := h.served.mem_sessions hlive
    have hne : b' ≠ b := by
      rintro rfl
      exact hnew hmem
    rwa [hturns.look_eq b' (h.served.near b' hmem).1 hne]

theorem serve (h : Booked start calls control (some b) n)
    (hrecv : n.recv b = (.ok (some frame), n'))
    (hserved : Served start (calls ++ .recv b (.ok (some frame)) :: rest) control (some b) n)
    (htaken : ∀ b, consumed b rest = []) (hsent : ∀ b, sentTo b rest = []) :
    Booked start (calls ++ .recv b (.ok (some frame)) :: rest) control (some b) n' := by
  obtain ⟨hnear, _, hlt⟩ := h.served.near b (h.served.mem_sessions rfl)
  obtain ⟨waiting, hlook, hturns⟩ := turns_recv hrecv
  have hrest : ∀ b', consumed b' (.recv b (.ok (some frame)) :: rest) =
      if b = b' then [frame] else [] := by
    intro b'
    have hnone := htaken b'
    unfold consumed at hnone ⊢
    by_cases heq : b = b' <;> simp [GatewayCall.taken?, heq, hnone]
  refine ⟨h.ledger.take hnear hlt hlook hturns ?_ ?_ hsent, hserved.network hturns.size_le ?_⟩
  · rw [hrest, if_pos rfl]
  · intro b' hne
    rw [hrest, if_neg hne.symm]
  · rintro _ ⟨⟩ _
    rw [hturns.look_self]

theorem skip (h : Booked start calls control (some b) n)
    (hrecv : n.recv b = (.ok (some frame), n')) {e : FormatError}
    (hdecode : Message.decode frame = .error e) :
    Booked start (calls ++ [.recv b (.ok (some frame))]) control (some b) n' :=
  h.serve hrecv (h.served.skip hdecode) (fun _ => rfl) fun _ => rfl

theorem deliver (h : Booked start calls control (some b) n)
    (hrecv : n.recv b = (.ok (some frame), n')) (hdecode : Message.decode frame = .ok m) :
    Booked start (calls ++ [.recv b (.ok (some frame)), .receive m]) control (some b) n' :=
  h.serve hrecv (h.served.deliver hdecode) (fun _ => rfl) fun _ => rfl

theorem close (h : Booked start calls control none n) (hnear : IsNear b)
    (hlt : b.index < n.ends.size) :
    Booked start (calls ++ [.disconnect b]) control none (n.disconnect b) := by
  have hunseen : Unseen [.disconnect b] := ⟨fun _ => rfl, rfl, fun _ => rfl⟩
  have hturns := turns_disconnect hlt
  exact ⟨h.ledger.close hnear hlt, (h.served.unseen hunseen).network hturns.size_le (by simp)⟩

theorem finish (h : Booked start calls control (some b) n) :
    Booked start (calls ++ [.destroy, .disconnect b]) control none (n.disconnect b) := by
  obtain ⟨hnear, _, hlt⟩ := h.served.near b (h.served.mem_sessions rfl)
  have hended : Booked start (calls ++ [.destroy]) control none n :=
    ⟨h.ledger.same (fun _ => rfl) fun _ _ => rfl, h.served.finish⟩
  have hclosed := hended.close hnear hlt
  rwa [List.append_assoc] at hclosed

theorem leave (h : Booked start calls (some b) none n) :
    Booked start (calls ++ [.disconnect b]) none none (n.disconnect b) := by
  obtain ⟨hnear, hlt, _⟩ := h.served.held b rfl
  have hreleased : Booked start calls none none n := ⟨h.ledger, h.served.release⟩
  exact hreleased.close hnear hlt

theorem accept (h : Booked start calls control none n) (address : ChannelAddress)
    (args : Bytes) :
    Booked start (calls ++ [.openChannel .message address (.ok ⟨n.ends.size⟩),
      .create ⟨n.ends.size⟩ args (.ok ())]) control (some ⟨n.ends.size⟩)
      (n.openChannel .message address).2 := by
  obtain ⟨hnear, hlt⟩ := near_openChannel h.ledger.paired .message address
  have hkeeps := keeps_openChannel h.ledger.paired .message address
  exact ⟨(h.ledger.keep hkeeps).same (fun _ => rfl) fun _ _ => rfl,
    h.served.accept h.ledger hnear (Nat.le_refl _) hlt hkeeps⟩

theorem refuse (h : Booked start calls control none n) (address : ChannelAddress) (args : Bytes)
    (cause : Cause) (hkeeps : (n.openChannel .message address).2.Keeps n') :
    Booked start (calls ++ [.openChannel .message address (.ok ⟨n.ends.size⟩),
      .create ⟨n.ends.size⟩ args (.error cause), .disconnect ⟨n.ends.size⟩]) control none
      (n'.disconnect ⟨n.ends.size⟩) := by
  let tried : List (GatewayCall MemoryHandle) := [.openChannel .message address
    (.ok ⟨n.ends.size⟩), .create ⟨n.ends.size⟩ args (.error cause)]
  have hquiet : Quiet tried := ⟨⟨fun _ => rfl, rfl, fun _ => rfl⟩, fun _ _ => rfl⟩
  obtain ⟨hnear, hlt⟩ := near_openChannel h.ledger.paired .message address
  have hopened := (h.quiet hquiet).keep (keeps_openChannel h.ledger.paired .message address)
  have hclosed := (hopened.keep hkeeps).close hnear (Nat.lt_of_lt_of_le hlt hkeeps.size_le)
  rwa [List.append_assoc] at hclosed

theorem arrive (h : Booked start calls control messages n) (hfar : ¬IsNear b)
    {result : Except ProxyError Unit} (hsend : n.send b frame = (result, n')) :
    Booked start (calls ++ [.send b frame result]) control messages n' := by
  have hunseen : Unseen [.send b frame result] := ⟨fun _ => rfl, rfl, fun _ => rfl⟩
  have hnear := isNear_peer hfar
  obtain ⟨rfl, hopen, hlt, hturns⟩ | ⟨hresult, rfl⟩ := send_of_far hsend
  · have hledger := h.ledger.arrive hnear hlt hopen hturns
    rw [peer_peer] at hledger
    refine ⟨hledger, (h.served.unseen hunseen).network hturns.size_le ?_⟩
    intro b' hlive hopen'
    by_cases heq : b' = peer b
    · rw [heq, hturns.look_self]
    · rwa [hturns.look_eq b' (h.served.near b' (h.served.mem_sessions hlive)).1 heq]
  · refine h.quiet ⟨hunseen, ?_⟩
    intro b' _
    cases result with
    | error e => rfl
    | ok _ => exact absurd rfl hresult

end Booked

end ModuleProxy
