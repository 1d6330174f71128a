import ModuleProxy.Proofs.Gateway.Ledgers

namespace ModuleProxy

open MemoryNetwork

structure Served (start : Nat) (calls : List (GatewayCall MemoryHandle))
    (control messages : Option MemoryHandle) (n : MemoryNetwork) : Prop where
  near : ∀ b ∈ sessions calls, IsNear b ∧ start ≤ b.index ∧ b.index < n.ends.size
  held : ∀ c, control = some c → IsNear c ∧ c.index < n.ends.size ∧ c ∉ sessions calls
  distinct : (sessions calls).Nodup
  current : (story calls).current = messages
  live : ∀ b, messages = some b → (sessions calls).getLast? = some b ∧ (n.look b).2 = true
  received : ∀ b ∈ sessions calls,
    (story calls).ofSession b = (consumed b calls).filterMap message?
  sender : ∀ s m, (s, m) ∈ (story calls).received → ∃ b ∈ sessions calls, s = some b

namespace Served

variable {start : Nat} {calls rest : List (GatewayCall MemoryHandle)}
  {control messages : Option MemoryHandle} {n n' : MemoryNetwork} {b : MemoryHandle}
  {frame : Bytes} {m : Message}

theorem initial (n : MemoryNetwork) : Served n.ends.size [] none none n :=
  ⟨by simp [sessions], by simp, List.nodup_nil, rfl, by simp, by simp [sessions],
    by simp [story]⟩

theorem mem_sessions (h : Served start calls control messages n) (hlive : messages = some b) :
    b ∈ sessions calls :=
  List.mem_of_getLast? (h.live b hlive).1

theorem network (h : Served start calls control messages n) (hsize : n.ends.size ≤ n'.ends.size)
    (hopen : ∀ b, messages = some b → (n.look b).2 = true → (n'.look b).2 = true) :
    Served start calls control messages n' where
  near b hmem := ⟨(h.near b hmem).1, (h.near b hmem).2.1, Nat.lt_of_lt_of_le (h.near b hmem).2.2 hsize⟩
  held c hc := ⟨(h.held c hc).1, Nat.lt_of_lt_of_le (h.held c hc).2.1 hsize, (h.held c hc).2.2⟩
  distinct := h.distinct
  current := h.current
  live b hlive := ⟨(h.live b hlive).1, hopen b hlive (h.live b hlive).2⟩
  received := h.received
  sender := h.sender

theorem keep (h : Served start calls control messages n) (hkeeps : n.Keeps n') :
    Served start calls control messages n' := by
  apply h.network hkeeps.size_le
  intro b hlive hopen
  rwa [hkeeps.look_eq b (h.near b (h.mem_sessions hlive)).1]

theorem extend (h : Served start calls control messages n) (hsessions : sessions rest = [])
    {messages' : Option MemoryHandle} (hcurrent : (story (calls ++ rest)).current = messages')
    (hlive : ∀ b, messages' = some b → messages = some b)
    (hreceived : ∀ b ∈ sessions calls, (story (calls ++ rest)).ofSession b =
      (story calls).ofSession b ++ (consumed b rest).filterMap message?)
    (hsender : ∀ s m, (s, m) ∈ (story (calls ++ rest)).received →
      (s, m) ∈ (story calls).received ∨ s = messages ∧ s ≠ none) :
    Served start (calls ++ rest) control messages' n := by
  have hsame : sessions (calls ++ rest) = sessions calls := by
    rw [sessions_append, hsessions, List.append_nil]
  refine ⟨?_, ?_, ?_, hcurrent, ?_, ?_, ?_⟩
  · rw [hsame]
    exact h.near
  · rw [hsame]
    exact h.held
  · rw [hsame]
    exact h.distinct
  · rw [hsame]
    intro b hb
    exact h.live b (hlive b hb)
  · intro b hmem
    rw [hsame] at hmem
    rw [hreceived b hmem, h.received b hmem, consumed_append, List.filterMap_append]
  · intro s m hmem
    rw [hsame]
    obtain hold | ⟨hs, hsome⟩ := hsender s m hmem
    · exact h.sender s m hold
    · obtain ⟨b, rfl⟩ := Option.ne_none_iff_exists'.mp hsome
      exact ⟨b, h.mem_sessions hs.symm, rfl⟩

theorem unseen (h : Served start calls control messages n) (hunseen : Unseen rest) :
    Served start (calls ++ rest) control messages n := by
  have hstory : story (calls ++ rest) = story calls := by
    rw [story_append, hunseen.story_eq]
  apply h.extend hunseen.sessions_eq (by rw [hstory, h.current]) fun _ hb => hb
  · intro b _
    rw [hstory, hunseen.consumed_eq, List.filterMap_nil, List.append_nil]
  · intro s m hmem
    rw [hstory] at hmem
    exact .inl hmem

theorem hold (h : Served start calls none messages n) (hnear : IsNear b)
    (hge : n.ends.size ≤ b.index) (hlt : b.index < n'.ends.size) (hkeeps : n.Keeps n') :
    Served start calls (some b) messages n' := by
  have hkept := h.keep hkeeps
  refine { hkept with held := ?_ }
  rintro _ ⟨⟩
  refine ⟨hnear, hlt, fun hmem => ?_⟩
  have := (h.near b hmem).2.2
  omega

theorem release (h : Served start calls control messages n) :
    Served start calls none messages n :=
  { h with held := by simp }

theorem listen (h : Served start calls (some b) messages n) :
    Served start (calls ++ [.recv b (.ok (some frame))]) (some b) messages n := by
  have hstory : story (calls ++ [.recv b (.ok (some frame))]) = story calls := story_append
  apply h.extend rfl (by rw [hstory, h.current]) fun _ hb => hb
  · intro b' hmem
    have hne : b ≠ b' := by
      rintro rfl
      exact (h.held b rfl).2.2 hmem
    rw [hstory]
    simp [consumed, GatewayCall.taken?, hne]
  · intro s m hmem
    rw [hstory] at hmem
    exact .inl hmem

theorem skip (h : Served start calls control (some b) n) {e : FormatError}
    (hdecode : Message.decode frame = .error e) :
    Served start (calls ++ [.recv b (.ok (some frame))]) control (some b) n := by
  have hstory : story (calls ++ [.recv b (.ok (some frame))]) = story calls := story_append
  have hnone : message? frame = none := by simp [message?, hdecode, Except.toOption]
  apply h.extend rfl (by rw [hstory, h.current]) fun _ hb => hb
  · intro b' _
    rw [hstory]
    by_cases heq : b = b' <;> simp [consumed, GatewayCall.taken?, heq, hnone]
  · intro s m hmem
    rw [hstory] at hmem
    exact .inl hmem

theorem deliver (h : Served start calls control (some b) n) (hdecode : Message.decode frame = .ok m) :
    Served start (calls ++ [.recv b (.ok (some frame)), .receive m]) control (some b) n := by
  have hstory : story (calls ++ [.recv b (.ok (some frame)), .receive m]) =
      { story calls with received := (story calls).received ++ [(some b, m)] } := by
    rw [story_append, ← h.current]
    rfl
  have hsome : message? frame = some m := by simp [message?, hdecode, Except.toOption]
  apply h.extend rfl (by rw [hstory, h.current]) fun _ hb => hb
  · intro b' _
    rw [hstory]
    by_cases heq : b = b' <;>
      simp [Story.ofSession, consumed, GatewayCall.taken?, heq, hsome]
  · intro s m' hmem
    rw [hstory] at hmem
    obtain hold | hnew := List.mem_append.mp hmem
    · exact .inl hold
    · cases List.mem_singleton.mp hnew
      exact .inr ⟨rfl, by simp⟩

theorem finish (h : Served start calls control messages n) :
    Served start (calls ++ [.destroy]) control none n := by
  have hstory : story (calls ++ [.destroy]) = { story calls with current := none } := story_append
  apply h.extend rfl (by rw [hstory]) (by simp)
  · intro b _
    rw [hstory]
    exact (List.append_nil _).symm
  · intro s m hmem
    rw [hstory] at hmem
    exact .inl hmem

theorem accept (h : Served start calls control none n) (hledger : Ledger start calls n)
    {address : ChannelAddress} {args : Bytes} (hnear : IsNear b) (hge : n.ends.size ≤ b.index)
    (hlt : b.index < n'.ends.size) (hkeeps : n.Keeps n') :
    Served start (calls ++ [.openChannel .message address (.ok b), .create b args (.ok ())])
      control (some b) n' := by
  let rest : List (GatewayCall MemoryHandle) :=
    [.openChannel .message address (.ok b), .create b args (.ok ())]
  have hsessions : sessions (calls ++ rest) = sessions calls ++ [b] := sessions_append
  have hstory : story (calls ++ rest) = { story calls with current := some b } := story_append
  have hconsumed : ∀ b', consumed b' (calls ++ rest) = consumed b' calls :=
    fun b' => consumed_append.trans (List.append_nil _)
  have hnew : b ∉ sessions calls := by
    intro hmem
    have := (h.near b hmem).2.2
    omega
  have hkept := h.keep hkeeps
  change Served start (calls ++ rest) control (some b) n'
  refine ⟨?_, ?_, ?_, by rw [hstory], ?_, ?_, ?_⟩
  · intro b' hmem
    rw [hsessions] at hmem
    obtain hold | hself := List.mem_append.mp hmem
    · exact hkept.near b' hold
    · cases List.mem_singleton.mp hself
      exact ⟨hnear, Nat.le_trans hledger.grown hge, hlt⟩
  · intro c hc
    obtain ⟨hcnear, hclt, hcnew⟩ := h.held c hc
    refine ⟨hcnear, (hkept.held c hc).2.1, ?_⟩
    rw [hsessions]
    intro hmem
    obtain hold | hself := List.mem_append.mp hmem
    · exact hcnew hold
    · cases List.mem_singleton.mp hself
      omega
  · rw [hsessions, List.nodup_append]
    refine ⟨h.distinct, by simp, ?_⟩
    rintro b' hmem _ hself rfl
    rw [List.mem_singleton.mp hself] at hmem
    exact hnew hmem
  · rintro _ ⟨⟩
    refine ⟨by rw [hsessions, List.getLast?_concat], ?_⟩
    rw [hkeeps.look_eq b hnear, look, Array.getElem?_eq_none hge]
  · intro b' hmem
    rw [hsessions] at hmem
    rw [hstory, hconsumed]
    obtain hold | hself := List.mem_append.mp hmem
    · exact h.received b' hold
    · cases List.mem_singleton.mp hself
      rw [(hledger.fresh b hnear hge).2, List.filterMap_nil]
      apply List.filterMap_eq_nil_iff.mpr
      intro entry hentry
      obtain ⟨b', hb', hsender⟩ := h.sender entry.1 entry.2 hentry
      rw [if_neg]
      rw [hsender]
      rintro ⟨⟩
      exact hnew hb'
  · intro s m hmem
    rw [hstory] at hmem
    obtain ⟨b', hb', rfl⟩ := h.sender s m hmem
    exact ⟨b', by rw [hsessions]; exact List.mem_append_left _ hb', rfl⟩

end Served

end ModuleProxy
