import ModuleProxy.Proofs.Socket.Answers

namespace ModuleProxy

open SocketSystem Street

/-- A channel to which nothing was sent, after these ends were taken at its listener. -/
structure Attended (came : List StreamId) (l : ListenerId) (limits : FrameLimits)
    (taken : List StreamId) (x : Reception) : Prop where
  listener_eq : x.channel.listener = some l
  outbox_eq : x.channel.outbox = []
  limits_eq : x.channel.limits = limits
  flowing : Flowing came l taken x.street
  listed : Listed limits taken x.answers
  current : ∀ peer, x.channel.connection = some peer →
    peer.stream ∈ taken ∧ (∀ id ∈ taken, id ≤ peer.stream) ∧ peer.reader.limit = limits.maxSize ∧
      ∃ frames got, Drawn x.street peer.stream got ∧
        Consumed limits.maxSize frames got peer.reader.buffer ∧
        Gave (x.answersOf peer.stream) frames
  closed : ∀ id, (∀ peer, x.channel.connection = some peer → peer.stream ≠ id) →
    x.answersOf id = [] ∨ id ∈ taken ∧ x.street.system.isShut id = true ∧
      Ended limits.maxSize x.street id (x.answersOf id)
  answered : checkTimeouts limits = .ok () → ∀ id ∈ taken,
    (∃ peer, x.channel.connection = some peer ∧ peer.stream = id) ∨ x.answersOf id ≠ []

namespace Attended

variable {came : List StreamId} {l : ListenerId} {limits : FrameLimits} {taken : List StreamId}
  {x : Reception}

theorem ended_goes {id : StreamId} {street : Street} {answers : List Answer} {limit : Nat}
    (hflow : Flowing came l taken x.street) (hid : id ∈ taken)
    (hshut : x.street.system.isShut id = true) (hgoes : Goes x.street street)
    (h : Ended limit x.street id answers) :
    street.system.isShut id = true ∧ Ended limit street id answers := by
  obtain ⟨hfar, hlt⟩ := hflow.far id (List.mem_append_left _ hid)
  refine ⟨(hgoes.isShut hlt hshut).2, ?_⟩
  obtain ⟨before, last, hanswers, hgave, hhung, hresult, hleft⟩ := h
  rw [Ended, hgoes.frozen id hfar hlt hshut]
  exact ⟨before, last, hanswers, hgave, hhung, hresult,
    fun hnone => hgoes.wears.isLeft (peer_lt hfar hlt) (hleft hnone)⟩

theorem closed_goes (h : Attended came l limits taken x) {street : Street}
    (hgoes : Goes x.street street) {taken' : List StreamId} (htaken : taken ⊆ taken')
    {id : StreamId}
    (hid : ∀ peer, x.channel.connection = some peer → peer.stream ≠ id) :
    x.answersOf id = [] ∨ id ∈ taken' ∧ street.system.isShut id = true ∧
      Ended limits.maxSize street id (x.answersOf id) := by
  obtain hnothing | ⟨hmem, hshut, hended⟩ := h.closed id hid
  · exact .inl hnothing
  · exact .inr ⟨htaken hmem, ended_goes h.flowing hmem hshut hgoes hended⟩

theorem answersOf_eq_nil (h : Attended came l limits taken x) {id : StreamId} (hid : id ∉ taken) :
    x.answersOf id = [] := by
  rw [Reception.answersOf, List.filter_eq_nil_iff]
  intro a ha hserved
  exact hid (h.listed.among a ha id (by simpa using hserved))

theorem pass (h : Attended came l limits taken x) {street : Street}
    (hpass : Passes x.street street) :
    Attended came l limits taken { x with street } := by
  refine { h with flowing := hpass.flowing h.flowing, current := ?_, closed := ?_ }
  · intro peer hpeer
    obtain ⟨hid, hlast, hlimit, frames, got, hdrawn, hconsumed, hgave⟩ := h.current peer hpeer
    obtain ⟨hfar, hlt⟩ := h.flowing.far _ (List.mem_append_left _ hid)
    exact ⟨hid, hlast, hlimit, frames, got, hpass.drawn hfar hlt hdrawn, hconsumed, hgave⟩
  · exact fun id hid => h.closed_goes hpass.goes (List.Subset.refl _) hid

theorem takeMore (h : Attended came l limits taken x) (hfree : x.channel.connection = none)
    {taken' : List StreamId} {street : Street} (htaken : taken ⊆ taken')
    (hserves : checkTimeouts limits = .ok () → taken' ⊆ taken)
    (hflow : Flowing came l taken' street) (hgoes : Goes x.street street) :
    Attended came l limits taken' { x with street } where
  listener_eq := h.listener_eq
  outbox_eq := h.outbox_eq
  limits_eq := h.limits_eq
  flowing := hflow
  listed := h.listed.mono htaken
  current peer hpeer := by cases hfree.symm.trans hpeer
  closed _ hid := h.closed_goes hgoes htaken hid
  answered htimes id hid := h.answered htimes id (hserves htimes hid)

theorem takeServed (h : Attended came l limits taken x) (hfree : x.channel.connection = none)
    {id : StreamId} {street : Street} (hflow : Flowing came l (taken ++ [id]) street)
    (hgoes : Goes x.street street) (hdrawn : Drawn street id []) :
    Attended came l limits (taken ++ [id])
      { x with
        channel := { x.channel with connection := some ⟨id, { limit := x.channel.limits.maxSize }⟩ }
        street } := by
  have hlater : ∀ id' ∈ taken, id' < id := fun id' hid' =>
    (List.pairwise_append.mp (List.pairwise_append.mp hflow.ordered).1).2.2 id' hid' id
      (List.mem_singleton_self id)
  have hnobody : ∀ peer, x.channel.connection ≠ some peer := fun peer hpeer => by
    cases hfree.symm.trans hpeer
  refine { h with
    flowing := hflow
    listed := h.listed.mono (List.subset_append_left ..)
    current := ?_
    closed := ?_
    answered := ?_ }
  · rintro peer ⟨⟩
    have hnothing : x.answersOf id = [] :=
      h.answersOf_eq_nil fun hmem => Nat.lt_irrefl id (hlater id hmem)
    refine ⟨by simp, fun id' hid' => ?_, congrArg FrameLimits.maxSize h.limits_eq, [], [], hdrawn,
      .start _, ?_⟩
    · obtain hid' | rfl := by simpa using hid'
      · exact Nat.le_of_lt (hlater id' hid')
      · exact Nat.le_refl _
    · exact hnothing ▸ ⟨nofun, rfl⟩
  · exact fun id' _ => h.closed_goes hgoes (List.subset_append_left ..) fun peer hpeer =>
      absurd hpeer (hnobody peer)
  · intro htimes id' hid'
    obtain hid' | rfl := by simpa using hid'
    · refine .inr ((h.answered htimes id' hid').resolve_left ?_)
      rintro ⟨peer, hpeer, -⟩
      exact hnobody peer hpeer
    · exact .inl ⟨_, rfl, rfl⟩

theorem await (h : Attended came l limits taken x) (tries : Nat) (turns : List Turn) :
    let found := x.channel.awaitPeerFor tries (Paced.mk x.street turns)
    (∃ taken', Attended came l limits taken'
      { x with channel := found.2.1, street := found.2.2.street }) ∧
      ((∃ peer, found.1 = .ok true ∧ found.2.1.connection = some peer) ∨
        found.2.1.connection = none ∧
          (found.1 = .ok false ∨ ∃ e, checkTimeouts limits = .error e ∧
            found.1 = .error (.stream (.io e)))) ∧
      (turns = [] → checkTimeouts limits = .ok () →
        found.2.1.connection.map (·.stream) = x.next ∧ found.2.2.turns = []) := by
  intro found
  cases hpeer : x.channel.connection with
  | some peer =>
    have hfound : found = (.ok true, x.channel, Paced.mk x.street turns) :=
      SocketChannel.awaitPeerFor_of_connected hpeer tries _
    rw [hfound]
    refine ⟨⟨taken, h⟩, .inl ⟨peer, rfl, hpeer⟩, fun hturns _ => ⟨?_, hturns⟩⟩
    rw [Reception.next, hpeer]
    rfl
  | none =>
    have hnext : x.next = (x.street.system.waitingAt l).head? := by
      rw [Reception.next, hpeer, Reception.waiting, h.listener_eq]
      rfl
    obtain ⟨taken', hawaited⟩ : ∃ taken', Awaited came l taken x.channel _ found taken' :=
      awaited_for tries hpeer h.listener_eq h.outbox_eq h.flowing
    clear_value found
    cases hawaited with
    | nobody hturns hflow hgoes hstill =>
      refine ⟨⟨taken, h.takeMore hpeer (List.Subset.refl _) (fun _ => List.Subset.refl _) hflow
        hgoes⟩, .inr ⟨hpeer, .inl rfl⟩, fun hnone _ => ⟨?_, hturns hnone⟩⟩
      rw [hnext, (hstill hnone).2, hpeer]
      rfl
    | refused hflow hgoes htimes =>
      rw [h.limits_eq] at htimes
      have hunset : checkTimeouts limits ≠ .ok () := by
        rw [htimes]
        exact nofun
      exact ⟨⟨_, h.takeMore hpeer (List.subset_append_left ..) (fun hset => absurd hset hunset)
        hflow hgoes⟩, .inr ⟨hpeer, .inr ⟨_, htimes, rfl⟩⟩, fun _ hset => absurd hset hunset⟩
    | peer hturns hflow hgoes hdrawn hstill =>
      refine ⟨⟨_, h.takeServed hpeer hflow hgoes hdrawn⟩, .inl ⟨_, rfl, rfl⟩,
        fun hnone _ => ⟨?_, hturns hnone⟩⟩
      rw [hnext, hstill hnone]
      rfl

end Attended

end ModuleProxy
