import ModuleProxy.Proofs.Socket.Attending

namespace ModuleProxy

open SocketSystem Street

namespace Attended

variable {came : List StreamId} {l : ListenerId} {limits : FrameLimits} {taken : List StreamId}
  {x : Reception}

theorem note (h : Attended came l limits taken x) {a : Answer} (ha : a.served = none)
    (hidle : a.IsIdle limits) :
    Attended came l limits taken { x with answers := x.answers ++ [a] } := by
  have hsame : ∀ id, Reception.answersOf { x with answers := x.answers ++ [a] } id =
      x.answersOf id := by
    intro id
    rw [Reception.answersOf_snoc, ha, if_neg nofun, List.append_nil]
  refine ⟨h.listener_eq, h.outbox_eq, h.limits_eq, h.flowing, h.listed.note ha hidle, ?_, ?_, ?_⟩
  · intro peer hpeer
    rw [hsame]
    exact h.current peer hpeer
  · intro id hid
    rw [hsame]
    exact h.closed id hid
  · intro htimes id hid
    rw [hsame]
    exact h.answered htimes id hid

section

variable {peer : Connection} {frames : List RawFrame} {got : Bytes} {street : Street}

theorem hear (h : Attended came l limits taken x) (hpeer : x.channel.connection = some peer)
    {a : Answer} (ha : a.served = some peer.stream) {connection : Option Connection}
    (hflow : Flowing came l taken street) (hgoes : Goes x.street street)
    (hkept : ∀ peer', connection = some peer' →
      peer'.stream = peer.stream ∧ peer'.reader.limit = limits.maxSize ∧
        ∃ frames got, Drawn street peer.stream got ∧
          Consumed limits.maxSize frames got peer'.reader.buffer ∧
          Gave (x.answersOf peer.stream ++ [a]) frames)
    (hended : connection = none → street.system.isShut peer.stream = true ∧
      Ended limits.maxSize street peer.stream (x.answersOf peer.stream ++ [a])) :
    Attended came l limits taken ⟨{ x.channel with connection }, street, x.answers ++ [a]⟩ := by
  obtain ⟨htaken, hlast, -⟩ := h.current peer hpeer
  have hhis : ∀ c, Reception.answersOf ⟨c, street, x.answers ++ [a]⟩ peer.stream =
      x.answersOf peer.stream ++ [a] := fun c => by
    rw [Reception.answersOf_snoc, ha, if_pos rfl]
    rfl
  have hothers : ∀ c id, peer.stream ≠ id →
      Reception.answersOf ⟨c, street, x.answers ++ [a]⟩ id = x.answersOf id := fun c id hne => by
    rw [Reception.answersOf_snoc, ha, if_neg (fun heq => hne (Option.some.inj heq)),
      List.append_nil]
    rfl
  refine ⟨h.listener_eq, h.outbox_eq, h.limits_eq, hflow, h.listed.hear ha htaken hlast, ?_, ?_, ?_⟩
  · intro peer' hpeer'
    obtain ⟨hstream, hlimit, frames, got, hdrawn, hconsumed, hgave⟩ := hkept peer' hpeer'
    rw [hstream, hhis]
    exact ⟨htaken, hlast, hlimit, frames, got, hdrawn, hconsumed, hgave⟩
  · intro id hid
    by_cases heq : peer.stream = id
    · subst heq
      rw [hhis]
      refine .inr ⟨htaken, hended ?_⟩
      cases hfree : connection with
      | none => rfl
      | some peer' => exact absurd (hkept peer' hfree).1 (hid peer' hfree)
    · rw [hothers _ id heq]
      refine h.closed_goes hgoes (List.Subset.refl _) fun peer' hpeer' => ?_
      cases hpeer.symm.trans hpeer'
      exact heq
  · intro htimes id hid
    right
    by_cases heq : peer.stream = id
    · subst heq
      rw [hhis]
      exact List.append_ne_nil_of_right_ne_nil _ (List.cons_ne_nil _ _)
    · rw [hothers _ id heq]
      refine (h.answered htimes id hid).resolve_left ?_
      rintro ⟨peer', hpeer', hstream⟩
      cases hpeer.symm.trans hpeer'
      exact heq hstream

theorem hearFrame (h : Attended came l limits taken x) (hpeer : x.channel.connection = some peer)
    (hgave : Gave (x.answersOf peer.stream) frames) (frame? : Option RawFrame) {buffer : Bytes}
    (hflow : Flowing came l taken street) (hgoes : Goes x.street street)
    (hdrawn : Drawn street peer.stream got)
    (hconsumed : Consumed limits.maxSize (frames ++ frame?.toList) got buffer) :
    Attended came l limits taken
      ⟨{ x.channel with connection := some { peer with reader := { peer.reader with buffer } } },
        street, x.answers ++ [⟨some peer.stream, .ok (frame?.map (·.bytes)), false⟩]⟩ := by
  obtain ⟨-, -, hlimit, -⟩ := h.current peer hpeer
  refine h.hear hpeer rfl hflow hgoes ?_ nofun
  rintro peer' ⟨⟩
  refine ⟨rfl, hlimit, _, got, hdrawn, hconsumed, ?_, ?_⟩
  · intro a ha
    obtain ha | ha := List.mem_append.mp ha
    · exact hgave.kept a ha
    · rw [List.mem_singleton.mp ha]
      exact ⟨rfl, _, rfl⟩
  · rw [List.filterMap_append, hgave.frames_eq, List.map_append]
    cases frame? <;> rfl

theorem hearEnd (h : Attended came l limits taken x) (hpeer : x.channel.connection = some peer)
    (hflow : Flowing came l taken street) (hgoes : Goes x.street street)
    (hgave : Gave (x.answersOf peer.stream) (drain (street.sent peer.stream) limits.maxSize).frames)
    (hleft : (drain (street.sent peer.stream) limits.maxSize).error = none →
      street.system.IsLeft peer.stream) :
    let street' := { street with system := street.system.hangUp peer.stream }
    let a : Answer :=
      ⟨some peer.stream, ending (drain (street.sent peer.stream) limits.maxSize).error, true⟩
    Attended came l limits taken
        ⟨{ x.channel with connection := none }, street', x.answers ++ [a]⟩ ∧
      a.IsNext limits.maxSize street' peer.stream (x.given peer.stream).length := by
  intro street' a
  obtain ⟨htaken, -⟩ := h.current peer hpeer
  obtain ⟨hfar, hlt⟩ := hflow.far _ (List.mem_append_left _ htaken)
  obtain ⟨hflow', hgoes', hshut⟩ := hflow.hangUp htaken
  have hleft' : (drain (street.sent peer.stream) limits.maxSize).error = none →
      street'.system.IsLeft peer.stream :=
    fun hnone => hgoes'.wears.isLeft (peer_lt hfar hlt) (hleft hnone)
  constructor
  · refine h.hear hpeer rfl hflow' (hgoes.trans hgoes') nofun fun _ => ⟨hshut, ?_⟩
    exact ⟨_, _, rfl, hgave, rfl, rfl, hleft'⟩
  · have hall : (drain (street.sent peer.stream) limits.maxSize).frames[
        (x.given peer.stream).length]? = none := by
      rw [Reception.given, hgave.frames_eq, List.length_map, List.getElem?_eq_none (Nat.le_refl _)]
    refine ⟨?_, fun _ => ⟨hall, hleft'⟩, fun _ => rfl⟩
    rw [hall]

theorem heard (h : Attended came l limits taken x) (hpeer : x.channel.connection = some peer)
    {w : Paced} (hw : w.street = x.street) :
    let read := peer.reader.readFrame (OpenStream.mk peer.stream w)
    let after := { x.channel with connection := some { peer with reader := read.2.1 } }.heard
      read.1 read.2.2.system
    let a : Answer := ⟨some peer.stream, after.1, !after.2.1.isConnected⟩
    Attended came l limits taken ⟨after.2.1, after.2.2.street, x.answers ++ [a]⟩ ∧
      (w.turns = [] →
        a.IsNext limits.maxSize after.2.2.street peer.stream (x.given peer.stream).length) := by
  obtain ⟨htaken, -, hlimit, frames, got, hdrawn, hconsumed, hgave⟩ := h.current peer hpeer
  have hgiven : (x.given peer.stream).length = frames.length := by
    rw [Reception.given, hgave.frames_eq, List.length_map]
  obtain ⟨result, buffer, got', w', hread, ⟨hflow, hdrawn', hgoes, hfound, hpatient⟩⟩ :=
    FrameReader.readFrame_found peer.reader (hw ▸ h.flowing) htaken (hw ▸ hdrawn)
      (hlimit ▸ hconsumed)
  rw [hw] at hgoes
  rw [hlimit] at hfound
  have hsent : w'.street.system.unread peer.stream = [] → w'.street.sent peer.stream = got' := by
    intro hnothing
    rw [hdrawn'.sent_eq, hnothing, List.append_nil]
  dsimp only
  rw [hread]
  rcases result with (e | _ | e) | f
  · obtain ⟨hconsumed', hsplit, htimeout⟩ := hfound
    simp only [SocketChannel.heard, htimeout, if_true]
    refine ⟨h.hearFrame hpeer hgave none hflow hgoes hdrawn' (by simpa using hconsumed'),
      fun hstill => ?_⟩
    obtain ⟨hnothing, hstays⟩ := hpatient hstill e rfl
    obtain ⟨hframes, herror⟩ := hconsumed'.ended hsplit
    simp [Answer.IsNext, hsent hnothing, hgiven, hframes, herror, ending,
      SocketChannel.isConnected, hstays]
  · obtain ⟨hconsumed', hsplit, hnothing, hleft⟩ := hfound
    obtain ⟨hframes, herror⟩ := hconsumed'.ended hsplit
    rw [← hsent hnothing] at hframes herror
    have hended := h.hearEnd hpeer hflow hgoes (hframes ▸ hgave) fun _ => hleft
    rw [herror] at hended
    exact ⟨hended.1, fun _ => hended.2⟩
  · obtain ⟨hconsumed', hsplit⟩ := hfound
    obtain ⟨hframes, herror⟩ := hconsumed'.fault hsplit (w'.street.system.unread peer.stream)
    rw [← hdrawn'.sent_eq] at hframes herror
    have hended := h.hearEnd hpeer hflow hgoes (hframes ▸ hgave) fun hnone => by
      rw [herror] at hnone
      cases hnone
    rw [herror] at hended
    exact ⟨hended.1, fun _ => hended.2⟩
  · refine ⟨h.hearFrame hpeer hgave (some f) hflow hgoes hdrawn' hfound, fun _ => ?_⟩
    have hnext := Consumed.next hfound (w'.street.system.unread peer.stream)
    rw [← hdrawn'.sent_eq] at hnext
    simp [Answer.IsNext, hnext, hgiven, SocketChannel.heard, SocketChannel.isConnected]

end

theorem recv (h : Attended came l limits taken x) (tries : Nat) (turns : List Turn) :
    (∃ taken', Attended came l limits taken' (x.recv tries turns)) ∧
      (turns = [] → checkTimeouts limits = .ok () →
        ∃ a, (x.recv tries turns).answers = x.answers ++ [a] ∧ a.served = x.next ∧
          (x.next = none → a.result = .ok none) ∧
          ∀ id, x.next = some id →
            a.IsNext limits.maxSize (x.recv tries turns).street id (x.given id).length) := by
  obtain ⟨⟨taken', hfound⟩, hcases, hnext⟩ := h.await tries turns
  unfold Reception.recv Reception.served SocketChannel.recv
  generalize x.channel.awaitPeerFor tries (Paced.mk x.street turns) = found at *
  obtain ⟨result, c, w⟩ := found
  dsimp only at hfound hcases hnext ⊢
  obtain ⟨peer, rfl, hpeer⟩ | ⟨hfree, hidle⟩ := hcases
  · -- setting the time to wait comes first, and the peer may act before it as well
    obtain ⟨hheard, hprompt⟩ := @heard _ _ _ _ _ _ (hfound.pass w.passes_tick) hpeer w.tick.2 rfl
    simp only [hpeer, Option.map_some, Option.isSome_some, Bool.true_and]
    refine ⟨⟨taken', hheard⟩, fun hturns htimes => ?_⟩
    obtain ⟨hserves, hstill⟩ := hnext hturns htimes
    rw [hpeer] at hserves
    rw [← hserves]
    refine ⟨_, rfl, rfl, nofun, ?_⟩
    rintro id ⟨⟩
    exact hprompt (Paced.turns_tick hstill)
  · obtain rfl | ⟨e, hrefused, rfl⟩ := hidle
    · simp only [hfree, Option.map_none, Option.isSome_none, Bool.false_and]
      refine ⟨⟨taken', hfound.note rfl (.inl rfl)⟩, fun hturns htimes => ?_⟩
      obtain ⟨hserves, -⟩ := hnext hturns htimes
      rw [hfree] at hserves
      rw [← hserves]
      exact ⟨_, rfl, rfl, fun _ => rfl, nofun⟩
    · simp only [hfree, Option.map_none, Option.isSome_none, Bool.false_and]
      refine ⟨⟨taken', hfound.note rfl (.inr ⟨e, hrefused, rfl⟩)⟩, fun _ htimes => ?_⟩
      cases htimes.symm.trans hrefused

theorem actAll (h : Attended came l limits taken x) (acts : List ReceptionAct) :
    ∃ taken', Attended came l limits taken' (Reception.actAll acts x) := by
  induction acts generalizing x taken with
  | nil => exact ⟨taken, h⟩
  | cons a acts ih =>
    cases a with
    | move m => exact ih (h.pass (x.street.passes_move m))
    | recv tries turns =>
      obtain ⟨⟨taken', h'⟩, -⟩ := h.recv tries turns
      exact ih h'

theorem cameNow (h : Attended came l limits taken x) :
    Attended (taken ++ x.street.system.waitingAt l) l limits taken x :=
  { h with flowing := { h.flowing with came_sub := List.Subset.refl _ } }

theorem waiting_eq (h : Attended came l limits taken x) :
    x.waiting = x.street.system.waitingAt l := by
  rw [Reception.waiting, h.listener_eq]
  rfl

theorem received (h : Attended came l limits taken x) {id : StreamId}
    (hid : (∃ peer, x.channel.connection = some peer ∧ peer.stream = id) ∨ x.answersOf id ≠ []) :
    x.Received id := by
  rw [Reception.Received, h.limits_eq]
  split
  · rename_i hserved
    obtain ⟨peer, hpeer, rfl⟩ := Option.map_eq_some_iff.mp hserved
    obtain ⟨-, -, -, frames, got, hdrawn, hconsumed, hgave⟩ := h.current peer hpeer
    exact ⟨frames, hdrawn.sent_eq ▸ hconsumed.isPrefix _, hgave⟩
  · rename_i hfree
    have hother : ∀ peer, x.channel.connection = some peer → peer.stream ≠ id := by
      rintro peer hpeer rfl
      exact hfree (by rw [hpeer]; rfl)
    obtain ⟨peer, hpeer, hstream⟩ | hanswered := hid
    · exact absurd hstream (hother peer hpeer)
    · exact ((h.closed id hother).resolve_left hanswered).2.2

end Attended

end ModuleProxy
