import ModuleProxy.Proofs.Socket.Paced

namespace ModuleProxy

open SocketSystem Street

def Consumed (limit : Nat) (frames : List RawFrame) (stream rest : Bytes) : Prop :=
  ∀ more, drain (stream ++ more) limit =
    { drain (rest ++ more) limit with frames := frames ++ (drain (rest ++ more) limit).frames }

namespace Consumed

variable {limit : Nat} {frames : List RawFrame} {stream rest : Bytes}

theorem start (limit : Nat) : Consumed limit [] [] [] :=
  fun _ => rfl

theorem piece (h : Consumed limit frames stream rest) (piece : Bytes) :
    Consumed limit frames (stream ++ piece) (rest ++ piece) := by
  intro more
  rw [List.append_assoc, List.append_assoc]
  exact h (piece ++ more)

theorem frame (h : Consumed limit frames stream rest) {f : RawFrame} {left : Bytes}
    (hsplit : splitFrame rest limit = .ok (some (f, left))) :
    Consumed limit (frames ++ [f]) stream left := by
  intro more
  rw [h more, drain_of_some (splitFrame_append_of_some hsplit more)]
  simp

theorem fault (h : Consumed limit frames stream rest) {e : FormatError}
    (hsplit : splitFrame rest limit = .error e) (more : Bytes) :
    (drain (stream ++ more) limit).frames = frames ∧
      (drain (stream ++ more) limit).error = some e := by
  rw [h more, drain_of_error (splitFrame_append_of_error hsplit more)]
  simp

theorem ended (h : Consumed limit frames stream rest) (hsplit : splitFrame rest limit = .ok none) :
    (drain stream limit).frames = frames ∧ (drain stream limit).error = none := by
  have hend := h []
  rw [List.append_nil, List.append_nil, drain_of_none hsplit] at hend
  rw [hend]
  simp

theorem next {f : RawFrame} (h : Consumed limit (frames ++ [f]) stream rest) (more : Bytes) :
    (drain (stream ++ more) limit).frames[frames.length]? = some f := by
  rw [h more]
  simp

theorem isPrefix (h : Consumed limit frames stream rest) (more : Bytes) :
    frames <+: (drain (stream ++ more) limit).frames := by
  rw [h more]
  exact List.prefix_append ..

end Consumed

def Found (limit : Nat) (frames : List RawFrame) (x : Street) (id : StreamId) (got buffer : Bytes) :
    Except StreamError RawFrame → Prop
  | .ok f => Consumed limit (frames ++ [f]) got buffer
  | .error (.format e) => Consumed limit frames got buffer ∧ splitFrame buffer limit = .error e
  | .error .closed =>
    Consumed limit frames got buffer ∧ splitFrame buffer limit = .ok none ∧
      x.system.unread id = [] ∧ x.system.IsLeft id
  | .error (.io e) =>
    Consumed limit frames got buffer ∧ splitFrame buffer limit = .ok none ∧
      SocketChannel.isTimeout e = true

structure Sought (came : List StreamId) (l : ListenerId) (taken : List StreamId) (limit : Nat)
    (frames : List RawFrame) (id : StreamId) (w w' : Paced) (got buffer : Bytes)
    (result : Except StreamError RawFrame) : Prop where
  flowing : Flowing came l taken w'.street
  drawn : Drawn w'.street id got
  goes : Goes w.street w'.street
  found : Found limit frames w'.street id got buffer result
  patient : w.turns = [] → ∀ e, result = .error (.io e) →
    w'.street.system.unread id = [] ∧ ¬w'.street.system.IsLeft id

section

variable {came : List StreamId} {l : ListenerId} {taken : List StreamId} {w w' w'' : Paced}

theorem Sought.later {limit : Nat} {frames : List RawFrame} {id : StreamId} {got buffer : Bytes}
    {result : Except StreamError RawFrame}
    (h : Sought came l taken limit frames id w' w'' got buffer result)
    (hgoes : Goes w.street w'.street) (hturns : w.turns = [] → w'.turns = []) :
    Sought came l taken limit frames id w w'' got buffer result :=
  { h with goes := hgoes.trans h.goes, patient := fun hstill => h.patient (hturns hstill) }

theorem FrameReader.readFrame_found {id : StreamId} {got : Bytes} {frames : List RawFrame}
    (r : FrameReader) (hflow : Flowing came l taken w.street) (hid : id ∈ taken)
    (hdrawn : Drawn w.street id got) (hconsumed : Consumed r.limit frames got r.buffer) :
    ∃ result buffer got' w',
      r.readFrame (OpenStream.mk id w) = (result, { r with buffer }, ⟨id, w'⟩) ∧
        Sought came l taken r.limit frames id w w' got' buffer result := by
  generalize hline : OpenStream.mk id w = line
  -- the buffer may hold the next frame already, or else the stream is read for it
  fun_induction FrameReader.readFrame r line generalizing w got with
  | case1 r line e hsplit =>
    subst hline
    exact ⟨_, r.buffer, got, w, rfl, hflow, hdrawn, .refl _, ⟨hconsumed, hsplit⟩, by simp⟩
  | case2 r line f rest hsplit =>
    subst hline
    exact ⟨_, rest, got, w, rfl, hflow, hdrawn, .refl _, hconsumed.frame hsplit, by simp⟩
  | case3 r line hsplit e line' hread hi _ ih =>
    subst hline
    obtain ⟨w', rfl, hturns, hflow', hgoes, hdrawn', -⟩ :=
      Paced.read_put_off hflow hid hdrawn hread
    obtain ⟨result, buffer, got', w'', hresult, hsought⟩ := ih hflow' hdrawn' hconsumed rfl
    exact ⟨result, buffer, got', w'', hresult, hsought.later hgoes hturns⟩
  | case4 r line hsplit e line' hread hi =>
    subst hline
    obtain ⟨w', rfl, -, hflow', hgoes, hdrawn', hpassing, hpatient⟩ :=
      Paced.read_put_off hflow hid hdrawn hread
    exact ⟨_, r.buffer, got, w', rfl, hflow', hdrawn', hgoes,
      ⟨hconsumed, hsplit, hpassing.resolve_left hi⟩, fun hstill _ _ => hpatient hstill⟩
  | case5 r line hsplit line' hread =>
    subst hline
    obtain ⟨w', rfl, -, hflow', hgoes, hdrawn', hend⟩ := Paced.read_given hflow hid hdrawn hread
    rw [List.append_nil] at hdrawn'
    exact ⟨_, r.buffer, got, w', rfl, hflow', hdrawn', hgoes, ⟨hconsumed, hsplit, hend rfl⟩,
      by simp⟩
  | case6 r line hsplit line' b piece hread _ ih =>
    subst hline
    obtain ⟨w', rfl, hturns, hflow', hgoes, hdrawn', -⟩ := Paced.read_given hflow hid hdrawn hread
    obtain ⟨result, buffer, got', w'', hresult, hsought⟩ :=
      ih hflow' hdrawn' (hconsumed.piece _) rfl
    exact ⟨result, buffer, got', w'', hresult, hsought.later hgoes hturns⟩

end

inductive Awaited (came : List StreamId) (l : ListenerId) (taken : List StreamId)
    (c : SocketChannel) (w : Paced) :
    Except ProxyError Bool × SocketChannel × Paced → List StreamId → Prop where
  | nobody {w' : Paced} (hturns : w.turns = [] → w'.turns = [])
    (hflow : Flowing came l taken w'.street) (hgoes : Goes w.street w'.street)
    (hstill : w.turns = [] → w'.street = w.street ∧ w.street.system.waitingAt l = []) :
    Awaited came l taken c w (.ok false, c, w') taken
  | refused {id : StreamId} {e : IoError} {w' : Paced}
    (hflow : Flowing came l (taken ++ [id]) w'.street) (hgoes : Goes w.street w'.street)
    (htimes : checkTimeouts c.limits = .error e) :
    Awaited came l taken c w (.error (.stream (.io e)), c, w') (taken ++ [id])
  | peer {id : StreamId} {w' : Paced} (hturns : w.turns = [] → w'.turns = [])
    (hflow : Flowing came l (taken ++ [id]) w'.street) (hgoes : Goes w.street w'.street)
    (hdrawn : Drawn w'.street id [])
    (hstill : w.turns = [] → (w.street.system.waitingAt l).head? = some id) :
    Awaited came l taken c w
      (.ok true, { c with connection := some ⟨id, { limit := c.limits.maxSize }⟩ }, w')
      (taken ++ [id])

section

variable {came : List StreamId} {l : ListenerId} {taken taken' : List StreamId} {c : SocketChannel}
  {w w' : Paced} {found : Except ProxyError Bool × SocketChannel × Paced}

theorem Awaited.later (h : Awaited came l taken c w' found taken') (hgoes : Goes w.street w'.street)
    (hturns : w.turns = [] → w'.turns = [])
    (hstill : w.turns = [] → w'.street = w.street ∧ w.street.system.waitingAt l = []) :
    Awaited came l taken c w found taken' := by
  cases h with
  | nobody hturns' hflow' hgoes' hstill' =>
    refine .nobody (hturns' ∘ hturns) hflow' (hgoes.trans hgoes') fun h => ?_
    exact ⟨(hstill' (hturns h)).1.trans (hstill h).1, (hstill h).2⟩
  | refused hflow' hgoes' htimes => exact .refused hflow' (hgoes.trans hgoes') htimes
  | peer hturns' hflow' hgoes' hdrawn hstill' =>
    refine .peer (hturns' ∘ hturns) hflow' (hgoes.trans hgoes') hdrawn fun h => ?_
    rw [← (hstill h).1]
    exact hstill' (hturns h)

theorem awaited_on (hfree : c.connection = none) (hlistener : c.listener = some l)
    (houtbox : c.outbox = []) (hflow : Flowing came l taken w.street) :
    ∃ taken', Awaited came l taken c w (c.awaitPeer w) taken' := by
  obtain ⟨w', hturns, hgoes, ⟨haccept, hflow', hstill⟩ | ⟨id, haccept, hflow', hdrawn, hstill⟩⟩ :=
    Paced.accept_cases hflow
  · rw [SocketChannel.awaitPeer_of_nobody hfree hlistener haccept]
    exact ⟨taken, .nobody hturns hflow' hgoes hstill⟩
  · obtain ⟨w'', hturns', hflow'', hgoes', ⟨e, hready, htimes⟩ | ⟨hready, hdrawn'⟩⟩ :=
      Paced.ready_cases c.limits hflow' (List.mem_append_right _ (List.mem_singleton_self id))
        hdrawn
    · rw [SocketChannel.awaitPeer_of_unready hfree hlistener haccept hready]
      exact ⟨_, .refused hflow'' (hgoes.trans hgoes') htimes⟩
    · have hflush : ∀ peer c',
          SocketChannel.flush c.outbox peer c' w'' = (.ok (), c', w'') := by
        intro peer c'
        rw [houtbox]
        rfl
      rw [SocketChannel.awaitPeer_of_peer hfree hlistener haccept hready, hflush]
      exact ⟨_, .peer (hturns' ∘ hturns) hflow'' (hgoes.trans hgoes') hdrawn' hstill⟩

theorem awaited_for (tries : Nat) (hfree : c.connection = none) (hlistener : c.listener = some l)
    (houtbox : c.outbox = []) (hflow : Flowing came l taken w.street) :
    ∃ taken', Awaited came l taken c w (c.awaitPeerFor tries w) taken' := by
  induction tries generalizing w with
  | zero => exact awaited_on hfree hlistener houtbox hflow
  | succ tries ih =>
    rw [SocketChannel.awaitPeerFor]
    obtain ⟨taken', hfirst⟩ := awaited_on hfree hlistener houtbox hflow
    generalize c.awaitPeer w = found at hfirst
    cases hfirst with
    | refused hflow' hgoes htimes => exact ⟨_, .refused hflow' hgoes htimes⟩
    | peer hturns hflow' hgoes hdrawn hstill => exact ⟨_, .peer hturns hflow' hgoes hdrawn hstill⟩
    | nobody hturns hflow' hgoes hstill =>
      obtain ⟨taken', hlater⟩ := ih hflow'
      exact ⟨taken', hlater.later hgoes hturns hstill⟩

end

end ModuleProxy
