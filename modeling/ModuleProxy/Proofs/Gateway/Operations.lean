import ModuleProxy.Proofs.Gateway.Moves

namespace ModuleProxy

variable {μ γ ω : Type} [Channels γ ω] [ProxiedModule μ γ ω]

/-- What a gateway without a live module does for a request, and the channel on which it is met. -/
inductive Attempt (request : Create) : List (GatewayCall γ) → Option γ → Prop where
  | badAddress {e : EndpointError} (h : ChannelAddress.parse request.uri.text = .error e) :
    Attempt request [] none
  | notOpened {address : ChannelAddress} {e : ProxyError}
    (h : ChannelAddress.parse request.uri.text = .ok address) :
    Attempt request [.openChannel .message address (.error e)] none
  | refused {address : ChannelAddress} {messages : γ} {cause : Cause}
    (h : ChannelAddress.parse request.uri.text = .ok address) :
    Attempt request [.openChannel .message address (.ok messages),
      .create messages request.args (.error cause), .disconnect messages] none
  | accepted {address : ChannelAddress} {messages : γ}
    (h : ChannelAddress.parse request.uri.text = .ok address) :
    Attempt request [.openChannel .message address (.ok messages),
      .create messages request.args (.ok ())] (some messages)

def endCalls : Option γ → List (GatewayCall γ)
  | none => []
  | some messages => [.destroy, .disconnect messages]

/-- The calls that a control frame gives rise to, and the channel on which a request in it is
met. -/
inductive Handled (live : Option γ) (control : γ) (frame : Bytes) :
    List (GatewayCall γ) → Option γ → Prop where
  | unreadable {e : FormatError} (hheader : ControlHeader.decode frame = .error e) :
    Handled live control frame [] none
  | passed {header : ControlHeader} (hheader : ControlHeader.decode frame = .ok header)
    (hkind : header.kind ≠ .ok .create) : Handled live control frame [] none
  | started {header : ControlHeader} {calls : List (GatewayCall γ)}
    (hheader : ControlHeader.decode frame = .ok header) (hkind : header.kind = .ok .start)
    (hcalls : ∀ call ∈ calls, call = .start) : Handled live control frame calls none
  | ended {header : ControlHeader} (hheader : ControlHeader.decode frame = .ok header)
    (hkind : header.kind = .ok .destroy) : Handled live control frame (endCalls live) none
  | malformed {header : ControlHeader} {result : Except ProxyError Unit}
    (hheader : ControlHeader.decode frame = .ok header) (hkind : header.kind = .ok .create)
    (hrequest : Gateway.readRequest? frame = none) :
    Handled live control frame [.send control (createReply false) result] none
  | answered {header : ControlHeader} {request : Create} {attempt : List (GatewayCall γ)}
    {met : Option γ} {result : Except ProxyError Unit}
    (hheader : ControlHeader.decode frame = .ok header) (hkind : header.kind = .ok .create)
    (hrequest : Gateway.readRequest? frame = some request) (hattempt : Attempt request attempt met) :
    Handled live control frame
      (endCalls live ++ attempt ++ [.send control (createReply met.isSome) result]) met

def GatewayCall.IsDelivery : GatewayCall γ → Prop
  | .recv .. | .receive _ => True
  | _ => False

theorem GatewayCall.filterMap_eq_nil {α : Type} {f : GatewayCall γ → Option α}
    {calls : List (GatewayCall γ)} (h : ∀ call ∈ calls, ¬call.IsDelivery)
    (hf : ∀ call, f call = none ∨ call.IsDelivery := by
      intro call; cases call <;> first | exact .inl rfl | exact .inr trivial) :
    calls.filterMap f = [] :=
  List.filterMap_eq_nil_iff.mpr fun call hcall => (hf call).resolve_right (h call hcall)

namespace Gateway

theorem attach_moves (g : Gateway μ γ) (id : String) (w : ω) :
    ∃ calls, Moves g w calls (g.attach id w).2.1 (g.attach id w).2.2 ∧
      ∀ call ∈ calls, ∃ address result, call = .openChannel .control address result := by
  unfold attach
  split
  · exact ⟨[], .none, by simp⟩
  · rename_i hnone
    unfold openAt
    cases ChannelAddress.parse id with
    | error e => exact ⟨[], .none, by simp⟩
    | ok address =>
      dsimp only
      split
      · rename_i hopen
        exact ⟨_, (Move.openFailed hopen).moves, by simp⟩
      · rename_i hopen
        exact ⟨_, (Move.attach hnone hopen).moves, by simp⟩

theorem destroy_moves {g : Gateway μ γ} (hg : g.Consistent) (w : ω) :
    Moves g w (endCalls g.messages) (g.destroy w).1 (g.destroy w).2 := by
  cases hmessages : g.messages with
  | none =>
    have hidle : g.state ≠ .created := by simp [hg.created_iff, hmessages]
    rw [destroy_of_ne hidle]
    exact .none
  | some messages =>
    have hlive : g.state = .created := by simp [hg.created_iff, hmessages]
    have hmove : Move g w [.destroy, .disconnect messages] _ _ := .destroy hlive hmessages rfl
    simp only [destroy, hlive, ↓reduceIte, disconnectMessages, hmessages]
    exact hmove.moves

theorem start_moves (g : Gateway μ γ) (w : ω) :
    ∃ calls, Moves g w calls (g.start w).1 (g.start w).2 ∧ ∀ call ∈ calls, call = .start := by
  unfold start
  split
  · rename_i hstart
    exact ⟨_, (Move.start hstart.1 rfl).moves, by simp⟩
  · exact ⟨[], .none, by simp⟩

theorem createGuest_moves {g : Gateway μ γ} (hidle : g.state ≠ .created)
    (hcontrol : g.control ≠ none) (request : Create) (w : ω) :
    ∃ calls met,
      Moves g w calls (g.createGuest request w).2.1 (g.createGuest request w).2.2 ∧
      Attempt request calls met ∧ (g.createGuest request w).1 = met.isSome ∧
      ∀ messages, met = some messages →
        (g.createGuest request w).2.1.state = .created ∧
        (g.createGuest request w).2.1.messages = some messages := by
  unfold createGuest openAt
  cases haddress : ChannelAddress.parse request.uri.text with
  | error e => exact ⟨[], none, .none, .badAddress haddress, rfl, by simp⟩
  | ok address =>
    split
    · rename_i hopen
      exact ⟨_, none, (Move.openFailed hopen).moves, .notOpened haddress, rfl, by simp⟩
    · rename_i messages w' hopen
      split
      · rename_i hcreate
        refine ⟨_, some messages, (Move.accept hidle hcontrol hopen hcreate).moves,
          .accepted haddress, rfl, ?_⟩
        rintro _ ⟨⟩
        exact ⟨rfl, rfl⟩
      · rename_i hcreate
        exact ⟨_, none, (Move.refuse hidle hopen hcreate).moves, .refused haddress, rfl, by simp⟩

theorem reply_moves {g : Gateway μ γ} {control : γ} (hcontrol : g.control = some control)
    (succeeded : Bool) (w : ω) :
    Moves g w [.send control (createReply succeeded) (g.reply succeeded w).1] g
      (g.reply succeeded w).2 := by
  unfold reply
  rw [hcontrol]
  exact (Move.send hcontrol rfl).moves

theorem createGuest_control (g : Gateway μ γ) (request : Create) (w : ω) :
    (g.createGuest request w).2.1.control = g.control := by
  unfold createGuest
  split
  · rfl
  · split <;> rfl

theorem create_moves {g : Gateway μ γ} (hg : g.Consistent) {control : γ}
    (hcontrol : g.control = some control) {frame : Bytes} {header : ControlHeader}
    (hheader : ControlHeader.decode frame = .ok header) (hkind : header.kind = .ok .create) (w : ω) :
    ∃ calls met, Moves g w calls (g.create frame w).2.1 (g.create frame w).2.2 ∧
      Handled g.messages control frame calls met ∧
      ∀ messages, met = some messages →
        (g.create frame w).2.1.state = .created ∧
        (g.create frame w).2.1.messages = some messages := by
  unfold create
  cases hrequest : readRequest? frame with
  | none => exact ⟨_, none, reply_moves hcontrol false w, .malformed hheader hkind hrequest, by simp⟩
  | some request =>
    have hdestroy := destroy_moves hg w
    have hkept : (g.destroy w).1.control = some control := (destroy_control g w).trans hcontrol
    obtain ⟨attempt, met, hguest, hattempt, hmet, hlive⟩ :=
      createGuest_moves (destroy_state_ne g w) (by simp [hkept]) request (g.destroy w).2
    have hreply := reply_moves ((createGuest_control _ request (g.destroy w).2).trans hkept)
      met.isSome ((g.destroy w).1.createGuest request (g.destroy w).2).2.2
    simp only [hmet]
    exact ⟨_, met, (hdestroy.append hguest).append hreply, .answered hheader hkind hrequest hattempt,
      hlive⟩

theorem handle_moves {g : Gateway μ γ} (hg : g.Consistent) {control : γ}
    (hcontrol : g.control = some control) (frame : Bytes) (w : ω) :
    ∃ calls met, Moves g w calls (g.handle frame w).2.1 (g.handle frame w).2.2 ∧
      Handled g.messages control frame calls met ∧
      ∀ messages, met = some messages →
        (g.handle frame w).2.1.state = .created ∧
        (g.handle frame w).2.1.messages = some messages := by
  unfold handle
  simp only [hcontrol]
  cases hheader : ControlHeader.decode frame with
  | error e => exact ⟨[], none, .none, .unreadable hheader, by simp⟩
  | ok header =>
    dsimp only
    split
    · rename_i hkind
      exact create_moves hg hcontrol hheader hkind w
    · rename_i hkind
      obtain ⟨calls, hmoves, hcalls⟩ := start_moves g w
      exact ⟨calls, none, hmoves, .started hheader hkind hcalls, by simp⟩
    · rename_i hkind
      exact ⟨_, none, destroy_moves hg w, .ended hheader hkind, by simp⟩
    · rename_i hkind
      exact ⟨[], none, .none, .passed hheader (by simp [hkind]), by simp⟩
    · rename_i hkind
      exact ⟨[], none, .none, .passed hheader (by simp [hkind]), by simp⟩
    · rename_i hkind
      exact ⟨[], none, .none, .passed hheader (by simp [hkind]), by simp⟩

theorem handle_control (g : Gateway μ γ) (frame : Bytes) (w : ω) :
    (g.handle frame w).2.1.control = g.control := by
  unfold handle
  split
  · rfl
  · split
    · rfl
    · split
      · unfold create
        split
        · rfl
        · exact (createGuest_control _ _ _).trans (destroy_control g w)
      · obtain ⟨guest, hguest⟩ := start_fst g w
        simp only [hguest]
      · exact destroy_control g w
      · rfl
      · rfl
      · rfl

theorem deliver_moves (room supply : Nat) {g : Gateway μ γ} {messages : γ}
    (hmessages : g.messages = some messages) (stats : PollStats) (w : ω) :
    ∃ calls, Moves g w calls (g.deliver room supply messages stats w).2.1
      (g.deliver room supply messages stats w).2.2 ∧ ∀ call ∈ calls, call.IsDelivery := by
  fun_induction deliver room supply g messages stats w with
  | case1 | case2 => exact ⟨[], .none, by simp⟩
  | case3 g stats w room supply w' hrecv | case4 g stats w room supply reason w' hrecv
  | case5 g stats w room supply e w' hrecv | case6 g stats w room supply e w' _ _ hrecv =>
    exact ⟨_, (Move.idle hmessages hrecv (by simp)).moves, by simp [GatewayCall.IsDelivery]⟩
  | case7 g stats w room supply frame w' hrecv e hdecode ih =>
    obtain ⟨calls, hmoves, hcalls⟩ := ih hmessages
    refine ⟨_, .step (.skip hmessages hrecv hdecode) hmoves, ?_⟩
    simpa [GatewayCall.IsDelivery] using hcalls
  | case8 g stats w room supply frame w' hrecv m hdecode guest w'' hreceive ih =>
    obtain ⟨calls, hmoves, hcalls⟩ := ih hmessages
    refine ⟨_, .step (.deliver hmessages hrecv hdecode hreceive) hmoves, ?_⟩
    simpa [GatewayCall.IsDelivery] using hcalls

theorem drain_moves (g : Gateway μ γ) (stats : PollStats) (w : ω) :
    ∃ calls, Moves g w calls (g.drain stats w).2.1 (g.drain stats w).2.2 ∧
      ∀ call ∈ calls, call.IsDelivery := by
  unfold drain
  split
  · exact ⟨[], .none, by simp⟩
  · rename_i messages hmessages
    exact deliver_moves _ _ hmessages stats w

theorem poll_moves {g : Gateway μ γ} (hg : g.Consistent) {control : γ}
    (hcontrol : g.control = some control) (w : ω) :
    ∃ handled met delivered,
      Moves g w (.recv control (Channels.recv control w).1 :: (handled ++ delivered))
        (g.poll w).2.1 (g.poll w).2.2 ∧
      (∀ call ∈ delivered, call.IsDelivery) ∧
      (∀ frame, (Channels.recv control w).1 = .ok (some frame) →
        Handled g.messages control frame handled met) ∧
      ((∀ frame, (Channels.recv control w).1 ≠ .ok (some frame)) → handled = []) ∧
      ∀ messages, met = some messages →
        (g.poll w).2.1.state = .created ∧ (g.poll w).2.1.messages = some messages := by
  have hlisten : ∀ result w', Channels.recv control w = (result, w') →
      Move g w [.recv control result] g w' := fun result w' hrecv => .listen hcontrol hrecv
  unfold poll
  simp only [hcontrol]
  split
  · rename_i reason w' hrecv
    obtain ⟨delivered, hmoves, hdelivered⟩ := drain_moves g { discarded := 1 } w'
    rw [hrecv]
    exact ⟨[], none, delivered, .step (hlisten _ _ hrecv) hmoves, hdelivered, by simp⟩
  · rename_i e w' _ hrecv
    rw [hrecv]
    exact ⟨[], none, [], (hlisten _ _ hrecv).moves, by simp⟩
  · rename_i w' hrecv
    obtain ⟨delivered, hmoves, hdelivered⟩ := drain_moves g {} w'
    rw [hrecv]
    exact ⟨[], none, delivered, .step (hlisten _ _ hrecv) hmoves, hdelivered, by simp⟩
  · rename_i frame w' hrecv
    obtain ⟨handled, met, hmoves, hhandled, hlive⟩ := handle_moves hg hcontrol frame w'
    rw [← pollControl_snd] at hmoves hlive
    rw [hrecv]
    have hheard := Moves.step (hlisten _ _ hrecv) hmoves
    split
    · rename_i e g' w'' hpoll
      rw [hpoll] at hheard hlive
      refine ⟨handled, met, [], by simpa using hheard, by simp, ?_, by simp, hlive⟩
      rintro _ ⟨⟩
      exact hhandled
    · rename_i stats g' w'' hpoll
      rw [hpoll] at hheard hlive
      obtain ⟨delivered, hdrain, hdelivered⟩ := drain_moves g' stats w''
      obtain ⟨guest, hguest⟩ := drain_fst g' stats w''
      refine ⟨handled, met, delivered, hheard.append hdrain, hdelivered, ?_, by simp, ?_⟩
      · rintro _ ⟨⟩
        exact hhandled
      · rw [hguest]
        exact hlive

theorem detach_moves {g : Gateway μ γ} (hg : g.Consistent) {control : γ}
    (hcontrol : g.control = some control) (w : ω) :
    Moves g w (endCalls g.messages ++
        [.send control (replyFrame .detach) (g.detach w).1, .disconnect control])
      (g.detach w).2.1 (g.detach w).2.2 := by
  have hdestroy := destroy_moves hg w
  have hkept : (g.destroy w).1.control = some control := (destroy_control g w).trans hcontrol
  have hidle : (g.destroy w).1.messages = none :=
    (hdestroy.consistent hg).messages_eq_none (destroy_state_ne g w)
  let sent := Channels.send control (replyFrame .detach) (g.destroy w).2
  have hsend : Move (g.destroy w).1 (g.destroy w).2 [.send control (replyFrame .detach) sent.1]
    (g.destroy w).1 sent.2 := .send hkept rfl
  have hleave : Move (g.destroy w).1 sent.2 [.disconnect control] _ _ := .leave hkept hidle
  have hmoves := hdestroy.append (.step hsend hleave.moves)
  -- the code gives up the control channel before it ends the session; nothing of that session
  -- depends on it
  suffices hdetach : g.detach w = (sent.1,
      { (g.destroy w).1 with control := none, state := .detached },
      Channels.disconnect control sent.2) by
    rw [hdetach]
    exact hmoves
  unfold detach
  cases hmessages : g.messages with
  | none =>
    have hstate : g.state ≠ .created := by simp [hg.created_iff, hmessages]
    simp only [sent, hcontrol, hmessages, hstate, ↓reduceIte, disconnectMessages,
      destroy_of_ne hstate]
  | some messages =>
    have hstate : g.state = .created := by simp [hg.created_iff, hmessages]
    simp only [sent, hcontrol, hmessages, hstate, ↓reduceIte, disconnectMessages, destroy]

end Gateway

end ModuleProxy
