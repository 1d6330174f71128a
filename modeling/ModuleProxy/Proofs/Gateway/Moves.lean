import ModuleProxy.Proofs.Gateway.Observed

/-!
What a gateway does, move by move. A move is a short series of calls with one effect; every
operation is a chain of moves, so that what each move keeps is kept by every run.
-/

namespace ModuleProxy

variable {μ γ ω : Type} [Channels γ ω] [ProxiedModule μ γ ω]

inductive Move : Gateway μ γ → ω → List (GatewayCall γ) → Gateway μ γ → ω → Prop where
  | openFailed {g : Gateway μ γ} {w w' : ω} {role : ChannelRole} {address : ChannelAddress}
    {e : ProxyError} (hopen : Channels.openChannel (γ := γ) role address w = (.error e, w')) :
    Move g w [.openChannel role address (.error e)] g w'
  | attach {g : Gateway μ γ} {w w' : ω} {address : ChannelAddress} {control : γ}
    (hnone : g.control = none)
    (hopen : Channels.openChannel .control address w = (.ok control, w')) :
    Move g w [.openChannel .control address (.ok control)]
      { g with control := some control, state := .attached } w'
  | send {g : Gateway μ γ} {w w' : ω} {control : γ} {frame : Bytes}
    {result : Except ProxyError Unit} (hcontrol : g.control = some control)
    (hsend : Channels.send control frame w = (result, w')) :
    Move g w [.send control frame result] g w'
  | listen {g : Gateway μ γ} {w w' : ω} {control : γ}
    {result : Except ProxyError (Option Bytes)} (hcontrol : g.control = some control)
    (hrecv : Channels.recv control w = (result, w')) : Move g w [.recv control result] g w'
  | start {g : Gateway μ γ} {w w' : ω} {guest : μ} (hlive : g.state = .created)
    (hstart : ProxiedModule.start g.guest w = (guest, w')) : Move g w [.start] { g with guest } w'
  | destroy {g : Gateway μ γ} {w w' : ω} {guest : μ} {messages : γ} (hlive : g.state = .created)
    (hmessages : g.messages = some messages)
    (hdestroy : ProxiedModule.destroy g.guest w = (guest, w')) :
    Move g w [.destroy, .disconnect messages]
      { g with guest, messages := none, state := .attached } (Channels.disconnect messages w')
  | accept {g : Gateway μ γ} {w w' w'' : ω} {guest : μ} {messages : γ} {address : ChannelAddress}
    {args : Bytes} (hidle : g.state ≠ .created) (hcontrol : g.control ≠ none)
    (hopen : Channels.openChannel .message address w = (.ok messages, w'))
    (hcreate : ProxiedModule.create g.guest messages args w' = (.ok (), guest, w'')) :
    Move g w [.openChannel .message address (.ok messages), .create messages args (.ok ())]
      { g with guest, messages := some messages, state := .created } w''
  | refuse {g : Gateway μ γ} {w w' w'' : ω} {guest : μ} {messages : γ} {address : ChannelAddress}
    {args : Bytes} {cause : Cause} (hidle : g.state ≠ .created)
    (hopen : Channels.openChannel .message address w = (.ok messages, w'))
    (hcreate : ProxiedModule.create g.guest messages args w' = (.error cause, guest, w'')) :
    Move g w [.openChannel .message address (.ok messages), .create messages args (.error cause),
      .disconnect messages] { g with guest } (Channels.disconnect messages w'')
  | idle {g : Gateway μ γ} {w w' : ω} {messages : γ} {result : Except ProxyError (Option Bytes)}
    (hmessages : g.messages = some messages)
    (hrecv : Channels.recv messages w = (result, w'))
    (hnone : ∀ frame, result ≠ .ok (some frame)) : Move g w [.recv messages result] g w'
  | skip {g : Gateway μ γ} {w w' : ω} {messages : γ} {frame : Bytes} {e : FormatError}
    (hmessages : g.messages = some messages)
    (hrecv : Channels.recv messages w = (.ok (some frame), w'))
    (hdecode : Message.decode frame = .error e) :
    Move g w [.recv messages (.ok (some frame))] g w'
  | deliver {g : Gateway μ γ} {w w' w'' : ω} {guest : μ} {messages : γ} {frame : Bytes}
    {m : Message} (hmessages : g.messages = some messages)
    (hrecv : Channels.recv messages w = (.ok (some frame), w'))
    (hdecode : Message.decode frame = .ok m)
    (hreceive : ProxiedModule.receive g.guest m w' = (guest, w'')) :
    Move g w [.recv messages (.ok (some frame)), .receive m] { g with guest } w''
  | leave {g : Gateway μ γ} {w : ω} {control : γ} (hcontrol : g.control = some control)
    (hidle : g.messages = none) :
    Move g w [.disconnect control] { g with control := none, state := .detached }
      (Channels.disconnect control w)

inductive Moves : Gateway μ γ → ω → List (GatewayCall γ) → Gateway μ γ → ω → Prop where
  | none {g : Gateway μ γ} {w : ω} : Moves g w [] g w
  | step {g g' g'' : Gateway μ γ} {w w' w'' : ω} {calls rest : List (GatewayCall γ)}
    (h : Move g w calls g' w') (hrest : Moves g' w' rest g'' w'') :
    Moves g w (calls ++ rest) g'' w''

theorem Move.moves {g g' : Gateway μ γ} {w w' : ω} {calls : List (GatewayCall γ)}
    (h : Move g w calls g' w') : Moves g w calls g' w' := by
  rw [← List.append_nil calls]
  exact .step h .none

theorem Moves.append {g g' g'' : Gateway μ γ} {w w' w'' : ω} {calls rest : List (GatewayCall γ)}
    (h : Moves g w calls g' w') (hrest : Moves g' w' rest g'' w'') :
    Moves g w (calls ++ rest) g'' w'' := by
  induction h with
  | none => exact hrest
  | step hmove _ ih =>
    rw [List.append_assoc]
    exact .step hmove (ih hrest)

theorem Move.consistent {g g' : Gateway μ γ} {w w' : ω} {calls : List (GatewayCall γ)}
    (h : Move g w calls g' w') (hg : g.Consistent) : g'.Consistent := by
  cases h with
  | openFailed | send | listen | idle | skip => exact hg
  | start | refuse | deliver => exact hg.with_guest _
  | attach hnone hopen =>
    have hcreated := hg.created_iff
    rw [hg.detached_iff.mpr hnone] at hcreated
    refine ⟨by simp, ?_⟩
    simpa using hcreated
  | destroy hlive hmessages hdestroy => exact ⟨by simp [hg.control_ne_none hlive], by simp⟩
  | accept hidle hcontrol hopen hcreate => exact ⟨by simp [hcontrol], by simp⟩
  | leave hcontrol hidle => exact ⟨by simp, by simp [hidle]⟩

theorem Moves.consistent {g g' : Gateway μ γ} {w w' : ω} {calls : List (GatewayCall γ)}
    (h : Moves g w calls g' w') (hg : g.Consistent) : g'.Consistent := by
  induction h with
  | none => exact hg
  | step hmove _ ih => exact ih (hmove.consistent hg)

theorem Moves.invariant {P : Gateway μ γ → ω → Prop}
    (hmove : ∀ {g g' : Gateway μ γ} {w w' : ω} {calls : List (GatewayCall γ)}, g.Consistent →
      P g w → Move g w calls g' w' → P g' w')
    {g g' : Gateway μ γ} {w w' : ω} {calls : List (GatewayCall γ)} (h : Moves g w calls g' w')
    (hg : g.Consistent) (hP : P g w) : P g' w' := by
  induction h with
  | none => exact hP
  | step hstep _ ih => exact ih (hstep.consistent hg) (hmove hg hP hstep)

namespace Observed

omit [ProxiedModule μ γ ω] in
theorem of_openChannel {role : ChannelRole} {address : ChannelAddress} {w w' : Observed γ ω}
    {result : Except ProxyError γ} (h : Channels.openChannel role address w = (result, w')) :
    Channels.openChannel role address w.world = (result, w'.world) ∧
      w'.calls = w.calls ++ [.openChannel role address result] := by
  obtain ⟨rfl, rfl⟩ := Prod.mk.inj h
  exact ⟨rfl, rfl⟩

omit [ProxiedModule μ γ ω] in
theorem of_send {channel : γ} {frame : Bytes} {w w' : Observed γ ω}
    {result : Except ProxyError Unit} (h : Channels.send channel frame w = (result, w')) :
    Channels.send channel frame w.world = (result, w'.world) ∧
      w'.calls = w.calls ++ [.send channel frame result] := by
  obtain ⟨rfl, rfl⟩ := Prod.mk.inj h
  exact ⟨rfl, rfl⟩

omit [ProxiedModule μ γ ω] in
theorem of_recv {channel : γ} {w w' : Observed γ ω} {result : Except ProxyError (Option Bytes)}
    (h : Channels.recv channel w = (result, w')) :
    Channels.recv channel w.world = (result, w'.world) ∧
      w'.calls = w.calls ++ [.recv channel result] := by
  obtain ⟨rfl, rfl⟩ := Prod.mk.inj h
  exact ⟨rfl, rfl⟩

omit [ProxiedModule μ γ ω] in
theorem calls_disconnect (channel : γ) (w : Observed γ ω) :
    (Channels.disconnect channel w).calls = w.calls ++ [.disconnect channel] := rfl

omit [Channels γ ω] in
theorem of_create {guest guest' : μ} {broker : γ} {args : Bytes} {w w' : Observed γ ω}
    {result : Except Cause Unit}
    (h : ProxiedModule.create guest broker args w = (result, guest', w')) :
    ProxiedModule.create guest broker args w.world = (result, guest', w'.world) ∧
      w'.calls = w.calls ++ [.create broker args result] := by
  obtain ⟨hresult, h⟩ := Prod.mk.inj h
  obtain ⟨rfl, rfl⟩ := Prod.mk.inj h
  subst hresult
  exact ⟨rfl, rfl⟩

omit [Channels γ ω] in
theorem of_receive {guest guest' : μ} {m : Message} {w w' : Observed γ ω}
    (h : ProxiedModule.receive guest m w = (guest', w')) :
    ProxiedModule.receive guest m w.world = (guest', w'.world) ∧
      w'.calls = w.calls ++ [.receive m] := by
  obtain ⟨rfl, rfl⟩ := Prod.mk.inj h
  exact ⟨rfl, rfl⟩

omit [Channels γ ω] in
theorem of_start {guest guest' : μ} {w w' : Observed γ ω}
    (h : ProxiedModule.start guest w = (guest', w')) :
    ProxiedModule.start guest w.world = (guest', w'.world) ∧ w'.calls = w.calls ++ [.start] := by
  obtain ⟨rfl, rfl⟩ := Prod.mk.inj h
  exact ⟨rfl, rfl⟩

omit [Channels γ ω] in
theorem of_destroy {guest guest' : μ} {w w' : Observed γ ω}
    (h : ProxiedModule.destroy guest w = (guest', w')) :
    ProxiedModule.destroy guest w.world = (guest', w'.world) ∧ w'.calls = w.calls ++ [.destroy] := by
  obtain ⟨rfl, rfl⟩ := Prod.mk.inj h
  exact ⟨rfl, rfl⟩

end Observed

open Observed

theorem Move.forget {g g' : Gateway μ γ} {w w' : Observed γ ω} {calls : List (GatewayCall γ)}
    (h : Move g w calls g' w') :
    Move g w.world calls g' w'.world ∧ w'.calls = w.calls ++ calls := by
  cases h with
  | openFailed hopen => exact ⟨.openFailed (of_openChannel hopen).1, (of_openChannel hopen).2⟩
  | attach hnone hopen => exact ⟨.attach hnone (of_openChannel hopen).1, (of_openChannel hopen).2⟩
  | send hcontrol hsend => exact ⟨.send hcontrol (of_send hsend).1, (of_send hsend).2⟩
  | listen hcontrol hrecv => exact ⟨.listen hcontrol (of_recv hrecv).1, (of_recv hrecv).2⟩
  | start hlive hstart => exact ⟨.start hlive (of_start hstart).1, (of_start hstart).2⟩
  | destroy hlive hmessages hdestroy =>
    refine ⟨.destroy hlive hmessages (of_destroy hdestroy).1, ?_⟩
    rw [calls_disconnect, (of_destroy hdestroy).2, List.append_assoc]
    rfl
  | accept hidle hcontrol hopen hcreate =>
    refine ⟨.accept hidle hcontrol (of_openChannel hopen).1 (of_create hcreate).1, ?_⟩
    rw [(of_create hcreate).2, (of_openChannel hopen).2, List.append_assoc]
    rfl
  | refuse hidle hopen hcreate =>
    refine ⟨.refuse hidle (of_openChannel hopen).1 (of_create hcreate).1, ?_⟩
    rw [calls_disconnect, (of_create hcreate).2, (of_openChannel hopen).2, List.append_assoc,
      List.append_assoc]
    rfl
  | idle hmessages hrecv hnone =>
    exact ⟨.idle hmessages (of_recv hrecv).1 hnone, (of_recv hrecv).2⟩
  | skip hmessages hrecv hdecode =>
    exact ⟨.skip hmessages (of_recv hrecv).1 hdecode, (of_recv hrecv).2⟩
  | deliver hmessages hrecv hdecode hreceive =>
    refine ⟨.deliver hmessages (of_recv hrecv).1 hdecode (of_receive hreceive).1, ?_⟩
    rw [(of_receive hreceive).2, (of_recv hrecv).2, List.append_assoc]
    rfl
  | leave hcontrol hidle => exact ⟨.leave hcontrol hidle, rfl⟩

theorem Moves.forget {g g' : Gateway μ γ} {w w' : Observed γ ω} {calls : List (GatewayCall γ)}
    (h : Moves g w calls g' w') :
    Moves g w.world calls g' w'.world ∧ w'.calls = w.calls ++ calls := by
  induction h with
  | none => exact ⟨.none, by simp⟩
  | step hmove _ ih =>
    refine ⟨.step hmove.forget.1 ih.1, ?_⟩
    rw [ih.2, hmove.forget.2, List.append_assoc]

end ModuleProxy
