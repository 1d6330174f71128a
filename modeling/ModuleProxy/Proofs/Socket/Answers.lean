import ModuleProxy.Proofs.Socket.Receiving

namespace ModuleProxy

open SocketSystem

structure Answer where
  served : Option StreamId
  result : Except ProxyError (Option Bytes)
  hungUp : Bool

def Answer.frame? (a : Answer) : Option Bytes :=
  a.result.toOption.join

structure Reception where
  channel : SocketChannel
  street : Street
  answers : List Answer := []

inductive ReceptionAct where
  | move (m : PeerMove)
  | recv (tries : Nat) (turns : List Turn)

namespace Reception

def served (x : Reception) (tries : Nat) (turns : List Turn) : Option StreamId :=
  (x.channel.awaitPeerFor tries (Paced.mk x.street turns)).2.1.connection.map (·.stream)

def waiting (x : Reception) : List StreamId :=
  x.channel.listener.elim [] x.street.system.waitingAt

def next (x : Reception) : Option StreamId :=
  match x.channel.connection with
  | some peer => some peer.stream
  | none => x.waiting.head?

def recv (x : Reception) (tries : Nat) (turns : List Turn) : Reception :=
  let after := x.channel.recv (Paced.mk x.street turns) tries
  let served := x.served tries turns
  { channel := after.2.1
    street := after.2.2.street
    answers := x.answers ++ [⟨served, after.1, served.isSome && !after.2.1.isConnected⟩] }

def act (x : Reception) : ReceptionAct → Reception
  | .move m => { x with street := x.street.move m }
  | .recv tries turns => x.recv tries turns

def actAll (acts : List ReceptionAct) (x : Reception) : Reception :=
  acts.foldl act x

def answersOf (x : Reception) (id : StreamId) : List Answer :=
  x.answers.filter (·.served = some id)

def given (x : Reception) (id : StreamId) : List Bytes :=
  (x.answersOf id).filterMap Answer.frame?

theorem answersOf_snoc (channel : SocketChannel) (street : Street) (answers : List Answer)
    (a : Answer) (id : StreamId) :
    answersOf ⟨channel, street, answers ++ [a]⟩ id =
      answersOf ⟨channel, street, answers⟩ id ++ if a.served = some id then [a] else [] := by
  rw [answersOf, List.filter_append, answersOf]
  by_cases hid : a.served = some id <;> simp [hid]

end Reception

structure Gave (answers : List Answer) (frames : List RawFrame) : Prop where
  kept : ∀ a ∈ answers, a.hungUp = false ∧ ∃ frame?, a.result = .ok frame?
  frames_eq : answers.filterMap Answer.frame? = frames.map (·.bytes)

def ending : Option FormatError → Except ProxyError (Option Bytes)
  | some e => .error (.stream (.format e))
  | none => .ok none

def Ended (limit : Nat) (x : Street) (id : StreamId) (answers : List Answer) : Prop :=
  let stream := drain (x.sent id) limit
  ∃ before last, answers = before ++ [last] ∧ Gave before stream.frames ∧ last.hungUp = true ∧
    last.result = ending stream.error ∧ (stream.error = none → x.system.IsLeft id)

/-- The answer after so many frames of this end's stream: the frame that comes next, or else how the
stream ended, or nothing as long as its peer may write. -/
def Answer.IsNext (a : Answer) (limit : Nat) (x : Street) (id : StreamId) (given : Nat) : Prop :=
  let stream := drain (x.sent id) limit
  (a.result =
    match stream.frames[given]? with
    | some f => .ok (some f.bytes)
    | none => ending stream.error) ∧
  (a.hungUp = true ↔
    stream.frames[given]? = none ∧ (stream.error = none → x.system.IsLeft id))

/-- The answers while this end was served: frames of its stream as long as it is, and in the end all
of them and how the stream ended. -/
def Reception.Received (x : Reception) (id : StreamId) : Prop :=
  if x.channel.connection.map (·.stream) = some id then
    ∃ frames, frames <+: (drain (x.street.sent id) x.channel.limits.maxSize).frames ∧
      Gave (x.answersOf id) frames
  else Ended x.channel.limits.maxSize x.street id (x.answersOf id)

def Answer.IsIdle (a : Answer) (limits : FrameLimits) : Prop :=
  a.result = .ok none ∨
    ∃ e, checkTimeouts limits = .error e ∧ a.result = .error (.stream (.io e))

structure Listed (limits : FrameLimits) (taken : List StreamId) (answers : List Answer) : Prop where
  among : ∀ a ∈ answers, ∀ id, a.served = some id → id ∈ taken
  ordered : (answers.filterMap (·.served)).Pairwise (· ≤ ·)
  idle : ∀ a ∈ answers, a.served = none → a.IsIdle limits

namespace Listed

variable {limits : FrameLimits} {taken taken' : List StreamId} {answers : List Answer} {a : Answer}

theorem mono (h : Listed limits taken answers) (htaken : taken ⊆ taken') :
    Listed limits taken' answers :=
  { h with among := fun a ha id hid => htaken (h.among a ha id hid) }

theorem note (h : Listed limits taken answers) (ha : a.served = none) (hidle : a.IsIdle limits) :
    Listed limits taken (answers ++ [a]) where
  among := by
    intro a' ha' id hid
    obtain ha' | ha' := List.mem_append.mp ha'
    · exact h.among a' ha' id hid
    · rw [List.mem_singleton.mp ha', ha] at hid
      cases hid
  ordered := by
    rw [List.filterMap_append, List.filterMap_cons_none ha, List.filterMap_nil, List.append_nil]
    exact h.ordered
  idle := by
    intro a' ha' hnobody
    obtain ha' | ha' := List.mem_append.mp ha'
    · exact h.idle a' ha' hnobody
    · rw [List.mem_singleton.mp ha']
      exact hidle

theorem hear (h : Listed limits taken answers) {id : StreamId} (ha : a.served = some id)
    (hid : id ∈ taken) (hlast : ∀ id' ∈ taken, id' ≤ id) :
    Listed limits taken (answers ++ [a]) where
  among := by
    intro a' ha' id' hid'
    obtain ha' | ha' := List.mem_append.mp ha'
    · exact h.among a' ha' id' hid'
    · rw [List.mem_singleton.mp ha', ha] at hid'
      exact Option.some.inj hid' ▸ hid
  ordered := by
    rw [List.filterMap_append, List.filterMap_cons_some ha, List.filterMap_nil,
      List.pairwise_append]
    refine ⟨h.ordered, List.pairwise_singleton _ _, fun id' hid' id'' hid'' => ?_⟩
    obtain ⟨a', ha', hserved⟩ := List.mem_filterMap.mp hid'
    rw [List.mem_singleton.mp hid'']
    exact hlast id' (h.among a' ha' id' hserved)
  idle := by
    intro a' ha' hnobody
    obtain ha' | ha' := List.mem_append.mp ha'
    · exact h.idle a' ha' hnobody
    · rw [List.mem_singleton.mp ha', ha] at hnobody
      cases hnobody

end Listed

end ModuleProxy
