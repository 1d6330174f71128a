import ModuleProxy.Proofs.Socket.Advances

namespace ModuleProxy

open scoped List

variable {ω : Type}

inductive SocketUse (ω : Type) where
  | send (frame : Bytes)
  | recv (tries : Nat)
  | disconnect
  | elsewhere (change : ω → ω)

namespace SocketUse

def passed? : SocketUse ω → Option Bytes
  | .send frame => some frame
  | .recv _ | .disconnect | .elsewhere _ => none

def traced : SocketUse ω → SocketUse (Traced ω)
  | .send frame => .send frame
  | .recv tries => .recv tries
  | .disconnect => .disconnect
  | .elsewhere change => .elsewhere fun w => { w with world := change w.world }

variable [Sockets ω]

def act : SocketUse ω → SocketChannel × ω → SocketChannel × ω
  | .send frame, (c, w) => (c.send frame w).2
  | .recv tries, (c, w) => (c.recv w tries).2
  | .disconnect, (c, w) => c.disconnect w
  | .elsewhere change, (c, w) => (c, change w)

def actAll (uses : List (SocketUse ω)) (now : SocketChannel × ω) : SocketChannel × ω :=
  uses.foldl (fun now use => use.act now) now

theorem act_traced (use : SocketUse ω) (now : SocketChannel × Traced ω) :
    (use.traced.act now).map id Traced.world = use.act (now.map id Traced.world) := by
  obtain ⟨c, w⟩ := now
  cases use with
  | send frame => exact (congrArg Prod.snd (c.send_shown Traced.shows_world frame w)).symm
  | recv tries => exact (congrArg Prod.snd (c.recv_shown Traced.shows_world tries w)).symm
  | disconnect => exact (c.disconnect_shown Traced.shows_world w).symm
  | elsewhere change => rfl

theorem actAll_traced (uses : List (SocketUse ω)) (now : SocketChannel × Traced ω) :
    (actAll (uses.map traced) now).map id Traced.world =
      actAll uses (now.map id Traced.world) := by
  induction uses generalizing now with
  | nil => rfl
  | cons use uses ih =>
    change _ = actAll uses (use.act (now.map id Traced.world))
    rw [← act_traced]
    exact ih (use.traced.act now)

theorem act_advances (use : SocketUse ω) {now : SocketChannel × Traced ω}
    (hsettled : now.1.Settled) :
    Advances use.passed?.toList now (use.traced.act now) ∧ (use.traced.act now).1.Settled := by
  obtain ⟨c, w⟩ := now
  cases use with
  | send frame => exact SocketChannel.send_advances hsettled frame w
  | recv tries => exact SocketChannel.recv_advances tries hsettled w
  | disconnect => exact c.disconnect_advances w
  | elsewhere change =>
    exact ⟨.of_same rfl (List.sublist_append_left ..) rfl, hsettled⟩

theorem actAll_advances (uses : List (SocketUse ω)) {now : SocketChannel × Traced ω}
    (hsettled : now.1.Settled) :
    Advances (uses.filterMap passed?) now (actAll (uses.map traced) now) ∧
      (actAll (uses.map traced) now).1.Settled := by
  induction uses generalizing now with
  | nil => exact ⟨.refl _ _, hsettled⟩
  | cons use uses ih =>
    obtain ⟨hfirst, hsettled⟩ := use.act_advances hsettled
    obtain ⟨hrest, hsettled⟩ := ih hsettled
    have hpassed : (use :: uses).filterMap passed? =
        use.passed?.toList ++ uses.filterMap passed? := by
      cases hpassed : use.passed? <;> simp [hpassed]
    rw [hpassed]
    exact ⟨hfirst.trans hrest, hsettled⟩

/-- A channel that was just bound is used for a while, and then some more. What is written to each
peer is whole frames and then at most one that is cut off; over all peers these are frames that were
passed to the channel, each at most once and in the order in which they were passed. The frames that
wait in between are written, if at all, before any that is passed later. -/
theorem frames_in_order (role : ChannelRole) (listener : ListenerId) (limits : FrameLimits)
    (before later : List (SocketUse ω)) (w : ω) :
    let bound : SocketChannel := { role, listener := some listener, limits }
    let mid := actAll (before.map traced) (bound, { world := w })
    let now := actAll (later.map traced) mid
    now.map id Traced.world = actAll (before ++ later) (bound, w) ∧
      (now.1.connection ≠ none → now.1.outbox = []) ∧
      ∃ (earlier visits : List Visit) (waited sent : List Bytes),
        mid.2.events = earlier.flatMap Visit.events ∧
        now.2.events = visits.flatMap Visit.events ∧ (∀ v ∈ visits, v.Sound) ∧
        visits.flatMap Visit.frames <+ (before ++ later).filterMap passed? ∧
        visits.flatMap Visit.tried = earlier.flatMap Visit.tried ++ (waited ++ sent) ∧
        earlier.flatMap Visit.tried ++ mid.1.outbox <+ before.filterMap passed? ∧
        waited <+ mid.1.outbox ∧ sent <+ later.filterMap passed? := by
  intro bound mid now
  have hplain : now.map id Traced.world = actAll (before ++ later) (bound, w) := by
    have htraced := actAll_traced (before ++ later) (bound, { world := w })
    rw [List.map_append, actAll, List.foldl_append] at htraced
    exact htraced
  have hbound : bound.Settled := fun _ => rfl
  have hlogged : Logged bound ({ world := w } : Traced ω) [] := ⟨rfl, by simp, nofun⟩
  have hfirst : Advances _ (bound, { world := w }) mid ∧ mid.1.Settled :=
    actAll_advances before hbound
  obtain ⟨⟨tried, htries, hbefore⟩, hmid⟩ := hfirst
  obtain ⟨⟨tried', htries', hlater⟩, hnow⟩ := actAll_advances later hmid
  obtain ⟨earlier, hearlier, htried⟩ := htries [] hlogged
  obtain ⟨visits, hvisits, htried'⟩ := htries' earlier hearlier
  rw [List.flatMap_nil, List.nil_append] at htried
  rw [List.nil_append, ← htried] at hbefore
  have hpassed : visits.flatMap Visit.tried <+ (before ++ later).filterMap passed? := by
    calc visits.flatMap Visit.tried
      _ = earlier.flatMap Visit.tried ++ tried' := htried'
      _ <+ earlier.flatMap Visit.tried ++ (mid.1.outbox ++ later.filterMap passed?) :=
        (List.Sublist.refl _).append ((List.sublist_append_left ..).trans hlater)
      _ = earlier.flatMap Visit.tried ++ mid.1.outbox ++ later.filterMap passed? :=
        (List.append_assoc ..).symm
      _ <+ before.filterMap passed? ++ later.filterMap passed? := hbefore.append (.refl _)
      _ = (before ++ later).filterMap passed? := List.filterMap_append.symm
  obtain ⟨waited, sent, rfl, hwaited, hsent⟩ :=
    List.sublist_append_iff.mp ((List.sublist_append_left ..).trans hlater)
  exact ⟨hplain, hnow, earlier, visits, waited, sent, hearlier.events_eq, hvisits.events_eq,
    hvisits.sound, (Visit.frames_sublist_tried visits).trans hpassed, htried', hbefore, hwaited,
    hsent⟩

end SocketUse

end ModuleProxy
