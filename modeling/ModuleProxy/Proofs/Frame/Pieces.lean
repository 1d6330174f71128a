import ModuleProxy.Frame.Split
import ModuleProxy.Proofs.Field

/-!
A stream gives the same frames however it is cut into pieces. What the front of a buffer says of its
first frame does not change when more bytes come, so draining after each piece is draining once.
-/

namespace ModuleProxy

theorem FrameKind.ofBytes?_cons_cons (a b : UInt8) (rest : Bytes) :
    ofBytes? (a :: b :: rest) = ofBytes? [a, b] := by
  unfold ofBytes?
  split <;> split <;> simp_all

theorem nextFrame?_append {buffer : Bytes} {limit : Nat}
    {result : Except FormatError (Option (FrameKind × Nat))}
    (h : nextFrame? buffer limit = result) (hsome : result ≠ .ok none) (more : Bytes) :
    nextFrame? (buffer ++ more) limit = result := by
  match buffer, h with
  | [], h => exact absurd h.symm hsome
  | [_], h => exact absurd h.symm hsome
  | a :: b :: rest, h =>
    simp only [nextFrame?, List.cons_append] at h ⊢
    rw [FrameKind.ofBytes?_cons_cons] at h ⊢
    cases hkind : FrameKind.ofBytes? [a, b] with
    | none =>
      rw [hkind] at h
      exact h
    | some kind =>
      rw [hkind] at h
      dsimp only at h ⊢
      cases hfield : Bytes.int32At? (a :: b :: rest) kind.sizeOffset with
      | none =>
        rw [hfield] at h
        exact absurd h.symm hsome
      | some declared =>
        have happend := Bytes.int32At?_append hfield more
        simp only [List.cons_append] at happend
        rw [hfield] at h
        rw [happend]
        exact h

theorem splitFrame_append_of_some {buffer rest : Bytes} {limit : Nat} {f : RawFrame}
    (h : splitFrame buffer limit = .ok (some (f, rest))) (more : Bytes) :
    splitFrame (buffer ++ more) limit = .ok (some (f, rest ++ more)) := by
  unfold splitFrame at h ⊢
  split at h
  · cases h
  · cases h
  · rename_i kind size hnext
    rw [nextFrame?_append hnext (by simp)]
    dsimp only at h ⊢
    split at h
    · rename_i hsize
      cases h
      have hle : size ≤ buffer.length := by
        rw [List.length_take] at hsize
        omega
      rw [List.take_append_of_le_length hle, if_pos hsize, List.drop_append_of_le_length hle]
    · cases h

theorem splitFrame_append_of_error {buffer : Bytes} {limit : Nat} {e : FormatError}
    (h : splitFrame buffer limit = .error e) (more : Bytes) :
    splitFrame (buffer ++ more) limit = .error e := by
  unfold splitFrame at h ⊢
  split at h
  · rename_i hnext
    cases h
    rw [nextFrame?_append hnext (by simp)]
  · cases h
  · dsimp only at h
    split at h <;> cases h

theorem takeFrame_of_some {buffer rest : Bytes} {limit : Nat} {f : RawFrame}
    (h : splitFrame buffer limit = .ok (some (f, rest))) :
    takeFrame buffer limit = (.ok (some f), rest) := by
  rw [takeFrame, h]

theorem takeFrame_of_none {buffer : Bytes} {limit : Nat} (h : splitFrame buffer limit = .ok none) :
    takeFrame buffer limit = (.ok none, buffer) := by
  rw [takeFrame, h]

theorem takeFrame_of_error {buffer : Bytes} {limit : Nat} {e : FormatError}
    (h : splitFrame buffer limit = .error e) : takeFrame buffer limit = (.error e, buffer) := by
  rw [takeFrame, h]

theorem drainFrom_of_some {buffer rest : Bytes} {limit : Nat} {f : RawFrame}
    (h : splitFrame buffer limit = .ok (some (f, rest))) (taken : List RawFrame) :
    drainFrom taken buffer limit = drainFrom (f :: taken) rest limit := by
  have htake := takeFrame_of_some h
  rw [drainFrom]
  split <;> rename_i hs <;> cases htake.symm.trans hs
  rfl

theorem drainFrom_of_none {buffer : Bytes} {limit : Nat} (h : splitFrame buffer limit = .ok none)
    (taken : List RawFrame) : drainFrom taken buffer limit = ⟨taken.reverse, buffer, none⟩ := by
  have htake := takeFrame_of_none h
  rw [drainFrom]
  split <;> rename_i hs <;> cases htake.symm.trans hs
  rfl

theorem drainFrom_of_error {buffer : Bytes} {limit : Nat} {e : FormatError}
    (h : splitFrame buffer limit = .error e) (taken : List RawFrame) :
    drainFrom taken buffer limit = ⟨taken.reverse, buffer, some e⟩ := by
  have htake := takeFrame_of_error h
  rw [drainFrom]
  split <;> rename_i hs <;> cases htake.symm.trans hs
  rfl

theorem drainFrom_eq (taken : List RawFrame) (buffer : Bytes) (limit : Nat) :
    drainFrom taken buffer limit =
      { drain buffer limit with frames := taken.reverse ++ (drain buffer limit).frames } := by
  unfold drain
  induction hn : buffer.length using Nat.strongRecOn generalizing taken buffer with
  | ind n ih =>
    subst hn
    cases h : splitFrame buffer limit with
    | error e =>
      rw [drainFrom_of_error h, drainFrom_of_error h]
      simp
    | ok found =>
      cases found with
      | none =>
        rw [drainFrom_of_none h, drainFrom_of_none h]
        simp
      | some taking =>
        obtain ⟨f, rest⟩ := taking
        have hlt := length_lt_of_splitFrame h
        rw [drainFrom_of_some h, drainFrom_of_some h, ih _ hlt (f :: taken) rest rfl,
          ih _ hlt [f] rest rfl]
        simp

theorem drain_of_some {buffer rest : Bytes} {limit : Nat} {f : RawFrame}
    (h : splitFrame buffer limit = .ok (some (f, rest))) :
    drain buffer limit = { drain rest limit with frames := f :: (drain rest limit).frames } := by
  rw [drain, drainFrom_of_some h, drainFrom_eq]
  rfl

theorem drain_of_none {buffer : Bytes} {limit : Nat} (h : splitFrame buffer limit = .ok none) :
    drain buffer limit = ⟨[], buffer, none⟩ :=
  drainFrom_of_none h []

theorem drain_of_error {buffer : Bytes} {limit : Nat} {e : FormatError}
    (h : splitFrame buffer limit = .error e) : drain buffer limit = ⟨[], buffer, some e⟩ :=
  drainFrom_of_error h []

theorem drain_induction (limit : Nat) {motive : Bytes → Prop}
    (none : ∀ buffer, splitFrame buffer limit = .ok none → motive buffer)
    (error : ∀ buffer e, splitFrame buffer limit = .error e → motive buffer)
    (some : ∀ buffer f rest, splitFrame buffer limit = .ok (some (f, rest)) → motive rest →
      motive buffer)
    (buffer : Bytes) : motive buffer := by
  induction hn : buffer.length using Nat.strongRecOn generalizing buffer with
  | ind n ih =>
    subst hn
    cases h : splitFrame buffer limit with
    | error e => exact error buffer e h
    | ok found =>
      cases found with
      | none => exact none buffer h
      | some taking => exact some buffer _ _ h (ih _ (length_lt_of_splitFrame h) _ rfl)

theorem drain_append (buffer more : Bytes) (limit : Nat) :
    drain (buffer ++ more) limit = (drain buffer limit).feed more limit := by
  induction buffer using drain_induction limit with
  | none buffer h => rw [drain_of_none h]; rfl
  | error buffer e h => rw [drain_of_error h]; rfl
  | some buffer f rest h ih =>
    rw [drain_of_some (splitFrame_append_of_some h more), drain_of_some h, ih]
    rfl

theorem drain_conserves (buffer : Bytes) (limit : Nat) :
    (drain buffer limit).frames.flatMap (·.bytes) ++ (drain buffer limit).left = buffer := by
  induction buffer using drain_induction limit with
  | none buffer h => rw [drain_of_none h]; rfl
  | error buffer e h => rw [drain_of_error h]; rfl
  | some buffer f rest h ih =>
    rw [drain_of_some h, List.flatMap_cons, List.append_assoc, ih]
    exact (splitFrame_eq_some h).1.symm

theorem takeFrame_drain_left (buffer : Bytes) (limit : Nat) :
    takeFrame (drain buffer limit).left limit =
      (match (drain buffer limit).error with
        | none => .ok none
        | some e => .error e, (drain buffer limit).left) := by
  induction buffer using drain_induction limit with
  | none buffer h => rw [drain_of_none h]; exact takeFrame_of_none h
  | error buffer e h => rw [drain_of_error h]; exact takeFrame_of_error h
  | some buffer f rest h ih => rw [drain_of_some h]; exact ih

theorem takeFrame_unchanged {buffer : Bytes} {limit : Nat}
    (h : ∀ f, (takeFrame buffer limit).1 ≠ .ok (some f)) : (takeFrame buffer limit).2 = buffer := by
  cases hs : splitFrame buffer limit with
  | error e => rw [takeFrame_of_error hs]
  | ok found =>
    cases found with
    | none => rw [takeFrame_of_none hs]
    | some taking =>
      have htake := takeFrame_of_some hs
      rw [htake] at h
      exact absurd rfl (h taking.1)

theorem drain_append_of_error {buffer : Bytes} {limit : Nat} {e : FormatError}
    (h : (drain buffer limit).error = some e) (more : Bytes) :
    drain (buffer ++ more) limit =
      ⟨(drain buffer limit).frames, (drain buffer limit).left ++ more, some e⟩ := by
  induction buffer using drain_induction limit with
  | none buffer hs =>
    rw [drain_of_none hs] at h
    cases h
  | error buffer e' hs =>
    rw [drain_of_error hs] at h
    cases h
    rw [drain_of_error hs, drain_of_error (splitFrame_append_of_error hs more)]
  | some buffer f rest hs ih =>
    rw [drain_of_some hs] at h
    rw [drain_of_some (splitFrame_append_of_some hs more), ih h, drain_of_some hs]

theorem foldl_feed_eq (pieces : List Bytes) (before : Bytes) (limit : Nat) :
    pieces.foldl (·.feed · limit) (drain before limit) = drain (before ++ pieces.flatten) limit := by
  induction pieces generalizing before with
  | nil => rw [List.flatten_nil, List.append_nil]; rfl
  | cons piece pieces ih =>
    rw [List.foldl_cons, ← drain_append, ih, List.flatten_cons, List.append_assoc]

theorem drainPieces_eq_drain (pieces : List Bytes) (limit : Nat) :
    drainPieces pieces limit = drain pieces.flatten limit := by
  have hstart : drain [] limit = ⟨[], [], none⟩ := drain_of_none rfl
  rw [drainPieces, ← hstart, foldl_feed_eq, List.nil_append]

/-- Draining after each piece of a stream gives what draining the whole stream once gives. No byte
is lost, no attempt but one that gives a frame changes the buffer, and an error met after some of
the pieces is the error in the end. -/
theorem drainPieces_independent (pieces : List Bytes) (limit : Nat) :
    drainPieces pieces limit = drain pieces.flatten limit ∧
    (drainPieces pieces limit).frames.flatMap (·.bytes) ++ (drainPieces pieces limit).left =
      pieces.flatten ∧
    (drain pieces.flatten limit).frames.flatMap (·.bytes) ++ (drain pieces.flatten limit).left =
      pieces.flatten ∧
    takeFrame (drainPieces pieces limit).left limit =
      (match (drainPieces pieces limit).error with
        | none => .ok none
        | some e => .error e, (drainPieces pieces limit).left) ∧
    (∀ buffer, (∀ f, (takeFrame buffer limit).1 ≠ .ok (some f)) →
      (takeFrame buffer limit).2 = buffer) ∧
    ∀ before after e, pieces = before ++ after → (drainPieces before limit).error = some e →
      (drainPieces pieces limit).error = some e ∧
      (drainPieces pieces limit).frames = (drainPieces before limit).frames := by
  simp only [drainPieces_eq_drain]
  refine ⟨trivial, drain_conserves _ _, drain_conserves _ _, takeFrame_drain_left _ _,
    fun _ => takeFrame_unchanged, ?_⟩
  rintro before after e rfl herror
  rw [List.flatten_append, drain_append_of_error herror]
  exact ⟨rfl, rfl⟩

end ModuleProxy
