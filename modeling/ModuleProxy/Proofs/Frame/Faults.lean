import ModuleProxy.Proofs.Frame.Reading

namespace ModuleProxy

structure LoggedSource (ω : Type) where
  source : ω
  given : List (Except IoError Bytes) := []

variable {ω : Type} [ByteSource ω]

instance : ByteSource (LoggedSource ω) where
  read n w :=
    let step := ByteSource.read n w.source
    (step.1, ⟨step.2, w.given ++ [step.1]⟩)
  patience w := ByteSource.patience w.source
  patience_lt h hi := ByteSource.patience_lt h hi

theorem LoggedSource.given_read {n : Nat} {w w' : LoggedSource ω} {result : Except IoError Bytes}
    (h : ByteSource.read n w = (result, w')) : w'.given = w.given ++ [result] := by
  obtain ⟨rfl, rfl⟩ := Prod.mk.inj h
  rfl

inductive ReadCall where
  | frame
  | message
  | control
  deriving DecidableEq, Repr

inductive Unpacked where
  | frame (f : RawFrame)
  | message (m : Message)
  | control (m : ControlMessage)

namespace ReadCall

def unpack : ReadCall → RawFrame → Except FormatError Unpacked
  | frame, f => .ok (.frame f)
  | message, f => f.message.map .message
  | control, f => f.control.map .control

def on : ReadCall → FrameReader → ω → Except StreamError Unpacked × FrameReader × ω
  | frame, r, w => (r.readFrame w).map (·.map .frame) id
  | message, r, w => (r.readMessage w).map (·.map .message) id
  | control, r, w => (r.readControl w).map (·.map .control) id

theorem map_mapError {α β : Type} (x : Except FormatError α) (g : α → β) :
    (x.mapError StreamError.format).map g = (x.map g).mapError .format := by
  cases x <;> rfl

theorem on_of_frame {r r' : FrameReader} {w w' : ω} {f : RawFrame}
    (h : r.readFrame w = (.ok f, r', w')) (call : ReadCall) :
    call.on r w = ((call.unpack f).mapError .format, r', w') := by
  cases call with
  | frame => rw [on, h]; rfl
  | message =>
    rw [on, FrameReader.readMessage, h]
    exact congrArg (·, r', w') (map_mapError f.message Unpacked.message)
  | control =>
    rw [on, FrameReader.readControl, h]
    exact congrArg (·, r', w') (map_mapError f.control Unpacked.control)

theorem on_of_error {r r' : FrameReader} {w w' : ω} {e : StreamError}
    (h : r.readFrame w = (.error e, r', w')) (call : ReadCall) :
    call.on r w = (.error e, r', w') := by
  cases call with
  | frame => rw [on, h]; rfl
  | message => rw [on, FrameReader.readMessage, h]; rfl
  | control => rw [on, FrameReader.readControl, h]; rfl

theorem on_logged (call : ReadCall) (r : FrameReader) (w : LoggedSource ω) :
    call.on r w.source = (call.on r w).map id (Prod.map id LoggedSource.source) := by
  have hread : r.readFrame w.source = _ :=
    FrameReader.readFrame_map (φ := LoggedSource.source) (fun _ _ => rfl) r w
  rcases h : r.readFrame w with ⟨e | f, r', w'⟩ <;> rw [h] at hread
  · rw [on_of_error h, on_of_error hread]
    rfl
  · rw [on_of_frame h, on_of_frame hread]
    rfl

end ReadCall

inductive Fetch (limit : Nat) :
    Bytes → List (Except IoError Bytes) → Except StreamError RawFrame → Bytes → Prop where
  | frame {buffer rest : Bytes} {f : RawFrame}
    (h : splitFrame buffer limit = .ok (some (f, rest))) : Fetch limit buffer [] (.ok f) rest
  | fault {buffer : Bytes} {e : FormatError} (h : splitFrame buffer limit = .error e) :
    Fetch limit buffer [] (.error (.format e)) buffer
  | failed {buffer : Bytes} {e : IoError} (h : splitFrame buffer limit = .ok none)
    (he : e.kind ≠ .interrupted) : Fetch limit buffer [.error e] (.error (.io e)) buffer
  | ended {buffer : Bytes} (h : splitFrame buffer limit = .ok none) :
    Fetch limit buffer [.ok []] (.error .closed) buffer
  | interrupted {buffer rest : Bytes} {e : IoError} {given : List (Except IoError Bytes)}
    {result : Except StreamError RawFrame} (h : splitFrame buffer limit = .ok none)
    (he : e.kind = .interrupted) (later : Fetch limit buffer given result rest) :
    Fetch limit buffer (.error e :: given) result rest
  | piece {buffer rest piece : Bytes} {given : List (Except IoError Bytes)}
    {result : Except StreamError RawFrame} (h : splitFrame buffer limit = .ok none)
    (later : Fetch limit (buffer ++ piece) given result rest) :
    Fetch limit buffer (.ok piece :: given) result rest

theorem append_arrived_nil (buffer : Bytes) : buffer ++ arrived [] = buffer :=
  List.append_nil buffer

theorem arrived_append (results more : List (Except IoError Bytes)) :
    arrived (results ++ more) = arrived results ++ arrived more := by
  rw [arrived, List.filterMap_append, List.flatten_append]
  rfl

theorem append_arrived_cons (buffer : Bytes) (result : Except IoError Bytes)
    (results : List (Except IoError Bytes)) :
    buffer ++ arrived (result :: results) = buffer ++ arrived [result] ++ arrived results := by
  rw [List.append_assoc, ← arrived_append]
  rfl

inductive FetchEnd (limit : Nat) (buffer : Bytes) :
    List (Except IoError Bytes) → Except StreamError RawFrame → Bytes → Prop where
  | frame {given : List (Except IoError Bytes)} {f : RawFrame} {rest : Bytes}
    (h : splitFrame (buffer ++ arrived given) limit = .ok (some (f, rest))) :
    FetchEnd limit buffer given (.ok f) rest
  | fault {given : List (Except IoError Bytes)} {e : FormatError} {rest : Bytes}
    (hrest : rest = buffer ++ arrived given) (h : splitFrame rest limit = .error e) :
    FetchEnd limit buffer given (.error (.format e)) rest
  | failed (before : List (Except IoError Bytes)) {e : IoError} {rest : Bytes}
    (he : e.kind ≠ .interrupted) (hrest : rest = buffer ++ arrived before) :
    FetchEnd limit buffer (before ++ [.error e]) (.error (.io e)) rest
  | closed (before : List (Except IoError Bytes)) {rest : Bytes}
    (hrest : rest = buffer ++ arrived before) :
    FetchEnd limit buffer (before ++ [.ok []]) (.error .closed) rest

theorem FetchEnd.later {limit : Nat} {buffer rest : Bytes} {x : Except IoError Bytes}
    {given : List (Except IoError Bytes)} {result : Except StreamError RawFrame}
    (h : FetchEnd limit (buffer ++ arrived [x]) given result rest) :
    FetchEnd limit buffer (x :: given) result rest := by
  have happend := fun results => (append_arrived_cons buffer x results).symm
  cases h with
  | frame hs => exact .frame (by rwa [append_arrived_cons])
  | fault hrest hs => exact .fault (hrest.trans (happend given)) hs
  | failed before he hrest => exact .failed (x :: before) he (hrest.trans (happend before))
  | closed before hrest => exact .closed (x :: before) (hrest.trans (happend before))

theorem FetchEnd.of_ok {limit : Nat} {buffer rest : Bytes} {given : List (Except IoError Bytes)}
    {f : RawFrame} (h : FetchEnd limit buffer given (.ok f) rest) :
    splitFrame (buffer ++ arrived given) limit = .ok (some (f, rest)) := by
  cases h with
  | frame hs => exact hs

theorem FetchEnd.of_error {limit : Nat} {buffer rest : Bytes} {given : List (Except IoError Bytes)}
    {e : StreamError} (h : FetchEnd limit buffer given (.error e) rest) :
    rest = buffer ++ arrived given := by
  cases h with
  | fault hrest => exact hrest
  | failed before he hrest | closed before hrest =>
    rw [arrived_append, hrest]
    exact congrArg (buffer ++ ·) (List.append_nil _).symm

namespace Fetch

variable {limit : Nat} {buffer rest : Bytes} {given : List (Except IoError Bytes)}
  {result : Except StreamError RawFrame}

theorem quiet (h : Fetch limit buffer given result rest)
    (before after : List (Except IoError Bytes)) (x : Except IoError Bytes)
    (hgiven : given = before ++ x :: after) :
    splitFrame (buffer ++ arrived before) limit = .ok none := by
  induction h generalizing before with
  | frame | fault => simp at hgiven
  | failed hs | ended hs =>
    cases before with
    | nil => rwa [append_arrived_nil]
    | cons y before => simp at hgiven
  | interrupted hs he later ih =>
    cases before with
    | nil => rwa [append_arrived_nil]
    | cons y before =>
      obtain ⟨rfl, hrest⟩ := List.cons.inj hgiven
      exact ih before hrest
  | piece hs later ih =>
    cases before with
    | nil => rwa [append_arrived_nil]
    | cons y before =>
      obtain ⟨rfl, hrest⟩ := List.cons.inj hgiven
      rw [arrived_ok_cons, ← List.append_assoc]
      exact ih before hrest

theorem ends (h : Fetch limit buffer given result rest) :
    FetchEnd limit buffer given result rest := by
  induction h with
  | frame hs => exact .frame (by rwa [append_arrived_nil])
  | fault hs => exact .fault (append_arrived_nil _).symm hs
  | failed hs he => exact .failed [] he (append_arrived_nil _).symm
  | ended hs => exact .closed [] (append_arrived_nil _).symm
  | @interrupted buffer _ e _ _ hs he later ih =>
    have hnothing : buffer ++ arrived [.error e] = buffer := List.append_nil _
    exact .later (by rwa [hnothing])
  | @piece buffer _ piece _ _ hs later ih =>
    have hpiece : buffer ++ arrived [.ok piece] = buffer ++ piece :=
      congrArg (buffer ++ ·) (List.append_nil _)
    exact .later (by rwa [hpiece])

end Fetch

namespace FrameReader

def Fetched (r : FrameReader) (w : LoggedSource ω)
    (out : Except StreamError RawFrame × FrameReader × LoggedSource ω) : Prop :=
  ∃ given, out.2.2.given = w.given ++ given ∧ out.2.1.limit = r.limit ∧
    Fetch r.limit r.buffer given out.1 out.2.1.buffer

theorem Fetched.later {r r' : FrameReader} {w w' : LoggedSource ω}
    {out : Except StreamError RawFrame × FrameReader × LoggedSource ω}
    {result : Except IoError Bytes} (h : Fetched r' w' out)
    (hread : ByteSource.read readSize w = (result, w')) (hlimit : r'.limit = r.limit)
    (hstep : ∀ {given}, Fetch r.limit r'.buffer given out.1 out.2.1.buffer →
      Fetch r.limit r.buffer (result :: given) out.1 out.2.1.buffer) : Fetched r w out := by
  obtain ⟨given, hgiven, hkept, hfetch⟩ := h
  refine ⟨result :: given, ?_, hkept.trans hlimit, hstep (hlimit ▸ hfetch)⟩
  rw [hgiven, LoggedSource.given_read hread, List.append_assoc]
  rfl

theorem fetched (r : FrameReader) (w : LoggedSource ω) : Fetched r w (r.readFrame w) := by
  fun_induction readFrame r w with
  | case1 r w e hs => exact ⟨[], (List.append_nil _).symm, rfl, .fault hs⟩
  | case2 r w f rest hs => exact ⟨[], (List.append_nil _).symm, rfl, .frame hs⟩
  | case3 r w hs e w' hread hi hlt ih => exact ih.later hread rfl (.interrupted hs hi)
  | case4 r w hs e w' hread hi =>
    exact ⟨[.error e], LoggedSource.given_read hread, rfl, .failed hs hi⟩
  | case5 r w hs w' hread => exact ⟨[.ok []], LoggedSource.given_read hread, rfl, .ended hs⟩
  | case6 r w hs b piece w' hread hlt ih => exact ih.later hread rfl (.piece hs)

end FrameReader

end ModuleProxy
