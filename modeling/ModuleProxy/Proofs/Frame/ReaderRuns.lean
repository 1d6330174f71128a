import ModuleProxy.Frame.Script
import ModuleProxy.Proofs.Frame.Faults

namespace ModuleProxy

variable {ω : Type} [ByteSource ω]

structure ReaderRun (ω : Type) where
  reader : FrameReader
  source : LoggedSource ω
  taken : List RawFrame := []

namespace ReaderRun

def call (s : ReaderRun ω) (c : ReadCall) : Except StreamError Unpacked × ReaderRun ω :=
  let (result, reader, source) := c.on s.reader s.source
  (result, { reader, source, taken := s.taken ++ (s.reader.readFrame s.source).1.toOption.toList })

def callAll (s : ReaderRun ω) (calls : List ReadCall) : ReaderRun ω :=
  calls.foldl (fun s c => (s.call c).2) s

def start (limit : Nat) (source : ω) : ReaderRun ω := ⟨{ limit }, ⟨source, []⟩, []⟩

structure Conserved (limit : Nat) (s : ReaderRun ω) : Prop where
  limit_eq : s.reader.limit = limit
  stream_eq : s.taken.flatMap RawFrame.bytes ++ s.reader.buffer = arrived s.source.given
  drain_eq : drain (arrived s.source.given) limit =
    { drain s.reader.buffer limit with frames := s.taken ++ (drain s.reader.buffer limit).frames }

theorem call_of_frame {s : ReaderRun ω} {f : RawFrame} {reader : FrameReader}
    {source : LoggedSource ω} (h : s.reader.readFrame s.source = (.ok f, reader, source))
    (c : ReadCall) :
    s.call c = ((c.unpack f).mapError .format, ⟨reader, source, s.taken ++ [f]⟩) := by
  rw [call, ReadCall.on_of_frame h, h]
  rfl

theorem call_of_error {s : ReaderRun ω} {e : StreamError} {reader : FrameReader}
    {source : LoggedSource ω} (h : s.reader.readFrame s.source = (.error e, reader, source))
    (c : ReadCall) : s.call c = (.error e, ⟨reader, source, s.taken⟩) := by
  rw [call, ReadCall.on_of_error h, h]
  simp [Except.toOption]

omit [ByteSource ω] in
theorem conserved_start (limit : Nat) (source : ω) : Conserved limit (start limit source) :=
  ⟨rfl, rfl, rfl⟩

omit [ByteSource ω] in
theorem Conserved.drain_append {limit : Nat} {s : ReaderRun ω} (h : Conserved limit s)
    (more : Bytes) :
    drain (arrived s.source.given ++ more) limit =
      { drain (s.reader.buffer ++ more) limit with
        frames := s.taken ++ (drain (s.reader.buffer ++ more) limit).frames } := by
  rw [ModuleProxy.drain_append, h.drain_eq, ModuleProxy.drain_append s.reader.buffer]
  simp only [Drained.feed, List.append_assoc]

theorem Conserved.call {limit : Nat} {s : ReaderRun ω} (h : Conserved limit s) (c : ReadCall) :
    Conserved limit (s.call c).2 := by
  obtain ⟨given, hgiven, hkept, hfetch⟩ := FrameReader.fetched s.reader s.source
  have hdrain := h.drain_append (arrived given)
  have hstream : s.taken.flatMap RawFrame.bytes ++ (s.reader.buffer ++ arrived given) =
      arrived (s.source.given ++ given) := by
    rw [← List.append_assoc, h.stream_eq, arrived_append]
  rw [← arrived_append] at hdrain
  rcases hread : s.reader.readFrame s.source with ⟨e | f, reader, source⟩ <;>
    rw [hread] at hgiven hkept hfetch
  · rw [call_of_error hread]
    have hrest := hfetch.ends.of_error
    refine ⟨hkept.trans h.limit_eq, ?_, ?_⟩
    · rw [hgiven, ← hstream, hrest]
    · rw [hgiven, hdrain, hrest]
  · rw [call_of_frame hread]
    have hsplit := hfetch.ends.of_ok
    rw [h.limit_eq] at hsplit
    refine ⟨hkept.trans h.limit_eq, ?_, ?_⟩
    · rw [hgiven, ← hstream, (splitFrame_eq_some hsplit).1, List.flatMap_append, List.append_assoc]
      simp
    · rw [hgiven, hdrain, drain_of_some hsplit]
      simp

theorem conserved_callAll {limit : Nat} {s : ReaderRun ω} (h : Conserved limit s)
    (calls : List ReadCall) : Conserved limit (s.callAll calls) := by
  induction calls generalizing s with
  | nil => exact h
  | cons c calls ih => exact ih (h.call c)

/-- Nothing is lost and nothing invented, whatever the source does: after any calls the frames taken
so far, those with a bad body included, and the buffer are what was read, and the frames are the
first of those that splitting it gives. The next call reads only while the buffer does not begin
with a whole frame, or with what begins none. It takes the frame in front of what has come then and
gives it, or what its body is, or what is wrong with that; or it fails, and the buffer stays what it
was when the source failed, ended or went wrong. An interruption is no failure. -/
theorem conserves (limit : Nat) (source : ω) (calls : List ReadCall) :
    let s := (start limit source).callAll calls
    s.taken.flatMap RawFrame.bytes ++ s.reader.buffer = arrived s.source.given ∧
    drain (arrived s.source.given) limit =
      { drain s.reader.buffer limit with
        frames := s.taken ++ (drain s.reader.buffer limit).frames } ∧
    ∀ c : ReadCall,
      let result := (s.call c).1
      let next := (s.call c).2
      c.on s.reader s.source.source = (result, next.reader, next.source.source) ∧
      ∃ given, next.source.given = s.source.given ++ given ∧
        (∀ before after x, given = before ++ x :: after →
          splitFrame (s.reader.buffer ++ arrived before) limit = .ok none) ∧
        ((∃ f, splitFrame (s.reader.buffer ++ arrived given) limit =
              .ok (some (f, next.reader.buffer)) ∧
            next.taken = s.taken ++ [f] ∧ result = (c.unpack f).mapError .format) ∨
          next.taken = s.taken ∧
            ((∃ before e, result = .error (.io e) ∧ e.kind ≠ .interrupted ∧
                given = before ++ [.error e] ∧
                next.reader.buffer = s.reader.buffer ++ arrived before) ∨
              (∃ before, result = .error .closed ∧ given = before ++ [.ok []] ∧
                next.reader.buffer = s.reader.buffer ++ arrived before) ∨
              ∃ e, result = .error (.format e) ∧
                next.reader.buffer = s.reader.buffer ++ arrived given ∧
                splitFrame next.reader.buffer limit = .error e)) := by
  intro s
  have hs : Conserved limit s := conserved_callAll (conserved_start limit source) calls
  refine ⟨hs.stream_eq, hs.drain_eq, fun c => ?_⟩
  obtain ⟨given, hgiven, -, hfetch⟩ := FrameReader.fetched s.reader s.source
  have hquiet := hfetch.quiet
  have hends := hfetch.ends
  rw [hs.limit_eq] at hquiet hends
  have hlogged := ReadCall.on_logged c s.reader s.source
  rcases hread : s.reader.readFrame s.source with ⟨e | f, reader, next⟩ <;>
    rw [hread] at hgiven hends
  · rw [ReadCall.on_of_error hread] at hlogged
    rw [call_of_error hread]
    refine ⟨hlogged, given, hgiven, hquiet, .inr ⟨rfl, ?_⟩⟩
    cases hends with
    | fault hrest hs => exact .inr (.inr ⟨_, rfl, hrest, hs⟩)
    | failed before he hrest => exact .inl ⟨before, _, rfl, he, rfl, hrest⟩
    | closed before hrest => exact .inr (.inl ⟨before, rfl, rfl, hrest⟩)
  · rw [ReadCall.on_of_frame hread] at hlogged
    rw [call_of_frame hread]
    exact ⟨hlogged, given, hgiven, hquiet, .inl ⟨f, hends.of_ok, rfl, rfl⟩⟩

example :
    let source : ReadScript :=
      { pieces := [.ok [0xA1, 0x6C, 1], .error ⟨.interrupted, ""⟩, .ok [3, 0, 0, 0, 8, 0xA1, 0x60],
          .error .wouldBlock, .ok []] }
    let s := (start 64 source).callAll [.message, .frame, .control]
    s.taken = [⟨.control, [0xA1, 0x6C, 1, 3, 0, 0, 0, 8]⟩] ∧ s.reader.buffer = [0xA1, 0x60] ∧
      s.source.given.length = 5 := by
  refine ⟨?_, ?_, ?_⟩ <;> cbv

end ReaderRun

end ModuleProxy
