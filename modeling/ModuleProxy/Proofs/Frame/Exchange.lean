import ModuleProxy.Proofs.Control.RoundTrip
import ModuleProxy.Proofs.Frame.Reading
import ModuleProxy.Proofs.Frame.Writing
import ModuleProxy.Proofs.Message.RoundTrip

/-!
From a writer to a reader. What one end writes of messages and control messages the other end reads,
in the same order and to the end of the stream, however the bytes are taken and handed out.
-/

namespace ModuleProxy

inductive WireItem where
  | message (m : Message)
  | control (m : ControlMessage)

namespace WireItem

def kind : WireItem → FrameKind
  | message _ => .message
  | control _ => .control

def encodedSize : WireItem → Nat
  | message m => m.encodedSize
  | control m => m.encodedSize

def frame : WireItem → Bytes
  | message m => m.frame
  | control m => m.frame

def rawFrame (item : WireItem) : RawFrame := ⟨item.kind, item.frame⟩

/-- The properties were put in one by one, the version is the current one, and the URI of a request
is one. -/
def Sound : WireItem → Prop
  | message m => m.properties.Built
  | control m => m.version = controlVersion ∧ ∀ request, m.body = .create request →
      ∃ socketType text, ChannelUri.ofTyped socketType text = .ok request.uri

def Same : WireItem → WireItem → Prop
  | message sent, message got =>
    got.content = sent.content ∧ got.properties.toList = sent.properties.toList
  | control sent, control got => got = sent
  | _, _ => False

theorem length_frame (item : WireItem) : item.frame.length = item.encodedSize := by
  cases item with
  | message m => exact m.length_frame
  | control m => exact m.length_frame

theorem minSize_le_encodedSize (item : WireItem) : item.kind.minSize ≤ item.encodedSize := by
  cases item with
  | message m => exact (Nat.le_add_right ..).trans (Nat.le_add_right ..)
  | control m => exact Nat.le_add_right ..

theorem nextFrame?_frame {item : WireItem} {limit : Nat}
    (hsize : item.encodedSize ≤ min limit maxFrameSize) :
    nextFrame? item.frame limit = .ok (some (item.kind, item.encodedSize)) := by
  have hfield : item.frame.int32At? item.kind.sizeOffset = some (item.encodedSize : Int) := by
    have hlt : item.encodedSize < 0x80000000 := by
      simp only [maxFrameSize] at hsize
      omega
    cases item with
    | message m => exact Bytes.int32At?_of_drop rfl hlt
    | control m => exact Bytes.int32At?_of_drop rfl hlt
  have hkind : FrameKind.ofBytes? item.frame = some item.kind := by
    cases item <;> rfl
  have hmin := item.minSize_le_encodedSize
  obtain ⟨first, second, rest, hframe⟩ : ∃ first second rest,
      item.frame = first :: second :: rest := by
    cases item <;> exact ⟨_, _, _, rfl⟩
  rw [hframe] at hkind hfield ⊢
  simp only [nextFrame?, hkind, hfield, Int.toNat_natCast]
  rw [if_neg (by omega), if_neg (by omega)]

theorem splitFrame_frame {item : WireItem} {limit : Nat}
    (hsize : item.encodedSize ≤ min limit maxFrameSize) :
    splitFrame item.frame limit = .ok (some (item.rawFrame, [])) := by
  unfold splitFrame
  rw [nextFrame?_frame hsize, ← length_frame]
  simp [rawFrame]

end WireItem

namespace FrameWriter

variable {ω : Type} [ByteSink ω]

def writeItem (fw : FrameWriter) : WireItem → ω → Except StreamError Unit × ω
  | .message m => fw.writeMessage m
  | .control m => fw.writeControl m

def writeItems (fw : FrameWriter) : List WireItem → ω → Except StreamError Unit × ω
  | [], w => (.ok (), w)
  | item :: items, w =>
    match fw.writeItem item w with
    | (.error e, w) => (.error e, w)
    | (.ok (), w) => fw.writeItems items w

theorem writeEncoded_frame_eq_ok_iff {fw : FrameWriter} {frame : Bytes} {e : FormatError}
    {w w' : ω} :
    fw.writeEncoded frame.length (if frame.length > maxFrameSize then .error e else .ok frame) w =
        (.ok (), w') ↔
      frame.length ≤ min fw.limit maxFrameSize ∧ writeAll frame w = (.ok (), w') := by
  rw [writeEncoded_eq_ok_iff, Nat.le_min, and_assoc]
  apply and_congr_right
  intro hlimit
  rcases Nat.lt_or_ge maxFrameSize frame.length with hlt | hle
  · simp [if_pos hlt, Nat.not_le.mpr hlt]
  · simp [if_neg (Nat.not_lt.mpr hle), writeFrame_eq_ok_iff, hle, hlimit]

theorem writeItem_eq_ok_iff {fw : FrameWriter} {item : WireItem} {w w' : ω} :
    fw.writeItem item w = (.ok (), w') ↔
      item.encodedSize ≤ min fw.limit maxFrameSize ∧ writeAll item.frame w = (.ok (), w') := by
  rw [← item.length_frame]
  cases item with
  | message m =>
    change fw.writeEncoded m.encodedSize m.encode w = _ ↔ _
    rw [Message.encode, ← m.length_frame]
    exact writeEncoded_frame_eq_ok_iff
  | control m =>
    change fw.writeEncoded m.encodedSize m.encode w = _ ↔ _
    rw [ControlMessage.encode, ← m.length_frame]
    exact writeEncoded_frame_eq_ok_iff

theorem writeItems_eq_ok [ByteLog ω] {fw : FrameWriter} {items : List WireItem} {w w' : ω}
    (h : fw.writeItems items w = (.ok (), w')) :
    (∀ item ∈ items, item.encodedSize ≤ min fw.limit maxFrameSize) ∧
      ByteLog.taken w' = ByteLog.taken w ++ items.flatMap WireItem.frame := by
  induction items generalizing w with
  | nil =>
    cases h
    exact ⟨fun item hmem => absurd hmem List.not_mem_nil, (List.append_nil _).symm⟩
  | cons item items ih =>
    rw [writeItems] at h
    split at h
    · cases h
    · rename_i w₁ hwrite
      obtain ⟨hsize, hwritten⟩ := writeItem_eq_ok_iff.mp hwrite
      obtain ⟨hsizes, htaken⟩ := ih h
      refine ⟨List.forall_mem_cons.mpr ⟨hsize, hsizes⟩, ?_⟩
      rw [htaken, taken_of_writeAll hwritten, List.append_assoc, List.flatMap_cons]

end FrameWriter

namespace FrameReader

variable {ω : Type} [ByteSource ω]

def readItem (kind : FrameKind) (r : FrameReader) (w : ω) :
    Except StreamError WireItem × FrameReader × ω :=
  match kind with
  | .message =>
    let (result, after) := r.readMessage w
    (result.map .message, after)
  | .control =>
    let (result, after) := r.readControl w
    (result.map .control, after)

/-- Reads items of the kinds that are due, with at most so many calls. A call that failed to read
the stream is made again; any other failure ends the reading and is reported. -/
def receive : Nat → List FrameKind → FrameReader → ω → List WireItem × Option StreamError
  | 0, _, _, _ | _, [], _, _ => ([], none)
  | calls + 1, kind :: due, r, w =>
    match r.readItem kind w with
    | (.ok item, r, w) =>
      let (items, error) := receive calls due r w
      (item :: items, error)
    | (.error (.io _), r, w) => receive calls (kind :: due) r w
    | (.error e, _, _) => ([], some e)

variable {r r' : FrameReader} {w w' : ω}

theorem readItem_of_error {e : StreamError} (h : r.readFrame w = (.error e, r', w'))
    (kind : FrameKind) : r.readItem kind w = (.error e, r', w') := by
  cases kind with
  | message => simp [readItem, readMessage, h, Except.map]
  | control => simp [readItem, readControl, h, Except.map]

theorem readItem_of_frame {item : WireItem} (hsound : item.Sound)
    (hsize : item.encodedSize ≤ maxFrameSize) (h : r.readFrame w = (.ok item.rawFrame, r', w')) :
    ∃ got, r.readItem item.kind w = (.ok got, r', w') ∧ item.Same got := by
  cases item with
  | message m =>
    obtain ⟨got, hdecode, hsame⟩ := Message.decode_frame hsound hsize
    have hmessage : (WireItem.message m).rawFrame.message = .ok got := hdecode
    refine ⟨.message got, ?_, hsame⟩
    simp [WireItem.kind, readItem, readMessage, h, hmessage, Except.map, Except.mapError]
  | control m =>
    have huri : ∀ request, m.body = .create request → request.uri.IsTyped := by
      intro request hbody
      obtain ⟨socketType, text, htyped⟩ := hsound.2 request hbody
      exact ChannelUri.isTyped_of_ofTyped htyped
    have hcontrol : (WireItem.control m).rawFrame.control = .ok m :=
      ControlMessage.decode_frame hsound.1 hsize huri
    refine ⟨.control m, ?_, rfl⟩
    simp [WireItem.kind, readItem, readControl, h, hcontrol, Except.map, Except.mapError]

theorem receive_of_stream {last : FrameKind} (calls : Nat) {items : List WireItem}
    {results : List (Except IoError Bytes)}
    (hsound : ∀ item ∈ items, item.Sound)
    (hsize : ∀ item ∈ items, item.encodedSize ≤ min r.limit maxFrameSize)
    (hpieces : ∀ piece, .ok piece ∈ results → piece ≠ []) (hyields : Yields results w)
    (hstream : r.buffer ++ arrived results = items.flatMap WireItem.frame)
    (hcalls : results.length + items.length < calls) :
    ∃ got, receive calls (items.map WireItem.kind ++ [last]) r w = (got, some .closed) ∧
      List.Forall₂ WireItem.Same items got := by
  induction calls generalizing items results r w with
  | zero => cases hcalls
  | succ calls ih =>
    cases items with
    | nil =>
      obtain ⟨hbuffer, hnothing⟩ := List.append_eq_nil_iff.mp hstream
      obtain hclosed | ⟨e, left, w', hlength, hsuffix, hleft, hnothing, hfailed⟩ :=
        readFrame_of_nothing hbuffer hpieces hyields hnothing
      · refine ⟨[], ?_, .nil⟩
        have hread := readItem_of_error (Prod.ext hclosed rfl : r.readFrame w = (_, _, _)) last
        simp [receive, hread]
      · have hagain : receive (calls + 1) [last] r w = receive calls [last] r w' := by
          simp [receive, readItem_of_error hfailed last]
        rw [List.map_nil, List.nil_append, hagain]
        refine ih hsound hsize (fun piece hmem => hpieces piece (hsuffix.subset hmem)) hleft ?_ ?_
        · rw [hbuffer, hnothing]
          rfl
        · simp only [List.length_nil] at hcalls ⊢
          omega
    | cons item items =>
      obtain ⟨hitem, hsound'⟩ := List.forall_mem_cons.mp hsound
      obtain ⟨hfits, hsize'⟩ := List.forall_mem_cons.mp hsize
      rw [List.flatMap_cons] at hstream
      obtain ⟨left, buffer, w', hsuffix, hleft, hcases⟩ :=
        givesNext_of_pending (f := item.rawFrame) (WireItem.splitFrame_frame hfits) hpieces hyields
          hstream
      have hpieces' : ∀ piece, .ok piece ∈ left → piece ≠ [] :=
        fun piece hmem => hpieces piece (hsuffix.subset hmem)
      have hlength := hsuffix.length_le
      simp only [List.length_cons] at hcalls
      obtain ⟨hgiven, hrest⟩ | ⟨e, hused, hfailed, hrest⟩ := hcases
      · obtain ⟨got, hread, hsame⟩ :=
          readItem_of_frame hitem (hfits.trans (Nat.min_le_right ..)) hgiven
        obtain ⟨gots, hreceive, hall⟩ :=
          ih (r := { r with buffer }) hsound' hsize' hpieces' hleft hrest (by omega)
        refine ⟨got :: gots, ?_, .cons hsame hall⟩
        simp [receive, hread, hreceive]
      · have hagain : receive (calls + 1) ((item :: items).map WireItem.kind ++ [last]) r w =
            receive calls ((item :: items).map WireItem.kind ++ [last]) { r with buffer } w' := by
          simp [receive, readItem_of_error hfailed item.kind]
        rw [hagain]
        exact ih (r := { r with buffer }) hsound hsize hpieces' hleft hrest
          (by simp only [List.length_cons]; omega)

/-- What one end writes without failure the other end receives, equal and in the same order, and
then finds the stream closed: for every way in which the bytes are taken, and every way in which
they are handed out again, failures of the reading between them included. -/
theorem receive_writeItems {σ : Type} [ByteSink σ] [ByteLog σ] (fw : FrameWriter)
    (items : List WireItem) (sink sink' : σ) (hsound : ∀ item ∈ items, item.Sound)
    (hwritten : fw.writeItems items sink = (.ok (), sink'))
    (limit : Nat) (hlimit : fw.limit ≤ limit) (source : ω) (results : List (Except IoError Bytes))
    (hpieces : ∀ piece, .ok piece ∈ results → piece ≠ []) (hyields : Yields results source)
    (htaken : ByteLog.taken sink' = ByteLog.taken sink ++ arrived results)
    (last : FrameKind) (calls : Nat) (hcalls : results.length + items.length < calls) :
    ∃ got, receive calls (items.map WireItem.kind ++ [last]) { limit } source =
        (got, some .closed) ∧
      List.Forall₂ WireItem.Same items got := by
  obtain ⟨hsizes, hstream⟩ := FrameWriter.writeItems_eq_ok hwritten
  refine receive_of_stream calls hsound ?_ hpieces hyields ?_ hcalls
  · intro item hmem
    have hfits := hsizes item hmem
    change item.encodedSize ≤ min limit maxFrameSize
    omega
  · exact List.append_cancel_left (htaken.symm.trans hstream)

theorem receive_writeItems_in_pieces :
    let items : List WireItem :=
      [.message { content := [7] },
        .control { body := .create { uri := ⟨16, "ipc://a"⟩, args := [9] } }]
    let sink : WriteScript := { writes := [.ok 3, .error ⟨.interrupted, ""⟩, .ok 4] }
    let source : ReadScript :=
      { pieces := [.ok [0xA1, 0x60, 0, 0], .error .wouldBlock,
          .ok [0, 15, 0, 0, 0, 0, 0, 0, 0, 1, 7, 0xA1, 0x6C, 1, 1, 0, 0, 0, 27, 1, 16, 0, 0],
          .error ⟨.interrupted, ""⟩,
          .ok [0, 8, 105, 112, 99, 58, 47, 47, 97, 0, 0, 0, 0, 1, 9]] }
    (FrameWriter.writeItems { limit := 27 } items sink).1 = .ok () ∧
      ∃ got, receive 8 [.message, .control, .message] { limit := 40 } source = (got, some .closed) ∧
        List.Forall₂ WireItem.Same items got := by
  intro items sink source
  have hsound : ∀ item ∈ items, item.Sound := by
    simp only [items, List.forall_mem_cons, List.not_mem_nil, false_implies, implies_true, and_true]
    refine ⟨.empty, rfl, ?_⟩
    rintro request ⟨⟩
    exact ⟨16, "ipc://a", if_pos (by decide)⟩
  let between : WriteScript :=
    { taken := Message.frame { content := [7] }, writeCalls := 4, flushCalls := 1 }
  have hfirst : FrameWriter.writeItem { limit := 27 } (.message { content := [7] }) sink =
      (.ok (), between) := by
    refine FrameWriter.writeItem_eq_ok_iff.mpr ⟨by decide, ?_⟩
    -- three bytes, an interruption, four bytes, and the rest
    apply (FrameWriter.writeAll_of_piece rfl).trans
    apply (FrameWriter.writeAll_of_error rfl).trans
    apply (FrameWriter.writeAll_of_piece rfl).trans
    apply (FrameWriter.writeAll_of_piece rfl).trans
    exact (FrameWriter.writeAll_nil _).trans (FrameWriter.flush_of_ok rfl)
  let request : ControlMessage := { body := .create { uri := ⟨16, "ipc://a"⟩, args := [9] } }
  let after : WriteScript :=
    { taken := between.taken ++ request.frame, writeCalls := 5, flushCalls := 2 }
  have hsecond : FrameWriter.writeItem { limit := 27 } (.control request) between =
      (.ok (), after) := by
    have hsize : request.encodedSize ≤ 27 := by decide
    refine FrameWriter.writeItem_eq_ok_iff.mpr ⟨hsize, ?_⟩
    apply (FrameWriter.writeAll_of_piece rfl).trans
    exact (FrameWriter.writeAll_nil _).trans (FrameWriter.flush_of_ok rfl)
  have hwritten : FrameWriter.writeItems { limit := 27 } items sink = (.ok (), after) := by
    simp only [items, FrameWriter.writeItems, hfirst]
    rw [hsecond]
  have htaken : after.taken = arrived source.pieces := by decide +kernel
  refine ⟨congrArg Prod.fst hwritten, receive_writeItems { limit := 27 } items sink after hsound
    hwritten 40 (by decide) source source.pieces ?_ ?_ htaken .message 8 (by decide)⟩
  · simp [source]
  · exact ⟨rfl, rfl, rfl, rfl, rfl, rfl⟩

end FrameReader

end ModuleProxy
