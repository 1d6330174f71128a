import ModuleProxy.Frame.Reader
import ModuleProxy.Proofs.Frame.Pieces

namespace ModuleProxy

def Yields {ω : Type} [ByteSource ω] : List (Except IoError Bytes) → ω → Prop
  | [], w => (ByteSource.read FrameReader.readSize w).1 = .ok []
  | result :: results, w =>
    (ByteSource.read FrameReader.readSize w).1 = result ∧
      Yields results (ByteSource.read FrameReader.readSize w).2

def arrived (results : List (Except IoError Bytes)) : Bytes :=
  (results.filterMap Except.toOption).flatten

theorem arrived_ok_cons (piece : Bytes) (results : List (Except IoError Bytes)) :
    arrived (.ok piece :: results) = piece ++ arrived results := rfl

theorem splitFrame_of_stream {buffer more rest : Bytes} {limit : Nat} {f : RawFrame}
    (hframe : splitFrame f.bytes limit = .ok (some (f, [])))
    (hstream : buffer ++ more = f.bytes ++ rest) :
    splitFrame buffer limit = .ok none ∨
      ∃ left, splitFrame buffer limit = .ok (some (f, left)) ∧ left ++ more = rest := by
  have hwhole := splitFrame_append_of_some hframe rest
  rw [← hstream, List.nil_append] at hwhole
  cases hs : splitFrame buffer limit with
  | error e => cases (splitFrame_append_of_error hs more).symm.trans hwhole
  | ok found =>
    cases found with
    | none => exact .inl rfl
    | some taking =>
      cases (splitFrame_append_of_some hs more).symm.trans hwhole
      exact .inr ⟨taking.2, rfl, rfl⟩

namespace FrameReader

variable {ω : Type} [ByteSource ω] {r : FrameReader} {w w' : ω}

theorem readFrame_of_some {f : RawFrame} {rest : Bytes}
    (h : splitFrame r.buffer r.limit = .ok (some (f, rest))) (w : ω) :
    r.readFrame w = (.ok f, { r with buffer := rest }, w) := by
  rw [readFrame]
  split <;> rename_i hs <;> cases h.symm.trans hs
  rfl

theorem readFrame_of_fault {e : FormatError} (h : splitFrame r.buffer r.limit = .error e) (w : ω) :
    r.readFrame w = (.error (.format e), r, w) := by
  rw [readFrame]
  split <;> rename_i hs <;> cases h.symm.trans hs
  rfl

theorem readFrame_of_error {e : IoError} (h : splitFrame r.buffer r.limit = .ok none)
    (hread : ByteSource.read readSize w = (.error e, w')) :
    r.readFrame w =
      if e.kind = .interrupted then r.readFrame w' else (.error (.io e), r, w') := by
  rw [readFrame]
  split <;> rename_i hs <;> cases h.symm.trans hs
  split <;> rename_i hr <;> cases hread.symm.trans hr
  split <;> rfl

theorem readFrame_of_end (h : splitFrame r.buffer r.limit = .ok none)
    (hread : ByteSource.read readSize w = (.ok [], w')) :
    r.readFrame w = (.error .closed, r, w') := by
  rw [readFrame]
  split <;> rename_i hs <;> cases h.symm.trans hs
  split <;> rename_i hr <;> cases hread.symm.trans hr
  rfl

theorem readFrame_of_piece {piece : Bytes} (h : splitFrame r.buffer r.limit = .ok none)
    (hpiece : piece ≠ []) (hread : ByteSource.read readSize w = (.ok piece, w')) :
    r.readFrame w = { r with buffer := r.buffer ++ piece }.readFrame w' := by
  rw [readFrame]
  split <;> rename_i hs <;> cases h.symm.trans hs
  split <;> rename_i hr <;> cases hread.symm.trans hr
  · exact absurd rfl hpiece
  · rfl

/-- The frame `f` is read with `rest` still to come, or a read has failed and the frame is still to
come; either way no result is used twice. -/
def GivesNext (r : FrameReader) (w : ω) (results : List (Except IoError Bytes)) (f : RawFrame)
    (rest : Bytes) : Prop :=
  ∃ left buffer w', left <:+ results ∧ Yields left w' ∧
    (r.readFrame w = (.ok f, { r with buffer }, w') ∧ buffer ++ arrived left = rest ∨
      ∃ e, left.length < results.length ∧ r.readFrame w = (.error (.io e), { r with buffer }, w') ∧
        buffer ++ arrived left = f.bytes ++ rest)

theorem GivesNext.later {results : List (Except IoError Bytes)} {f : RawFrame} {rest buffer : Bytes}
    (h : GivesNext { r with buffer } w' results f rest)
    (heq : r.readFrame w = { r with buffer }.readFrame w') (result : Except IoError Bytes) :
    GivesNext r w (result :: results) f rest := by
  obtain ⟨left, buffer', w'', hsuffix, hleft, hcases⟩ := h
  refine ⟨left, buffer', w'', hsuffix.trans (List.suffix_cons ..), hleft, ?_⟩
  rw [heq]
  obtain hgiven | ⟨e, hlength, hfailed⟩ := hcases
  · exact .inl hgiven
  · exact .inr ⟨e, Nat.lt_succ_of_lt hlength, hfailed⟩

theorem givesNext_of_pending {results : List (Except IoError Bytes)} {f : RawFrame} {rest : Bytes}
    (hframe : splitFrame f.bytes r.limit = .ok (some (f, [])))
    (hpieces : ∀ piece, .ok piece ∈ results → piece ≠ []) (hyields : Yields results w)
    (hstream : r.buffer ++ arrived results = f.bytes ++ rest) : GivesNext r w results f rest := by
  induction results generalizing r w with
  | nil =>
    obtain hnone | ⟨left, hsome, hleft⟩ := splitFrame_of_stream hframe hstream
    · -- the whole frame is in the buffer, for nothing more comes
      rw [arrived, List.filterMap_nil, List.flatten_nil, List.append_nil] at hstream
      rw [hstream, splitFrame_append_of_some hframe rest] at hnone
      cases hnone
    · exact ⟨[], left, w, List.suffix_rfl, hyields, .inl ⟨readFrame_of_some hsome w, hleft⟩⟩
  | cons result results ih =>
    obtain hnone | ⟨left, hsome, hleft⟩ := splitFrame_of_stream hframe hstream
    · obtain ⟨rfl, hyields⟩ := hyields
      have hpieces' : ∀ piece, .ok piece ∈ results → piece ≠ [] :=
        fun piece hmem => hpieces piece (List.mem_cons_of_mem _ hmem)
      rcases hread : ByteSource.read readSize w with ⟨e | piece, w'⟩ <;>
        rw [hread] at hyields hpieces hstream
      · have herror := readFrame_of_error hnone hread
        split at herror
        · exact (ih hframe hpieces' hyields hstream).later herror _
        · exact ⟨results, r.buffer, w', List.suffix_cons .., hyields,
            .inr ⟨e, Nat.lt_succ_self _, herror, hstream⟩⟩
      · have hpiece := readFrame_of_piece hnone (hpieces piece List.mem_cons_self) hread
        rw [arrived_ok_cons, ← List.append_assoc] at hstream
        exact (ih (r := { r with buffer := r.buffer ++ piece }) hframe hpieces' hyields
          hstream).later hpiece _
    · exact ⟨result :: results, left, w, List.suffix_rfl, hyields,
        .inl ⟨readFrame_of_some hsome w, hleft⟩⟩

theorem readFrame_of_nothing {results : List (Except IoError Bytes)} (hbuffer : r.buffer = [])
    (hpieces : ∀ piece, .ok piece ∈ results → piece ≠ []) (hyields : Yields results w)
    (hnothing : arrived results = []) :
    (r.readFrame w).1 = .error .closed ∨
      ∃ e left w', left.length < results.length ∧ left <:+ results ∧ Yields left w' ∧
        arrived left = [] ∧ r.readFrame w = (.error (.io e), r, w') := by
  have hnone : splitFrame r.buffer r.limit = .ok none := by
    rw [hbuffer]
    rfl
  induction results generalizing w with
  | nil =>
    have hread : ByteSource.read readSize w = (.ok [], (ByteSource.read readSize w).2) :=
      Prod.ext hyields rfl
    exact .inl (by rw [readFrame_of_end hnone hread])
  | cons result results ih =>
    obtain ⟨rfl, hyields⟩ := hyields
    rcases hread : ByteSource.read readSize w with ⟨e | piece, w'⟩ <;>
      rw [hread] at hyields hpieces hnothing
    · have herror := readFrame_of_error hnone hread
      split at herror
      · obtain hclosed | ⟨e', left, w'', hlength, hsuffix, hleft, hnothing, hfailed⟩ :=
          ih (fun piece hmem => hpieces piece (List.mem_cons_of_mem _ hmem)) hyields hnothing
        · exact .inl (by rw [herror, hclosed])
        · exact .inr ⟨e', left, w'', Nat.lt_succ_of_lt hlength,
            hsuffix.trans (List.suffix_cons ..), hleft, hnothing, herror.trans hfailed⟩
      · exact .inr ⟨e, results, w', Nat.lt_succ_self _, List.suffix_cons .., hyields, hnothing,
          herror⟩
    · rw [arrived_ok_cons, List.append_eq_nil_iff] at hnothing
      exact absurd hnothing.1 (hpieces piece List.mem_cons_self)

theorem readFrame_map {σ : Type} [ByteSource σ] {φ : ω → σ}
    (hread : ∀ n w, ByteSource.read n (φ w) = (ByteSource.read n w).map id φ)
    (r : FrameReader) (w : ω) :
    r.readFrame (φ w) = (r.readFrame w).map id (Prod.map id φ) := by
  have hshown : ∀ {n w w' result}, ByteSource.read n w = (result, w') →
      ByteSource.read n (φ w) = (result, φ w') := fun h => by rw [hread, h, Prod.map, id]
  fun_induction readFrame r w with
  | case1 r w e hs => exact readFrame_of_fault hs (φ w)
  | case2 r w f rest hs => exact readFrame_of_some hs (φ w)
  | case3 r w hs e w' h hi hlt ih =>
    rw [readFrame_of_error hs (hshown h), if_pos hi]
    exact ih
  | case4 r w hs e w' h hi =>
    rw [readFrame_of_error hs (hshown h), if_neg hi]
    rfl
  | case5 r w hs w' h => exact readFrame_of_end hs (hshown h)
  | case6 r w hs b piece w' h hlt ih =>
    rw [readFrame_of_piece hs (List.cons_ne_nil b piece) (hshown h)]
    exact ih

end FrameReader

end ModuleProxy
