import ModuleProxy.Address
import ModuleProxy.Proofs.Control.Readers

namespace ModuleProxy

namespace ChannelAddress

theorem after?_eq_some_iff {front text rest : List Char} :
    after? front text = some rest ↔ text = front ++ rest := by
  fun_induction after? front text with
  | case1 text => simp [eq_comm]
  | case2 a front text ih => simp [ih]
  | case3 a front b text hne => simp [Ne.symm hne]
  | case4 a front => simp

theorem hasScheme_iff {text : List Char} : hasScheme text = true ↔ "://".toList <:+: text := by
  fun_induction hasScheme text with
  | case1 => simp
  | case2 c rest ih =>
    have hfront : (after? "://".toList (c :: rest)).isSome = true ↔ "://".toList <+: c :: rest := by
      rw [Option.isSome_iff_exists, List.prefix_iff_exists_eq_append]
      simp only [after?_eq_some_iff]
    rw [Bool.or_eq_true, hfront, ih, List.infix_cons_iff]

theorem infix_scheme_append (path : String) : "://".toList <:+: (ipcScheme ++ path).toList := by
  rw [String.toList_append]
  exact ⟨"ipc".toList, path.toList, rfl⟩

theorem pathOf?_eq_some_iff {id path : String} :
    pathOf? id = some path ↔
      id = ipcScheme ++ path ∨ id = path ∧ ¬"://".toList <:+: path.toList := by
  unfold pathOf?
  cases hafter : after? ipcScheme.toList id.toList with
  | some rest =>
    obtain rfl : id = ipcScheme ++ String.ofList rest := by
      rw [← String.toList_inj, String.toList_append, String.toList_ofList]
      exact after?_eq_some_iff.mp hafter
    constructor
    · intro h
      exact .inl (congrArg (ipcScheme ++ ·) (Option.some.inj h))
    · rintro (h | ⟨rfl, hno⟩)
      · rw [String.append_right_inj] at h
        exact congrArg some h
      · exact absurd (infix_scheme_append _) hno
  | none =>
    have hbare : id ≠ ipcScheme ++ path := by
      rintro rfl
      rw [after?_eq_some_iff.mpr (String.toList_append ..)] at hafter
      cases hafter
    by_cases hscheme : hasScheme id.toList = true
    · rw [if_pos hscheme]
      refine iff_of_false nofun ?_
      rintro (h | ⟨rfl, hno⟩)
      · exact hbare h
      · exact hno (hasScheme_iff.mp hscheme)
    · rw [if_neg hscheme, Option.some.injEq, or_iff_right hbare, ← hasScheme_iff]
      constructor
      · rintro rfl
        exact ⟨rfl, hscheme⟩
      · exact And.left

theorem parse_eq_ok_iff {id : String} {a : ChannelAddress} :
    parse id = .ok a ↔ pathOf? id = some a.path ∧ a.path ≠ "" ∧ '\x00' ∉ a.path.toList := by
  unfold parse
  cases hpath : pathOf? id with
  | none => simp
  | some path =>
    dsimp only
    split
    · rename_i hempty
      refine iff_of_false nofun ?_
      rintro ⟨hsome, hne, -⟩
      cases hsome
      exact hne (String.isEmpty_iff.mp hempty)
    · rename_i hempty
      split
      · rename_i hnul
        refine iff_of_false nofun ?_
        rintro ⟨hsome, -, hfree⟩
        cases hsome
        exact hfree (List.contains_iff_mem.mp hnul)
      · rename_i hnul
        constructor
        · intro h
          cases h
          refine ⟨rfl, fun heq => hempty (String.isEmpty_iff.mpr heq), fun hmem => hnul ?_⟩
          exact List.contains_iff_mem.mpr hmem
        · rintro ⟨hsome, -⟩
          cases hsome
          rfl

theorem parse_scheme_eq_ok_iff {path : String} {a : ChannelAddress} :
    parse (ipcScheme ++ path) = .ok a ↔ a = ⟨path⟩ ∧ path ≠ "" ∧ '\x00' ∉ path.toList := by
  have hpath : pathOf? (ipcScheme ++ path) = some path := pathOf?_eq_some_iff.mpr (.inl rfl)
  obtain ⟨found⟩ := a
  rw [parse_eq_ok_iff, hpath, Option.some.injEq, ChannelAddress.mk.injEq]
  constructor
  · rintro ⟨rfl, hpath⟩
    exact ⟨rfl, hpath⟩
  · rintro ⟨rfl, hpath⟩
    exact ⟨rfl, hpath⟩

end ChannelAddress

namespace ChannelUri

/-- The URIs that are made of texts or read from frames, by themselves or within a request. -/
inductive Accepted : ChannelUri → Prop where
  | typed {socketType : UInt8} {text : String} {uri : ChannelUri}
    (h : ofTyped socketType text = .ok uri) : Accepted uri
  | record {bytes : Bytes} {offset used : Nat} {uri : ChannelUri}
    (h : decodeAt bytes offset = .ok (uri, used)) : Accepted uri
  | request {bytes : Bytes} {f : CreateFrame} (h : CreateFrame.decode bytes = .ok f) :
    Accepted f.body.uri
  | message {bytes : Bytes} {m : ControlMessage} {request : Create}
    (h : ControlMessage.decode bytes = .ok m) (hbody : m.body = .create request) :
    Accepted request.uri

theorem Accepted.isTyped {uri : ChannelUri} (h : uri.Accepted) : uri.IsTyped := by
  cases h with
  | typed h => exact isTyped_of_ofTyped h
  | record h => exact (standsAt_of_decodeAt h).1.typed
  | request h =>
    obtain ⟨pad, hspells⟩ := CreateFrame.decode_eq_ok_iff.mp h
    exact hspells.typed
  | message h hbody =>
    obtain ⟨code, body, pad, hspells⟩ := ControlMessage.spells_of_decode h
    exact (ControlBody.spelling_iff.mp hspells.spelling).1 _ hbody

theorem IsTyped.exists_path {uri : ChannelUri} (h : uri.IsTyped) :
    ∃ path, uri.text = ipcScheme ++ path ∧ '\x00' ∉ path.toList := by
  obtain ⟨⟨rest, hrest⟩, hfree⟩ := isTyped_iff.mp h
  refine ⟨String.ofList rest, ?_, ?_⟩
  · rw [← String.toList_inj, String.toList_append, String.toList_ofList, hrest]
  · rw [← hrest] at hfree
    rw [String.toList_ofList]
    exact fun hmem => hfree (List.mem_append_right _ hmem)

end ChannelUri

namespace ChannelAddress

theorem parse_error_iff_of_isTyped {uri : ChannelUri} (h : uri.IsTyped) :
    (∃ e, parse uri.text = .error e) ↔ uri.text = ipcScheme := by
  obtain ⟨path, htext, hfree⟩ := h.exists_path
  rw [htext, String.append_eq_left_iff]
  constructor
  · rintro ⟨e, herror⟩
    by_contra hne
    rw [parse_scheme_eq_ok_iff.mpr ⟨rfl, hne, hfree⟩] at herror
    cases herror
  · rintro rfl
    exact ⟨_, rfl⟩

/-- A text names a channel where it has a path, without NUL, behind the scheme or without any
scheme. The URI of an address is read as that address, whatever its path, and so is a path that
names no scheme. Of the URIs in create requests only the bare scheme names no channel. -/
theorem addresses_agree :
    (∀ id a, parse id = .ok a ↔
      ∃ path, (id = ipcScheme ++ path ∨ id = path ∧ ¬"://".toList <:+: path.toList) ∧
        path ≠ "" ∧ '\x00' ∉ path.toList ∧ a.path = path) ∧
    (∀ id a, parse id = .ok a → parse a.uri = .ok a) ∧
    (∀ path, path ≠ "" → '\x00' ∉ path.toList → ¬"://".toList <:+: path.toList →
      ∃ a, parse path = .ok a ∧ parse (ipcScheme ++ path) = .ok a) ∧
    (∀ uri : ChannelUri, uri.Accepted →
      ((∃ e, parse uri.text = .error e) ↔ uri.text = ipcScheme)) := by
  refine ⟨fun id a => ?_, fun id a h => ?_, fun path hne hfree hbare => ?_, fun uri h => ?_⟩
  · rw [parse_eq_ok_iff, pathOf?_eq_some_iff]
    constructor
    · rintro ⟨hpath, hne, hfree⟩
      exact ⟨a.path, hpath, hne, hfree, rfl⟩
    · rintro ⟨path, hpath, hne, hfree, rfl⟩
      exact ⟨hpath, hne, hfree⟩
  · obtain ⟨-, hne, hfree⟩ := parse_eq_ok_iff.mp h
    exact parse_scheme_eq_ok_iff.mpr ⟨rfl, hne, hfree⟩
  · have hpath : pathOf? path = some path := pathOf?_eq_some_iff.mpr (.inr ⟨rfl, hbare⟩)
    exact ⟨⟨path⟩, parse_eq_ok_iff.mpr ⟨hpath, hne, hfree⟩,
      parse_scheme_eq_ok_iff.mpr ⟨rfl, hne, hfree⟩⟩
  · exact parse_error_iff_of_isTyped h.isTyped

example : (parse "ipc://ipc://a").toOption.map uri = some "ipc://ipc://a" := by
  decide

end ChannelAddress

end ModuleProxy
