import ModuleProxy.Proofs.Foreign.Outcome

namespace ModuleProxy.Foreign

def AreBytes (data : Option Bytes) (size : Nat) (raw : Bytes) : Prop :=
  size = 0 ∧ raw = [] ∨ ∃ given, data = some given ∧ raw = given.take size

def AreTexts (items : Option (List (Option Bytes))) (count : Nat) (names : List String) : Prop :=
  count = 0 ∧ names = [] ∨
    ∃ given, items = some given ∧ given.take count = names.map fun t => some (Text.Utf8.encode t)

def isMissing {α : Type} (p : Option α) (count : Nat) : Bool :=
  count != 0 && p.isNone

theorem isMissing_none {α : Type} {count : Nat} (h : count ≠ 0) :
    isMissing (none : Option α) count = true := by
  simp [isMissing, h]

theorem bytes_eq_ok_iff {name : String} {data : Option Bytes} {size : Nat} {raw : Bytes} :
    bytes name data size = .ok raw ↔ AreBytes data size raw := by
  unfold bytes AreBytes
  by_cases hsize : size = 0
  · simp [hsize, eq_comm]
  · cases data with
    | none => simp [hsize]
    | some given => simp [hsize, eq_comm]

theorem bytes_eq_error {name : String} {data : Option Bytes} {size : Nat} {f : Fault}
    (h : bytes name data size = .error f) : size ≠ 0 ∧ data = none ∧ f = .null name := by
  unfold bytes at h
  by_cases hsize : size = 0
  · simp [hsize] at h
  · cases data with
    | none =>
      rw [if_neg hsize] at h
      cases h
      exact ⟨hsize, rfl, rfl⟩
    | some given => simp [hsize] at h

theorem AreBytes.isMissing_eq_false {data : Option Bytes} {size : Nat} {raw : Bytes}
    (h : AreBytes data size raw) : isMissing data size = false := by
  obtain ⟨rfl, _⟩ | ⟨given, rfl, _⟩ := h
  · rfl
  · simp [isMissing]

theorem text_eq_ok_iff {name : String} {given : Option Bytes} {t : String} :
    text name given = .ok t ↔ given = some (Text.Utf8.encode t) := by
  cases given with
  | none => simp [text]
  | some raw =>
    simp only [text, Option.some.injEq]
    rw [← Text.Utf8.decode?_eq_some_iff]
    cases Text.Utf8.decode? raw <;> simp

theorem text_eq_error {name : String} {given : Option Bytes} {f : Fault}
    (h : text name given = .error f) :
    given = none ∧ f = .null name ∨ ∃ raw, given = some raw ∧ (∀ t, raw ≠ Text.Utf8.encode t) ∧
      f = .invalid (name ++ " must be valid UTF-8") := by
  cases given with
  | none =>
    cases h
    exact .inl ⟨rfl, rfl⟩
  | some raw =>
    have hno : ∀ t, raw ≠ Text.Utf8.encode t := by
      rintro t rfl
      rw [text_eq_ok_iff.mpr rfl] at h
      cases h
    cases hraw : Text.Utf8.decode? raw with
    | none =>
      simp only [text, hraw] at h
      cases h
      exact .inr ⟨raw, rfl, hno, rfl⟩
    | some t => exact absurd (Text.Utf8.decode?_eq_some_iff.mp hraw) (hno t)

theorem mapM_text_eq_ok_iff {name : String} {items : List (Option Bytes)} {names : List String} :
    items.mapM (text name) = .ok names ↔
      items = names.map fun t => some (Text.Utf8.encode t) := by
  induction items generalizing names with
  | nil => cases names <;> simp
  | cons given items ih =>
    cases names <;> simp [List.mapM_cons, text_eq_ok_iff, ih]

theorem mapM_text_eq_error {name : String} {items : List (Option Bytes)} {f : Fault}
    (h : items.mapM (text name) = .error f) : ∃ given ∈ items, text name given = .error f := by
  induction items with
  | nil => cases h
  | cons given items ih =>
    rw [List.mapM_cons] at h
    cases hgiven : text name given with
    | error g =>
      rw [hgiven] at h
      cases h
      exact ⟨given, List.mem_cons_self, hgiven⟩
    | ok t =>
      rw [hgiven, ok_bind_eq] at h
      cases hitems : items.mapM (text name) with
      | error g =>
        rw [hitems] at h
        cases h
        obtain ⟨item, hmem, hitem⟩ := ih hitems
        exact ⟨item, List.mem_cons_of_mem _ hmem, hitem⟩
      | ok ts =>
        rw [hitems] at h
        cases h

theorem texts_eq_ok_iff {name : String} {items : Option (List (Option Bytes))} {count : Nat}
    {names : List String} : texts name items count = .ok names ↔ AreTexts items count names := by
  unfold texts AreTexts
  by_cases hcount : count = 0
  · cases names <;> simp [hcount]
  · cases items with
    | none => simp [hcount]
    | some given => simp [hcount, mapM_text_eq_ok_iff]

theorem texts_eq_error {name : String} {items : Option (List (Option Bytes))} {count : Nat}
    {f : Fault} (h : texts name items count = .error f) :
    count ≠ 0 ∧ items = none ∧ f = .null name ∨
      ∃ given ∈ (items.getD []).take count, text name given = .error f := by
  unfold texts at h
  by_cases hcount : count = 0
  · simp [hcount] at h
  · cases items with
    | none =>
      rw [if_neg hcount] at h
      cases h
      exact .inl ⟨hcount, rfl, rfl⟩
    | some given =>
      rw [if_neg hcount] at h
      exact .inr (mapM_text_eq_error h)

theorem AreTexts.isMissing_eq_false {items : Option (List (Option Bytes))} {count : Nat}
    {names : List String} (h : AreTexts items count names) :
    isMissing items count = false := by
  obtain ⟨rfl, _⟩ | ⟨given, rfl, _⟩ := h
  · rfl
  · simp [isMissing]

theorem AreTexts.exists_text {items : Option (List (Option Bytes))} {count : Nat}
    {names : List String} (h : AreTexts items count names) :
    ∀ given ∈ (items.getD []).take count, ∃ t, given = some (Text.Utf8.encode t) := by
  intro given hmem
  obtain ⟨rfl, _⟩ | ⟨all, rfl, htexts⟩ := h
  · simp at hmem
  · rw [Option.getD_some, htexts] at hmem
    obtain ⟨t, _, rfl⟩ := List.mem_map.mp hmem
    exact ⟨t, rfl⟩

theorem pointer_eq_error {α : Type} {name : String} {p : Option α} {f : Fault}
    (h : pointer name p = .error f) : p = none ∧ f = .null name := by
  cases p with
  | none =>
    cases h
    exact ⟨rfl, rfl⟩
  | some a => cases h

theorem ofFormat_eq_ok_iff {α : Type} {x : Except FormatError α} {a : α} :
    ofFormat x = .ok a ↔ x = .ok a := by
  cases x <;> simp [ofFormat]

theorem ofFormat_eq_error {α : Type} {x : Except FormatError α} {f : Fault}
    (h : ofFormat x = .error f) : ∃ e, x = .error e ∧ f = .format e := by
  cases x with
  | error e =>
    cases h
    exact ⟨e, rfl, rfl⟩
  | ok a => cases h

end ModuleProxy.Foreign
