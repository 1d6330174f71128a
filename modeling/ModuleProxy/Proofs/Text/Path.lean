import ModuleProxy.Text.Path

namespace ModuleProxy

namespace Text.Path

theorem pieces_ne_nil (separator : Char) (chars : List Char) : pieces separator chars ≠ [] := by
  cases chars with
  | nil => simp [pieces]
  | cons c rest =>
    unfold pieces
    split
    · simp
    · split <;> simp

theorem pieces_cons_of_ne {separator c : Char} (hne : c ≠ separator) (rest : List Char) :
    ∃ first others, pieces separator rest = first :: others ∧
      pieces separator (c :: rest) = (c :: first) :: others := by
  obtain ⟨first, others, hpieces⟩ := List.exists_cons_of_ne_nil (pieces_ne_nil separator rest)
  exact ⟨first, others, hpieces, by rw [pieces, if_neg hne, hpieces]⟩

theorem eq_of_pieces {separator : Char} {chars piece : List Char}
    (h : pieces separator chars = [piece]) : chars = piece := by
  induction chars generalizing piece with
  | nil => simpa [pieces] using h
  | cons c rest ih =>
    by_cases hc : c = separator
    · rw [pieces, if_pos hc, List.cons.injEq] at h
      exact absurd h.2 (pieces_ne_nil separator rest)
    · obtain ⟨first, others, hpieces, hcons⟩ := pieces_cons_of_ne hc rest
      rw [hcons, List.cons.injEq] at h
      obtain ⟨rfl, rfl⟩ := h
      rw [ih hpieces]

theorem head?_of_pieces {separator : Char} {chars : List Char} {others : List (List Char)}
    (h : pieces separator chars = [] :: others) (hmore : others ≠ []) :
    chars.head? = some separator := by
  cases chars with
  | nil =>
    rw [pieces, List.cons.injEq] at h
    exact absurd h.2.symm hmore
  | cons c rest =>
    by_cases hc : c = separator
    · rw [List.head?_cons, hc]
    · obtain ⟨first, others', -, hcons⟩ := pieces_cons_of_ne hc rest
      rw [hcons] at h
      cases h

def isName (part : String) : Bool :=
  part != "" && part != "."

theorem filter_of_components {path : String} (h : components path = ["-"]) :
    isAbsolute path = false ∧ ((pieces '/' path.toList).map String.ofList).head? ≠ some "." ∧
      ((pieces '/' path.toList).map String.ofList).filter isName = ["-"] := by
  change (if _ then _ else if _ then _ else List.filter isName _) = _ at h
  split at h
  · rw [List.cons.injEq] at h
    exact absurd h.1 (by decide)
  · rename_i hrelative
    split at h
    · rw [List.cons.injEq] at h
      exact absurd h.1 (by decide)
    · rename_i hhead
      exact ⟨by simpa using hrelative, by simpa using hhead, h⟩

theorem endsInDirectory_of_getLast {path : String} {last : List Char}
    (hlast : (pieces '/' path.toList).getLast? = some last)
    (hname : isName (String.ofList last) = false) : endsInDirectory path = true := by
  have hlast' : last = [] ∨ last = ['.'] := by
    simp only [isName, Bool.and_eq_false_iff, bne_eq_false_iff_eq] at hname
    exact hname.imp (fun h => String.ofList_injective h) fun h => String.ofList_injective h
  rw [endsInDirectory, hlast]
  obtain rfl | rfl := hlast' <;> rfl

theorem endsInDirectory_of_same_dash {path : String} (hsame : same path "-" = true)
    (hne : path ≠ "-") : endsInDirectory path = true := by
  have hcomponents : components path = ["-"] := by
    have hdash : components "-" = ["-"] := by decide
    simpa [same, hdash] using hsame
  obtain ⟨hrelative, hhead, hnames⟩ := filter_of_components hcomponents
  obtain ⟨first, others, hpieces⟩ := List.exists_cons_of_ne_nil (pieces_ne_nil '/' path.toList)
  rw [hpieces] at hhead hnames
  cases others with
  | nil =>
    have hmem : "-" ∈ [String.ofList first] :=
      (List.mem_filter.mp (hnames ▸ List.mem_singleton_self "-")).1
    rw [← eq_of_pieces hpieces, String.ofList_toList, List.mem_singleton] at hmem
    exact absurd hmem.symm hne
  | cons second others =>
    have hfirst : isName (String.ofList first) = true := by
      have hsome : String.ofList first ≠ "" := by
        intro hempty
        rw [show first = [] from String.ofList_injective hempty] at hpieces
        rw [isAbsolute, head?_of_pieces hpieces (by simp)] at hrelative
        cases hrelative
      have hdot : String.ofList first ≠ "." := by simpa using hhead
      simp [isName, hsome, hdot]
    rw [List.map_cons, List.filter_cons_of_pos hfirst, List.cons.injEq] at hnames
    have hrest := List.filter_eq_nil_iff.mp hnames.2
    obtain ⟨last, hlast⟩ : ∃ last, (second :: others).getLast? = some last :=
      ⟨_, List.getLast?_cons⟩
    have hlast' : (pieces '/' path.toList).getLast? = some last := by
      rw [hpieces, List.getLast?_cons_cons, hlast]
    apply endsInDirectory_of_getLast hlast'
    have hmem := List.mem_of_getLast? hlast
    simpa using hrest (String.ofList last) (List.mem_map_of_mem hmem)

end Text.Path

end ModuleProxy
