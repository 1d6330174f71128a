import ModuleProxy.Json.Parser
import ModuleProxy.Proofs.Json.Spelling

/-!
A JSON value is read back from its compact text. Its tokens are what the text is scanned to
whatever follows it, and what the value is read from whatever follows them; both facts go up from
the parts of a value to the value. The text is one line, as line breaks are escaped in it.
-/

namespace ModuleProxy.JsonValue

open JsonToken

/-- A value whose numbers, where they are not natural ones, are written as JSON writes numbers. -/
inductive Legible : JsonValue → Prop where
  | null : Legible .null
  | bool (value : Bool) : Legible (.bool value)
  | natural (value : Nat) : Legible (.natural value)
  | number {text : String} (hne : text.toList ≠ [])
      (htext : ∀ c ∈ text.toList, isNumberChar c = true)
      (hnumber : ofNumber? text.toList = some (.number text)) : Legible (.number text)
  | string (text : String) : Legible (.string text)
  | array {items : List JsonValue} (hitems : ∀ item ∈ items, Legible item) : Legible (.array items)
  | object {members : List (String × JsonValue)}
      (hmembers : ∀ member ∈ members, Legible member.2) : Legible (.object members)

structure Written (value : JsonValue) (tokens : List JsonToken) : Prop where
  unclosed : ∀ rest others, tokens ++ rest ≠ .mark ']' :: others
  spells : ∀ rest, Stops rest → Spells value.print.toList tokens rest
  readValue_eq : ∀ steps rest, tokens.length ≤ steps →
    readValue steps (tokens ++ rest) = some (value, rest)

structure WrittenItems (items : List JsonValue) (tokens : List JsonToken) : Prop where
  unclosed : ∀ rest others, tokens ++ rest ≠ .mark ']' :: others
  spells : ∀ rest,
    Spells ((String.intercalate "," (printItems items)).toList ++ [']']) tokens rest
  readItems_eq : ∀ steps rest, tokens.length ≤ steps →
    readItems steps (tokens ++ rest) = some (items, rest)

structure WrittenMembers (members : List (String × JsonValue)) (tokens : List JsonToken) :
    Prop where
  unclosed : ∀ rest others, tokens ++ rest ≠ .mark '\x7d' :: others
  spells : ∀ rest,
    Spells ((String.intercalate "," (printMembers members)).toList ++ ['\x7d']) tokens rest
  readMembers_eq : ∀ steps rest, tokens.length ≤ steps →
    readMembers steps (tokens ++ rest) = some (members, rest)

theorem stops_cons {c : Char} (hc : isNumberChar c = false) (rest : List Char) :
    Stops (c :: rest) := by
  intro d hd
  cases hd
  exact hc

theorem Written.single {value : JsonValue} {token : JsonToken} (hmark : token ≠ .mark ']')
    (hspells : ∀ rest, Stops rest → Spells value.print.toList [token] rest)
    (hread : ∀ steps rest, readValue (steps + 1) (token :: rest) = some (value, rest)) :
    Written value [token] where
  unclosed rest others heq := hmark (List.cons.inj heq).1
  spells := hspells
  readValue_eq steps rest hsteps := by
    obtain ⟨steps, rfl⟩ := Nat.exists_eq_add_of_le' hsteps
    exact hread steps rest

theorem WrittenItems.last {item : JsonValue} {tokens : List JsonToken} (h : Written item tokens) :
    WrittenItems [item] (tokens ++ [.mark ']']) where
  unclosed rest := by
    rw [List.append_assoc]
    exact h.unclosed _
  spells rest := (h.spells _ (stops_cons rfl rest)).append (.mark rfl rest)
  readItems_eq steps rest hsteps := by
    rw [List.length_append, List.length_singleton] at hsteps
    obtain ⟨steps, rfl⟩ := Nat.exists_eq_succ_of_ne_zero (show steps ≠ 0 by omega)
    rw [List.append_assoc, readItems, h.readValue_eq steps _ (by omega)]
    rfl

theorem WrittenItems.cons {item : JsonValue} {items : List JsonValue}
    {tokens others : List JsonToken} (h : Written item tokens) (hne : items ≠ [])
    (hitems : WrittenItems items others) :
    WrittenItems (item :: items) (tokens ++ ([.mark ','] ++ others)) where
  unclosed rest := by
    rw [List.append_assoc]
    exact h.unclosed _
  spells rest := by
    obtain ⟨next, more, rfl⟩ := List.exists_cons_of_ne_nil hne
    have htext : (String.intercalate "," (printItems (item :: next :: more))).toList ++ [']'] =
        item.print.toList ++ ([','] ++
          ((String.intercalate "," (printItems (next :: more))).toList ++ [']'])) := by
      simp [printItems, String.intercalate_cons_cons]
    rw [htext]
    exact (h.spells _ (stops_cons rfl _)).append ((Spells.mark rfl _).append (hitems.spells rest))
  readItems_eq steps rest hsteps := by
    simp only [List.length_append, List.length_singleton] at hsteps
    obtain ⟨steps, rfl⟩ := Nat.exists_eq_succ_of_ne_zero (show steps ≠ 0 by omega)
    rw [List.append_assoc, List.append_assoc, readItems, h.readValue_eq steps _ (by omega)]
    simp only [List.singleton_append, Option.bind_eq_bind, Option.bind_some,
      hitems.readItems_eq steps rest (by omega)]
    rfl

theorem writtenItems_of_written {items : List JsonValue} (hne : items ≠ [])
    (h : ∀ item ∈ items, ∃ tokens, Written item tokens) : ∃ tokens, WrittenItems items tokens := by
  induction items with
  | nil => exact absurd rfl hne
  | cons item items ih =>
    obtain ⟨tokens, hitem⟩ := h item List.mem_cons_self
    obtain rfl | hmore := eq_or_ne items []
    · exact ⟨_, .last hitem⟩
    · obtain ⟨others, hitems⟩ :=
        ih hmore fun other hother => h other (List.mem_cons_of_mem _ hother)
      exact ⟨_, .cons hitem hmore hitems⟩

theorem written_array_nil : Written (.array []) [.mark '[', .mark ']'] where
  unclosed := nofun
  spells rest _ := (Spells.mark (c := '[') rfl _).append (.mark rfl rest)
  readValue_eq steps rest hsteps := by
    obtain ⟨steps, rfl⟩ := Nat.exists_eq_add_of_le' hsteps
    rfl

theorem WrittenItems.array {items : List JsonValue} {tokens : List JsonToken}
    (h : WrittenItems items tokens) : Written (.array items) (.mark '[' :: tokens) where
  unclosed := nofun
  spells rest _ := by
    have htext : (JsonValue.array items).print.toList =
        ['['] ++ ((String.intercalate "," (printItems items)).toList ++ [']']) := by
      simp [print]
    rw [htext]
    exact (Spells.mark rfl _).append (h.spells rest)
  readValue_eq steps rest hsteps := by
    rw [List.length_cons] at hsteps
    obtain ⟨steps, rfl⟩ := Nat.exists_eq_succ_of_ne_zero (show steps ≠ 0 by omega)
    rw [List.cons_append, readValue.eq_2]
    · rw [h.readItems_eq steps rest (by omega)]
      rfl
    · exact h.unclosed rest

theorem WrittenMembers.last {value : JsonValue} {tokens : List JsonToken} (key : String)
    (h : Written value tokens) :
    WrittenMembers [(key, value)] (.string key :: .mark ':' :: (tokens ++ [.mark '\x7d'])) where
  unclosed := nofun
  spells rest := by
    have htext : (String.intercalate "," (printMembers [(key, value)])).toList ++ ['\x7d'] =
        (printString key).toList ++ ([':'] ++ (value.print.toList ++ ['\x7d'])) := by
      simp [printMembers]
    rw [htext]
    exact (Spells.printString key _).append ((Spells.mark (c := ':') rfl _).append
      ((h.spells _ (stops_cons rfl rest)).append (.mark rfl rest)))
  readMembers_eq steps rest hsteps := by
    simp only [List.length_cons, List.length_append] at hsteps
    obtain ⟨steps, rfl⟩ := Nat.exists_eq_succ_of_ne_zero (show steps ≠ 0 by omega)
    rw [List.cons_append, List.cons_append, List.append_assoc, readMembers,
      h.readValue_eq steps _ (by omega)]
    rfl

theorem WrittenMembers.cons {value : JsonValue} {members : List (String × JsonValue)}
    {tokens others : List JsonToken} (key : String) (h : Written value tokens) (hne : members ≠ [])
    (hmembers : WrittenMembers members others) :
    WrittenMembers ((key, value) :: members)
      (.string key :: .mark ':' :: (tokens ++ (.mark ',' :: others))) where
  unclosed := nofun
  spells rest := by
    obtain ⟨next, more, rfl⟩ := List.exists_cons_of_ne_nil hne
    have htext : (String.intercalate "," (printMembers ((key, value) :: next :: more))).toList ++
        ['\x7d'] = (printString key).toList ++ ([':'] ++ (value.print.toList ++ ([','] ++
          ((String.intercalate "," (printMembers (next :: more))).toList ++ ['\x7d'])))) := by
      simp [printMembers, String.intercalate_cons_cons]
    rw [htext]
    exact (Spells.printString key _).append ((Spells.mark (c := ':') rfl _).append
      ((h.spells _ (stops_cons rfl _)).append ((Spells.mark rfl _).append (hmembers.spells rest))))
  readMembers_eq steps rest hsteps := by
    simp only [List.length_cons, List.length_append] at hsteps
    obtain ⟨steps, rfl⟩ := Nat.exists_eq_succ_of_ne_zero (show steps ≠ 0 by omega)
    rw [List.cons_append, List.cons_append, List.append_assoc, readMembers,
      h.readValue_eq steps _ (by omega)]
    simp only [List.cons_append, Option.bind_eq_bind, Option.bind_some,
      hmembers.readMembers_eq steps rest (by omega)]
    rfl

theorem writtenMembers_of_written {members : List (String × JsonValue)} (hne : members ≠ [])
    (h : ∀ member ∈ members, ∃ tokens, Written member.2 tokens) :
    ∃ tokens, WrittenMembers members tokens := by
  induction members with
  | nil => exact absurd rfl hne
  | cons member members ih =>
    obtain ⟨key, value⟩ := member
    obtain ⟨tokens, hvalue⟩ := h (key, value) List.mem_cons_self
    obtain rfl | hmore := eq_or_ne members []
    · exact ⟨_, .last key hvalue⟩
    · obtain ⟨others, hmembers⟩ :=
        ih hmore fun other hother => h other (List.mem_cons_of_mem _ hother)
      exact ⟨_, .cons key hvalue hmore hmembers⟩

theorem written_object_nil : Written (.object []) [.mark '\x7b', .mark '\x7d'] where
  unclosed := nofun
  spells rest _ := (Spells.mark (c := '\x7b') rfl _).append (.mark rfl rest)
  readValue_eq steps rest hsteps := by
    obtain ⟨steps, rfl⟩ := Nat.exists_eq_add_of_le' hsteps
    rfl

theorem WrittenMembers.object {members : List (String × JsonValue)} {tokens : List JsonToken}
    (h : WrittenMembers members tokens) :
    Written (.object members) (.mark '\x7b' :: tokens) where
  unclosed := nofun
  spells rest _ := by
    have htext : (JsonValue.object members).print.toList =
        ['\x7b'] ++ ((String.intercalate "," (printMembers members)).toList ++ ['\x7d']) := by
      simp [print]
    rw [htext]
    exact (Spells.mark rfl _).append (h.spells rest)
  readValue_eq steps rest hsteps := by
    rw [List.length_cons] at hsteps
    obtain ⟨steps, rfl⟩ := Nat.exists_eq_succ_of_ne_zero (show steps ≠ 0 by omega)
    rw [List.cons_append, readValue.eq_4]
    · rw [h.readMembers_eq steps rest (by omega)]
      rfl
    · exact h.unclosed rest

theorem written_of_legible {value : JsonValue} (h : Legible value) :
    ∃ tokens, Written value tokens := by
  induction h with
  | null => exact ⟨[.null], .single nofun (fun _ _ => .of_next? rfl rfl) fun _ _ => rfl⟩
  | bool value =>
    have hspells : ∀ rest, Spells (JsonValue.bool value).print.toList [.bool value] rest := by
      cases value
      all_goals exact fun _ => .of_next? rfl rfl
    exact ⟨[.bool value], .single nofun (fun rest _ => hspells rest) fun _ _ => rfl⟩
  | natural value =>
    exact ⟨[.natural value], .single nofun (fun _ => .natural value) fun _ _ => rfl⟩
  | @number text hne htext hnumber =>
    exact ⟨[.number text], .single nofun (fun _ => .of_ofNumber? hne htext hnumber) fun _ _ => rfl⟩
  | string text =>
    exact ⟨[.string text], .single nofun (fun _ _ => .printString text _) fun _ _ => rfl⟩
  | @array items hitems ih =>
    obtain rfl | hne := eq_or_ne items []
    · exact ⟨_, written_array_nil⟩
    · obtain ⟨tokens, hwritten⟩ := writtenItems_of_written hne ih
      exact ⟨_, hwritten.array⟩
  | @object members hmembers ih =>
    obtain rfl | hne := eq_or_ne members []
    · exact ⟨_, written_object_nil⟩
    · obtain ⟨tokens, hwritten⟩ := writtenMembers_of_written hne ih
      exact ⟨_, hwritten.object⟩

theorem parse?_print {value : JsonValue} (h : Legible value) : parse? value.print = some value := by
  obtain ⟨tokens, hwritten⟩ := written_of_legible h
  have hscan := scan_of_spells (hwritten.spells [] nofun)
  have hread := hwritten.readValue_eq (tokens.length + 1) [] (Nat.le_succ _)
  rw [List.append_nil] at hread
  rw [parse?, hscan]
  simp only [Option.bind_eq_bind, Option.bind_some, hread]
  rfl

theorem forall_mem_intercalate {p : Char → Prop} {separator : String} {parts : List String}
    (hseparator : ∀ c ∈ separator.toList, p c) (hparts : ∀ part ∈ parts, ∀ c ∈ part.toList, p c) :
    ∀ c ∈ (separator.intercalate parts).toList, p c := by
  induction parts with
  | nil => simp
  | cons part parts ih =>
    obtain ⟨hpart, hmore⟩ := List.forall_mem_cons.mp hparts
    cases parts with
    | nil => simpa using hpart
    | cons next parts =>
      rw [String.intercalate_cons_cons, String.toList_append, String.toList_append]
      simp only [List.forall_mem_append]
      exact ⟨⟨hpart, hseparator⟩, ih hmore⟩

theorem ne_newline_of_mem_escape {c d : Char} (hd : d ∈ escape c) : d ≠ '\n' := by
  have hdigit : ∀ n < 16, hexDigit n ≠ '\n' := by decide
  unfold escape at hd
  split at hd
  case h_8 hnewline _ _ =>
    split at hd
    · have hhigh := hdigit (c.toNat / 16) (by omega)
      have hlow := hdigit (c.toNat % 16) (by omega)
      rintro rfl
      simp [hhigh.symm, hlow.symm] at hd
    · obtain rfl := List.mem_singleton.mp hd
      exact hnewline
  all_goals
    rintro rfl
    simp at hd

theorem ne_newline_of_mem_printString {text : String} :
    ∀ c ∈ (printString text).toList, c ≠ '\n' := by
  rw [toList_printString]
  simp only [List.forall_mem_cons, List.forall_mem_append, List.forall_mem_flatMap]
  exact ⟨by decide, fun _ _ _ => ne_newline_of_mem_escape, by decide, nofun⟩

theorem printItems_eq_map (items : List JsonValue) : printItems items = items.map print := by
  induction items with
  | nil => rfl
  | cons item items ih => rw [printItems, ih, List.map_cons]

theorem printMembers_eq_map (members : List (String × JsonValue)) :
    printMembers members = members.map fun member => printString member.1 ++ ":" ++
      member.2.print := by
  induction members with
  | nil => rfl
  | cons member members ih => rw [printMembers, ih, List.map_cons]

theorem ne_newline_of_mem_print {value : JsonValue} (h : Legible value) :
    ∀ c ∈ value.print.toList, c ≠ '\n' := by
  induction h with
  | null => simp [print]
  | bool value => cases value <;> simp [print]
  | natural value =>
    intro c hc
    rw [print, Nat.toString_eq_ofList_toDigits, String.toList_ofList] at hc
    rintro rfl
    exact absurd (isDigit_of_mem_toDigits hc) (by decide)
  | number hne htext hnumber =>
    rintro c hc rfl
    exact absurd (htext _ hc) (by decide)
  | string text => exact ne_newline_of_mem_printString
  | @array items hitems ih =>
    have hitem : ∀ part ∈ items.map print, ∀ c ∈ part.toList, c ≠ '\n' :=
      List.forall_mem_map.mpr ih
    rw [print, printItems_eq_map, String.toList_append, String.toList_append]
    simp only [List.forall_mem_append]
    exact ⟨⟨by simp, forall_mem_intercalate (by simp) hitem⟩, by simp⟩
  | @object members hmembers ih =>
    have hmember : ∀ part ∈ members.map (fun member => printString member.1 ++ ":" ++
        member.2.print), ∀ c ∈ part.toList, c ≠ '\n' := by
      refine List.forall_mem_map.mpr fun member hmember => ?_
      rw [String.toList_append, String.toList_append]
      simp only [List.forall_mem_append]
      exact ⟨⟨ne_newline_of_mem_printString, by simp⟩, ih member hmember⟩
    rw [print, printMembers_eq_map, String.toList_append, String.toList_append]
    simp only [List.forall_mem_append]
    exact ⟨⟨by simp, forall_mem_intercalate (by simp) hmember⟩, by simp⟩

end ModuleProxy.JsonValue
