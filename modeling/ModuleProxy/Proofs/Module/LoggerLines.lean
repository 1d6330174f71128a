import ModuleProxy.Proofs.Files
import ModuleProxy.Proofs.Json.RoundTrip
import ModuleProxy.Proofs.Text.Hex
import ModuleProxy.Sandbox

namespace ModuleProxy

class LawfulFileWorld (ω : Type) [FileWorld ω] : Prop where
  files_setFiles : ∀ (files : FileTree) (w : ω),
    FileWorld.files (FileWorld.setFiles files w) = files

instance : LawfulFileWorld Sandbox where
  files_setFiles _ _ := rfl

namespace Logger

open FileWorld

def entry (time : Nat) (members : List Member) : JsonValue :=
  .object (members ++ [("time", .natural time)])

def asLines (lines : List String) : Bytes :=
  lines.flatMap fun line => Text.Utf8.encode (line ++ "\n")

def Signs (text line : String) : Prop :=
  ∃ time,
    JsonValue.parse? line = some (.object [("content", .string text), ("time", .natural time)])

/-- A line that tells a message: its pairs in some order, and its content, as it is where it is a
text and in hexadecimal digits where it is none. -/
def Records (m : Message) (line : String) : Prop :=
  ∃ name value properties time,
    JsonValue.parse? line = some (.object [(name, .string value),
      ("properties", .object properties), ("time", .natural time)]) ∧
    properties.Perm (m.properties.toList.map fun pair => (pair.1, .string pair.2)) ∧
    (name = "content" ∧ Text.Utf8.decode? m.content = some value ∨
      name = "content_hex" ∧ Text.Utf8.decode? m.content = none ∧
        Text.Hex.decode value = .ok m.content)

theorem legible_sign (text : String) (time : Nat) : (entry time (sign text)).Legible := by
  refine .object ?_
  simp only [sign, List.cons_append, List.nil_append, List.forall_mem_cons]
  exact ⟨.string _, .natural _, nofun⟩

theorem legible_propertiesMember (ps : Properties) : (propertiesMember ps).2.Legible := by
  refine .object ?_
  rw [List.forall_mem_map]
  exact fun pair _ => .string pair.2

theorem contentMember_cases (content : Bytes) :
    ∃ name value, contentMember content = (name, .string value) ∧
      (name = "content" ∧ Text.Utf8.decode? content = some value ∨
        name = "content_hex" ∧ Text.Utf8.decode? content = none ∧
          Text.Hex.decode value = .ok content) := by
  unfold contentMember
  cases Text.Utf8.decode? content with
  | some text => exact ⟨_, _, rfl, .inl ⟨rfl, rfl⟩⟩
  | none => exact ⟨_, _, rfl, .inr ⟨rfl, rfl, Text.Hex.decode_of_encode content⟩⟩

theorem legible_message (m : Message) (time : Nat) :
    (entry time [contentMember m.content, propertiesMember m.properties]).Legible := by
  obtain ⟨name, value, hcontent, -⟩ := contentMember_cases m.content
  refine .object ?_
  simp only [List.cons_append, List.nil_append, List.forall_mem_cons]
  exact ⟨by rw [hcontent]; exact .string _, legible_propertiesMember _, .natural _, nofun⟩

theorem signs_print (text : String) (time : Nat) : Signs text (entry time (sign text)).print :=
  ⟨time, JsonValue.parse?_print (legible_sign text time)⟩

theorem records_print (m : Message) (time : Nat) :
    Records m (entry time [contentMember m.content, propertiesMember m.properties]).print := by
  obtain ⟨name, value, hcontent, htold⟩ := contentMember_cases m.content
  have hread := JsonValue.parse?_print (legible_message m time)
  refine ⟨name, value, (m.properties.toList.mergeSort fun a b => a.1 ≤ b.1).map fun pair =>
    (pair.1, .string pair.2), time, ?_, (List.mergeSort_perm _ _).map _, htold⟩
  rw [hread, entry, hcontent]
  rfl

theorem not_mem_newline_of_legible {value : JsonValue} (h : value.Legible) :
    '\n' ∉ value.print.toList :=
  fun hmem => JsonValue.ne_newline_of_mem_print h _ hmem rfl

variable {ω : Type} [FileWorld ω]

/-- Other things go on, and the file that the path leads to stays as it is. -/
def Aside (path : String) (w w' : ω) : Prop :=
  (files w').openForWrite path = (files w).openForWrite path

theorem Aside.refl (path : String) (w : ω) : Aside path w w := rfl

inductive Receives (l : Logger) (path : String) : List Message → ω → ω → Prop where
  | nil {w w' : ω} (haside : Aside path w w') : Receives l path [] w w'
  | cons {m : Message} {ms : List Message} {w w' w'' : ω} (haside : Aside path w w')
      (hrest : Receives l path ms (l.receive m w') w'') : Receives l path (m :: ms) w w''

variable [LawfulFileWorld ω]

theorem files_record {l : Logger} {path : String} (hsink : l.sink = some path) {w : ω}
    {place : List String} {old : Bytes} (hopen : (files w).openForWrite path = .ok (place, old))
    (members : List Member) :
    files (l.record members w) =
      (files w).set place (.file (old ++ asLines [(entry (now w) members).print])) := by
  have hline : asLines [(entry (now w) members).print] =
      Text.Utf8.encode (line (now w) members) := by
    simp [asLines, line, entry]
  rw [hline, record, hsink]
  simp only [FileTree.append_of_openForWrite hopen]
  exact LawfulFileWorld.files_setFiles _ _

theorem openForWrite_record {l : Logger} {path : String} (hsink : l.sink = some path) {w : ω}
    {place : List String} {old : Bytes} (hopen : (files w).openForWrite path = .ok (place, old))
    (members : List Member) :
    (files (l.record members w)).openForWrite path =
      .ok (place, old ++ asLines [(entry (now w) members).print]) := by
  rw [files_record hsink hopen]
  exact FileTree.openForWrite_set_file hopen _

theorem asLines_append (lines others : List String) :
    asLines (lines ++ others) = asLines lines ++ asLines others :=
  List.flatMap_append

theorem create_of_filename {l : Logger} {args : Bytes} {path : String}
    (hargs : filename? args = some (some path)) {w : ω} {place : List String} {old : Bytes}
    (hopen : (files w).openForWrite path = .ok (place, old)) :
    (l.create args w).1 = .ok () ∧ (l.create args w).2.1 = ⟨some path⟩ ∧
      ∃ time, (files (l.create args w).2.2).openForWrite path =
        .ok (place, old ++ asLines [(entry time (sign "Log started")).print]) := by
  have hsink : openSink path (files w) = .ok ((files w).set place (.file old)) := by
    rw [openSink, FileTree.append_of_openForWrite hopen, List.append_nil]
  have hcreate : l.create args w = (.ok (), ⟨some path⟩, Logger.record ⟨some path⟩
      (sign "Log started") (setFiles ((files w).set place (.file old)) w)) := by
    simp only [create, hargs, hsink]
  rw [hcreate]
  refine ⟨rfl, rfl, _, openForWrite_record rfl ?_ _⟩
  rw [LawfulFileWorld.files_setFiles]
  exact FileTree.openForWrite_set_file hopen old

theorem Receives.entries {l : Logger} {path : String} (hsink : l.sink = some path)
    {ms : List Message} {w w' : ω} (h : Receives l path ms w w') {place : List String}
    {old : Bytes} (hopen : (files w).openForWrite path = .ok (place, old)) :
    ∃ lines, (files w').openForWrite path = .ok (place, old ++ asLines lines) ∧
      List.Forall₂ Records ms lines ∧ ∀ line ∈ lines, '\n' ∉ line.toList := by
  induction h generalizing old with
  | nil haside =>
    refine ⟨[], ?_, .nil, nofun⟩
    rw [haside, hopen, asLines, List.flatMap_nil, List.append_nil]
  | @cons m ms w w' w'' haside hrest ih =>
    have hmembers := openForWrite_record hsink (haside.trans hopen)
      [contentMember m.content, propertiesMember m.properties]
    obtain ⟨lines, hlines, hrecords, hnewline⟩ := ih hmembers
    refine ⟨(entry (now w') [contentMember m.content, propertiesMember m.properties]).print ::
      lines, ?_, .cons (records_print m _) hrecords, ?_⟩
    · rw [hlines, List.append_assoc, ← asLines_append, List.singleton_append]
    · exact List.forall_mem_cons.mpr
        ⟨not_mem_newline_of_legible (legible_message m _), hnewline⟩

/-- From its creation for a file that can be written to until it is destroyed, a logger adds one
line at its beginning, one line for each message in turn, and one at its end. No line has a newline
in it, whatever the messages have in them. Before and after, messages add nothing. -/
theorem lines_of_messages {l : Logger} {args : Bytes} {path : String}
    (hargs : filename? args = some (some path)) {w : ω} {place : List String} {old : Bytes}
    (hopen : (files w).openForWrite path = .ok (place, old)) :
    (l.create args w).1 = .ok () ∧
    (∀ (ms : List Message) (w' : ω),
      Receives (l.create args w).2.1 path ms (l.create args w).2.2 w' →
      ∃ first lines last,
        (files ((l.create args w).2.1.destroy w').2).read path =
          .ok (old ++ asLines (first :: lines ++ [last])) ∧
        Signs "Log started" first ∧ List.Forall₂ Records ms lines ∧ Signs "Log stopped" last ∧
        (∀ line ∈ first :: lines ++ [last], '\n' ∉ line.toList) ∧
        ∀ m (w'' : ω), ((l.create args w).2.1.destroy w').1.receive m w'' = w'') ∧
    ∀ m (w' : ω), ({} : Logger).receive m w' = w' := by
  obtain ⟨hok, hcreated, started, hstarted⟩ := create_of_filename (l := l) hargs hopen
  refine ⟨hok, fun ms w' hreceives => ?_, fun m w' => rfl⟩
  rw [hcreated] at hreceives ⊢
  obtain ⟨lines, hlines, hrecords, hnewline⟩ := hreceives.entries rfl hstarted
  refine ⟨(entry started (sign "Log started")).print, lines,
    (entry (now w') (sign "Log stopped")).print, ?_, signs_print _ _, hrecords, signs_print _ _,
    ?_, fun m w'' => rfl⟩
  · rw [destroy, files_record rfl hlines, FileTree.read_set_file hlines, List.append_assoc,
      ← asLines_append, List.append_assoc, ← asLines_append]
    rfl
  · simp only [List.forall_mem_append, List.forall_mem_cons]
    exact ⟨⟨not_mem_newline_of_legible (legible_sign _ _), hnewline⟩,
      not_mem_newline_of_legible (legible_sign _ _), nofun⟩

theorem lines_of_text_and_bytes :
    let created := ({} : Logger).create (Text.Utf8.encode "\x7b\"filename\":\"log\"\x7d")
      ({} : Sandbox)
    let received := created.2.1.receive ⟨[0xFF, 0x00], {}⟩
      (created.2.1.receive (.ofText "a\n\"b\"\x01" {}) created.2.2)
    ∃ first text bytes last,
      (files (created.2.1.destroy received).2).read "log" =
        .ok ([] ++ asLines (first :: [text, bytes] ++ [last])) ∧
      Records (.ofText "a\n\"b\"\x01" {}) text ∧ Records ⟨[0xFF, 0x00], {}⟩ bytes := by
  have hargs : filename? (Text.Utf8.encode "\x7b\"filename\":\"log\"\x7d") =
      some (some "log") := by decide +kernel
  have hopen : (files ({} : Sandbox)).openForWrite "log" = .ok (["log"], []) := rfl
  have hreceives (l : Logger) (m m' : Message) (w : Sandbox) :
      Receives l "log" [m, m'] w (l.receive m' (l.receive m w)) :=
    .cons (.refl _ _) (.cons (.refl _ _) (.nil (.refl _ _)))
  obtain ⟨-, hlines, -⟩ := lines_of_messages (l := {}) hargs hopen
  obtain ⟨first, lines, last, hread, -, hrecords, -⟩ :=
    hlines _ _ (hreceives _ (.ofText "a\n\"b\"\x01" {}) ⟨[0xFF, 0x00], {}⟩ _)
  cases hrecords with
  | cons htext hrest =>
    cases hrest with
    | cons hbytes hnil =>
      cases hnil
      exact ⟨first, _, _, last, hread, htext, hbytes⟩

end Logger

end ModuleProxy
