import Mathlib.Data.List.Perm.Subperm
import ModuleProxy.Config
import ModuleProxy.Proofs.Json.RoundTrip

namespace ModuleProxy

namespace JsonValue

theorem nodup_eraseDups {α : Type} [BEq α] [LawfulBEq α] (xs : List α) : xs.eraseDups.Nodup := by
  induction hn : xs.length using Nat.strongRecOn generalizing xs with
  | ind n ih =>
    cases xs with
    | nil => simp
    | cons x xs =>
      have hshort := Nat.lt_succ_of_le (List.length_filter_le (fun y => !y == x) xs)
      rw [List.eraseDups_cons, List.nodup_cons, List.mem_eraseDups]
      exact ⟨by simp, ih _ (hn ▸ hshort) _ rfl⟩

theorem length_eraseDups_eq_iff {α : Type} [BEq α] [LawfulBEq α] (xs : List α) :
    xs.eraseDups.length = xs.length ↔ xs.Nodup := by
  have hsub := (nodup_eraseDups xs).subperm fun _ => List.mem_eraseDups.mp
  constructor
  · intro hlength
    exact (hsub.perm_of_length_le hlength.ge).nodup_iff.mp (nodup_eraseDups xs)
  · intro hnodup
    exact Nat.le_antisymm hsub.length_le
      (hnodup.subperm fun _ => List.mem_eraseDups.mpr).length_le

theorem fieldsOf?_object {names : List String} {members : List (String × JsonValue)}
    (hnames : ∀ key ∈ members.map (·.1), key ∈ names) (hkeys : (members.map (·.1)).Nodup) :
    (JsonValue.object members).fieldsOf? names = some (names.map (members.lookup ·)) := by
  rw [fieldsOf?, if_pos]
  rw [Bool.and_eq_true, beq_iff_eq, length_eraseDups_eq_iff, List.all_eq_true]
  exact ⟨fun key hkey => List.contains_iff_mem.mpr (hnames key hkey), hkeys⟩

theorem fieldsOf?_object_eq_none {names : List String} {members : List (String × JsonValue)}
    (h : ¬ ((∀ key ∈ members.map (·.1), key ∈ names) ∧ (members.map (·.1)).Nodup)) :
    (JsonValue.object members).fieldsOf? names = none := by
  rw [fieldsOf?, if_neg]
  rw [Bool.and_eq_true, beq_iff_eq, length_eraseDups_eq_iff, List.all_eq_true]
  exact fun ⟨hnames, hkeys⟩ =>
    h ⟨fun key hkey => List.contains_iff_mem.mp (hnames key hkey), hkeys⟩

end JsonValue

inductive ConfigSetting where
  | controlId (id : Option String)
  | maxFrameSize (size : UInt64)
  | pollIntervalMs (interval : UInt64)
  | socketDir (dir : Option String)

namespace ConfigSetting

def key : ConfigSetting → String
  | controlId _ => "control_id"
  | maxFrameSize _ => "max_frame_size"
  | pollIntervalMs _ => "poll_interval_ms"
  | socketDir _ => "socket_dir"

def value : ConfigSetting → JsonValue
  | controlId id => ProxyConfig.jsonOfText id
  | maxFrameSize size => .natural size.toNat
  | pollIntervalMs interval => .natural interval.toNat
  | socketDir dir => ProxyConfig.jsonOfText dir

def member (s : ConfigSetting) : String × JsonValue :=
  (s.key, s.value)

def apply (s : ConfigSetting) (c : ProxyConfig) : ProxyConfig :=
  match s with
  | controlId id => { c with controlId := id }
  | maxFrameSize size => { c with maxFrameSize := size.toNat }
  | pollIntervalMs interval => { c with pollIntervalMs := interval.toNat }
  | socketDir dir => { c with socketDir := dir }

theorem key_mem_fieldNames (s : ConfigSetting) : s.key ∈ ProxyConfig.fieldNames := by
  cases s
  all_goals simp [key, ProxyConfig.fieldNames]

end ConfigSetting

namespace ProxyConfig

def ofSettings (settings : List ConfigSetting) : ProxyConfig :=
  settings.foldr ConfigSetting.apply {}

structure Reads (value? : String → Option JsonValue) (c : ProxyConfig) : Prop where
  controlId : JsonValue.optionalText? (value? "control_id") = some c.controlId
  maxFrameSize :
    JsonValue.word64? defaultFrameLimit (value? "max_frame_size") = some c.maxFrameSize
  pollIntervalMs : JsonValue.word64? 100 (value? "poll_interval_ms") = some c.pollIntervalMs
  socketDir : JsonValue.optionalText? (value? "socket_dir") = some c.socketDir

theorem optionalText?_jsonOfText (text : Option String) :
    JsonValue.optionalText? (some (jsonOfText text)) = some text := by
  cases text
  all_goals rfl

theorem word64?_toNat (default : Nat) (word : UInt64) :
    JsonValue.word64? default (some (.natural word.toNat)) = some word.toNat :=
  if_pos word.toNat_lt

theorem reads_ofSettings (settings : List ConfigSetting) :
    Reads ((settings.map ConfigSetting.member).lookup ·) (ofSettings settings) := by
  induction settings with
  | nil => exact ⟨rfl, rfl, rfl, rfl⟩
  | cons s settings ih =>
    obtain ⟨hcontrol, hframe, hpoll, hdir⟩ := ih
    cases s with
    | controlId id => exact ⟨optionalText?_jsonOfText id, hframe, hpoll, hdir⟩
    | maxFrameSize size => exact ⟨hcontrol, word64?_toNat _ size, hpoll, hdir⟩
    | pollIntervalMs interval => exact ⟨hcontrol, hframe, word64?_toNat _ interval, hdir⟩
    | socketDir dir => exact ⟨hcontrol, hframe, hpoll, optionalText?_jsonOfText dir⟩

theorem ofJson?_settings {settings : List ConfigSetting}
    (hkeys : (settings.map ConfigSetting.key).Nodup) :
    ofJson? (.object (settings.map ConfigSetting.member)) = some (ofSettings settings) := by
  have hmap : (settings.map ConfigSetting.member).map (·.1) = settings.map ConfigSetting.key :=
    List.map_map
  have hknown : ∀ key ∈ (settings.map ConfigSetting.member).map (·.1), key ∈ fieldNames := by
    rw [hmap, List.forall_mem_map]
    exact fun s _ => s.key_mem_fieldNames
  obtain ⟨hcontrol, hframe, hpoll, hdir⟩ := reads_ofSettings settings
  rw [ofJson?, JsonValue.fieldsOf?_object hknown (hmap ▸ hkeys)]
  simp only [fieldNames, List.map_cons, List.map_nil, Option.bind_eq_bind, Option.bind_some,
    hcontrol, hframe, hpoll, hdir]
  rfl

theorem ofJson?_eq_none {members : List (String × JsonValue)}
    (h : ¬ ((∀ key ∈ members.map (·.1), key ∈ fieldNames) ∧ (members.map (·.1)).Nodup)) :
    ofJson? (.object members) = none := by
  rw [ofJson?, JsonValue.fieldsOf?_object_eq_none h]
  rfl

def settings (c : ProxyConfig) : List ConfigSetting :=
  [.controlId c.controlId, .maxFrameSize (.ofNat c.maxFrameSize),
    .pollIntervalMs (.ofNat c.pollIntervalMs), .socketDir c.socketDir]

theorem nodup_keys_settings (c : ProxyConfig) : (c.settings.map ConfigSetting.key).Nodup := by
  simp [settings, ConfigSetting.key]

theorem ofSettings_settings {c : ProxyConfig} (hsize : c.maxFrameSize < 0x10000000000000000)
    (hinterval : c.pollIntervalMs < 0x10000000000000000) : ofSettings c.settings = c := by
  simp [ofSettings, settings, ConfigSetting.apply, Nat.mod_eq_of_lt hsize,
    Nat.mod_eq_of_lt hinterval]

theorem toJson_eq {c : ProxyConfig} (hsize : c.maxFrameSize < 0x10000000000000000)
    (hinterval : c.pollIntervalMs < 0x10000000000000000) :
    c.toJson = .object (c.settings.map ConfigSetting.member) := by
  simp [toJson, settings, ConfigSetting.member, ConfigSetting.key, ConfigSetting.value,
    Nat.mod_eq_of_lt hsize, Nat.mod_eq_of_lt hinterval]

theorem legible_jsonOfText (text : Option String) : (jsonOfText text).Legible := by
  cases text with
  | none => exact .null
  | some text => exact .string text

theorem legible_toJson (c : ProxyConfig) : c.toJson.Legible := by
  refine .object ?_
  simp only [List.forall_mem_cons]
  exact ⟨legible_jsonOfText _, .natural _, .natural _, legible_jsonOfText _, nofun⟩

theorem validate_eq_ok_iff (c : ProxyConfig) :
    c.validate = .ok () ↔ 14 ≤ c.maxFrameSize ∧ 1 ≤ c.pollIntervalMs := by
  have hmin : FrameKind.message.minSize = 14 := rfl
  simp only [validate, hmin]
  split
  · exact iff_of_false nofun (by omega)
  · split
    · exact iff_of_false nofun (by omega)
    · exact iff_of_true rfl (by omega)

theorem validate_cases (c : ProxyConfig) :
    c.validate = .ok () ∨ ∃ reason, c.validate = .error (.config reason) := by
  unfold validate
  split
  · exact .inr ⟨_, rfl⟩
  · split
    · exact .inr ⟨_, rfl⟩
    · exact .inl rfl

theorem parse_of_none {text : String} (h : JsonValue.parse? text >>= ofJson? = none) :
    parse text = .error (.config "malformed config") := by
  rw [parse, h]
  rfl

theorem parse_of_some {text : String} {c : ProxyConfig}
    (h : JsonValue.parse? text >>= ofJson? = some c) :
    parse text = c.validate.map fun _ => c := by
  rw [parse, h]
  rfl

theorem parse_of_settings {text : String} {settings : List ConfigSetting}
    (hkeys : (settings.map ConfigSetting.key).Nodup)
    (htext : JsonValue.parse? text = some (.object (settings.map ConfigSetting.member))) :
    parse text = (ofSettings settings).validate.map fun _ => ofSettings settings := by
  apply parse_of_some
  rw [htext]
  exact ofJson?_settings hkeys

theorem parse_of_wrong_keys {text : String} {members : List (String × JsonValue)}
    (htext : JsonValue.parse? text = some (.object members))
    (h : ¬ ((∀ key ∈ members.map (·.1), key ∈ fieldNames) ∧ (members.map (·.1)).Nodup)) :
    parse text = .error (.config "malformed config") := by
  apply parse_of_none
  rw [htext]
  exact ofJson?_eq_none h

theorem parse_toJson {c : ProxyConfig} (hvalid : c.validate = .ok ())
    (hsize : c.maxFrameSize < 0x10000000000000000)
    (hinterval : c.pollIntervalMs < 0x10000000000000000) : parse c.toJson.print = .ok c := by
  have htext := JsonValue.parse?_print c.legible_toJson
  rw [toJson_eq hsize hinterval] at htext ⊢
  rw [parse_of_settings c.nodup_keys_settings htext, ofSettings_settings hsize hinterval, hvalid]
  rfl

/-- A configuration that is accepted is read back from its JSON text. An object of known keys, in
any order and none twice, is read as the default configuration with those fields replaced, or it
is refused where that is not accepted; so is an object with an unknown or a repeated key. -/
theorem parse_replaces_given_fields :
    (∀ c : ProxyConfig,
      (c.validate = .ok () ↔ 14 ≤ c.maxFrameSize ∧ 1 ≤ c.pollIntervalMs) ∧
      (c.validate = .ok () → c.maxFrameSize < 0x10000000000000000 →
        c.pollIntervalMs < 0x10000000000000000 → parse c.toJson.print = .ok c)) ∧
    (∀ (text : String) (settings : List ConfigSetting),
      JsonValue.parse? text = some (.object (settings.map ConfigSetting.member)) →
      (settings.map ConfigSetting.key).Nodup →
      ((ofSettings settings).validate = .ok () → parse text = .ok (ofSettings settings)) ∧
      ((ofSettings settings).validate ≠ .ok () →
        ∃ reason, parse text = .error (.config reason))) ∧
    ∀ (text : String) (members : List (String × JsonValue)),
      JsonValue.parse? text = some (.object members) →
      (∃ key ∈ members.map (·.1), key ∉ fieldNames) ∨ ¬ (members.map (·.1)).Nodup →
      ∃ reason, parse text = .error (.config reason) := by
  refine ⟨fun c => ⟨c.validate_eq_ok_iff, parse_toJson⟩, ?_, ?_⟩
  · intro text settings htext hkeys
    rw [parse_of_settings hkeys htext]
    refine ⟨fun hvalid => by rw [hvalid]; rfl, fun hinvalid => ?_⟩
    obtain ⟨reason, hreason⟩ := (ofSettings settings).validate_cases.resolve_left hinvalid
    exact ⟨reason, by rw [hreason]; rfl⟩
  · intro text members htext hwrong
    refine ⟨_, parse_of_wrong_keys htext fun hright => ?_⟩
    obtain ⟨key, hkey, hunknown⟩ | hrepeated := hwrong
    · exact hunknown (hright.1 key hkey)
    · exact hrepeated hright.2

theorem parse_replaces_given_fields_of_texts :
    parse (ProxyConfig.mk (some "a\"\\\n\x01é😀") 0xffffffffffffffff 1 none).toJson.print =
      .ok ⟨some "a\"\\\n\x01é😀", 0xffffffffffffffff, 1, none⟩ ∧
    parse "\x7b \"socket_dir\" : \"/tmp\", \"control_id\" : null \x7d" =
      .ok { socketDir := some "/tmp" } ∧
    (∃ reason, parse "\x7b\"max_frame_size\":13\x7d" = .error (.config reason)) ∧
    (∃ reason, parse "\x7b\"control\":1\x7d" = .error (.config reason)) ∧
    ∃ reason, parse "\x7b\"control_id\":null,\"control_id\":null\x7d" =
      .error (.config reason) := by
  obtain ⟨hown, hgiven, hwrong⟩ := parse_replaces_given_fields
  refine ⟨(hown _).2 (by cbv) (by decide) (by decide), ?_, ?_, ?_, ?_⟩
  · exact (hgiven _ [.socketDir (some "/tmp"), .controlId none] (by cbv) (by decide)).1 (by cbv)
  · exact (hgiven _ [.maxFrameSize 13] (by cbv) (by decide)).2
      (mt (validate_eq_ok_iff _).mp (by decide))
  · exact hwrong _ [("control", .natural 1)] (by cbv) (.inl ⟨"control", by decide⟩)
  · exact hwrong _ [("control_id", .null), ("control_id", .null)] (by cbv) (.inr (by decide))

end ProxyConfig

end ModuleProxy
