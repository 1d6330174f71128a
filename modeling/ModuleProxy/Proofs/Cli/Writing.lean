import ModuleProxy.Proofs.Cli.Running
import ModuleProxy.Proofs.Message.OrderedMap
import ModuleProxy.Proofs.Text.Terminator

namespace ModuleProxy.Cli

namespace CliError

theorem code_ofIo_ne (context : String) (e : IoError) : (ofIo context e).code ≠ .success := by
  unfold ofIo
  dsimp only
  split <;> simp

theorem code_ofFormat_ne (context : String) (e : FormatError) :
    (ofFormat context e).code ≠ .success := by
  unfold ofFormat
  dsimp only
  split <;> simp

end CliError

def settingText (pair : String × String) : String :=
  pair.1 ++ "=" ++ pair.2

/-- The key is not empty and ends where it seems to, and neither half has a NUL. -/
structure IsSetting (pair : String × String) : Prop where
  key_ne : pair.1 ≠ ""
  key_plain : '=' ∉ pair.1.toList
  key_nulFree : '\x00' ∉ pair.1.toList
  value_nulFree : '\x00' ∉ pair.2.toList

theorem readPair_settingText {pair : String × String} (h : IsSetting pair) :
    readPair (settingText pair) = .ok pair := by
  have hplain : ∀ c ∈ pair.1.toList, (c != '=') = true := by
    intro c hc
    rw [bne_iff_ne]
    rintro rfl
    exact h.key_plain hc
  have htext : (settingText pair).toList = pair.1.toList ++ '=' :: pair.2.toList := by
    simp [settingText]
  have hkey : (settingText pair).toList.takeWhile (· != '=') = pair.1.toList := by
    rw [htext, List.takeWhile_append_of_pos hplain]
    simp
  have hrest : (settingText pair).toList.dropWhile (· != '=') = '=' :: pair.2.toList := by
    rw [htext, List.dropWhile_append_of_pos hplain]
    simp
  have hne : pair.1.toList ≠ [] := fun hnil => h.key_ne (String.toList_eq_nil_iff.mp hnil)
  simp only [readPair, hkey, hrest, if_neg hne, String.ofList_toList]

theorem filterMap_readPair {pairs : List (String × String)} (h : ∀ pair ∈ pairs, IsSetting pair) :
    (pairs.map settingText).filterMap (fun text => (readPair text).toOption) = pairs := by
  induction pairs with
  | nil => rfl
  | cons pair rest ih =>
    have hpair := readPair_settingText (h pair List.mem_cons_self)
    have hrest := ih fun pair hmem => h pair (List.mem_cons_of_mem _ hmem)
    rw [List.map_cons, List.filterMap_cons, hpair, hrest]
    rfl

theorem ofPairs_of_isSetting {pairs : List (String × String)}
    (h : ∀ pair ∈ pairs, IsSetting pair) : ∃ ps, Properties.ofPairs pairs = .ok ps := by
  refine ⟨_, Properties.ofPairs_eq_ok_iff.mpr ⟨fun pair hmem => ?_, rfl⟩⟩
  simp only [Properties.hasNul_eq_false_iff, Text.Utf8.zero_mem_encode_iff]
  exact ⟨(h pair hmem).key_nulFree, (h pair hmem).value_nulFree⟩

def Payload.contents (files : FileTree) : Payload → Except IoError Bytes
  | .empty => .ok []
  | .text content => .ok (Text.Utf8.encode content)
  | .file path => files.read path

theorem Desk.carryOut_payload {d : Desk} {payload : Payload} {content : Bytes}
    (h : payload.contents d.files = .ok content) : d.carryOut payload.read = (.ok content, d) := by
  cases payload with
  | empty =>
    cases h
    rfl
  | text text =>
    cases h
    rfl
  | file path =>
    have hread : d.files.read path = .ok content := h
    rw [Payload.read, carryOut_readFile, hread]
    rfl

namespace FrameTarget

def Takes (files : FileTree) (frame : Bytes) (target : FrameTarget) : Prop :=
  ∀ path, target = .file path → ∃ files', files.write path frame = .ok files'

inductive Left (frame : Bytes) (d d' : Desk) : FrameTarget → Prop where
  | raw (h : d'.output = d.output ++ frame) : Left frame d d' .raw
  | hexText (h : d'.output = d.output ++ textLine (Text.Hex.encode frame)) :
    Left frame d d' .hexText
  | file {path : String} (h : d.files.write path frame = .ok d'.files) :
    Left frame d d' (.file path)

theorem Left.of_told {frame : Bytes} {d d' : Desk} {told : List String} {target : FrameTarget}
    (h : Left frame (d.withTold told) d' target) : Left frame d d' target := by
  cases h with
  | raw h => exact .raw h
  | hexText h => exact .hexText h
  | file h => exact .file h

end FrameTarget

namespace Desk

theorem output_print (d : Desk) (output : Bytes) :
    ({ d with printed := output :: d.printed } : Desk).output = d.output ++ output := by
  simp [Desk.output]

theorem carryOut_write (d : Desk) (frame : Bytes) (target : FrameTarget) :
    (target.Takes d.files frame ∧ ∃ d', d.carryOut (target.write frame) = (.ok (), d') ∧
        target.Left frame d d') ∨
      (¬target.Takes d.files frame ∧ ∃ e d', d.carryOut (target.write frame) = (.error e, d') ∧
        e.code ≠ .success) := by
  cases target with
  | raw => exact .inl ⟨nofun, _, d.carryOut_print _, .raw (d.output_print _)⟩
  | hexText => exact .inl ⟨nofun, _, d.carryOut_print _, .hexText (d.output_print _)⟩
  | file path =>
    rw [FrameTarget.write, carryOut_writeFile, writeFile]
    cases hwrite : d.files.write path frame with
    | error e =>
      refine .inr ⟨?_, .ofIo _ e, d, rfl, CliError.code_ofIo_ne _ e⟩
      intro htakes
      obtain ⟨files, hfiles⟩ := htakes path rfl
      cases hwrite.symm.trans hfiles
    | ok files =>
      refine .inl ⟨?_, _, rfl, .file hwrite⟩
      rintro _ ⟨⟩
      exact ⟨files, hwrite⟩

end Desk

structure Yields (d : Desk) (x : Running Unit) (size : Nat) (frame : Bytes) (target : FrameTarget) :
    Prop where
  written : size ≤ maxFrameSize →
    ∃ told, d.carryOut x = (d.withTold told).carryOut (target.write frame)
  refused : maxFrameSize < size → ∃ e d', d.carryOut x = (.error e, d') ∧ e.code ≠ .success

theorem yields_of_encode {d : Desk} {x : Running Unit} {size : Nat} {frame : Bytes}
    {target : FrameTarget} {encoded : Except FormatError Bytes} {f : Bytes → Running Unit}
    (hencoded : encoded =
      if size > maxFrameSize then .error (.frameTooLarge size maxFrameSize) else .ok frame)
    (hx : d.carryOut x =
      d.carryOut (Running.require (.ofFormat "encode failed") encoded >>= f))
    (hf : ∃ told, d.carryOut (f frame) = (d.withTold told).carryOut (target.write frame)) :
    Yields d x size frame target := by
  constructor
  · intro hsize
    rw [if_neg (Nat.not_lt.mpr hsize)] at hencoded
    rw [hx, Desk.carryOut_require_of_ok hencoded]
    exact hf
  · intro hsize
    rw [if_pos hsize] at hencoded
    rw [hx, Desk.carryOut_require_of_error hencoded]
    exact ⟨.ofFormat _ _, d, rfl, CliError.code_ofFormat_ne _ _⟩

theorem yields_encodeMessage {d : Desk} {pairs : List (String × String)} {payload : Payload}
    {content : Bytes} {ps : Properties} (hcontent : payload.contents d.files = .ok content)
    (hpairs : Properties.ofPairs pairs = .ok ps) (target : FrameTarget) (log : LogSettings) :
    let m : Message := { content, properties := ps }
    Yields d (Command.encodeMessage pairs payload target log) m.encodedSize m.frame target := by
  intro m
  have hencoded : m.encode = if m.encodedSize > maxFrameSize then
      .error (.frameTooLarge m.encodedSize maxFrameSize) else .ok m.frame := rfl
  apply yields_of_encode hencoded
  · unfold Command.encodeMessage
    rw [Desk.carryOut_bind_of_ok _ (Desk.carryOut_payload hcontent),
      Desk.carryOut_require_of_ok hpairs]
  · obtain ⟨told, hlog⟩ := d.carryOut_log log ⟨.debug, "message encoded",
      [("frame_size", .natural m.frame.length), ("properties", .natural ps.size)]⟩
    exact ⟨told, Desk.carryOut_bind_of_ok _ hlog⟩

theorem ofText_of_scheme {text : String} (hscheme : ipcScheme.toList <+: text.toList)
    (hnul : '\x00' ∉ text.toList) :
    ChannelUri.ofText text = .ok ⟨ChannelUri.pairType, text⟩ := by
  rw [ChannelUri.ofText, ChannelUri.ofTyped, if_pos]
  simpa using ⟨hscheme, hnul⟩

theorem yields_createRequest {d : Desk} {text : String} {uri : ChannelUri} {payload : Payload}
    {args : Bytes} (huri : ChannelUri.ofText text = .ok uri)
    (hargs : payload.contents d.files = .ok args) (target : FrameTarget) :
    let m : ControlMessage := { body := .create { uri, args } }
    Yields d (Command.createRequest text payload target) m.encodedSize m.frame target := by
  intro m
  have hencoded : m.encode = if m.encodedSize > maxFrameSize then
      .error (.frameTooLarge m.encodedSize maxFrameSize) else .ok m.frame := rfl
  apply yields_of_encode hencoded
  · unfold Command.createRequest
    rw [Desk.carryOut_require_of_ok huri, Desk.carryOut_bind_of_ok _ (Desk.carryOut_payload hargs)]
  · exact ⟨d.told, rfl⟩

namespace Start

def Reads (s : Start) (a : Arguments) : Prop :=
  Arguments.parse CommandLine.program s.environment s.words = .ok a

def format (s : Start) (a : Arguments) : OutputFormat :=
  (a.choice? "format").getD s.defaultFormat

variable {s : Start} {a : Arguments} {command : Command}

def ending : Except CliError Unit × Desk → ExitCode × Desk
  | (.ok (), d) => (.success, d)
  | (.error e, d) => (e.code, d.withTold (("error: " ++ e.text) :: d.told))

theorem perform_run (hs : s.Reads a) (hcommand : a.command? = some command) (d : Desk) :
    d.perform s.run = ending (d.carryOut (command.run a.logSettings (s.format a))) := by
  have hparse : Invocation.parse s.environment s.words =
      .ok { format := a.choice? "format", log := a.logSettings, command } := by
    rw [Invocation.parse, hs]
    simp only [ok_bind_eq, hcommand]
    rfl
  rw [run, hparse]
  dsimp only
  rw [Desk.perform_bind, Desk.carryOut, format]
  rcases d.perform (command.run _ _).run with ⟨e | _, d'⟩ <;> rfl

theorem perform_of_yields (hs : s.Reads a) (hcommand : a.command? = some command) {d : Desk}
    {size : Nat} {frame : Bytes} {target : FrameTarget}
    (h : Yields d (command.run a.logSettings (s.format a)) size frame target) :
    ((d.perform s.run).1 = .success ↔ size ≤ maxFrameSize ∧ target.Takes d.files frame) ∧
      ((d.perform s.run).1 = .success → target.Left frame d (d.perform s.run).2) := by
  rw [perform_run hs hcommand]
  rcases Nat.lt_or_ge maxFrameSize size with hlt | hle
  · obtain ⟨e, d', hrefused, hcode⟩ := h.refused hlt
    rw [hrefused]
    exact ⟨iff_of_false hcode fun hallowed => Nat.not_lt.mpr hallowed.1 hlt,
      fun hsuccess => absurd hsuccess hcode⟩
  · obtain ⟨told, hwritten⟩ := h.written hle
    rw [hwritten]
    obtain ⟨htakes, d', hwrite, hleft⟩ | ⟨htakes, e, d', hwrite, hcode⟩ :=
      (d.withTold told).carryOut_write frame target
    · rw [hwrite]
      exact ⟨iff_of_true rfl ⟨hle, htakes⟩, fun _ => hleft.of_told⟩
    · rw [hwrite]
      exact ⟨iff_of_false hcode fun hallowed => htakes hallowed.2,
        fun hsuccess => absurd hsuccess hcode⟩

end Start

end ModuleProxy.Cli
