import ModuleProxy.Proofs.Cli.Writing
import ModuleProxy.Proofs.Control.RoundTrip
import ModuleProxy.Proofs.Files
import ModuleProxy.Proofs.Message.RoundTrip
import ModuleProxy.Proofs.Text.Hex

namespace ModuleProxy.Cli

def Desk.Gives (d : Desk) (bytes : Bytes) : Option String → Prop
  | none => d.input = bytes
  | some path => d.files.read path = .ok bytes

/-- What a command has written is there for the next one, which is told in what form. What was
printed is given to it as its input or in a file; in hexadecimal text white space may have been put
in between. A file that was written is still there. -/
inductive Passed (d after : Desk) (b : Arguments) (next : Desk) : FrameTarget → Prop where
  | raw {printed : Bytes} (hprinted : after.output = d.output ++ printed)
    (hhex : b.has "hex" = false) (hgiven : next.Gives printed b.source.path) :
    Passed d after b next .raw
  | hexText {printed text : String}
    (hprinted : after.output = d.output ++ Text.Utf8.encode printed)
    (hspaced : Text.Spaced printed.toList text.toList) (hhex : b.has "hex" = true)
    (hgiven : next.Gives (Text.Utf8.encode text) b.source.path) : Passed d after b next .hexText
  | file {path : String} (hkept : next.files.read path = after.files.read path)
    (hhex : b.has "hex" = false) (hpath : b.value? CommandLine.inputFile.name = some path)
    (hdash : path ≠ "-") : Passed d after b next (.file path)

theorem readHex_of_spaced {frame : Bytes} {text : String}
    (h : Text.Spaced (Text.Hex.encode frame ++ "\n").toList text.toList) :
    readHex (Text.Utf8.encode text) = .ok frame := by
  simp only [readHex, Text.Utf8.decode?_encode, Text.Hex.decode_of_spaced h]
  rfl

namespace Desk

theorem carryOut_given {d : Desk} {source : FrameSource} {bytes frame : Bytes}
    (hgiven : d.Gives bytes source.path)
    (hframe : (if source.hex then readHex bytes else .ok bytes) = .ok frame) :
    ∃ d' : Desk, d'.output = d.output ∧ d.carryOut source.read = (.ok frame, d') := by
  obtain ⟨path, hex⟩ := source
  have hend : ∀ d' : Desk, d'.carryOut
      (if hex then Running.require id (readHex bytes) else return bytes) = (.ok frame, d') := by
    intro d'
    cases hex with
    | false =>
      obtain rfl : bytes = frame := by simpa using hframe
      rfl
    | true =>
      have hframe : readHex bytes = .ok frame := by simpa using hframe
      simp only [↓reduceIte, hframe]
      rfl
  cases path with
  | none =>
    have hread := d.carryOut_readInput (.ofIo "failed reading stdin")
    rw [show d.input = bytes from hgiven] at hread
    exact ⟨{ d with input := [] }, rfl, (carryOut_bind_of_ok _ hread).trans (hend _)⟩
  | some path =>
    have hread := d.carryOut_readFile path
    rw [show d.files.read path = .ok bytes from hgiven] at hread
    exact ⟨d, rfl, (carryOut_bind_of_ok _ hread).trans (hend _)⟩

theorem carryOut_source {d after next : Desk} {b : Arguments} {frame : Bytes}
    {target : FrameTarget} (hleft : target.Left frame d after)
    (hpassed : Passed d after b next target) :
    ∃ d', d'.output = next.output ∧ next.carryOut b.source.read = (.ok frame, d') := by
  cases hpassed with
  | raw hprinted hhex hgiven =>
    obtain ⟨hwritten⟩ := hleft
    obtain rfl := List.append_cancel_left (hprinted.symm.trans hwritten)
    exact carryOut_given hgiven (if_neg (by simp [Arguments.source, hhex]))
  | hexText hprinted hspaced hhex hgiven =>
    cases hleft with
    | hexText hwritten =>
    have hbytes := List.append_cancel_left (hprinted.symm.trans hwritten)
    rw [Text.Utf8.encode_injective hbytes] at hspaced
    exact carryOut_given hgiven ((if_pos hhex).trans (readHex_of_spaced hspaced))
  | @file path hkept hhex hpath hdash =>
    cases hleft with
    | file hwritten =>
    -- a path that counts as a dash without being one is not written to
    have hsame : Text.Path.same path "-" = false := by
      rw [← Bool.not_eq_true]
      intro hsame
      exact FileTree.write_of_endsInDirectory (Text.Path.endsInDirectory_of_same_dash hsame hdash)
        frame after.files hwritten
    have hsource : b.source.path = some path := by
      simp [Arguments.source, hpath, hsame]
    have hgiven : next.Gives frame b.source.path := by
      rw [hsource, Gives, hkept]
      exact FileTree.read_of_write hwritten
    exact carryOut_given hgiven (if_neg (by simp [Arguments.source, hhex]))

end Desk

def Start.Prints (s : Start) (d : Desk) (printed : Bytes) : Prop :=
  (d.perform s.run).1 = .success ∧ (d.perform s.run).2.output = d.output ++ printed

theorem Start.prints_report {α : Type} {s : Start} {b : Arguments} {command : Command}
    (hs : s.Reads b) (hcommand : b.command? = some command) {d d' : Desk} {frame : Bytes}
    (hread : d.carryOut b.source.read = (.ok frame, d')) (houtput : d'.output = d.output)
    {decode : Bytes → Except FormatError α} {m : α} (hdecode : decode frame = .ok m)
    {onError : FormatError → CliError} (report : Bytes → α → Bytes)
    (hrun : command.run b.logSettings (s.format b) = do
      let frame ← b.source.read
      let m ← Running.require onError (decode frame)
      Running.print (report frame m)) : s.Prints d (report frame m) := by
  rw [Prints, s.perform_run hs hcommand, hrun, Desk.carryOut_bind_of_ok _ hread,
    Desk.carryOut_require_of_ok hdecode, Desk.carryOut_print, ← houtput]
  exact ⟨rfl, d'.output_print _⟩

theorem Start.Reads.perform_encode {s : Start} {a : Arguments} (hs : s.Reads a) (d : Desk)
    (pairs : List (String × String)) (content : Bytes) (hpath : a.path = ["encode"])
    (hproperties : a.values "property" = pairs.map settingText)
    (hpairs : ∀ pair ∈ pairs, IsSetting pair)
    (hcontent : (a.payload "content" "content-file").contents d.files = .ok content) :
    ∃ ps, Properties.ofPairs pairs = .ok ps ∧
      let m : Message := { content, properties := ps }
      let after := d.perform s.run
      (after.1 = .success ↔ m.encodedSize ≤ maxFrameSize ∧ a.target.Takes d.files m.frame) ∧
        (after.1 = .success → a.target.Left m.frame d after.2) := by
  obtain ⟨ps, hps⟩ := ofPairs_of_isSetting hpairs
  have hcommand : a.command? =
      some (.encode pairs (a.payload "content" "content-file") a.target) := by
    simp only [Arguments.command?, hpath, hproperties, filterMap_readPair hpairs]
  exact ⟨ps, hps, Start.perform_of_yields hs hcommand
    (yields_encodeMessage hcontent hps a.target a.logSettings)⟩

/-- What one start of the program writes, another reads. With properties that can be given on a
command line, `encode` ends well if the frame is not too large and can be written; what `decode` is
then passed is a message with the same content and properties, of which raw form shows the content.
In the same way `control create` ends well for every URI of the scheme, and `control inspect` shows
in raw form the frame that was created. -/
theorem frames_pass {s : Start} {a : Arguments} (hs : s.Reads a) (d : Desk) :
    let after := d.perform s.run
    (∀ pairs content, a.path = ["encode"] → a.values "property" = pairs.map settingText →
      (∀ pair ∈ pairs, IsSetting pair) →
      (a.payload "content" "content-file").contents d.files = .ok content →
      ∃ ps, Properties.ofPairs pairs = .ok ps ∧
        let m : Message := { content, properties := ps }
        (after.1 = .success ↔ m.encodedSize ≤ maxFrameSize ∧ a.target.Takes d.files m.frame) ∧
        (after.1 = .success → ∀ (s' : Start) b next, s'.Reads b → b.path = ["decode"] →
          Passed d after.2 b next a.target →
          ∃ read, Message.decode m.frame = .ok read ∧ read.content = content ∧
            read.properties.toList = ps.toList ∧
            s'.Prints next (MessageReport.render read (s'.format b)) ∧
            (s'.format b = .raw → s'.Prints next content))) ∧
    (∀ uri args, a.path = ["control", "create"] → a.value? "uri" = some uri →
      ipcScheme.toList <+: uri.toList → '\x00' ∉ uri.toList →
      (a.payload "args" "args-file").contents d.files = .ok args →
      let m : ControlMessage := { body := .create { uri := ⟨ChannelUri.pairType, uri⟩, args } }
      (after.1 = .success ↔ m.encodedSize ≤ maxFrameSize ∧ a.target.Takes d.files m.frame) ∧
      (after.1 = .success → ∀ (s' : Start) b next, s'.Reads b → b.path = ["control", "inspect"] →
        Passed d after.2 b next a.target →
        s'.Prints next (ControlReport.render m m.frame (s'.format b)) ∧
        (s'.format b = .raw → s'.Prints next m.frame))) := by
  intro after
  constructor
  · intro pairs content hpath hproperties hpairs hcontent
    obtain ⟨ps, hps, hends, hleft⟩ := hs.perform_encode d pairs content hpath hproperties hpairs hcontent
    refine ⟨ps, hps, hends, ?_⟩
    intro hsuccess s' b next hs' hpath' hpassed
    obtain ⟨read, hdecode, hread, hlist⟩ := Message.decode_frame
      (m := { content, properties := ps }) (Properties.built_of_ofPairs hps) (hends.mp hsuccess).1
    obtain ⟨d', houtput, hsource⟩ := Desk.carryOut_source (hleft hsuccess) hpassed
    have hcommand' : b.command? = some (.decode b.source) := by
      simp only [Arguments.command?, hpath']
    have hprints := Start.prints_report hs' hcommand' hsource houtput hdecode
      (fun _ m => MessageReport.render m (s'.format b)) rfl
    refine ⟨read, hdecode, hread, hlist, hprints, ?_⟩
    intro hraw
    rwa [hraw, MessageReport.render, hread] at hprints
  · intro uri args hpath huri hscheme hnul hargs m
    have htyped := ofText_of_scheme hscheme hnul
    have hcommand : a.command? = some (.create uri (a.payload "args" "args-file") a.target) := by
      simp only [Arguments.command?, hpath, huri, Option.getD_some]
    obtain ⟨hends, hleft⟩ := Start.perform_of_yields hs hcommand
      (yields_createRequest htyped hargs a.target)
    refine ⟨hends, ?_⟩
    intro hsuccess s' b next hs' hpath' hpassed
    have hdecode : ControlMessage.decode m.frame = .ok m := by
      apply ControlMessage.decode_frame rfl (hends.mp hsuccess).1
      rintro request ⟨⟩
      exact ChannelUri.isTyped_of_ofTyped htyped
    obtain ⟨d', houtput, hsource⟩ := Desk.carryOut_source (hleft hsuccess) hpassed
    have hcommand' : b.command? = some (.inspect b.source) := by
      simp only [Arguments.command?, hpath']
    have hprints := Start.prints_report hs' hcommand' hsource houtput hdecode
      (fun frame m => ControlReport.render m frame (s'.format b)) rfl
    refine ⟨hprints, ?_⟩
    intro hraw
    rwa [hraw] at hprints

def greeting : Start where
  words := ["encode", "-p", "k=v", "--content", "hi", "--hex"]

def greetingReader : Start where
  words := ["decode", "--hex", "--format", "raw"]

def greetingText : String :=
  "a160" ++ "00000014000000016b00760000000002" ++ "6869\n"

def spacedGreeting : String :=
  "a160" ++ ("\t " ++ "00000014000000016b00760000000002") ++ ("\r\n" ++ "6869\n")

theorem spaced_greeting : Text.Spaced greetingText.toList spacedGreeting.toList := by
  have htab : Text.Spaced [] "\t ".toList := .blank rfl (.blank rfl .nil)
  have hline : Text.Spaced [] "\r\n".toList := .blank rfl (.blank rfl .nil)
  simp only [greetingText, spacedGreeting, String.toList_append]
  exact ((Text.Spaced.refl _).append (htab.append (.refl _))).append (hline.append (.refl _))

theorem frames_pass_spaced_greeting :
    let after := ({} : Desk).perform greeting.run
    after.1 = .success ∧ after.2.output = Text.Utf8.encode greetingText ∧
      greetingReader.Prints { input := Text.Utf8.encode spacedGreeting }
        (Text.Utf8.encode "hi") := by
  intro after
  have hreads : greeting.Reads
      ⟨["encode"], [⟨"property", "k=v", true⟩, ⟨"content", "hi", true⟩, ⟨"hex", "", true⟩]⟩ := by
    unfold Start.Reads
    decide +kernel
  have hreads' : greetingReader.Reads ⟨["decode"],
      [⟨"hex", "", true⟩, ⟨"format", "raw", true⟩]⟩ := by
    unfold Start.Reads
    decide +kernel
  have hpairs : ∀ pair ∈ [("k", "v")], IsSetting pair := by
    intro pair hmem
    obtain rfl := List.mem_singleton.mp hmem
    exact ⟨by decide, by decide, by decide, by decide⟩
  obtain ⟨ps, hps, hends, hleft⟩ := hreads.perform_encode {} [("k", "v")] (Text.Utf8.encode "hi")
    rfl rfl hpairs rfl
  have hlist : ps.toList = [("k", "v")] := by
    obtain ⟨_, rfl⟩ := Properties.ofPairs_eq_ok_iff.mp hps
    exact Properties.toList_putAll_empty _
  have hsize : ps.size = 1 := Array.length_toList.symm.trans (congrArg List.length hlist)
  have hsuccess : after.1 = .success := by
    refine hends.mpr ⟨?_, nofun⟩
    simp only [Message.encodedSize, Properties.encodedSize, hlist]
    decide +kernel
  have hprinted : after.2.output = Text.Utf8.encode greetingText := by
    cases hleft hsuccess with
    | hexText hwritten =>
      rw [hwritten]
      simp only [Message.frame, Message.encodedSize, Properties.encodedSize, hsize, hlist]
      decide +kernel
  obtain ⟨ps, _, _, hreading⟩ := (frames_pass hreads {}).1 [("k", "v")] (Text.Utf8.encode "hi") rfl
    rfl hpairs rfl
  have hpassed : Passed {} after.2 ⟨["decode"], [⟨"hex", "", true⟩, ⟨"format", "raw", true⟩]⟩
      { input := Text.Utf8.encode spacedGreeting } .hexText := by
    have hadded : after.2.output = ({} : Desk).output ++ Text.Utf8.encode greetingText := hprinted
    exact .hexText hadded spaced_greeting rfl rfl
  obtain ⟨_, _, _, _, _, hraw⟩ := hreading hsuccess greetingReader _ _ hreads' rfl hpassed
  exact ⟨hsuccess, hprinted, hraw rfl⟩

end ModuleProxy.Cli
