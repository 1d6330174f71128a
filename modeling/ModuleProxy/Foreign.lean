import ModuleProxy.Control.Message
import ModuleProxy.Message.Format

/-!
The calls for programs in other languages. Arguments may be null, texts come as bytes, results go
to places that the caller points to, and most calls answer with a code. The text of the last failure
is kept beside those places; a call that answers with a code leaves no text where it went well.

A pointer to something that is only read is `some` of what is there, a pointer to a place for a
result is `some` of that place, and a null pointer is `none`.
-/

namespace ModuleProxy.Foreign

inductive Code where
  | ok
  | nullArgument
  | invalidHeader
  | invalidFrameSize
  | invalidPropertyCount
  | unterminatedProperty
  | truncatedField
  | contentSizeMismatch
  | invalidChannelUri
  | invalidArgument
  | invalidUtf8
  | frameTooLarge
  | unknownControlKind
  | unsupportedVersion
  | invalidReplyStatus
  | internal
  deriving DecidableEq, Repr

namespace Code

def number : Code → Nat
  | .ok => 0
  | .nullArgument => 1
  | .invalidHeader => 2
  | .invalidFrameSize => 3
  | .invalidPropertyCount => 4
  | .unterminatedProperty => 5
  | .truncatedField => 6
  | .contentSizeMismatch => 7
  | .invalidChannelUri => 8
  | .invalidArgument => 9
  | .invalidUtf8 => 10
  | .frameTooLarge => 11
  | .unknownControlKind => 12
  | .unsupportedVersion => 13
  | .invalidReplyStatus => 14
  | .internal => 99

def ofFormat : FormatError → Code
  | .missingArgument _ => .nullArgument
  | .wrongSignature _ => .invalidHeader
  | .sizeBelowMinimum .. => .invalidFrameSize
  | .badPropertyCount _ => .invalidPropertyCount
  | .unterminatedProperty .. => .unterminatedProperty
  | .truncated .. => .truncatedField
  | .unterminatedField _ => .invalidChannelUri
  | .sizeMismatch .. => .contentSizeMismatch
  | .notAChannelUri _ => .invalidChannelUri
  | .notUtf8 _ => .invalidUtf8
  | .nulInProperty _ => .invalidArgument
  | .frameTooLarge .. => .frameTooLarge
  | .unexpectedControlKind .. => .unknownControlKind
  | .unknownControlKind _ => .unknownControlKind
  | .unsupportedVersion _ => .unsupportedVersion
  | .unknownReplyStatus _ => .invalidReplyStatus

end Code

inductive Fault where
  | format (e : FormatError)
  | invalid (text : String)
  deriving DecidableEq, Repr

namespace Fault

def null (name : String) : Fault :=
  .format (.missingArgument name)

def code : Fault → Code
  | .format e => .ofFormat e
  | .invalid _ => .invalidArgument

def text : Fault → String
  | .format e => e.message
  | .invalid text => text

theorem code_ne_ok (f : Fault) : f.code ≠ .ok := by
  cases f with
  | format e => cases e <;> simp [code, Code.ofFormat]
  | invalid text => simp [code]

def shownText (f : Fault) : String :=
  String.ofList (f.text.toList.map fun c => if c = '\x00' then '?' else c)

end Fault

structure Buffer where
  data : Option Bytes := none
  size : Nat := 0
  deriving DecidableEq, Repr

def Buffer.ofBytes (raw : Bytes) : Buffer :=
  if raw.isEmpty then {} else { data := some raw, size := raw.length }

/-- A message as callers hold it, its properties as texts that a NUL ends. -/
structure Handle where
  message : Message
  texts : List (Bytes × Bytes)

namespace Handle

/-- A text that holds a NUL cannot be ended by one, and is given as empty. -/
def terminated (text : String) : Bytes :=
  let raw := Text.Utf8.encode text
  if raw.contains 0 then [] else raw

def ofMessage (m : Message) : Handle where
  message := m
  texts := m.properties.toList.map fun entry => (terminated entry.1, terminated entry.2)

end Handle

structure Caller (π : Type) where
  lastError : String := ""
  handles : π → Option Handle := fun _ => none
  buffers : π → Buffer := fun _ => {}
  bytes : π → UInt8 := fun _ => 0
  texts : π → Option Bytes := fun _ => none
  sizes : π → Nat := fun _ => 0

def Call (π α : Type) : Type :=
  Caller π → Except Code α × Caller π

namespace Call

variable {π α β : Type}

protected def pure (a : α) : Call π α :=
  fun c => (.ok a, c)

protected def bind (x : Call π α) (f : α → Call π β) : Call π β := fun c =>
  match x c with
  | (.ok a, c) => f a c
  | (.error code, c) => (.error code, c)

instance : Monad (Call π) where
  pure := Call.pure
  bind := Call.bind

def change (f : Caller π → Caller π) : Call π Unit :=
  fun c => (.ok (), f c)

def check (x : Except Fault α) : Call π α := fun c =>
  match x with
  | .ok a => (.ok a, c)
  | .error f => (.error f.code, { c with lastError := f.shownText })

def attempt (x : Call π α) : Call π (Except Code α) :=
  fun c => (.ok (x c).1, (x c).2)

def ofResult (x : Except Code α) : Call π α :=
  fun c => (x, c)

theorem change_bind (f : Caller π → Caller π) (g : Unit → Call π β) :
    (change f >>= g) = fun c => g () (f c) := rfl

@[simp] theorem check_ok_bind (a : α) (g : α → Call π β) : (check (.ok a) >>= g) = g a := rfl

theorem attempt_bind (x : Call π α) (g : Except Code α → Call π β) :
    (attempt x >>= g) = fun c => g (x c).1 (x c).2 := rfl

def answer (x : Call π Unit) (c : Caller π) : Code × Caller π :=
  match x c with
  | (.ok (), c) => (.ok, c)
  | (.error code, c) => (code, c)

def valueOr (otherwise : α) (x : Call π α) (c : Caller π) : α × Caller π :=
  ((x c).1.toOption.getD otherwise, (x c).2)

end Call

open Call

def ofFormat {α : Type} : Except FormatError α → Except Fault α
  | .ok a => .ok a
  | .error e => .error (.format e)

def pointer {α : Type} (name : String) : Option α → Except Fault α
  | none => .error (.null name)
  | some a => .ok a

def text (name : String) : Option Bytes → Except Fault String
  | none => .error (.null name)
  | some raw =>
    match Text.Utf8.decode? raw with
    | none => .error (.invalid (name ++ " must be valid UTF-8"))
    | some text => .ok text

def bytes (name : String) (data : Option Bytes) (size : Nat) : Except Fault Bytes :=
  if size = 0 then .ok []
  else
    match data with
    | none => .error (.null name)
    | some data => .ok (data.take size)

def texts (name : String) (items : Option (List (Option Bytes))) (count : Nat) :
    Except Fault (List String) :=
  if count = 0 then .ok []
  else
    match items with
    | none => .error (.null name)
    | some items => (items.take count).mapM (text name)

variable {π : Type} [DecidableEq π]

def put {α : Type} (place : π) (a : α) (places : π → α) : π → α :=
  fun p => if p = place then a else places p

def clearError : Call π Unit :=
  change fun c => { c with lastError := "" }

def setHandle (place : π) (h : Handle) : Call π Unit :=
  change fun c => { c with handles := put place (some h) c.handles }

def setBuffer (place : π) (b : Buffer) : Call π Unit :=
  change fun c => { c with buffers := put place b c.buffers }

def setByte (place : π) (b : UInt8) : Call π Unit :=
  change fun c => { c with bytes := put place b c.bytes }

def offerByte (out : Option π) (b : UInt8) : Call π Unit :=
  match out with
  | none => pure ()
  | some place => setByte place b

def setText (place : π) (raw : Bytes) : Call π Unit :=
  change fun c => { c with texts := put place (some raw) c.texts }

def setSize (place : π) (size : Nat) : Call π Unit :=
  change fun c => { c with sizes := put place size c.sizes }

def writeHandle (out : Option π) (m : Message) : Call π Unit := do
  let place ← check (pointer "out" out)
  setHandle place (.ofMessage m)

def writeBuffer (out : Option π) (raw : Bytes) : Call π Unit := do
  let place ← check (pointer "out" out)
  setBuffer place {}
  setBuffer place (.ofBytes raw)

def version : String := "0.1.0"

def init : Call π Unit :=
  clearError

def cleanup : Call π Unit :=
  clearError

/-- All arguments are looked at, and each that is wrong leaves its text. -/
def messageCreate (content : Option Bytes) (size : Nat) (keys values : Option (List (Option Bytes)))
    (count : Nat) (out : Option π) : Call π Unit := do
  clearError
  let content ← attempt (check (bytes "content" content size))
  let keys ← attempt (check (texts "keys" keys count))
  let values ← attempt (check (texts "values" values count))
  let content ← ofResult content
  let keys ← ofResult keys
  let values ← ofResult values
  let properties ← check (ofFormat (Properties.ofPairs (keys.zip values)))
  writeHandle out { content, properties }

def messageDecode (data : Option Bytes) (size : Nat) (out : Option π) : Call π Unit := do
  clearError
  let data ← check (pointer "data" data)
  let frame ← check (bytes "data" (some data) size)
  let m ← check (ofFormat (Message.decode frame))
  writeHandle out m

def messageEncode (h : Option Handle) (out : Option π) : Call π Unit := do
  clearError
  let h ← check (pointer "message" h)
  let frame ← check (ofFormat h.message.encode)
  writeBuffer out frame

def messageCopy (h : Option Handle) (out : Option π) : Call π Unit := do
  clearError
  let h ← check (pointer "message" h)
  writeHandle out h.message

def messageEncodedSize (h : Option Handle) : Call π Nat := do
  let h ← check (pointer "message" h)
  return h.message.encodedSize

def messagePropertyCount (h : Option Handle) : Call π Nat := do
  let h ← check (pointer "message" h)
  return h.texts.length

def messageContent (h : Option Handle) (size : Option π) : Call π Bytes := do
  let place ← check (pointer "out_len" size)
  let h ← check (pointer "message" h)
  setSize place h.message.content.length
  return h.message.content

def propertyAt (h : Handle) (index : Nat) : Except Fault (Bytes × Bytes) :=
  match h.texts[index]? with
  | none =>
    .error (.invalid ("property index " ++ toString index ++ " out of range (" ++
      toString h.texts.length ++ " properties)"))
  | some entry => .ok entry

def messagePropertyAt (h : Option Handle) (index : Nat) (key value : Option π) : Call π Unit := do
  clearError
  let key ← check (pointer "out" key)
  let value ← check (pointer "out" value)
  let h ← check (pointer "message" h)
  let entry ← check (propertyAt h index)
  setText key entry.1
  setText value entry.2

def messageGetProperty (h : Option Handle) (key : Option Bytes) : Call π (Option Bytes) := do
  clearError
  let key ← check (text "key" key)
  let h ← check (pointer "message" h)
  return h.texts.lookup (Text.Utf8.encode key)

def messageFree (message : Option π) : Call π Unit :=
  match message with
  | none => pure ()
  | some place => change fun c => { c with handles := put place none c.handles }

def bufferFree (buffer : Option π) : Call π Unit :=
  match buffer with
  | none => pure ()
  | some place => setBuffer place {}

def encodeCreateReply (succeeded : Bool) (out : Option π) : Call π Unit := do
  clearError
  writeBuffer out (createReply succeeded)

def encodeDetach (out : Option π) : Call π Unit := do
  clearError
  writeBuffer out (replyFrame .detach)

def decodeHeader (data : Option Bytes) (size : Nat) (version code : Option π) : Call π Unit := do
  clearError
  let data ← check (pointer "data" data)
  let version ← check (pointer "out" version)
  let code ← check (pointer "out" code)
  let frame ← check (bytes "data" (some data) size)
  let header ← check (ofFormat (ControlHeader.decode frame))
  setByte version header.version
  setByte code header.code

def decodeCreate (data : Option Bytes) (size : Nat) (version uri args : Option π) :
    Call π Unit := do
  clearError
  let data ← check (pointer "data" data)
  let _ ← check (pointer "out" uri)
  let _ ← check (pointer "out" args)
  let frame ← check (bytes "data" (some data) size)
  let request ← check (ofFormat (CreateFrame.decode frame))
  offerByte version request.body.messageVersion
  writeBuffer uri (Text.Utf8.encode request.body.uri.text)
  writeBuffer args request.body.args

def encodeCreate (uri args : Option Bytes) (size : Nat) (out : Option π) : Call π Unit := do
  clearError
  let uri ← attempt (check (text "uri" uri))
  let args ← attempt (check (bytes "args" args size))
  let uri ← ofResult uri
  let args ← ofResult args
  let uri ← check (ofFormat (ChannelUri.ofText uri))
  let frame ← check (ofFormat (ControlMessage.encode { body := .create { uri, args } }))
  writeBuffer out frame

end ModuleProxy.Foreign
