import ModuleProxy.Text.Ligature

/-!
How many columns of a terminal a line takes. They are the sum over its characters, but for those
drawn as one: a character in the form that a selector after it asks for, a sequence of pictures,
and a ligature. What a character adds depends on what comes after it alone, so a line is measured
from its end.
-/

namespace ModuleProxy.Text

inductive Form where
  | picture
  | text
  | fullWidth
  deriving DecidableEq, Repr

def Form.ofSelector? (c : Char) : Option Form :=
  match c with
  | '\ufe0f' => some .picture
  | '\ufe0e' => some .text
  | '\ufe01' => some .fullWidth
  | _ => none

def isQuotationMark (c : Char) : Bool :=
  c == '\u2018' || c == '\u2019' || c == '\u201c' || c == '\u201d'

inductive Sign where
  | plain
  | letter (start : LetterStart)
  | picture (start : PictureStart)
  deriving DecidableEq, Repr

structure LineStart where
  form : Option Form
  sign : Sign
  deriving DecidableEq, Repr

structure Measured where
  columns : Int
  start : LineStart
  deriving DecidableEq, Repr

namespace Sign

def ofChar (c : Char) : Sign :=
  if c < '\u0300' then plain
  else
    match LetterStart.ofChar? c, PictureStart.ofChar? c with
    | some s, _ => letter s
    | none, some s => picture s
    | none, none => plain

def behindSelector (s : Sign) (form : Form) : LineStart :=
  match s, form with
  | .letter _, _ => ⟨some form, s⟩
  | .picture .joined, .picture => ⟨some form, s⟩
  | .picture .joinedFrame, .picture => ⟨some form, s⟩
  | _, _ => ⟨some form, plain⟩

def behindIdleSelector : Sign → Sign
  | .letter s => .letter s
  | _ => .plain

def before (s : Sign) (c : Char) : Measured :=
  let alone : Measured := ⟨columns c, none, ofChar c⟩
  match Form.ofSelector? c with
  | some form => ⟨0, s.behindSelector form⟩
  | none =>
    match s with
    | .plain => alone
    | .letter s =>
      match s.before c with
      | some (n, some t) => ⟨n, none, .letter t⟩
      | some (n, none) => ⟨n, none, .plain⟩
      | none => alone
    | .picture s =>
      match s.before c with
      | some (n, t) => ⟨n, none, .picture t⟩
      | none => alone

end Sign

/-- What a character adds to the line after it. A picture before joined ones has been counted with
them. -/
def LineStart.before (s : LineStart) (c : Char) : Measured :=
  match s.form with
  | none => s.sign.before c
  | some .picture =>
    if hasPicture c then
      match s.sign with
      | .picture _ => ⟨0, none, .picture .picture⟩
      | _ => ⟨2, none, .picture .picture⟩
    else s.sign.behindIdleSelector.before c
  | some .text =>
    if narrowPictographs.contains c then ⟨1, none, .plain⟩
    else s.sign.behindIdleSelector.before c
  | some .fullWidth =>
    if isQuotationMark c then ⟨2, none, .plain⟩ else s.sign.behindIdleSelector.before c

namespace Measured

def empty : Measured :=
  ⟨0, none, .plain⟩

def cons (c : Char) (m : Measured) : Measured :=
  let added := m.start.before c
  ⟨added.columns + m.columns, added.start⟩

end Measured

def width (line : String) : Nat :=
  (line.toList.foldr Measured.cons .empty).columns.toNat

end ModuleProxy.Text
