import ModuleProxy.Text.Pictograph

namespace ModuleProxy.Text

def joiner : Char :=
  '\u200d'

inductive PictureStart where
  | tone
  | regional
  | regionals
  | picture
  | joined
  | joinedFrame
  | joinedRegional
  | joinedFlags
  | joinedFlagsAfterRegional
  | joinedLetterTags (count : Nat)
  | joinedDigitTags (count : Nat)
  deriving DecidableEq, Repr

namespace PictureStart

def ofChar? (c : Char) : Option PictureStart :=
  if isTone c then some .tone
  else if isRegional c then some .regional
  else if pictographs.contains c then some .picture
  else none

def isKeyFrame (c : Char) : Bool :=
  c == '\u20e3'

def isBlackFlag (c : Char) : Bool :=
  c.toNat == 0x1F3F4

def isLetterTag (c : Char) : Bool :=
  0xE0061 ≤ c.toNat && c.toNat ≤ 0xE007A

def isDigitTag (c : Char) : Bool :=
  0xE0030 ≤ c.toNat && c.toNat ≤ 0xE0039

def isEndTag (c : Char) : Bool :=
  c.toNat == 0xE007F

def before (s : PictureStart) (c : Char) : Option (Int × PictureStart) :=
  let orJoined := if c == joiner then some (0, joined) else none
  match s with
  | .tone => if toneBases.contains c then some (0, picture) else orJoined
  | .regional => if isRegional c then some (1, regionals) else none
  | .regionals => if isRegional c then some (1, regionals) else orJoined
  | .picture => orJoined
  | .joined =>
    if isKeyFrame c then some (0, joinedFrame)
    else if isTone c then some (0, tone)
    else if isRegional c then some (1, joinedRegional)
    else if isEndTag c then some (0, joinedLetterTags 0)
    else if pictographs.contains c then some (0, picture)
    else none
  | .joinedFrame => none
  | .joinedRegional => if isRegional c then some (-1, joinedFlags) else none
  | .joinedFlags => if isRegional c then some (3, joinedFlagsAfterRegional) else orJoined
  | .joinedFlagsAfterRegional => if isRegional c then some (-1, joinedFlags) else orJoined
  | .joinedLetterTags n =>
    if isLetterTag c && n < 6 then some (0, joinedLetterTags (n + 1))
    else if isDigitTag c && n < 5 then some (0, joinedDigitTags 1)
    else if isBlackFlag c && 3 ≤ n then some (0, picture)
    else none
  | .joinedDigitTags n =>
    if isDigitTag c && n < 3 then some (0, joinedDigitTags (n + 1))
    else if isBlackFlag c && n == 3 then some (0, picture)
    else none

end PictureStart

end ModuleProxy.Text
