import ModuleProxy.Text.Columns
import ModuleProxy.Text.PictureSequence

namespace ModuleProxy.Text

def lams : CodeSet where
  ranges := #[(0x644, 0x644), (0x6B5, 0x6B8), (0x76A, 0x76A), (0x8A6, 0x8A6), (0x8C7, 0x8C7)]

def alefs : CodeSet where
  ranges := #[
    (0x622, 0x623), (0x625, 0x625), (0x627, 0x627), (0x671, 0x673), (0x675, 0x675),
    (0x773, 0x774), (0x870, 0x882)
  ]

def subscriptLetters : CodeSet where
  ranges := #[
    (0x1780, 0x1782), (0x1784, 0x1787), (0x1789, 0x178C), (0x178E, 0x1793), (0x1795, 0x1798),
    (0x179B, 0x179D), (0x17A0, 0x17A0), (0x17A2, 0x17A2), (0x17A7, 0x17A7), (0x17AB, 0x17AC),
    (0x17AF, 0x17AF)
  ]

def tifinaghConsonants : CodeSet where
  ranges := #[(0x2D31, 0x2D65), (0x2D6F, 0x2D6F)]

def unseenMarks : CodeSet where
  ranges := #[
    (0x34F, 0x34F), (0x17B4, 0x17B5), (0x180B, 0x180D), (0x180F, 0x180F), (0xFE00, 0xFE0F),
    (0xE0100, 0xE01EF)
  ]

inductive LetterStart where
  | alef
  | lamed
  | joinedLamed
  | subscript
  | ya
  | joinedYa
  | vowelAndYa
  | tifinagh
  | joinedTifinagh
  | joinerAndTifinagh
  | lisuTone
  | orkhonI
  | joinedOrkhonI
  | vowelE
  | vowelAi
  deriving DecidableEq, Repr

namespace LetterStart

def ofChar? (c : Char) : Option LetterStart :=
  if alefs.contains c then some alef
  else if c == '\u05dc' then some lamed
  else if subscriptLetters.contains c then some subscript
  else if c == '\u1a10' then some ya
  else if tifinaghConsonants.contains c then some tifinagh
  else if c == '\ua4fc' || c == '\ua4fd' then some lisuTone
  else if c.toNat == 0x10C03 then some orkhonI
  else if c.toNat == 0x16D67 then some vowelE
  else if c.toNat == 0x16D68 then some vowelAi
  else none

def behindJoiner : LetterStart → LetterStart
  | .lamed => .joinedLamed
  | .ya => .joinedYa
  | .tifinagh => .joinedTifinagh
  | .orkhonI => .joinedOrkhonI
  | s => s

def beforeLetter (s : LetterStart) (c : Char) : Option (Int × Option LetterStart) :=
  let joins (condition : Bool) := if condition then some (0, none) else none
  match s with
  | .alef =>
    if lams.contains c then some (0, none)
    else if isTransparent c then some (0, some alef)
    else none
  | .lamed => none
  | .joinedLamed => joins (c == '\u05d0')
  | .subscript => if c == '\u17d2' then some (-1, none) else none
  | .ya => none
  | .joinedYa => if c == '\u1a17' then some (0, some vowelAndYa) else none
  | .vowelAndYa => joins (c == '\u1a15')
  | .tifinagh => if c == '\u2d7f' then some (1, some joinerAndTifinagh) else none
  | .joinedTifinagh =>
    if c == '\u2d7f' then some (1, some joinerAndTifinagh)
    else joins (tifinaghConsonants.contains c)
  | .joinerAndTifinagh => if tifinaghConsonants.contains c then some (-1, none) else none
  | .lisuTone => joins ('\ua4f8' ≤ c && c ≤ '\ua4fb')
  | .orkhonI => none
  | .joinedOrkhonI => joins (c.toNat == 0x10C32)
  | .vowelE =>
    if c.toNat == 0x16D67 then some (0, some vowelAi)
    else if c.toNat == 0x16D68 then some (1, some vowelE)
    else joins (c.toNat == 0x16D63 || c.toNat == 0x16D69)
  | .vowelAi => joins (c.toNat == 0x16D63)

def before (s : LetterStart) (c : Char) : Option (Int × Option LetterStart) :=
  if s == .alef then s.beforeLetter c
  else if c == joiner then some (0, some s.behindJoiner)
  else if unseenMarks.contains c then some (0, some s)
  else s.beforeLetter c

end LetterStart

end ModuleProxy.Text
