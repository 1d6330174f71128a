namespace ModuleProxy.Text

abbrev CodeRange := Nat × Nat

structure CodeSet where
  ranges : Array CodeRange
  deriving Repr

namespace CodeSet

def search (ranges : Array CodeRange) (code low high : Nat) (h : high ≤ ranges.size) : Bool :=
  if hlt : low < high then
    let middle := (low + high) / 2
    have : middle < ranges.size := by omega
    if code < ranges[middle].1 then search ranges code low middle (by omega)
    else if ranges[middle].2 < code then search ranges code (middle + 1) high h
    else true
  else false
  termination_by high - low

def contains (s : CodeSet) (c : Char) : Bool :=
  search s.ranges c.toNat 0 s.ranges.size (Nat.le_refl _)

end CodeSet

end ModuleProxy.Text
