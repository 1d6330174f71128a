namespace ModuleProxy

structure Fifo (α : Type) where
  items : Array α := #[]
  taken : Nat := 0

namespace Fifo

variable {α : Type}

def toList (q : Fifo α) : List α :=
  q.items.toList.drop q.taken

def size (q : Fifo α) : Nat :=
  q.items.size - q.taken

def isEmpty (q : Fifo α) : Bool :=
  q.size == 0

def push (q : Fifo α) (a : α) : Fifo α :=
  if q.isEmpty then ⟨#[a], 0⟩ else { q with items := q.items.push a }

def append (q : Fifo α) (as : List α) : Fifo α :=
  if q.isEmpty then ⟨as.toArray, 0⟩ else { q with items := q.items ++ as }

def trim (q : Fifo α) : Fifo α :=
  if 2 * q.taken > q.items.size then ⟨q.items.extract q.taken, 0⟩ else q

def pop? (q : Fifo α) : Option (α × Fifo α) :=
  match q.items[q.taken]? with
  | none => none
  | some a => some (a, { q with taken := q.taken + 1 }.trim)

def splitAt (q : Fifo α) (n : Nat) : List α × Fifo α :=
  ((q.items.extract q.taken (q.taken + n)).toList, { q with taken := q.taken + n }.trim)

@[simp] theorem length_toList (q : Fifo α) : q.toList.length = q.size := by
  simp [toList, size]

theorem isEmpty_iff (q : Fifo α) : q.isEmpty = true ↔ q.toList = [] := by
  rw [← List.length_eq_zero_iff, length_toList, isEmpty, beq_iff_eq]

@[simp] theorem toList_append (q : Fifo α) (as : List α) :
    (q.append as).toList = q.toList ++ as := by
  unfold append
  split
  · rename_i h
    rw [q.isEmpty_iff.mp h]
    simp [toList]
  · rename_i h
    have : q.taken ≤ q.items.toList.length := by
      simp only [isEmpty, size, beq_iff_eq] at h
      simp only [Array.length_toList]
      omega
    simp only [toList, Array.toList_appendList, List.drop_append_of_le_length this]

@[simp] theorem toList_push (q : Fifo α) (a : α) : (q.push a).toList = q.toList ++ [a] := by
  have := q.toList_append [a]
  unfold append at this
  unfold push
  split <;> simp_all [toList]

@[simp] theorem toList_trim (q : Fifo α) : q.trim.toList = q.toList := by
  unfold trim
  split
  · simp [toList, List.take_of_length_le]
  · rfl

theorem pop?_eq_none_iff (q : Fifo α) : q.pop? = none ↔ q.toList = [] := by
  unfold pop? toList
  split
  · rename_i h
    simpa using h
  · rename_i h
    have := (Array.getElem?_eq_some_iff.mp h).1
    simp only [reduceCtorEq, List.drop_eq_nil_iff, Array.length_toList, false_iff]
    omega

theorem toList_of_pop? {q rest : Fifo α} {a : α} (h : q.pop? = some (a, rest)) :
    q.toList = a :: rest.toList := by
  unfold pop? at h
  split at h
  · cases h
  · rename_i ha
    cases h
    rw [toList_trim]
    simp only [toList]
    rw [← Array.getElem?_toList] at ha
    obtain ⟨hlt, hget⟩ := List.getElem?_eq_some_iff.mp ha
    rw [← hget, List.drop_eq_getElem_cons hlt]

theorem splitAt_eq (q : Fifo α) (n : Nat) :
    (q.splitAt n).1 = q.toList.take n ∧ (q.splitAt n).2.toList = q.toList.drop n := by
  constructor
  · simp [splitAt, toList, List.take_drop]
  · rw [splitAt, toList_trim]
    simp [toList]

end Fifo

end ModuleProxy
