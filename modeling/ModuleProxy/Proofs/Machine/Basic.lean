import ModuleProxy.Frame.Split
import ModuleProxy.Proofs.Field

/-!
Reading on a machine: by positions that are computed in words of 64 bits. What is read beyond the
end of a buffer, and arithmetic that leaves the words, traps. `Agrees` compares such a reading with
one on lists, where nothing can trap.
-/

namespace ModuleProxy.Machine

inductive Trap where
  | outOfRange
  | belowZero
  | overflow
  deriving DecidableEq, Repr

abbrev Decoder (α : Type) := ExceptT FormatError (Except Trap) α

variable {α β γ δ : Type}

def trap (t : Trap) : Decoder α :=
  ExceptT.mk (.error t)

def wordLimit : Nat := 0x10000000000000000

def add (a b : Nat) : Decoder Nat :=
  if a + b < wordLimit then pure (a + b) else trap .overflow

def sub (a b : Nat) : Decoder Nat :=
  if b ≤ a then pure (a - b) else trap .belowZero

def entryAt (entries : List α) (index : Nat) : Decoder α :=
  match entries[index]? with
  | some entry => pure entry
  | none => trap .outOfRange

def slice (bytes : Bytes) (start stop : Nat) : Decoder Bytes :=
  if start ≤ stop ∧ stop ≤ bytes.length then pure ((bytes.drop start).take (stop - start))
  else trap .outOfRange

def splitTo (bytes : Bytes) (size : Nat) : Decoder (Bytes × Bytes) :=
  if size ≤ bytes.length then pure (bytes.take size, bytes.drop size) else trap .outOfRange

def add? (a b : Nat) : Option Nat :=
  if a + b < wordLimit then some (a + b) else none

def slice? (bytes : Bytes) (start stop : Nat) : Option Bytes :=
  if start ≤ stop ∧ stop ≤ bytes.length then some ((bytes.drop start).take (stop - start)) else none

def int32At? (bytes : Bytes) (offset : Nat) : Option Int := do
  let stop ← add? offset 4
  let field ← slice? bytes offset stop
  Bytes.signed32 <$> Bytes.leadingWord32? field

def unsigned32 (n : Int) : Nat :=
  (n % 0x100000000).toNat

def orThrow (e : FormatError) : Option α → Decoder α
  | some a => pure a
  | none => throw e

def refuseIf (p : Prop) [Decidable p] (e : FormatError) : Decoder Unit :=
  if p then throw e else pure ()

def ofExcept : Except FormatError α → Decoder α
  | .ok a => pure a
  | .error e => throw e

/-- It does not trap. Its faults are those of the other reading, and its values related to that
one's. -/
inductive Agrees (R : α → β → Prop) : Decoder α → Except FormatError β → Prop where
  | value {a : α} {b : β} (h : R a b) : Agrees R (pure a) (.ok b)
  | fault (e : FormatError) : Agrees R (throw e) (.error e)

namespace Agrees

variable {R : α → β → Prop} {S : γ → δ → Prop} {x : Decoder α} {y : Except FormatError β}

theorem bind {f : α → Decoder γ} {g : β → Except FormatError δ} (h : Agrees R x y)
    (hf : ∀ a b, R a b → Agrees S (f a) (g b)) : Agrees S (x >>= f) (y >>= g) := by
  cases h with
  | value h => exact hf _ _ h
  | fault e => exact .fault e

theorem imp {R' : α → β → Prop} (h : Agrees R x y) (himp : ∀ a b, R a b → R' a b) :
    Agrees R' x y := by
  cases h with
  | value h => exact .value (himp _ _ h)
  | fault e => exact .fault e

theorem step {a : α} {f : α → Decoder γ} {z : Except FormatError δ} (hx : x = pure a)
    (hf : Agrees S (f a) z) : Agrees S (x >>= f) z := by
  rw [hx]
  exact hf

theorem refuse {p q : Prop} [Decidable p] [Decidable q] {e : FormatError} {f : Unit → Decoder α}
    (hpq : p ↔ q) (h : ¬q → Agrees R (f ()) y) :
    Agrees R (refuseIf p e >>= f) (if q then throw e else y) := by
  by_cases hq : q
  · rw [if_pos hq, refuseIf, if_pos (hpq.mpr hq)]
    exact .fault e
  · rw [if_neg hq, refuseIf, if_neg (mt hpq.mp hq)]
    exact h hq

theorem demand {p q : Prop} [Decidable p] [Decidable q] {e : FormatError} {f : Unit → Decoder α}
    (hpq : p ↔ ¬q) (h : q → Agrees R (f ()) y) :
    Agrees R (refuseIf p e >>= f) (if q then y else throw e) := by
  by_cases hq : q
  · rw [if_pos hq, refuseIf, if_neg (fun hp => hpq.mp hp hq)]
    exact h hq
  · rw [if_neg hq, refuseIf, if_pos (hpq.mpr hq)]
    exact .fault e

theorem run_eq {x : Decoder β} (h : Agrees (· = ·) x y) : x.run = .ok y := by
  cases h with
  | value h =>
    subst h
    rfl
  | fault e => rfl

end Agrees

theorem agrees_ofExcept (y : Except FormatError α) : Agrees (· = ·) (ofExcept y) y := by
  cases y with
  | ok a => exact .value rfl
  | error e => exact .fault e

theorem add_eq {a b : Nat} (h : a + b < wordLimit) : add a b = pure (a + b) :=
  if_pos h

theorem sub_eq {a b : Nat} (h : b ≤ a) : sub a b = pure (a - b) :=
  if_pos h

theorem entryAt_eq {entries : List α} {index : Nat} {entry : α} (h : entries[index]? = some entry) :
    entryAt entries index = pure entry := by
  rw [entryAt, h]

theorem slice_eq {bytes : Bytes} {start stop : Nat} (h : start ≤ stop)
    (hstop : stop ≤ bytes.length) :
    slice bytes start stop = pure ((bytes.drop start).take (stop - start)) :=
  if_pos ⟨h, hstop⟩

theorem splitTo_eq {bytes : Bytes} {size : Nat} (h : size ≤ bytes.length) :
    splitTo bytes size = pure (bytes.take size, bytes.drop size) :=
  if_pos h

example : (sub 13 14).run = .error .belowZero := rfl

example : (slice [0xA1] 0 2).run = .error .outOfRange := rfl

theorem add_four_le_of_int32At? {bytes : Bytes} {offset : Nat} {n : Int}
    (h : bytes.int32At? offset = some n) : offset + 4 ≤ bytes.length := by
  obtain ⟨word, hword, -⟩ := Option.map_eq_some_iff.mp h
  have hlength := congrArg List.length (Bytes.leadingWord32?_eq_some_iff.mp hword).2
  simp only [List.length_append, Bytes.length_be32, List.length_drop] at hlength
  omega

theorem int32At?_lt {bytes : Bytes} {offset : Nat} {n : Int} (h : bytes.int32At? offset = some n) :
    n < 0x80000000 := by
  obtain ⟨word, hword, rfl⟩ := Option.map_eq_some_iff.mp h
  have hlt := (Bytes.leadingWord32?_eq_some_iff.mp hword).1
  rw [Bytes.signed32]
  split <;> omega

theorem leadingWord32?_take (bytes : Bytes) :
    Bytes.leadingWord32? (bytes.take 4) = Bytes.leadingWord32? bytes := by
  match bytes with
  | [] | [_] | [_, _] | [_, _, _] | _ :: _ :: _ :: _ :: _ => rfl

theorem int32At?_eq {bytes : Bytes} (hlength : bytes.length < wordLimit) (offset : Nat) :
    int32At? bytes offset = bytes.int32At? offset := by
  by_cases hfits : offset + 4 ≤ bytes.length
  · have hstop : add? offset 4 = some (offset + 4) := if_pos (Nat.lt_of_le_of_lt hfits hlength)
    have hfield : slice? bytes offset (offset + 4) = some ((bytes.drop offset).take 4) := by
      rw [slice?, if_pos ⟨Nat.le_add_right .., hfits⟩, Nat.add_sub_cancel_left]
    rw [int32At?, hstop, Option.bind_eq_bind, Option.bind_some, hfield, Option.bind_eq_bind,
      Option.bind_some, leadingWord32?_take]
    rfl
  · have hnone : bytes.int32At? offset = none := by
      cases h : bytes.int32At? offset with
      | none => rfl
      | some n => exact absurd (add_four_le_of_int32At? h) hfits
    have hfield : slice? bytes offset (offset + 4) = none := if_neg fun h => hfits h.2
    rw [hnone, int32At?, add?]
    split
    · rw [Option.bind_eq_bind, Option.bind_some, hfield]
      rfl
    · rfl

theorem word32At?_eq (bytes : Bytes) (offset : Nat) :
    bytes.word32At? offset = (bytes.int32At? offset).map unsigned32 := by
  rw [Bytes.int32At?, Option.map_map]
  cases h : bytes.word32At? offset with
  | none => rfl
  | some n =>
    have hn := (Bytes.leadingWord32?_eq_some_iff.mp h).1
    rw [Option.map_some, Function.comp_apply, unsigned32, Bytes.signed32, Option.some_inj]
    split <;> omega

end ModuleProxy.Machine
