namespace ModuleProxy

variable {ε α β : Type}

@[simp] theorem bind_eq_ok_iff {x : Except ε α} {f : α → Except ε β} {b : β} :
    (x >>= f) = .ok b ↔ ∃ a, x = .ok a ∧ f a = .ok b := by
  cases x with
  | error e => simp [bind, Except.bind]
  | ok a => simp [bind, Except.bind]

theorem bind_eq_error_iff {x : Except ε α} {f : α → Except ε β} {e : ε} :
    (x >>= f) = .error e ↔ x = .error e ∨ ∃ a, x = .ok a ∧ f a = .error e := by
  cases x with
  | error e => simp [bind, Except.bind]
  | ok a => simp [bind, Except.bind]

@[simp] theorem map_eq_ok_iff {x : Except ε α} {f : α → β} {b : β} :
    f <$> x = .ok b ↔ ∃ a, x = .ok a ∧ f a = b := by
  cases x with
  | error e => simp [Functor.map, Except.map]
  | ok a => simp [Functor.map, Except.map]

@[simp] theorem pure_eq_ok_iff {a b : α} : (pure a : Except ε α) = .ok b ↔ a = b := by
  simp [pure, Except.pure]

@[simp] theorem ok_bind_eq {a : α} {f : α → Except ε β} :
    (Except.ok a >>= f : Except ε β) = f a := rfl

@[simp] theorem throw_bind_eq {e : ε} {f : α → Except ε β} :
    (throw e >>= f : Except ε β) = throw e := rfl

@[simp] theorem throw_if_eq_ok_iff {p : Prop} [Decidable p] {e : ε} {x : Except ε α} {a : α} :
    (if p then throw e else x) = .ok a ↔ ¬p ∧ x = .ok a := by
  by_cases hp : p <;> simp [hp, throw, throwThe, MonadExceptOf.throw]

@[simp] theorem throw_unless_eq_ok_iff {p : Prop} [Decidable p] {e : ε} {x : Except ε α}
    {a : α} : (if p then x else throw e) = .ok a ↔ p ∧ x = .ok a := by
  by_cases hp : p <;> simp [hp, throw, throwThe, MonadExceptOf.throw]

end ModuleProxy
