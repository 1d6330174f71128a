import ModuleProxy.Cli.Desk

namespace ModuleProxy.Cli

namespace Desk

variable {α β ε : Type}

theorem perform_bind (x : Action α) (f : α → Action β) (d : Desk) :
    d.perform (x >>= f) = (d.perform x).2.perform (f (d.perform x).1) := by
  change d.perform (x.bind f) = _
  induction x generalizing d with
  | done value => rfl
  | readFile path next ih | readInput next ih | writeFile path content next ih
  | listen request next ih | serve next ih | leave next ih => exact ih _ _
  | print output next ih | tell line next ih => exact ih _

def carryOut (d : Desk) (x : Running α) : Except CliError α × Desk :=
  d.perform x.run

theorem carryOut_bind (d : Desk) (x : Running α) (f : α → Running β) :
    d.carryOut (x >>= f) =
      match d.carryOut x with
      | (.ok a, d) => d.carryOut (f a)
      | (.error e, d) => (.error e, d) := by
  change d.perform (x.run >>= ExceptT.bindCont f) = _
  rw [perform_bind, carryOut]
  rcases d.perform x.run with ⟨e | a, d'⟩ <;> rfl

theorem carryOut_bind_of_ok {d d' : Desk} {x : Running α} {a : α} (f : α → Running β)
    (h : d.carryOut x = (.ok a, d')) : d.carryOut (x >>= f) = d'.carryOut (f a) := by
  rw [carryOut_bind, h]

theorem carryOut_bind_of_error {d d' : Desk} {x : Running α} {e : CliError} (f : α → Running β)
    (h : d.carryOut x = (.error e, d')) : d.carryOut (x >>= f) = (.error e, d') := by
  rw [carryOut_bind, h]

theorem carryOut_require_of_ok {onError : ε → CliError} {result : Except ε α} {a : α}
    (h : result = .ok a) (f : α → Running β) (d : Desk) :
    d.carryOut (Running.require onError result >>= f) = d.carryOut (f a) := by
  subst h
  exact carryOut_bind_of_ok f rfl

theorem carryOut_require_of_error {onError : ε → CliError} {result : Except ε α} {e : ε}
    (h : result = .error e) (f : α → Running β) (d : Desk) :
    d.carryOut (Running.require onError result >>= f) = (.error (onError e), d) := by
  subst h
  exact carryOut_bind_of_error f rfl

theorem carryOut_readFile (d : Desk) (path : String) :
    d.carryOut (Running.readFile path) =
      ((d.files.read path).mapError (.ofIo ("failed reading " ++ path)), d) := rfl

theorem carryOut_readInput (d : Desk) (onError : IoError → CliError) :
    d.carryOut (Running.step onError .readInput) = (.ok d.input, { d with input := [] }) := rfl

theorem carryOut_writeFile (d : Desk) (path : String) (content : Bytes) :
    d.carryOut (Running.writeFile path content) =
      ((d.writeFile path content).1.mapError (.ofIo ("failed writing " ++ path)),
        (d.writeFile path content).2) := rfl

theorem carryOut_print (d : Desk) (output : Bytes) :
    d.carryOut (Running.print output) = (.ok (), { d with printed := output :: d.printed }) := rfl

def withTold (d : Desk) (told : List String) : Desk :=
  { d with told }

theorem carryOut_log (d : Desk) (settings : LogSettings) (event : LogEvent) :
    ∃ told, d.carryOut (Running.log settings event) = (.ok (), d.withTold told) := by
  unfold Running.log
  split
  · exact ⟨d.told, rfl⟩
  · rename_i line _
    exact ⟨line :: d.told, rfl⟩

end Desk

end ModuleProxy.Cli
