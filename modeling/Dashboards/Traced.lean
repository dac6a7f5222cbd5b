/-!
# Results with a record of what happened

A stage gives a result or an error and notes on its way what it did. The notes remain when it fails.
What a composed stage gives depends on the results of its parts only (`Traced.result_bind`), so a
statement about results never has to look at the notes.
-/

namespace Dashboards

/-- How important a note is. -/
inductive Note.Level where
  | debug | info
deriving DecidableEq

/-- A note of what happened. -/
structure Note where
  level : Note.Level
  text : String
deriving DecidableEq

/-- The note as one line. -/
def Note.line (note : Note) : String :=
  (match note.level with
    | .debug => "DEBUG "
    | .info => "INFO ") ++ note.text

/-- A result or an error, and the notes up to it. -/
structure Traced (ε α : Type) where
  notes : List Note
  result : Except ε α

namespace Traced

variable {ε α β : Type}

/-- A result without notes. -/
def pure (a : α) : Traced ε α := ⟨[], .ok a⟩

/-- One stage after the other, unless the first fails. -/
def bind (x : Traced ε α) (f : α → Traced ε β) : Traced ε β :=
  match x.result with
  | .ok a => ⟨x.notes ++ (f a).notes, (f a).result⟩
  | .error e => ⟨x.notes, .error e⟩

instance : Monad (Traced ε) where
  pure := pure
  bind := bind

/-- A result or an error without notes. -/
def lift (result : Except ε α) : Traced ε α := ⟨[], result⟩

/-- Notes what happened. -/
def debug (text : String) : Traced ε Unit := ⟨[⟨.debug, text⟩], .ok ()⟩

@[simp]
theorem result_pure (a : α) : (Pure.pure a : Traced ε α).result = .ok a := rfl

@[simp]
theorem result_lift (result : Except ε α) : (lift result).result = result := rfl

@[simp]
theorem result_debug (text : String) : (debug text : Traced ε Unit).result = .ok () := rfl

/-- The result of two stages is the result of the second on the result of the first. -/
@[simp]
theorem result_bind (x : Traced ε α) (f : α → Traced ε β) :
    (x >>= f).result = x.result.bind fun a => (f a).result := by
  change (Traced.bind x f).result = _
  cases h : x.result <;> simp [Traced.bind, h, Except.bind]

end Traced

end Dashboards
