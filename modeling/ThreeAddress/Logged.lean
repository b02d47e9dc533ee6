/-!
# Computations with a log

A computation that notes events on its way and ends with a value or an error. The log is part of
the result also when the computation fails: what was noted before the failure stays noted, and
nothing is noted after it.

The two projections tell everything about a sequence of steps. `outcome_bind` says that the
outcomes compose as if there were no log, so that a statement about values never mentions events;
`log_bind` says that the log of the second step follows that of the first, if there is a second.
-/

namespace ThreeAddress

/-- A value or an error, and the events noted before it was reached. -/
structure Logged (ω ε α : Type) where
  /-- The events, the first in front. -/
  log : List ω
  /-- How the computation ended. -/
  outcome : Except ε α

namespace Logged

variable {ω ε ε' α β γ : Type}

@[ext] theorem ext {x y : Logged ω ε α} (hlog : x.log = y.log) (hout : x.outcome = y.outcome) :
    x = y := by
  cases x; cases y; simp_all

/-- A computation that notes nothing. -/
def ofExcept (outcome : Except ε α) : Logged ω ε α := ⟨[], outcome⟩

/-- Notes one event. -/
def note (event : ω) : Logged ω ε Unit := ⟨[event], .ok ()⟩

/-- Runs `next` on the value of `x`; an error of `x` ends the computation. -/
def andThen (x : Logged ω ε α) (next : α → Logged ω ε β) : Logged ω ε β :=
  match x.outcome with
  | .ok a =>
    let y := next a
    ⟨x.log ++ y.log, y.outcome⟩
  | .error e => ⟨x.log, .error e⟩

instance : Monad (Logged ω ε) where
  pure a := ⟨[], .ok a⟩
  bind := andThen

instance : MonadLift (Except ε) (Logged ω ε) := ⟨ofExcept⟩

/-- The same computation with its error put into other words. -/
def mapError (f : ε → ε') (x : Logged ω ε α) : Logged ω ε' α := ⟨x.log, x.outcome.mapError f⟩

@[simp] theorem log_pure (a : α) : (pure a : Logged ω ε α).log = [] := rfl

@[simp] theorem outcome_pure (a : α) : (pure a : Logged ω ε α).outcome = .ok a := rfl

@[simp] theorem log_ofExcept (r : Except ε α) : (ofExcept r : Logged ω ε α).log = [] := rfl

@[simp] theorem outcome_ofExcept (r : Except ε α) : (ofExcept r : Logged ω ε α).outcome = r := rfl

@[simp] theorem liftM_eq_ofExcept (r : Except ε α) :
    (liftM r : Logged ω ε α) = ofExcept r := rfl

@[simp] theorem log_note (event : ω) : (note event : Logged ω ε Unit).log = [event] := rfl

@[simp] theorem outcome_note (event : ω) : (note event : Logged ω ε Unit).outcome = .ok () := rfl

@[simp] theorem log_mapError (f : ε → ε') (x : Logged ω ε α) : (x.mapError f).log = x.log := rfl

@[simp] theorem outcome_mapError (f : ε → ε') (x : Logged ω ε α) :
    (x.mapError f).outcome = x.outcome.mapError f := rfl

/-- Outcomes compose as if nothing were logged. -/
@[simp] theorem outcome_bind (x : Logged ω ε α) (next : α → Logged ω ε β) :
    (x >>= next).outcome = x.outcome >>= fun a ↦ (next a).outcome := by
  cases h : x.outcome <;> simp [bind, andThen, h, Except.bind]

/-- Both steps have a value, or there is none. -/
theorem outcome_bind_eq_ok_iff {x : Logged ω ε α} {next : α → Logged ω ε β} {b : β} :
    (x >>= next).outcome = .ok b ↔ ∃ a, x.outcome = .ok a ∧ (next a).outcome = .ok b := by
  cases h : x.outcome <;> simp [bind, andThen, h]

/-- The first step fails, or it has a value and the second fails. -/
theorem outcome_bind_eq_error_iff {x : Logged ω ε α} {next : α → Logged ω ε β} {e : ε} :
    (x >>= next).outcome = .error e ↔
      x.outcome = .error e ∨ ∃ a, x.outcome = .ok a ∧ (next a).outcome = .error e := by
  cases h : x.outcome <;> simp [bind, andThen, h]

/-- The log of the second step follows that of the first. -/
theorem log_bind_ok {x : Logged ω ε α} {a : α} (h : x.outcome = .ok a)
    (next : α → Logged ω ε β) : (x >>= next).log = x.log ++ (next a).log := by
  simp [bind, andThen, h]

/-- After a failure nothing is noted. -/
theorem log_bind_error {x : Logged ω ε α} {e : ε} (h : x.outcome = .error e)
    (next : α → Logged ω ε β) : (x >>= next).log = x.log := by
  simp [bind, andThen, h]

theorem id_map (x : Logged ω ε α) : id <$> x = x := by
  rcases x with ⟨log, e | a⟩ <;> simp [Functor.map, andThen]

theorem pure_bind (a : α) (next : α → Logged ω ε β) : pure a >>= next = next a := by
  simp [bind, andThen, pure]

theorem bind_assoc (x : Logged ω ε α) (f : α → Logged ω ε β) (g : β → Logged ω ε γ) :
    x >>= f >>= g = x >>= fun a ↦ f a >>= g := by
  rcases x with ⟨log, e | a⟩
  · simp [bind, andThen]
  · simp only [bind, andThen]
    cases (f a).outcome <;> simp

instance : LawfulMonad (Logged ω ε) := LawfulMonad.mk' _ id_map pure_bind bind_assoc

end Logged

end ThreeAddress
