/-!
# Traced computations

A computation that notes entries in order and then succeeds or fails. What was noted before a
failure is kept. Main statements: the laws of a monad (`LawfulMonad`), and what the outcome and the
trace of a composition are (`outcome_bind`, `trace_bind_ok`, `trace_bind_error`).
-/

namespace Predictive

/-- The entries noted, in order, and the outcome. -/
@[ext]
structure Traced (ω ε α : Type) where
  trace : List ω
  outcome : Except ε α

namespace Traced

variable {ω ω' ε ε' α β : Type}

/-- Notes nothing and succeeds. -/
protected def pure (a : α) : Traced ω ε α := ⟨[], .ok a⟩

/-- Goes on with the result of the first computation, unless it failed. -/
protected def bind (x : Traced ω ε α) (f : α → Traced ω ε β) : Traced ω ε β :=
  match x.outcome with
  | .ok a => ⟨x.trace ++ (f a).trace, (f a).outcome⟩
  | .error e => ⟨x.trace, .error e⟩

instance : Monad (Traced ω ε) where
  pure := Traced.pure
  bind := Traced.bind

/-- Fails without a note. -/
def fail (e : ε) : Traced ω ε α := ⟨[], .error e⟩

/-- Notes one entry. -/
def note (entry : ω) : Traced ω ε Unit := ⟨[entry], .ok ()⟩

/-- An outcome without notes. -/
def ofExcept (outcome : Except ε α) : Traced ω ε α := ⟨[], outcome⟩

/-- The same computation with its entries and its error seen differently. -/
def adapt (entry : ω → ω') (error : ε → ε') (x : Traced ω ε α) : Traced ω' ε' α :=
  ⟨x.trace.map entry, x.outcome.mapError error⟩

@[simp]
theorem trace_pure (a : α) : (pure a : Traced ω ε α).trace = [] := rfl

@[simp]
theorem outcome_pure (a : α) : (pure a : Traced ω ε α).outcome = .ok a := rfl

@[simp]
theorem trace_note (entry : ω) : (note entry : Traced ω ε Unit).trace = [entry] := rfl

@[simp]
theorem outcome_note (entry : ω) : (note entry : Traced ω ε Unit).outcome = .ok () := rfl

@[simp]
theorem outcome_fail (e : ε) : (fail e : Traced ω ε α).outcome = .error e := rfl

@[simp]
theorem trace_fail (e : ε) : (fail e : Traced ω ε α).trace = [] := rfl

@[simp]
theorem outcome_ofExcept (x : Except ε α) : (ofExcept x : Traced ω ε α).outcome = x := rfl

@[simp]
theorem trace_ofExcept (x : Except ε α) : (ofExcept x : Traced ω ε α).trace = [] := rfl

/-- A success is a computation that notes nothing. -/
theorem ofExcept_ok (a : α) : (ofExcept (.ok a) : Traced ω ε α) = pure a := rfl

/-- Nothing comes after a failure. -/
theorem ofExcept_error_bind (e : ε) (f : α → Traced ω ε β) :
    (ofExcept (.error e) >>= f) = fail e := rfl

/-- The outcome of a composition is the composition of the outcomes. -/
@[simp]
theorem outcome_bind (x : Traced ω ε α) (f : α → Traced ω ε β) :
    (x >>= f).outcome = x.outcome >>= fun a => (f a).outcome := by
  show (Traced.bind x f).outcome = _
  unfold Traced.bind
  split
  · rename_i h
    rw [h]
    rfl
  · rename_i h
    rw [h]
    rfl

@[simp]
theorem outcome_map (f : α → β) (x : Traced ω ε α) : (f <$> x).outcome = f <$> x.outcome := by
  show (Traced.bind x fun a => Traced.pure (f a)).outcome = _
  unfold Traced.bind
  split <;> rename_i h <;> rw [h] <;> rfl

@[simp]
theorem trace_map (f : α → β) (x : Traced ω ε α) : (f <$> x).trace = x.trace := by
  show (Traced.bind x fun a => Traced.pure (f a)).trace = _
  unfold Traced.bind
  split <;> simp [Traced.pure]

@[simp]
theorem outcome_adapt (entry : ω → ω') (error : ε → ε') (x : Traced ω ε α) :
    (x.adapt entry error).outcome = x.outcome.mapError error := rfl

@[simp]
theorem trace_adapt (entry : ω → ω') (error : ε → ε') (x : Traced ω ε α) :
    (x.adapt entry error).trace = x.trace.map entry := rfl

theorem trace_bind_ok {x : Traced ω ε α} {a : α} (h : x.outcome = .ok a)
    (f : α → Traced ω ε β) : (x >>= f).trace = x.trace ++ (f a).trace := by
  show (Traced.bind x f).trace = _
  simp [Traced.bind, h]

theorem trace_bind_error {x : Traced ω ε α} {e : ε} (h : x.outcome = .error e)
    (f : α → Traced ω ε β) : (x >>= f).trace = x.trace := by
  show (Traced.bind x f).trace = _
  simp [Traced.bind, h]

instance : LawfulMonad (Traced ω ε) := by
  refine LawfulMonad.mk' _ ?_ ?_ ?_
  · intro α x
    show Traced.bind x (fun a => Traced.pure (id a)) = x
    unfold Traced.bind
    split <;> rename_i h <;> ext <;> simp [Traced.pure, h]
  · intro α β a f
    show Traced.bind (Traced.pure a) f = f a
    simp [Traced.bind, Traced.pure]
  · intro α β γ x f g
    show Traced.bind (Traced.bind x f) g = Traced.bind x fun a => Traced.bind (f a) g
    unfold Traced.bind
    cases hx : x.outcome with
    | error e => simp
    | ok a => cases hf : (f a).outcome <;> simp [hf]

end Traced

end Predictive
