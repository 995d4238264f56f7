/-
  ExprGraph.Attach.Outcome

  What a step that changes a state comes to: a result or an error, the state it leaves, and the
  events it reported.  An error does not undo anything, so a failed step too leaves a state and
  events.
-/

import ExprGraph.Attach.Event

namespace ExprGraph

/-- The outcome of a step on a state of type `σ`. -/
structure Outcome (σ ε α : Type) where
  result : Except ε α
  state : σ
  events : List Event

namespace Outcome

variable {σ ε ε' α β γ : Type}

def pure (a : α) (s : σ) : Outcome σ ε α := ⟨.ok a, s, []⟩

def fail (e : ε) (s : σ) : Outcome σ ε α := ⟨.error e, s, []⟩

def emit (event : Event) (s : σ) : Outcome σ ε Unit := ⟨.ok (), s, [event]⟩

/-- Goes on after a success; a failure stays as it is. -/
def andThen (o : Outcome σ ε α) (next : α → σ → Outcome σ ε β) : Outcome σ ε β :=
  match o.result with
  | .error e => ⟨.error e, o.state, o.events⟩
  | .ok a =>
    let o' := next a o.state
    ⟨o'.result, o'.state, o.events ++ o'.events⟩

def mapError (f : ε → ε') (o : Outcome σ ε α) : Outcome σ ε' α :=
  ⟨o.result.mapError f, o.state, o.events⟩

@[simp] theorem result_pure (a : α) (s : σ) : (pure a s : Outcome σ ε α).result = .ok a := rfl

@[simp] theorem state_pure (a : α) (s : σ) : (pure a s : Outcome σ ε α).state = s := rfl

@[simp] theorem events_pure (a : α) (s : σ) : (pure a s : Outcome σ ε α).events = [] := rfl

@[simp] theorem pure_andThen (a : α) (s : σ) (next : α → σ → Outcome σ ε β) :
    (pure a s).andThen next = next a s := by
  simp [andThen, pure]

@[simp] theorem fail_andThen (e : ε) (s : σ) (next : α → σ → Outcome σ ε β) :
    (fail e s).andThen next = fail e s := rfl

theorem andThen_of_ok {o : Outcome σ ε α} {a : α} (h : o.result = .ok a)
    (next : α → σ → Outcome σ ε β) :
    o.andThen next =
      ⟨(next a o.state).result, (next a o.state).state, o.events ++ (next a o.state).events⟩ := by
  simp [andThen, h]

theorem andThen_of_error {o : Outcome σ ε α} {e : ε} (h : o.result = .error e)
    (next : α → σ → Outcome σ ε β) : o.andThen next = ⟨.error e, o.state, o.events⟩ := by
  simp [andThen, h]

@[simp] theorem andThen_pure (o : Outcome σ ε Unit) : (o.andThen fun _ s => pure () s) = o := by
  obtain ⟨result, state, events⟩ := o
  cases result <;> simp [andThen, pure]

theorem andThen_assoc (o : Outcome σ ε α) (f : α → σ → Outcome σ ε β) (g : β → σ → Outcome σ ε γ) :
    (o.andThen f).andThen g = o.andThen fun a s => (f a s).andThen g := by
  cases ho : o.result with
  | error e => simp [andThen, ho]
  | ok a =>
    cases hf : (f a o.state).result with
    | error e => simp [andThen, ho, hf]
    | ok b => simp [andThen, ho, hf]

end Outcome

end ExprGraph
