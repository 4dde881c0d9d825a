/-!
# Outcomes and replies

An operation ends in one of three ways.  It answers with a value, it reports an error that its
caller can act on, or it crashes: a word overflowed, a page outside a table was named, or an
allocation exceeded the address space, and the whole program stops there.  A crash is kept apart
from the errors because no caller ever sees it.

A `Reply` pairs an outcome with the state that the operation leaves behind and with the events it
emitted on the way.  State and events are there for every outcome: an operation that fails half-way
has changed what it changed, and what it announced before stays announced.  Replies are chained
with `Reply.andThen`, which keeps the events in order.
-/

namespace PagedMemory

/-- How an operation ends: with a value, with an error for the caller, or with the whole program
stopped. -/
inductive Outcome (ε α : Type) where
  | ok (value : α)
  | error (error : ε)
  | crash
deriving DecidableEq

namespace Outcome

/-- Changes the value of a successful outcome. -/
def map {ε α β : Type} (change : α → β) : Outcome ε α → Outcome ε β
  | ok value => ok (change value)
  | error reason => error reason
  | crash => crash

/-- Changes the error of a failed outcome. -/
def mapError {ε ζ α : Type} (change : ε → ζ) : Outcome ε α → Outcome ζ α
  | ok value => ok value
  | error reason => error (change reason)
  | crash => crash

theorem ok_ne_crash {ε α : Type} {value : α} : (ok value : Outcome ε α) ≠ crash :=
  nofun

theorem error_ne_crash {ε α : Type} {reason : ε} : (error reason : Outcome ε α) ≠ crash :=
  nofun

/-- What gives no value and does not crash is an error. -/
theorem exists_error_iff {ε α : Type} {outcome : Outcome ε α} :
    (∃ reason, outcome = .error reason) ↔ (¬ ∃ value, outcome = .ok value) ∧ outcome ≠ .crash := by
  cases outcome <;> simp

theorem map_map {ε α β γ : Type} (change : α → β) (change' : β → γ) (outcome : Outcome ε α) :
    (outcome.map change).map change' = outcome.map (change' ∘ change) := by
  cases outcome <;> rfl

theorem ne_crash_of_map {ε α β : Type} {change : α → β} {outcome : Outcome ε α}
    (running : outcome.map change ≠ .crash) : outcome ≠ .crash := by
  rintro rfl
  exact running rfl

theorem map_eq_ok_iff {ε α β : Type} {change : α → β} {outcome : Outcome ε α} {answer : β} :
    outcome.map change = .ok answer ↔ ∃ value, outcome = .ok value ∧ change value = answer := by
  cases outcome <;> simp [map]

theorem map_eq_error_iff {ε α β : Type} {change : α → β} {outcome : Outcome ε α} {reason : ε} :
    outcome.map change = .error reason ↔ outcome = .error reason := by
  cases outcome <;> simp [map]

end Outcome

/-- The outcome of an operation on a state, the state it leaves behind, and the events it emitted,
oldest first.  The error type `ε`, the event type `η`, the state `σ` and the value `α` are the
caller's. -/
structure Reply (ε η σ α : Type) where
  outcome : Outcome ε α
  state : σ
  events : List η := []

namespace Reply

variable {ε ζ η σ τ α β : Type}

/-- A silent answer. -/
def ok (value : α) (state : σ) : Reply ε η σ α := ⟨.ok value, state, []⟩

/-- A silent failure. -/
def error (reason : ε) (state : σ) : Reply ε η σ α := ⟨.error reason, state, []⟩

/-- A silent crash. -/
def crash (state : σ) : Reply ε η σ α := ⟨.crash, state, []⟩

/-- Puts an event in front of those of the reply. -/
def announcing (event : η) (reply : Reply ε η σ α) : Reply ε η σ α :=
  { reply with events := event :: reply.events }

/-- Carries the reply's state over into a larger one. -/
def mapState (change : σ → τ) (reply : Reply ε η σ α) : Reply ε η τ α :=
  ⟨reply.outcome, change reply.state, reply.events⟩

/-- Changes the error of a failed reply. -/
def mapError (change : ε → ζ) (reply : Reply ε η σ α) : Reply ζ η σ α :=
  ⟨reply.outcome.mapError change, reply.state, reply.events⟩

/-- Continues a successful reply from the state it left; a failure or a crash ends the chain. -/
def andThen (reply : Reply ε η σ α) (next : α → σ → Reply ε η σ β) : Reply ε η σ β :=
  match reply.outcome with
  | .ok value =>
    let rest := next value reply.state
    { rest with events := reply.events ++ rest.events }
  | .error reason => ⟨.error reason, reply.state, reply.events⟩
  | .crash => ⟨.crash, reply.state, reply.events⟩

/-- A chain succeeds only if both of its parts do, and then it ends where the second part ends. -/
theorem of_andThen_ok {reply : Reply ε η σ α} {next : α → σ → Reply ε η σ β} {value : β}
    (succeeded : (reply.andThen next).outcome = .ok value) :
    ∃ first, reply.outcome = .ok first ∧ (next first reply.state).outcome = .ok value ∧
      (reply.andThen next).state = (next first reply.state).state := by
  unfold andThen at succeeded ⊢
  split at succeeded <;> simp_all

/-- A chain crashes if its first part does. -/
theorem ne_crash_of_andThen {reply : Reply ε η σ α} {next : α → σ → Reply ε η σ β}
    (running : (reply.andThen next).outcome ≠ .crash) : reply.outcome ≠ .crash := by
  intro crashed
  apply running
  simp only [andThen, crashed]

/-- A chain crashes only if one of its parts does. -/
theorem andThen_ne_crash {reply : Reply ε η σ α} {next : α → σ → Reply ε η σ β}
    (first : reply.outcome ≠ .crash)
    (second : ∀ value, reply.outcome = .ok value → (next value reply.state).outcome ≠ .crash) :
    (reply.andThen next).outcome ≠ .crash := by
  unfold andThen
  split
  · rename_i value succeeded
    exact second value succeeded
  · exact nofun
  · rename_i crashed
    exact absurd crashed first

/-- Changing the answer at the end of a chain changes nothing else. -/
theorem andThen_answer (reply : Reply ε η σ α) (change : α → σ → β) :
    (reply.andThen fun value state ↦ .ok (change value state) state) =
      ⟨reply.outcome.map (change · reply.state), reply.state, reply.events⟩ := by
  unfold andThen
  cases houtcome : reply.outcome with
  | ok value => simp only [ok, List.append_nil, Outcome.map]
  | error reason => rfl
  | crash => rfl

end Reply

end PagedMemory
