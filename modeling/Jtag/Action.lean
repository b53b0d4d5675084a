/-!
Calls that may fail. An action runs on a state and leaves a state behind, whether it succeeds or
fails: hardware that has seen some clocks cannot be rolled back, so a failure keeps what was done.
-/

namespace Jtag

/-- A call on a state of type `σ` that answers with `α` or fails with `ε`. -/
abbrev Action (σ ε α : Type) := ExceptT ε (StateM σ) α

namespace Action

variable {σ τ ε ε' α β : Type}

/-- Run an action, giving its answer and the state it leaves. -/
def runOn (act : Action σ ε α) (s : σ) : Except ε α × σ := act.run s

/-- Look at the state. -/
def inspect (f : σ → α) : Action σ ε α := ExceptT.mk fun s => (.ok (f s), s)

def change (f : σ → σ) : Action σ ε Unit := ExceptT.mk fun s => (.ok (), f s)

/-- Run an action on a part of a larger state; the part it leaves goes back also after a failure. -/
def within (view : σ → τ) (put : σ → τ → σ) (act : Action τ ε α) : Action σ ε α :=
  ExceptT.mk fun s => let (answer, t) := act.runOn (view s); (answer, put s t)

/-- Report failures in another vocabulary. -/
def mapError (f : ε → ε') (act : Action σ ε α) : Action σ ε' α :=
  ExceptT.mk fun s => let (answer, t) := act.runOn s; (answer.mapError f, t)

/-- Run an action and hand its outcome on as a value, so that nothing fails. -/
def outcome (act : Action σ ε α) : Action σ ε' (Except ε α) :=
  ExceptT.mk fun s => let (answer, t) := act.runOn s; (.ok answer, t)

/-- An answer that needs no state. -/
def ofExcept (answer : Except ε α) : Action σ ε α := ExceptT.mk fun s => (answer, s)

/-! ### Running an action step by step -/

theorem runOn_mk (f : σ → Except ε α × σ) (s : σ) : Action.runOn (ExceptT.mk f) s = f s := rfl

@[simp] theorem runOn_pure (a : α) (s : σ) : (pure a : Action σ ε α).runOn s = (.ok a, s) := rfl

@[simp] theorem runOn_throw (e : ε) (s : σ) :
    (throw e : Action σ ε α).runOn s = (.error e, s) := rfl

@[simp] theorem runOn_get (s : σ) : (get : Action σ ε σ).runOn s = (.ok s, s) := rfl

@[simp] theorem runOn_set (t s : σ) : (set t : Action σ ε PUnit).runOn s = (.ok ⟨⟩, t) := rfl

/-- What follows a failed action is not run, and the state is the one it left. -/
theorem runOn_bind (act : Action σ ε α) (next : α → Action σ ε β) (s : σ) :
    (act >>= next).runOn s = match act.runOn s with
      | (.ok a, t) => (next a).runOn t
      | (.error e, t) => (.error e, t) := by
  simp only [runOn, bind, ExceptT.bind, ExceptT.run, ExceptT.mk, StateT.bind]
  cases act s with
  | mk answer t => cases answer <;> rfl

theorem runOn_bind_ok {act : Action σ ε α} {s t : σ} {a : α} (h : act.runOn s = (.ok a, t))
    (next : α → Action σ ε β) : (act >>= next).runOn s = (next a).runOn t := by
  rw [runOn_bind, h]

theorem runOn_bind_error {act : Action σ ε α} {s t : σ} {e : ε} (h : act.runOn s = (.error e, t))
    (next : α → Action σ ε β) : (act >>= next).runOn s = (.error e, t) := by
  rw [runOn_bind, h]

/-- An action that runs only under a condition, and what follows it. -/
theorem runOn_when_ok {p : Prop} [Decidable p] {act : Action σ ε Unit} {rest : Action σ ε β} {s t : σ}
    (h : (if p then act else pure ()).runOn s = (.ok (), t)) :
    (if p then act >>= fun _ => rest else rest).runOn s = rest.runOn t := by
  split
  · rw [if_pos ‹p›] at h
    exact runOn_bind_ok h _
  · rw [if_neg ‹¬p›] at h
    cases h
    rfl

theorem runOn_unless_ok {p : Prop} [Decidable p] {act : Action σ ε Unit} {rest : Action σ ε β} {s t : σ}
    (h : (if p then pure () else act).runOn s = (.ok (), t)) :
    (if p then rest else act >>= fun _ => rest).runOn s = rest.runOn t := by
  split
  · rw [if_pos ‹p›] at h
    cases h
    rfl
  · rw [if_neg ‹¬p›] at h
    exact runOn_bind_ok h _

@[simp] theorem runOn_inspect (f : σ → α) (s : σ) :
    (inspect f : Action σ ε α).runOn s = (.ok (f s), s) := rfl

@[simp] theorem runOn_change (f : σ → σ) (s : σ) :
    (change f : Action σ ε Unit).runOn s = (.ok (), f s) := rfl

@[simp] theorem runOn_within (view : σ → τ) (put : σ → τ → σ) (act : Action τ ε α) (s : σ) :
    (within view put act).runOn s = ((act.runOn (view s)).1, put s (act.runOn (view s)).2) := rfl

@[simp] theorem runOn_mapError (f : ε → ε') (act : Action σ ε α) (s : σ) :
    (act.mapError f).runOn s = ((act.runOn s).1.mapError f, (act.runOn s).2) := rfl

@[simp] theorem runOn_outcome (act : Action σ ε α) (s : σ) :
    (act.outcome : Action σ ε' (Except ε α)).runOn s = (.ok (act.runOn s).1, (act.runOn s).2) := rfl

@[simp] theorem runOn_ofExcept (answer : Except ε α) (s : σ) :
    (ofExcept answer : Action σ ε α).runOn s = (answer, s) := rfl

end Action
end Jtag
