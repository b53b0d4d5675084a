import Jtag.Proofs.Action.Keeps

/-! Actions that fail without a trace. An action that only looks at its state may come before one that is atomic,
    and one that cannot fail may come behind it. So calls that check first and write last are atomic. -/

namespace Jtag
namespace Action

variable {σ ε α β : Type} {act : Action σ ε α} {next : α → Action σ ε β} {s s' : σ} {b : β} {e : ε}

theorem runOn_bind_eq_ok :
    (act >>= next).runOn s = (.ok b, s') ↔ ∃ a t, act.runOn s = (.ok a, t) ∧ (next a).runOn t = (.ok b, s') :=
  ⟨bind_ok_inv, fun ⟨_, _, hact, hnext⟩ => (runOn_bind_ok hact next).trans hnext⟩

theorem runOn_discard_eq_ok {u : Unit} :
    (act >>= fun _ => pure ()).runOn s = (.ok u, s') ↔ ∃ a, act.runOn s = (.ok a, s') := by
  rw [runOn_bind_eq_ok]
  constructor
  · rintro ⟨a, t, hact, hpure⟩
    cases hpure
    exact ⟨a, hact⟩
  · rintro ⟨a, hact⟩
    exact ⟨a, s', hact, rfl⟩

theorem runOn_ofExcept_eq_ok {answer : Except ε β} :
    (ofExcept answer).runOn s = (.ok b, s') ↔ answer = .ok b ∧ s = s' := by
  rw [runOn_ofExcept, Prod.mk.injEq]

/-- A guard that fails under a condition is passed exactly without it. -/
theorem runOn_throwing_eq_ok {p : Prop} [Decidable p] {after : Unit → Action σ ε β} {rest : Action σ ε β} :
    (if p then throw e >>= after else rest).runOn s = (.ok b, s') ↔ ¬p ∧ rest.runOn s = (.ok b, s') := by
  by_cases hp : p
  · rw [if_pos hp]
    exact ⟨nofun, fun h => absurd hp h.1⟩
  · rw [if_neg hp]
    exact ⟨fun h => ⟨hp, h⟩, fun h => h.2⟩

theorem runOn_requiring_eq_ok {p : Prop} [Decidable p] {after : Unit → Action σ ε β} {rest : Action σ ε β} :
    (if p then rest else throw e >>= after).runOn s = (.ok b, s') ↔ p ∧ rest.runOn s = (.ok b, s') := by
  rw [← ite_not, runOn_throwing_eq_ok, Decidable.not_not]

/-- The action leaves the state alone. -/
def Looks (act : Action σ ε α) : Prop := ∀ s, (act.runOn s).2 = s

/-- The action does not fail. -/
def Succeeds (act : Action σ ε α) : Prop := ∀ s e, (act.runOn s).1 ≠ .error e

/-- The action fails in no other ways. -/
def FailsOnly (ways : ε → Prop) (act : Action σ ε α) : Prop := ∀ s e, (act.runOn s).1 = .error e → ways e

/-- A failure of the action leaves the state as it was. -/
def Atomic (act : Action σ ε α) : Prop := ∀ s e, (act.runOn s).1 = .error e → (act.runOn s).2 = s

theorem looks_pure (a : α) : Looks (pure a : Action σ ε α) := fun _ => rfl

theorem looks_throw (e : ε) : Looks (throw e : Action σ ε α) := fun _ => rfl

theorem looks_get : Looks (get : Action σ ε σ) := fun _ => rfl

theorem looks_ofExcept (answer : Except ε α) : Looks (ofExcept answer : Action σ ε α) := fun _ => rfl

theorem succeeds_pure (a : α) : Succeeds (pure a : Action σ ε α) := fun _ _ => nofun

theorem succeeds_set (t : σ) : Succeeds (set t : Action σ ε PUnit) := fun _ _ => nofun

theorem succeeds_change (f : σ → σ) : Succeeds (change f : Action σ ε Unit) := fun _ _ => nofun

theorem Looks.atomic (h : Looks act) : Atomic act := fun s _ _ => h s

theorem Succeeds.atomic (h : Succeeds act) : Atomic act := fun s e he => absurd he (h s e)

theorem Looks.bind (hact : Looks act) (hnext : ∀ a, Atomic (next a)) : Atomic (act >>= next) := by
  intro s e he
  have hsame := hact s
  rw [runOn_bind] at he ⊢
  rcases hrun : act.runOn s with ⟨f | a, t⟩ <;> rw [hrun] at hsame he
  · exact hsame
  · obtain rfl : t = s := hsame
    exact hnext a t e he

theorem Atomic.bind (hact : Atomic act) (hnext : ∀ a, Succeeds (next a)) : Atomic (act >>= next) := by
  intro s e he
  have hfailed := hact s
  rw [runOn_bind] at he ⊢
  rcases hrun : act.runOn s with ⟨f | a, t⟩ <;> rw [hrun] at hfailed he
  · exact hfailed f rfl
  · exact absurd he (hnext a t e)

theorem Succeeds.bind (hact : Succeeds act) (hnext : ∀ a, Succeeds (next a)) : Succeeds (act >>= next) := by
  intro s e he
  rw [runOn_bind] at he
  rcases hrun : act.runOn s with ⟨f | a, t⟩ <;> rw [hrun] at he
  · exact hact s f (congrArg Prod.fst hrun)
  · exact hnext a t e he

theorem FailsOnly.bind {ways : ε → Prop} (hact : FailsOnly ways act) (hnext : ∀ a, FailsOnly ways (next a)) :
    FailsOnly ways (act >>= next) := by
  intro s e he
  rw [runOn_bind] at he
  rcases hrun : act.runOn s with ⟨f | a, t⟩ <;> rw [hrun] at he
  · cases he
    exact hact s e (congrArg Prod.fst hrun)
  · exact hnext a t e he

theorem FailsOnly.ite {ways : ε → Prop} {p : Prop} [Decidable p] {other : Action σ ε α} (hact : FailsOnly ways act)
    (hother : FailsOnly ways other) : FailsOnly ways (if p then act else other) := by
  split
  · exact hact
  · exact hother

/-- Failures that are reported in another vocabulary are told in its words. -/
theorem failsOnly_mapError {ε' : Type} (f : ε → ε') (act : Action σ ε α) :
    FailsOnly (fun e => ∃ cause, e = f cause) (act.mapError f) := by
  intro s e he
  rw [runOn_mapError] at he
  cases hanswer : (act.runOn s).1 <;> rw [hanswer] at he <;> cases he
  exact ⟨_, rfl⟩

theorem Atomic.ite {p : Prop} [Decidable p] {other : Action σ ε α} (hact : Atomic act) (hother : Atomic other) :
    Atomic (if p then act else other) := by
  split
  · exact hact
  · exact hother

theorem atomic_throw_bind (e : ε) (next : α → Action σ ε β) : Atomic (throw e >>= next : Action σ ε β) :=
  fun _ _ _ => rfl

/-- What an atomic action keeps is seen where it succeeds. -/
theorem Atomic.always {P : σ → Prop} (h : Atomic act) (hok : ∀ s a t, P s → act.runOn s = (.ok a, t) → P t) :
    Always P act := by
  intro s hs _
  rcases hrun : act.runOn s with ⟨e | a, t⟩
  · have hsame := h s e
    rw [hrun] at hsame
    exact hsame rfl ▸ hs
  · exact hok s a t hs hrun

end Action
end Jtag
