import Jtag.Action

/-! What actions keep. An action keeps a property of its state if the property holds behind it whenever it held
    before, also behind a failure, unless that failure is one of those that count as fatal. An action made of
    actions that keep a property keeps it. -/

namespace Jtag
namespace Action

variable {σ τ ε ε' α β : Type}

theorem bind_ok_inv {act : Action σ ε α} {next : α → Action σ ε β} {s s' : σ} {b : β}
    (h : (act >>= next).runOn s = (.ok b, s')) :
    ∃ a t, act.runOn s = (.ok a, t) ∧ (next a).runOn t = (.ok b, s') := by
  rw [runOn_bind] at h
  rcases hact : act.runOn s with ⟨e | a, t⟩
  · rw [hact] at h
    cases h
  · rw [hact] at h
    exact ⟨a, t, rfl, h⟩

theorem when_ok_inv {p : Prop} [Decidable p] {act : Action σ ε Unit} {rest : Action σ ε β} {s s' : σ} {b : β}
    (h : (if p then act >>= fun _ => rest else rest).runOn s = (.ok b, s')) :
    ∃ t, (if p then act else pure ()).runOn s = (.ok (), t) ∧ rest.runOn t = (.ok b, s') := by
  split at h
  · obtain ⟨_, t, hact, hrest⟩ := bind_ok_inv h
    rw [if_pos ‹p›]
    exact ⟨t, hact, hrest⟩
  · rw [if_neg ‹¬p›]
    exact ⟨s, rfl, h⟩

theorem unless_ok_inv {p : Prop} [Decidable p] {act : Action σ ε Unit} {rest : Action σ ε β} {s s' : σ} {b : β}
    (h : (if p then rest else act >>= fun _ => rest).runOn s = (.ok b, s')) :
    ∃ t, (if p then pure () else act).runOn s = (.ok (), t) ∧ rest.runOn t = (.ok b, s') := by
  rw [← ite_not] at h
  rw [← ite_not]
  exact when_ok_inv h

theorem runOn_mapError_eq_ok {act : Action σ ε α} {f : ε → ε'} {s s' : σ} {a : α} :
    (act.mapError f).runOn s = (.ok a, s') ↔ act.runOn s = (.ok a, s') := by
  rw [runOn_mapError]
  rcases act.runOn s with ⟨_ | _, _⟩
  · constructor <;> rintro ⟨⟩
  · constructor <;> rintro ⟨⟩ <;> rfl

/-- The action keeps `P`, unless it fails in a fatal way. -/
def Keeps (fatal : ε → Prop) (P : σ → Prop) (act : Action σ ε α) : Prop :=
  ∀ s, P s → (∀ e, (act.runOn s).1 = .error e → ¬fatal e) → P (act.runOn s).2

variable {fatal : ε → Prop} {fatal' : ε' → Prop} {P : σ → Prop} {act : Action σ ε α} {next : α → Action σ ε β}

theorem keeps_pure (a : α) : Keeps fatal P (pure a : Action σ ε α) := fun _ hs _ => hs

theorem keeps_throw (e : ε) : Keeps fatal P (throw e : Action σ ε α) := fun _ hs _ => hs

theorem keeps_ofExcept (answer : Except ε α) : Keeps fatal P (ofExcept answer : Action σ ε α) := fun _ hs _ => hs

theorem keeps_change {f : σ → σ} (h : ∀ s, P s → P (f s)) : Keeps fatal P (change f : Action σ ε Unit) :=
  fun s hs _ => h s hs

theorem Keeps.bind (hact : Keeps fatal P act) (hnext : ∀ a, Keeps fatal P (next a)) :
    Keeps fatal P (act >>= next) := by
  intro s hs hfatal
  have hmiddle := hact s hs
  rw [runOn_bind] at hfatal ⊢
  rcases hrun : act.runOn s with ⟨e | a, t⟩
  · rw [hrun] at hmiddle hfatal
    refine hmiddle fun e' he => ?_
    cases he
    exact hfatal e rfl
  · rw [hrun] at hmiddle hfatal
    exact hnext a t (hmiddle nofun) hfatal

theorem keeps_bind_get {next : σ → Action σ ε β} (h : ∀ s, Keeps fatal P (next s)) : Keeps fatal P (get >>= next) :=
  Keeps.bind (fun _ hs _ => hs) h

/-- What follows may make use of that the state at hand has the property. -/
theorem keeps_bind_get_of {next : σ → Action σ ε β} (h : ∀ s, P s → Keeps fatal P (next s)) :
    Keeps fatal P (get >>= next) := fun s hs hfatal => h s hs s hs hfatal

theorem keeps_set {t : σ} (h : P t) : Keeps fatal P (set t : Action σ ε PUnit) := fun _ _ _ => h

theorem keeps_bind_inspect {f : σ → α} (h : ∀ a, Keeps fatal P (next a)) : Keeps fatal P (inspect f >>= next) :=
  Keeps.bind (fun _ hs _ => hs) h

theorem Keeps.ite {p : Prop} [Decidable p] {other : Action σ ε α} (hact : Keeps fatal P act)
    (hother : Keeps fatal P other) : Keeps fatal P (if p then act else other) := by
  split
  · exact hact
  · exact hother

theorem Keeps.when {p : Prop} [Decidable p] {first : Action σ ε Unit} {rest : Action σ ε β}
    (hfirst : Keeps fatal P first) (hrest : Keeps fatal P rest) :
    Keeps fatal P (if p then first >>= fun _ => rest else rest) := Keeps.ite (hfirst.bind fun _ => hrest) hrest

theorem Keeps.unless {p : Prop} [Decidable p] {first : Action σ ε Unit} {rest : Action σ ε β}
    (hfirst : Keeps fatal P first) (hrest : Keeps fatal P rest) :
    Keeps fatal P (if p then rest else first >>= fun _ => rest) := Keeps.ite hrest (hfirst.bind fun _ => hrest)

/-- What follows a failure is not run. -/
theorem keeps_throw_bind (e : ε) (next : α → Action σ ε β) : Keeps fatal P (throw e >>= next) := fun _ hs _ => hs

theorem keeps_forM {γ : Type} {f : γ → Action σ ε PUnit} {items : List γ} (h : ∀ a ∈ items, Keeps fatal P (f a)) :
    Keeps fatal P (items.forM f) := by
  induction items with
  | nil => exact keeps_pure ()
  | cons a items ih =>
    exact Keeps.bind (h a List.mem_cons_self) fun _ => ih fun b hb => h b (List.mem_cons_of_mem a hb)

/-- The action keeps `P` however it ends. -/
def Always (P : σ → Prop) (act : Action σ ε α) : Prop := Keeps (fun _ => False) P act

theorem Always.holds (h : Always P act) {s : σ} (hs : P s) : P (act.runOn s).2 := h s hs fun _ _ => id

theorem Always.mapError (h : Always P act) (f : ε → ε') : Always P (act.mapError f) := fun _ hs _ => h.holds hs

/-- A failure that is handed on as a value is not fatal to anything. -/
theorem Always.outcome (h : Always P act) : Keeps fatal' P (act.outcome : Action σ ε' (Except ε α)) :=
  fun _ hs _ => h.holds hs

end Action
end Jtag
