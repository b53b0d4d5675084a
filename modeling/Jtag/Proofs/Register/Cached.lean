import Jtag.Proofs.Action.Keeps
import Jtag.Proofs.Register.Spelled
import Jtag.Register.Cached

/-! Registers and their texts. Reading a text and writing one are inverse to each other, a refused text leaves the
    register alone, and a register that keeps its text answers what one without memory would: every call that changes
    the register drops the text, and every call that does not keeps it right. -/

namespace Jtag
namespace CachedRegister

open Jtag.Action
open Register (Refused)

variable {c c' : CachedRegister} {s : String} {e : RegisterError}

/-- The text that is kept, if there is one, is the text of the register. -/
def Coherent (c : CachedRegister) : Prop := ∀ s ∈ c.text?, s = c.register.text

theorem coherent_ofRegister (r : Register) : (ofRegister r).Coherent := nofun

/-! ### Reading the text -/

theorem Coherent.runOn_text (h : c.Coherent) :
    text.runOn c = (.ok c.register.text, { c with text? := some c.register.text }) := by
  obtain ⟨r, text?⟩ := c
  cases text? with
  | none => rfl
  | some s =>
    obtain rfl : s = r.text := h s rfl
    rfl

theorem Coherent.runOn_labelled (h : c.Coherent) :
    labelled.runOn c = (.ok c.register.labelled, { c with text? := some c.register.text }) := by
  rw [labelled, runOn_bind_ok h.runOn_text]
  rfl

/-! ### Changing the register -/

theorem runOn_mutateChecked (f : Register → Except RegisterError Register) (c : CachedRegister) :
    (mutateChecked f).runOn c = match f c.register with
      | .ok r => (.ok (), ofRegister r)
      | .error e => (.error e, c) := by
  rw [mutateChecked, runOn_bind_ok (runOn_get c)]
  cases hf : f c.register with
  | ok r => exact runOn_bind_ok (by rw [runOn_ofExcept]) _
  | error e => exact runOn_bind_error (by rw [runOn_ofExcept]) _

theorem runOn_set? (index : Nat) (value : Bool) (c : CachedRegister) :
    ((set? index value).runOn c).2 = ofRegister ((c.register.set? index value).getD c.register) := by
  rw [set?, invalidate, runOn_bind_ok (runOn_change _ c), runOn_bind_ok (runOn_get _)]
  dsimp only
  cases c.register.set? index value <;> rfl

theorem load_eq_ok : (load s).runOn c = (.ok (), c') ↔
    c'.text? = none ∧ c'.register.length = c.register.length ∧ s = c'.register.text := by
  obtain ⟨r', text?⟩ := c'
  rw [← Register.load?_eq_ok_iff, load, runOn_mutateChecked]
  cases c.register.load? s with
  | ok r => simp [ofRegister, and_comm, eq_comm]
  | error e => simp

theorem load_eq_error : (load s).runOn c = (.error e, c') ↔ c' = c ∧ Refused c.register.length s e := by
  rw [← Register.load?_eq_error, load, runOn_mutateChecked]
  cases c.register.load? s with
  | ok r => simp
  | error e' => simp [and_comm, eq_comm]

theorem exists_load_iff : (∃ c', (load s).runOn c = (.ok (), c')) ↔
    s.toList.length = c.register.length ∧ ∀ d ∈ s.toList, Bits.IsDigit d := by
  have hspelled : (∃ c', (load s).runOn c = (.ok (), c')) ↔
      ∃ r : Register, s = r.text ∧ r.length = c.register.length := by
    constructor
    · rintro ⟨c', hload⟩
      obtain ⟨-, hlength, htext⟩ := load_eq_ok.mp hload
      exact ⟨c'.register, htext, hlength⟩
    · rintro ⟨r, htext, hlength⟩
      exact ⟨ofRegister r, load_eq_ok.mpr ⟨rfl, hlength, htext⟩⟩
  rw [hspelled, Register.exists_text_iff]
  exact and_iff_right c.register.length_pos

/-! ### Calls in a row -/

/-- The calls that read the text of a register or change the register. -/
inductive Use where
  | text
  | labelled
  | set (index : Nat) (value : Bool)
  | fill (value : Bool)
  | invert
  | overlay (bits : List Bool)
  | increment
  | decrement
  | shiftLeft (amount : Nat)
  | shiftRight (amount : Nat)
  | copyFrom (bits : List Bool)
  | load (s : String)

namespace Use

/-- Make the call; what it answers is dropped. -/
def act : Use → CachedAction Unit
  | text => do let _ ← CachedRegister.text
  | labelled => do let _ ← CachedRegister.labelled
  | set index value => do let _ ← CachedRegister.set? index value
  | fill value => CachedRegister.fill value
  | invert => CachedRegister.invert
  | overlay bits => CachedRegister.overlay bits
  | increment => CachedRegister.increment
  | decrement => CachedRegister.decrement
  | shiftLeft amount => CachedRegister.shiftLeft amount
  | shiftRight amount => CachedRegister.shiftRight amount
  | copyFrom bits => CachedRegister.copyFrom bits
  | load s => CachedRegister.load s

/-- What the call makes of a register without memory. -/
def apply (r : Register) : Use → Register
  | text | labelled => r
  | set index value => (r.set? index value).getD r
  | fill value => r.fill value
  | invert => r.invert
  | overlay bits => r.overlay bits
  | increment => r.increment
  | decrement => r.decrement
  | shiftLeft amount => r.shiftLeft amount
  | shiftRight amount => r.shiftRight amount
  | copyFrom bits => (r.copyFrom? bits).toOption.getD r
  | load s => (r.load? s).toOption.getD r

end Use

/-- The register behind a call, also if the call fails. -/
def used (c : CachedRegister) (u : Use) : CachedRegister := (u.act.runOn c).2

/-- The kept text is right, and the register is the one without memory. -/
structure Shows (c : CachedRegister) (r : Register) : Prop where
  coherent : c.Coherent
  register : c.register = r

theorem shows_ofRegister (r : Register) : (ofRegister r).Shows r := ⟨coherent_ofRegister r, rfl⟩

theorem Coherent.shows_mutateChecked (h : c.Coherent) (f : Register → Except RegisterError Register) :
    ((mutateChecked f).runOn c).2.Shows ((f c.register).toOption.getD c.register) := by
  rw [runOn_mutateChecked]
  cases f c.register with
  | ok r => exact shows_ofRegister r
  | error e => exact ⟨h, rfl⟩

theorem snd_runOn_discard {α : Type} (act : CachedAction α) (c : CachedRegister) :
    ((act >>= fun _ => pure ()).runOn c).2 = (act.runOn c).2 := by
  rw [runOn_bind]
  rcases act.runOn c with ⟨e | a, c'⟩ <;> rfl

theorem Shows.used {r : Register} (h : c.Shows r) (u : Use) : (c.used u).Shows (u.apply r) := by
  obtain ⟨h, rfl⟩ := h
  have hread : CachedRegister.Shows { c with text? := some c.register.text } c.register := by
    refine ⟨fun s hs => ?_, rfl⟩
    exact (Option.some.inj hs).symm
  unfold CachedRegister.used
  cases u with
  | text => rwa [Use.act, snd_runOn_discard, h.runOn_text]
  | labelled => rwa [Use.act, snd_runOn_discard, h.runOn_labelled]
  | set index value =>
    rw [Use.act, snd_runOn_discard, runOn_set?]
    exact shows_ofRegister _
  | copyFrom bits => exact h.shows_mutateChecked _
  | load s => exact h.shows_mutateChecked _
  | fill | invert | overlay | increment | decrement | shiftLeft | shiftRight => exact shows_ofRegister _

theorem Shows.foldl {r : Register} (h : c.Shows r) (uses : List Use) :
    (uses.foldl CachedRegister.used c).Shows (uses.foldl Use.apply r) := by
  induction uses generalizing c r with
  | nil => exact h
  | cons u uses ih => exact ih (h.used u)

/-- Texts and registers are two forms of the same thing. A text can be read exactly if it is not empty and made of
    digits, and reading and writing undo each other; it can be loaded exactly if it also fits, and a refused one
    leaves the register as it was. Behind any calls the text that is answered is the one of the bits at hand. -/
theorem text_exact (s : String) (r : Register) (c : CachedRegister) (uses : List Use) :
    (((∃ r, Register.ofText? s = .ok r) ↔ s ≠ "" ∧ ∀ d ∈ s.toList, Bits.IsDigit d) ∧
      (Register.ofText? s = .ok r ↔ r.text = s)) ∧
    (((∃ c', (load s).runOn c = (.ok (), c')) ↔
        s.toList.length = c.register.length ∧ ∀ d ∈ s.toList, Bits.IsDigit d) ∧
      (∀ c', (load s).runOn c = (.ok (), c') ↔
        c'.text? = none ∧ c'.register.length = c.register.length ∧ c'.register.text = s) ∧
      ∀ e c', (load s).runOn c = (.error e, c') ↔ c' = c ∧ Refused c.register.length s e) ∧
    let current := uses.foldl used (ofRegister r)
    current.register = uses.foldl Use.apply r ∧ (text.runOn current).1 = .ok (Bits.text current.register.bits) := by
  have hloaded : ∀ c', (load s).runOn c = (.ok (), c') ↔
      c'.text? = none ∧ c'.register.length = c.register.length ∧ c'.register.text = s := by
    intro c'
    rw [load_eq_ok, eq_comm (a := s)]
  have hshows := (shows_ofRegister r).foldl uses
  refine ⟨⟨?_, Register.ofText?_eq_ok.trans eq_comm⟩, ⟨exists_load_iff, hloaded, fun e c' => load_eq_error⟩,
    hshows.register, ?_⟩
  · simp only [Register.ofText?_eq_ok]
    exact Register.exists_eq_text_iff
  · rw [hshows.coherent.runOn_text]
    rfl

end CachedRegister
end Jtag
