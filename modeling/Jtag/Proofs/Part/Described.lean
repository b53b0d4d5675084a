import Jtag.Proofs.Part.Reachable

/-! Descriptions that make sense, and the parts that they describe. A description is read entry by entry: each entry
    is accepted exactly if the description up to it makes sense, and the part that comes out is the one that this
    description describes. -/

namespace Jtag

section Lists
variable {α : Type} {P : α → Prop} {l : List α} {a b : α}

/-- The element is the last one of the list that has the property. -/
def IsLast (P : α → Prop) (l : List α) (a : α) : Prop := ∃ before after, l = before ++ a :: after ∧ P a ∧ ∀ b ∈ after, ¬P b

theorem not_isLast_nil : ¬IsLast P [] a := by
  rintro ⟨before, after, hl, -⟩
  cases before <;> cases hl

theorem isLast_append : IsLast P (l ++ [a]) b ↔ P a ∧ b = a ∨ ¬P a ∧ IsLast P l b := by
  constructor
  · rintro ⟨before, after, hl, hb, hafter⟩
    rcases List.eq_nil_or_concat after with rfl | ⟨after, last, rfl⟩
    · obtain ⟨-, heq⟩ := List.append_inj' hl rfl
      obtain rfl := (List.cons.inj heq).1
      exact .inl ⟨hb, rfl⟩
    · rw [List.concat_eq_append] at hl hafter
      rw [← List.cons_append, ← List.append_assoc] at hl
      obtain ⟨rfl, heq⟩ := List.append_inj' hl rfl
      obtain rfl := (List.cons.inj heq).1
      refine .inr ⟨hafter a (by simp), before, after, rfl, hb, fun c hc => hafter c (by simp [hc])⟩
  · rintro (⟨ha, rfl⟩ | ⟨ha, before, after, rfl, hb, hafter⟩)
    · exact ⟨l, [], rfl, ha, nofun⟩
    · refine ⟨before, after ++ [a], by simp, hb, fun c hc => ?_⟩
      rcases List.mem_append.mp hc with hc | hc
      · exact hafter c hc
      · rwa [List.mem_singleton.mp hc]

/-- What holds of every element and those before it, in a list with another element behind it. -/
theorem forall_take_append {Q : List α → α → Prop} :
    (∀ i b, (l ++ [a])[i]? = some b → Q ((l ++ [a]).take i) b) ↔ (∀ i b, l[i]? = some b → Q (l.take i) b) ∧ Q l a := by
  constructor
  · intro h
    refine ⟨fun i b hb => ?_, ?_⟩
    · have hlt := (List.getElem?_eq_some_iff.mp hb).1
      have hQ := h i b (by rw [List.getElem?_append_left hlt, hb])
      rwa [List.take_append_of_le_length (Nat.le_of_lt hlt)] at hQ
    · have hQ := h l.length a (by simp)
      rwa [List.take_left] at hQ
  · rintro ⟨hl, ha⟩ i b hb
    rw [List.getElem?_append] at hb
    split at hb
    · rw [List.take_append_of_le_length (Nat.le_of_lt ‹_›)]
      exact hl i b hb
    · obtain ⟨hlt, hb⟩ := List.getElem?_eq_some_iff.mp hb
      have hi : i = l.length := by simp at hlt; omega
      subst i
      rw [List.take_left]
      simpa [← hb] using ha

end Lists

namespace Description

/-- The name is a signal's own, or it is listed as another name for one of the signal's names. -/
inductive Named (signals : List String) (aliases : List AliasEntry) (signal : String) : String → Prop where
  | own : signal ∈ signals → Named signals aliases signal signal
  | other {a : AliasEntry} : a ∈ aliases → Named signals aliases signal a.signal → Named signals aliases signal a.name

/-- An alias is new, and it stands for a signal or for an alias that was listed before it. -/
def AliasFits (signals : List String) (before : List AliasEntry) (a : AliasEntry) : Prop :=
  a.name ∉ signals ++ before.map (·.name) ∧ a.signal ∈ signals ++ before.map (·.name)

/-- The bit of a cell, and that of its control cell, are in the boundary scan register. -/
def CellFits (registers : List RegisterEntry) (c : CellEntry) : Prop :=
  ∃ r ∈ registers, r.name = Part.bsr ∧ c.bit < r.length ∧ ∀ control ∈ c.control?, control.bit < r.length

structure WellFormed (d : Description) : Prop where
  registerNames : (d.registers.map (·.name)).Nodup
  lengths : ∀ r ∈ d.registers, 1 ≤ r.length
  instructionNames : (d.instructions.map (·.name)).Nodup
  codes : ∀ x ∈ d.instructions, 1 ≤ d.instructionLength ∧ x.code.toList.length = d.instructionLength ∧
    ∀ c ∈ x.code.toList, c = '0' ∨ c = '1'
  selections : ∀ x ∈ d.instructions, ∀ register ∈ x.register?, register ∈ d.registers.map (·.name)
  signalNames : (d.signals.map (·.name)).Nodup
  aliases : ∀ i a, d.aliases[i]? = some a → AliasFits (d.signals.map (·.name)) (d.aliases.take i) a
  cells : ∀ c ∈ d.cells, CellFits d.registers c
  bits : (d.cells.map (·.bit)).Nodup

/-- The name, or none at all, stands for the signal. -/
def Names (d : Description) (signal name : String) : Prop := Named (d.signals.map (·.name)) d.aliases signal name

/-- The cell can be what the signal is used through in a direction. A cell without a signal counts as one of the
    empty name. -/
def Ties (d : Description) (signal : String) (direction : Direction) (c : CellEntry) : Prop :=
  c.type.serves direction = true ∧ d.Names signal (c.signal?.getD "")

/-- The value that a bit of the boundary scan register is loaded with. -/
def safe (d : Description) (bit : Nat) : Bool := ((d.cells.find? (·.bit == bit)).map (·.safe)).getD false

/-- What is shifted into a register that has just been set up. -/
def contents (d : Description) (r : RegisterEntry) : List Bool :=
  (List.range r.length).map fun bit => r.name == Part.bsr && d.safe bit

variable {signals : List String} {aliases : List AliasEntry} {a : AliasEntry} {signal name : String}

theorem named_nil : Named signals [] signal name ↔ name = signal ∧ signal ∈ signals := by
  constructor
  · intro h
    cases h with
    | own hmem => exact ⟨rfl, hmem⟩
    | other hmem _ => cases hmem
  · rintro ⟨rfl, hmem⟩
    exact .own hmem

theorem Named.mono {more : List AliasEntry} (hmore : ∀ a ∈ aliases, a ∈ more) (h : Named signals aliases signal name) :
    Named signals more signal name := by
  induction h with
  | own hmem => exact .own hmem
  | other hmem _ ih => exact .other (hmore _ hmem) ih

/-- A new alias stands for what its target stood for, and every other name for what it stood for before. -/
theorem named_append (hclosed : ∀ a' ∈ aliases, a'.signal ∈ signals ++ aliases.map (·.name))
    (hfits : AliasFits signals aliases a) : Named signals (aliases ++ [a]) signal name ↔
      Named signals aliases signal name ∨ name = a.name ∧ Named signals aliases signal a.signal := by
  have hold : ∀ a' ∈ aliases, a' ∈ aliases ++ [a] := fun a' ha' => List.mem_append_left _ ha'
  have hother : ∀ {target : String}, target ∈ signals ++ aliases.map (·.name) → target ≠ a.name := by
    rintro target hmem rfl
    exact hfits.1 hmem
  constructor
  · intro h
    induction h with
    | own hmem => exact .inl (.own hmem)
    | @other a' hmem _ ih =>
      rcases List.mem_append.mp hmem with hmem | hmem
      · exact .inl (.other hmem (ih.resolve_right fun h => hother (hclosed a' hmem) h.1))
      · obtain rfl := List.mem_singleton.mp hmem
        exact .inr ⟨rfl, ih.resolve_right fun h => hother hfits.2 h.1⟩
  · rintro (h | ⟨rfl, h⟩)
    · exact h.mono hold
    · exact .other (List.mem_append_right _ (List.mem_singleton_self a)) (h.mono hold)

end Description

namespace Part

open Jtag.Action

variable {p p' : Part} {d d' : Description}

/-- The name of the data register that an instruction selects. -/
def selectedName? (p : Part) (x : Instruction) : Option String :=
  x.register?.bind fun i => (p.registers.map (·.name))[i]?

/-- The part has what the description lists, in order; its registers hold what they are loaded with, every name of a
    signal leads to it, and every signal is used through the last cell that it is tied to. -/
structure Realizes (p : Part) (d : Description) : Prop where
  labels : p.manufacturer = d.manufacturer ∧ p.name = d.name ∧ p.stepping = d.stepping
  instructionLength : p.instructionLength = d.instructionLength
  registers : p.registers.map (fun r => (r.name, r.input.bits, r.output.length)) =
    d.registers.map fun r => (r.name, d.contents r, r.length)
  instructions : p.instructions.map (fun x => (x.name, x.opcode.text, p.selectedName? x)) =
    d.instructions.map fun x => (x.name, x.code, x.register?)
  signals : p.signals.map (fun s => (s.name, s.pin?)) = d.signals.map fun s => (s.name, s.pin?)
  aliases : p.aliases.map (·.name) = d.aliases.map (·.name)
  names : ∀ name i, p.signalIndex? name = .ok i ↔ ∃ s, d.signals[i]? = some s ∧ d.Names s.name name
  cells : ∀ bit, (p.cell? bit).map (fun c => (c.name, c.type, c.safe, c.control?)) =
    (d.cells.find? (·.bit == bit)).map fun c => (c.signal?.getD "", c.type, c.safe, c.control?)
  mapped : ∀ s ∈ p.signals, ∀ direction bit, s.bit? direction = some bit ↔
    ∃ c, IsLast (d.Ties s.name direction) d.cells c ∧ c.bit = bit

/-- The action takes parts of one description to parts of another one, and it succeeds just where the other one makes
    sense. -/
structure Extends (act : PartAction Unit) (d d' : Description) : Prop where
  down : d'.WellFormed → d.WellFormed
  accepts : ∀ p, p.WellFormed → p.Realizes d → d'.WellFormed → ∃ p', act.runOn p = (.ok (), p')
  sound : ∀ p p', p.WellFormed → p.Realizes d → d.WellFormed → act.runOn p = (.ok (), p') →
    p'.WellFormed ∧ d'.WellFormed ∧ p'.Realizes d'

namespace Extends

theorem bind {act next : PartAction Unit} {d'' : Description} (hact : Extends act d d') (hnext : Extends next d' d'') :
    Extends (act >>= fun _ => next) d d'' where
  down hd := hact.down (hnext.down hd)
  accepts p hp hrealizes hd := by
    obtain ⟨t, hrun⟩ := hact.accepts p hp hrealizes (hnext.down hd)
    obtain ⟨ht, -, htrealizes⟩ := hact.sound p t hp hrealizes (hact.down (hnext.down hd)) hrun
    obtain ⟨p', hrun'⟩ := hnext.accepts t ht htrealizes hd
    exact ⟨p', (runOn_bind_ok hrun _).trans hrun'⟩
  sound p p' hp hrealizes hd hrun := by
    obtain ⟨_, t, hact', hnext'⟩ := runOn_bind_eq_ok.mp hrun
    obtain ⟨ht, hd', htrealizes⟩ := hact.sound p t hp hrealizes hd hact'
    exact hnext.sound t p' ht htrealizes hd' hnext'

/-- Entries one after the other, each on the description that the entries before it have grown. -/
theorem forM {γ : Type} {f : γ → PartAction Unit} {g : List γ → Description}
    (h : ∀ done a, Extends (f a) (g done) (g (done ++ [a]))) (items done : List γ) :
    Extends (items.forM f) (g done) (g (done ++ items)) := by
  induction items generalizing done with
  | nil =>
    rw [List.append_nil]
    exact ⟨id, fun p _ _ _ => ⟨p, rfl⟩, fun p p' hp hrealizes hd hrun => by cases hrun; exact ⟨hp, hd, hrealizes⟩⟩
  | cons a items ih =>
    have hrest := ih (done ++ [a])
    rw [List.append_assoc, List.singleton_append] at hrest
    exact (h done a).bind hrest

end Extends
end Part
end Jtag
