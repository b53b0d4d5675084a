import Mathlib.Data.List.Forall2
import Jtag.Proofs.Chain.Replacement

/-! What a database changes about a detection: how parts are described whose definition applies and has the
    length that was scanned. What is sent, what the answer is, and what identifies the parts stays the same, as long
    as no definition asks for more than can be held. -/

namespace Jtag
namespace Chain

open Jtag.Action Jtag.Part

variable {σ : Type} {c c₁ c₂ : Chain σ} {names : Manufacturers} {found : Found} {database : Database} {part : Part}

/-- A part next to the one that is made without a database. -/
structure Alike (names : Manufacturers) (database : Database) (p plain : Part) : Prop where
  id? : p.id? = plain.id?
  instructionLength : p.instructionLength = plain.instructionLength
  active : p.Runs bypass ∧ plain.Runs bypass
  defined : p = plain ∨ ∃ id d part, plain.id? = some id ∧ database.lookup? id = some d ∧
    definedPart? id d = .ok part ∧ part.instructionLength = plain.instructionLength ∧ p = identify names id part

/-- Two chains that may differ in their warnings and in how their parts are described. -/
structure Beside (names : Manufacturers) (database : Database) (c plain : Chain σ) : Prop where
  parts : List.Forall₂ (Alike names database) c.parts plain.parts
  active : c.active = plain.active
  scannedLength? : c.scannedLength? = plain.scannedLength?

theorem Beside.add {p g : Part} (h : Beside names database c₁ c₂) (halike : Alike names database p g)
    (warnings₁ warnings₂ : Array Warning) :
    Beside names database { c₁ with warnings := warnings₁, scannedLength? := none, parts := c₁.parts ++ [p] }
      { c₂ with warnings := warnings₂, scannedLength? := none, parts := c₂.parts ++ [g] } where
  parts := List.rel_append h.parts (.cons halike .nil)
  active := h.active
  scannedLength? := rfl

theorem Beside.instructionLength (h : Beside names database c₁ c₂) : c₁.instructionLength = c₂.instructionLength := by
  have hlengths : c₁.parts.map (·.instructionLength) = c₂.parts.map (·.instructionLength) := by
    refine List.forall₂_eq_eq_eq ▸ List.forall₂_map_left_iff.mpr (List.forall₂_map_right_iff.mpr ?_)
    exact h.parts.imp fun p g halike => halike.instructionLength
  have hparts := h.parts
  unfold Chain.instructionLength
  rw [h.scannedLength?]
  generalize c₁.parts = parts₁ at hparts hlengths ⊢
  generalize c₂.parts = parts₂ at hparts hlengths ⊢
  cases hparts with
  | nil => rfl
  | cons => exact congrArg (fun lengths => Word.wrap (Scan.total lengths)) hlengths

variable [Driver σ]

/-- The definition of the first part gets a bypass instruction, that of the second one has the wrong length. -/
example :
    let first : IdCode := ⟨0x4ba00477⟩
    let second : IdCode := ⟨0x149511c3⟩
    let description : Description := ⟨"", "", "", 4, [], [⟨"IDCODE", "1110", none⟩], [], [], []⟩
    let database : Database := ⟨[⟨first.key.manufacturer, first.key.partNumber, [], description⟩,
      ⟨second.key.manufacturer, second.key.partNumber, [], description⟩]⟩
    let found := [(⟨some first, 4⟩ : Found), ⟨some second, 3⟩]
    let added := (addFound (fun _ _ => none) database found : ChainAction Sim.Pod Unit).runOn (Chain.new Config.default)
    added.2.parts.map (fun p => (p.instructionLength, p.instructions.map (·.name))) =
      [(4, ["IDCODE", bypass]), (3, [bypass])] := by
  decide +kernel

end Chain
end Jtag
