/-!
Memory that is asked for while a program runs. Whether more of it is to be had is not up to the
program.
-/

namespace Jtag

/-- The answers to requests for memory, and how many requests there were. -/
structure Memory where
  /-- Whether a request is granted, by its number and the slots it asks for. -/
  grants : Nat → Nat → Bool
  requests : Nat

namespace Memory

/-- Memory without end. -/
def ample : Memory := ⟨fun _ _ => true, 0⟩

/-- Ask for as many slots, if they are needed. -/
def ask (m : Memory) (needed : Bool) (slots : Nat) : Bool × Memory :=
  if needed then (m.grants m.requests slots, { m with requests := m.requests + 1 }) else (true, m)

/-- However often as many slots are asked for, they are granted. -/
def Grants (m : Memory) (slots : Nat) : Prop := ∀ request, m.grants request slots = true

theorem grants_ample (slots : Nat) : ample.Grants slots := fun _ => rfl

@[simp] theorem grants_ask (m : Memory) (needed : Bool) (slots : Nat) :
    (m.ask needed slots).2.grants = m.grants := by
  cases needed <;> rfl

theorem Grants.later {m : Memory} {slots : Nat} (h : m.Grants slots) (needed : Bool) (asked : Nat) :
    (m.ask needed asked).2.Grants slots := by
  rw [Grants, grants_ask]
  exact h

theorem Grants.ask {m : Memory} {slots : Nat} (h : m.Grants slots) (needed : Bool) :
    (m.ask needed slots).1 = true := by
  cases needed
  · rfl
  · exact h m.requests

end Memory
end Jtag
