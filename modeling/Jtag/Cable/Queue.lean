import Jtag.Action
import Jtag.Cable.Error

/-!
First-in first-out queues in a ring of slots. A full ring grows by a fixed number of slots, if there
is memory for them. When its contents wrap around the end, the shorter way to keep them in one run
around the ring is taken: the piece at the end moves to the new end, or the piece at the start moves
into the new slots.
-/

namespace Jtag

/-- A queue: `count` items in consecutive slots, counted around the ring. -/
structure Queue (α : Type) where
  slots : Array (Option α)
  /-- The slot of the oldest item. -/
  head : Nat
  /-- The slot for the next item. -/
  free : Nat
  count : Nat
  /-- Slots added when a full queue takes another item. -/
  growth : Nat
  slots_pos : 0 < slots.size
  growth_pos : 0 < growth

abbrev QueueAction (α β : Type) := Action (Queue α) CableError β

namespace Queue

variable {α : Type}

/-- A queue of `capacity` slots that grows by `growth`; both are at least one. -/
def withCapacity (capacity growth : Nat) : Queue α where
  slots := Array.replicate (max capacity 1) none
  head := 0
  free := 0
  count := 0
  growth := max growth 1
  slots_pos := by rw [Array.size_replicate]; omega
  growth_pos := by omega

def capacity (q : Queue α) : Nat := q.slots.size

def isEmpty (q : Queue α) : Bool := q.count == 0

def isFull (q : Queue α) : Bool := q.slots.size ≤ q.count

/-- The slot `offset` places behind the oldest item. -/
def slot (q : Queue α) (offset : Nat) : Nat := (q.head + offset) % q.slots.size

/-- The item `offset` places behind the oldest one. -/
def peek? (q : Queue α) (offset : Nat) : Option α :=
  if offset < q.count then q.slots[q.slot offset]?.join else none

/-- The items, oldest first. -/
def toList (q : Queue α) : List α := (List.range q.count).filterMap q.peek?

/-- Move `n` slots from `source` on to the slots from `target` on, first one first. -/
def moveUp (slots : Array (Option α)) (source target : Nat) : Nat → Array (Option α)
  | 0 => slots
  | n + 1 =>
    let moved := slots[source]?.join
    moveUp ((slots.setIfInBounds source none).setIfInBounds target moved) (source + 1) (target + 1) n

/-- Move `n` slots from `source` on to the slots from `target` on, last one first. -/
def moveDown (slots : Array (Option α)) (source target : Nat) : Nat → Array (Option α)
  | 0 => slots
  | n + 1 =>
    let moved := slots[source + n]?.join
    moveDown ((slots.setIfInBounds (source + n) none).setIfInBounds (target + n) moved) source target n

@[simp] theorem size_moveUp (slots : Array (Option α)) (source target n : Nat) :
    (moveUp slots source target n).size = slots.size := by
  induction n generalizing slots source target with
  | zero => rfl
  | succ n ih => simp [moveUp, ih]

@[simp] theorem size_moveDown (slots : Array (Option α)) (source target n : Nat) :
    (moveDown slots source target n).size = slots.size := by
  induction n generalizing slots with
  | zero => rfl
  | succ n ih => simp [moveDown, ih]

/-- The slots and the head of a full ring of `size` slots after `added` free ones came behind its
end. The contents are the run from `head` to the end, followed by the run before `free`. -/
def unwrap (slots : Array (Option α)) (head free size added : Nat) : Array (Option α) × Nat :=
  let tail := size - head
  if head = 0 then (slots, head)
  else if tail ≤ free then
    (moveDown slots head (size + added - tail) tail, size + added - tail)
  else if free ≤ added then (moveUp slots 0 size free, head)
  else (moveUp (moveUp slots 0 size added) added 0 (free - added), head)

theorem size_unwrap (slots : Array (Option α)) (head free size added : Nat) :
    (unwrap slots head free size added).1.size = slots.size := by
  simp only [unwrap]
  split
  · rfl
  · split
    · simp
    · split <;> simp

/-- A full queue with `growth` more slots and the same items. -/
def grown (q : Queue α) : Queue α :=
  let more := q.slots ++ Array.replicate q.growth none
  let placed := unwrap more q.head q.free q.slots.size q.growth
  { q with
    slots := placed.1
    head := placed.2
    free := (placed.2 + q.count) % (q.slots.size + q.growth)
    slots_pos := by
      rw [size_unwrap, Array.size_append]
      exact Nat.lt_of_lt_of_le q.slots_pos (Nat.le_add_right ..) }

/-- Make room in a full queue, unless the memory for it is refused. -/
def grow (granted : Bool) : QueueAction α Unit := do
  unless granted do throw .outOfMemory
  Action.change grown

/-- The queue with an item in its next free slot. -/
def put (q : Queue α) (item : α) : Queue α :=
  { q with
    slots := q.slots.setIfInBounds q.free (some item)
    free := (q.free + 1) % q.slots.size
    count := q.count + 1
    slots_pos := by simpa using q.slots_pos }

/-- Append an item. If the queue is full it asks for memory, which is granted or not. -/
def push (granted : Bool) (item : α) : QueueAction α Unit := do
  let q ← get
  if q.isFull then grow granted
  Action.change (·.put item)

/-- The queue without its oldest item. -/
def dropOldest (q : Queue α) : Queue α :=
  { q with
    slots := q.slots.setIfInBounds q.head none
    head := (q.head + 1) % q.slots.size
    count := q.count - 1
    slots_pos := by simpa using q.slots_pos }

/-- Take the oldest item off. -/
def pop : QueueAction α α := do
  let q ← get
  if q.count = 0 then throw .queueEmpty
  match q.slots[q.head]?.join with
  | none => throw .queueOutOfSync
  | some item =>
    set q.dropOldest
    return item

/-- Drop all items, keeping the slots. -/
def purge (q : Queue α) : Queue α :=
  { q with
    slots := Array.replicate q.slots.size none
    head := 0
    free := 0
    count := 0
    slots_pos := by simpa using q.slots_pos }

/-! ### Running the calls -/

theorem runOn_push (granted : Bool) (item : α) (q : Queue α) : (push granted item).runOn q =
    if q.isFull then if granted then (.ok (), q.grown.put item) else (.error .outOfMemory, q)
    else (.ok (), q.put item) := by
  simp only [push, Action.runOn_bind_ok (Action.runOn_get q)]
  split
  · cases granted <;> rfl
  · rfl

theorem runOn_pop_empty {q : Queue α} (h : q.count = 0) :
    (pop : QueueAction α α).runOn q = (.error .queueEmpty, q) := by
  simp only [pop, Action.runOn_bind_ok (Action.runOn_get q), if_pos h]
  rfl

theorem runOn_pop {q : Queue α} {item : α} (h : q.count ≠ 0)
    (hitem : q.slots[q.head]? = some (some item)) :
    (pop : QueueAction α α).runOn q = (.ok item, q.dropOldest) := by
  simp only [pop, Action.runOn_bind_ok (Action.runOn_get q), if_neg h, hitem]
  rfl

end Queue
end Jtag
