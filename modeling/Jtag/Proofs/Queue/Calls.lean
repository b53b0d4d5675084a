import Jtag.Proofs.Queue.Fifo

/-! A queue answers its calls as a list does. Its ring shows in the number of slots alone: a list that fills
    all of them takes another item only if memory for more is to be had, and otherwise nothing happens. -/

namespace Jtag
namespace Queue

/-- A call of a queue. When a push needs more slots, it may be granted the memory for them or not. -/
inductive Call (α : Type) where
  | push (item : α) (memory : Bool)
  | pop
  | peek (offset : Nat)
  | iter
  | purge
  | length
  | capacity
deriving DecidableEq, Repr

inductive Reply (α : Type) where
  | done
  | failed (e : CableError)
  | taken (item : α)
  | seen (item? : Option α)
  | listed (items : List α)
  | count (n : Nat)
deriving DecidableEq, Repr

variable {α τ : Type}

def Reply.ofAnswer {β : Type} (found : β → Reply α) : Except CableError β → Reply α
  | .ok b => found b
  | .error e => .failed e

/-- Make a call. The queue behind it is the one that the operation leaves, also where it fails. -/
def call (q : Queue α) : Call α → Reply α × Queue α
  | .push item memory =>
    let (answer, q') := (Queue.push memory item).runOn q
    (.ofAnswer (fun _ => .done) answer, q')
  | .pop =>
    let (answer, q') := (pop : QueueAction α α).runOn q
    (.ofAnswer .taken answer, q')
  | .peek offset => (.seen (q.peek? offset), q)
  | .iter => (.listed q.toList, q)
  | .purge => (.count q.count, q.purge)
  | .length => (.count q.count, q)
  | .capacity => (.count q.capacity, q)

/-- The replies to one call after the other, and the state behind them. -/
def calls (call : τ → Call α → Reply α × τ) (s : τ) : List (Call α) → List (Reply α) × τ
  | [] => ([], s)
  | c :: rest =>
    let (reply, s) := call s c
    let (replies, s) := calls call s rest
    (reply :: replies, s)

/-- A list of items, oldest first, and how many of them fit. -/
structure Line (α : Type) where
  items : List α
  capacity : Nat
  growth : Nat
deriving DecidableEq, Repr

def Line.call (line : Line α) : Call α → Reply α × Line α
  | .push item memory =>
    if line.items.length < line.capacity then (.done, { line with items := line.items ++ [item] })
    else if memory then
      (.done, { line with items := line.items ++ [item], capacity := line.capacity + line.growth })
    else (.failed .outOfMemory, line)
  | .pop =>
    match line.items with
    | [] => (.failed .queueEmpty, line)
    | item :: rest => (.taken item, { line with items := rest })
  | .peek offset => (.seen line.items[offset]?, line)
  | .iter => (.listed line.items, line)
  | .purge => (.count line.items.length, { line with items := [] })
  | .length => (.count line.items.length, line)
  | .capacity => (.count line.capacity, line)

structure Matches (q : Queue α) (line : Line α) : Prop where
  holds : q.Holds line.items
  capacity : q.capacity = line.capacity
  growth : q.growth = line.growth

variable {q : Queue α} {line : Line α}

theorem matches_withCapacity (capacity growth : Nat) :
    (withCapacity capacity growth : Queue α).Matches ⟨[], max capacity 1, max growth 1⟩ :=
  ⟨holds_withCapacity capacity growth, Array.size_replicate, rfl⟩

/-! ### One call -/

theorem Matches.push (h : q.Matches line) (item : α) (memory : Bool) :
    (q.call (.push item memory)).1 = (line.call (.push item memory)).1 ∧
      (q.call (.push item memory)).2.Matches (line.call (.push item memory)).2 := by
  have hsize : q.slots.size = line.capacity := h.capacity
  have hfits : line.items.length ≤ line.capacity := hsize ▸ h.holds.fits
  simp only [Queue.call, Line.call]
  cases hfull : q.isFull with
  | false =>
    have hroom : line.items.length < line.capacity := by
      refine Nat.lt_of_le_of_ne hfits fun hlength => ?_
      rw [h.holds.isFull_iff.mpr (hlength.trans hsize.symm)] at hfull
      cases hfull
    obtain ⟨q', hpush, hholds, hcapacity, hgrowth⟩ := h.holds.push_room hfull memory item
    rw [hpush, if_pos hroom]
    exact ⟨rfl, hholds, hcapacity.trans h.capacity, hgrowth.trans h.growth⟩
  | true =>
    have hnone : ¬line.items.length < line.capacity := by
      rw [h.holds.isFull_iff.mp hfull, hsize]
      exact Nat.lt_irrefl _
    rw [if_neg hnone]
    cases memory with
    | false =>
      rw [push_refused hfull, if_neg Bool.false_ne_true]
      exact ⟨rfl, h⟩
    | true =>
      obtain ⟨q', hpush, hholds, hcapacity, hgrowth⟩ := h.holds.push_grows hfull item
      rw [hpush, if_pos rfl]
      refine ⟨rfl, hholds, ?_, hgrowth.trans h.growth⟩
      rw [hcapacity, h.capacity, h.growth]

theorem Matches.pop (h : q.Matches line) :
    (q.call .pop).1 = (line.call .pop).1 ∧ (q.call .pop).2.Matches (line.call .pop).2 := by
  obtain ⟨items, capacity, growth⟩ := line
  obtain ⟨hholds, hcapacity, hgrowth⟩ := h
  simp only [Queue.call, Line.call]
  cases items with
  | nil =>
    rw [hholds.pop_nil]
    exact ⟨rfl, hholds, hcapacity, hgrowth⟩
  | cons item rest =>
    obtain ⟨q', hpop, hrest, hslots, hsame⟩ := hholds.pop_cons
    rw [hpop]
    exact ⟨rfl, hrest, hslots.trans hcapacity, hsame.trans hgrowth⟩

theorem Matches.call (h : q.Matches line) (c : Call α) :
    (q.call c).1 = (line.call c).1 ∧ (q.call c).2.Matches (line.call c).2 := by
  cases c with
  | push item memory => exact h.push item memory
  | pop => exact h.pop
  | peek offset => exact ⟨congrArg Reply.seen (h.holds.peek? offset), h⟩
  | iter => exact ⟨congrArg Reply.listed h.holds.toList, h⟩
  | purge => exact ⟨congrArg Reply.count h.holds.count, holds_purge q, Array.size_replicate.trans h.capacity, h.growth⟩
  | length => exact ⟨congrArg Reply.count h.holds.count, h⟩
  | capacity => exact ⟨congrArg Reply.count h.capacity, h⟩

/-- A call that fails leaves a queue that holds a list as it was. Taking a missing item out of the oldest slot
    would fail too, but the slots in use are never empty. -/
theorem Matches.call_failed (h : q.Matches line) {c : Call α} {e : CableError} (hfailed : (q.call c).1 = .failed e) :
    (q.call c).2 = q := by
  obtain ⟨items, capacity, growth⟩ := line
  cases c with
  | push item memory =>
    rcases h.holds.push memory item with ⟨q', hpush, -, -⟩ | ⟨hpush, -, -⟩
    · simp only [Queue.call, hpush] at hfailed
      cases hfailed
    · simp only [Queue.call, hpush]
  | pop =>
    cases items with
    | nil => simp only [Queue.call, Holds.pop_nil h.holds]
    | cons item rest =>
      obtain ⟨q', hpop, -, -, -⟩ := Holds.pop_cons h.holds
      simp only [Queue.call, hpop] at hfailed
      cases hfailed
  | purge => cases hfailed
  | peek | iter | length | capacity => rfl

theorem Line.call_ne_outOfSync (line : Line α) (c : Call α) : (line.call c).1 ≠ .failed .queueOutOfSync := by
  cases c with
  | push item memory =>
    simp only [Line.call]
    split
    · exact nofun
    · split <;> exact nofun
  | pop =>
    simp only [Line.call]
    split <;> exact nofun
  | peek | iter | purge | length | capacity => exact nofun

/-! ### One call after the other -/

theorem calls_append (call : τ → Call α → Reply α × τ) (s : τ) (first second : List (Call α)) :
    calls call s (first ++ second) =
      ((calls call s first).1 ++ (calls call (calls call s first).2 second).1,
        (calls call (calls call s first).2 second).2) := by
  induction first generalizing s with
  | nil => rfl
  | cons c first ih => simp only [List.cons_append, calls, ih]

theorem Matches.calls (h : q.Matches line) (requests : List (Call α)) :
    (calls Queue.call q requests).1 = (calls Line.call line requests).1 ∧
      (calls Queue.call q requests).2.Matches (calls Line.call line requests).2 := by
  induction requests generalizing q line with
  | nil => exact ⟨rfl, h⟩
  | cons c requests ih =>
    obtain ⟨hreply, hnext⟩ := h.call c
    obtain ⟨hreplies, hlast⟩ := ih hnext
    exact ⟨congrArg₂ List.cons hreply hreplies, hlast⟩

theorem Line.outOfSync_notMem (line : Line α) (requests : List (Call α)) :
    .failed .queueOutOfSync ∉ (calls Line.call line requests).1 := by
  induction requests generalizing line with
  | nil => exact List.not_mem_nil
  | cons c requests ih =>
    rw [calls, List.mem_cons, not_or]
    exact ⟨(line.call_ne_outOfSync c).symm, ih _⟩

/-- A call that fails may be left out. -/
theorem Matches.calls_without_failed (h : q.Matches line) (before after : List (Call α)) {c : Call α} {e : CableError}
    (hfailed : ((Queue.calls Queue.call q before).2.call c).1 = .failed e) :
    ∃ replies later last, replies.length = before.length ∧
      Queue.calls Queue.call q (before ++ c :: after) = (replies ++ .failed e :: later, last) ∧
      Queue.calls Queue.call q (before ++ after) = (replies ++ later, last) := by
  have hcount : ∀ (q : Queue α) (requests : List (Call α)),
      (Queue.calls Queue.call q requests).1.length = requests.length := by
    intro q requests
    induction requests generalizing q with
    | nil => rfl
    | cons c requests ih => simp [Queue.calls, ih]
  refine ⟨_, _, _, hcount q before, ?_, calls_append ..⟩
  have hcall : (Queue.calls Queue.call q before).2.call c = (.failed e, (Queue.calls Queue.call q before).2) :=
    Prod.ext hfailed ((h.calls before).2.call_failed hfailed)
  simp only [calls_append, Queue.calls, hcall]

/-- From any capacity and any growth a queue answers as a list, whatever is called and whenever memory is short.
    A push that is refused might as well not have been tried. -/
theorem calls_withCapacity (capacity growth : Nat) (requests : List (Call α)) :
    let ring := calls Queue.call (withCapacity capacity growth : Queue α)
    let list := calls Line.call (⟨[], max capacity 1, max growth 1⟩ : Line α)
    (ring requests).1 = (list requests).1 ∧
      (ring requests).2.toList = (list requests).2.items ∧
      (ring requests).2.count = (list requests).2.items.length ∧
      (ring requests).2.capacity = (list requests).2.capacity ∧
      .failed .queueOutOfSync ∉ (ring requests).1 ∧
      ∀ before item memory after, requests = before ++ .push item memory :: after →
        ((ring before).2.call (.push item memory)).1 = .failed .outOfMemory →
        ∃ replies later last, replies.length = before.length ∧
          ring requests = (replies ++ .failed .outOfMemory :: later, last) ∧
          ring (before ++ after) = (replies ++ later, last) := by
  intro ring list
  obtain ⟨hreplies, hlast⟩ := (matches_withCapacity (α := α) capacity growth).calls requests
  refine ⟨hreplies, hlast.holds.toList, hlast.holds.count, hlast.capacity, ?_, ?_⟩
  · rw [hreplies]
    exact Line.outOfSync_notMem _ requests
  · rintro before item memory after rfl hrefused
    exact (matches_withCapacity capacity growth).calls_without_failed before after hrefused

/-- The ring of two slots wraps before it grows, and is full again when memory is short. -/
example : (calls Queue.call (withCapacity 2 1 : Queue Nat)
    [.push 1 true, .push 2 true, .pop, .push 3 true, .push 4 true, .push 5 false, .iter]).1 =
      [.done, .done, .taken 1, .done, .done, .failed .outOfMemory, .listed [2, 3, 4]] := by decide

end Queue
end Jtag
