import Mathlib.Data.List.Chain
import Mathlib.Data.List.Nodup
import Jtag.Proofs.Cable.Rounds

/-! What becomes of deferred items, as a list of events. They are numbered in the order in which they are accepted;
    the rounds of a flush hand them to the driver, and a purge drops them. An item reaches the driver twice exactly
    if a combining round breaks, leaving items that the driver had already, and another round comes before a
    purge. -/

namespace Jtag
namespace Cable

/-- What happens to a cable. -/
inductive Event where
  /-- An item is put behind the others. -/
  | accept (item : Item)
  /-- A round hands items to the driver, from the one numbered `first` on, and takes `taken` items off. It may
  break before the last item of its first call. -/
  | hand (first : Nat) (parcel : Parcel) (taken : Nat) (broken : Bool)
  /-- The items that wait are dropped. -/
  | drop
  /-- An operation makes calls of its own. -/
  | own (calls : List Call)
deriving DecidableEq, Repr

namespace Event

/-- The item that comes to wait. -/
def accepted? : Event → Option Item
  | accept item => some item
  | hand .. | drop | own _ => none

/-- The items that the driver gets, in the first call or one by one behind it. -/
def items : Event → List Item
  | hand _ parcel _ _ => parcel.items
  | accept _ | drop | own _ => []

/-- The numbers of these items. -/
def numbers : Event → List Nat
  | hand first parcel _ _ => List.range' first parcel.items.length
  | accept _ | drop | own _ => []

/-- The calls that the driver gets. -/
def calls : Event → List Call
  | hand _ parcel _ _ => parcel.calls
  | own calls => calls
  | accept _ | drop => []

def ownCalls : Event → List Call
  | own calls => calls
  | accept _ | hand .. | drop => []

def broken : Event → Bool
  | hand _ _ _ broken => broken
  | accept _ | drop | own _ => false

/-- The event removes items from those that wait. -/
def removes : Event → Bool
  | hand .. | drop => true
  | accept _ | own _ => false

theorem numbers_of_not_removes (event : Event) (h : event.removes = false) : event.numbers = [] := by
  cases event <;> first | rfl | cases h

end Event

/-! ### Histories -/

/-- The events between two moments. The items that were accepted before the first one are `accepted`, of which those
from the one numbered `oldest` on wait; at the second moment they are `accepted'` and those from `oldest'` on. -/
inductive History (strategy : FlushStrategy) : List Item → Nat → List Event → List Item → Nat → Prop
  | nil (accepted : List Item) (oldest : Nat) : History strategy accepted oldest [] accepted oldest
  | accept {accepted accepted' : List Item} {oldest oldest' : Nat} {events : List Event} (item : Item)
      (h : History strategy (accepted ++ [item]) oldest events accepted' oldest') :
      History strategy accepted oldest (.accept item :: events) accepted' oldest'
  | hand {accepted accepted' : List Item} {oldest oldest' taken : Nat} {parcel : Parcel} {broken : Bool}
      {events : List Event} (hfits : parcel.Fits taken (accepted.drop oldest))
      (hbroken : taken < parcel.batch.length ↔ broken = true)
      (hstrategy : broken = true → strategy = .combineTransfers)
      (h : History strategy accepted (oldest + taken) events accepted' oldest') :
      History strategy accepted oldest (.hand oldest parcel taken broken :: events) accepted' oldest'
  | drop {accepted accepted' : List Item} {oldest oldest' : Nat} {events : List Event} (hle : oldest ≤ accepted.length)
      (h : History strategy accepted accepted.length events accepted' oldest') :
      History strategy accepted oldest (.drop :: events) accepted' oldest'
  | own {accepted accepted' : List Item} {oldest oldest' : Nat} {events : List Event} (calls : List Call)
      (h : History strategy accepted oldest events accepted' oldest') :
      History strategy accepted oldest (.own calls :: events) accepted' oldest'

namespace History
variable {strategy : FlushStrategy} {accepted accepted' : List Item} {oldest oldest' : Nat} {event : Event}
  {events : List Event}

theorem append {oldest'' : Nat} {accepted'' : List Item} {more : List Event}
    (h : History strategy accepted oldest events accepted' oldest')
    (h' : History strategy accepted' oldest' more accepted'' oldest'') :
    History strategy accepted oldest (events ++ more) accepted'' oldest'' := by
  induction h with
  | nil => exact h'
  | accept item _ ih => exact .accept item (ih h')
  | hand hfits hbroken hstrategy _ ih => exact .hand hfits hbroken hstrategy (ih h')
  | drop hle _ ih => exact .drop hle (ih h')
  | own calls _ ih => exact .own calls (ih h')

/-- What was accepted at the end are the items that were accepted one by one. -/
theorem accepted_eq (h : History strategy accepted oldest events accepted' oldest') :
    accepted' = accepted ++ events.filterMap Event.accepted? := by
  induction h with
  | nil => exact (List.append_nil _).symm
  | accept item _ ih => rw [ih, List.append_assoc]; rfl
  | hand _ _ _ _ ih => exact ih
  | drop _ _ ih => exact ih
  | own _ _ ih => exact ih

/-- The items that are handed out are the accepted ones of these numbers. -/
theorem items_eq (h : History strategy accepted oldest events accepted' oldest') (hmem : event ∈ events) :
    event.numbers.map (accepted'[·]?) = event.items.map some := by
  induction h with
  | nil => cases hmem
  | accept item _ ih =>
    rcases List.mem_cons.mp hmem with rfl | hmem
    · rfl
    · exact ih hmem
  | drop hle _ ih =>
    rcases List.mem_cons.mp hmem with rfl | hmem
    · rfl
    · exact ih hmem
  | own calls _ ih =>
    rcases List.mem_cons.mp hmem with rfl | hmem
    · rfl
    · exact ih hmem
  | @hand accepted accepted' oldest oldest' taken parcel broken events hfits _ _ h ih =>
    rcases List.mem_cons.mp hmem with rfl | hmem
    · obtain ⟨more, hmore⟩ : ∃ more, accepted' = accepted ++ more := ⟨_, h.accepted_eq⟩
      have hwaits : parcel.items.length ≤ (accepted.drop oldest).length := by
        rw [hfits.length]
        exact Nat.max_le.mpr ⟨hfits.batch_le, hfits.taken_le⟩
      rw [List.length_drop] at hwaits
      refine List.ext_getElem (by simp [Event.numbers, Event.items]) fun i hi hi' => ?_
      have hlt : i < parcel.items.length := by simpa [Event.items] using hi'
      have hitem : parcel.items[i]? = accepted[oldest + i]? := by
        rw [hfits.items, List.getElem?_take_of_lt (hfits.length ▸ hlt), List.getElem?_drop]
      rw [List.getElem_map, List.getElem_map, ← List.getElem?_eq_getElem]
      simp only [Event.numbers, Event.items, List.getElem_range', Nat.one_mul, hmore]
      rw [List.getElem?_append_left (by omega), hitem]
    · exact ih hmem

/-- Only items that wait can be handed out. -/
theorem oldest_le (h : History strategy accepted oldest events accepted' oldest') {number : Nat}
    (hnumber : number ∈ events.flatMap Event.numbers) : oldest ≤ number := by
  induction h with
  | nil => cases hnumber
  | accept _ _ ih => exact ih hnumber
  | own _ _ ih => exact ih hnumber
  | hand _ _ _ _ ih =>
    rw [List.flatMap_cons, List.mem_append] at hnumber
    rcases hnumber with hnumber | hnumber
    · exact (List.mem_range'_1.mp hnumber).1
    · exact Nat.le_of_add_right_le (ih hnumber)
  | drop hle _ ih => exact Nat.le_trans hle (ih hnumber)

/-- A round starts with the oldest item. -/
theorem oldest_mem (h : History strategy accepted oldest events accepted' oldest') {first taken : Nat}
    {parcel : Parcel} {broken : Bool}
    (hnext : (events.filter Event.removes).head? = some (.hand first parcel taken broken)) :
    oldest ∈ events.flatMap Event.numbers := by
  induction h with
  | nil => cases hnext
  | accept _ _ ih => exact ih hnext
  | own _ _ ih => exact ih hnext
  | hand hfits _ _ _ _ =>
    rw [List.flatMap_cons, List.mem_append]
    refine .inl (List.mem_range'_1.mpr ⟨Nat.le_refl _, Nat.lt_add_of_pos_right ?_⟩)
    rw [hfits.length]
    exact Nat.lt_of_lt_of_le (List.length_pos_iff.mpr hfits.batch) (Nat.le_max_left ..)
  | drop _ _ _ => cases hnext

/-- Behind a purge, only items are handed out that were accepted later. -/
theorem accepted_le (h : History strategy accepted oldest events accepted' oldest')
    (hnext : (events.filter Event.removes).head? = some .drop) {number : Nat}
    (hnumber : number ∈ events.flatMap Event.numbers) : accepted.length ≤ number := by
  induction h with
  | nil => cases hnext
  | accept item _ ih =>
    have hle := ih hnext hnumber
    rw [List.length_append] at hle
    exact Nat.le_of_add_right_le hle
  | own _ _ ih => exact ih hnext hnumber
  | hand _ _ _ _ _ => cases hnext
  | drop hle h _ => exact h.oldest_le hnumber

theorem combineTransfers_of_broken (h : History strategy accepted oldest events accepted' oldest')
    (hmem : event ∈ events) (hbroken : event.broken = true) : strategy = .combineTransfers := by
  induction h with
  | nil => cases hmem
  | accept _ _ ih =>
    rcases List.mem_cons.mp hmem with rfl | hmem
    · cases hbroken
    · exact ih hmem
  | own _ _ ih =>
    rcases List.mem_cons.mp hmem with rfl | hmem
    · cases hbroken
    · exact ih hmem
  | hand _ _ hstrategy _ ih =>
    rcases List.mem_cons.mp hmem with rfl | hmem
    · exact hstrategy hbroken
    · exact ih hmem
  | drop _ _ ih =>
    rcases List.mem_cons.mp hmem with rfl | hmem
    · cases hbroken
    · exact ih hmem

/-- Items are handed out twice exactly if a round that broke is followed by another. -/
theorem nodup_iff (h : History strategy accepted oldest events accepted' oldest') :
    (events.flatMap Event.numbers).Nodup ↔
      (events.filter Event.removes).IsChain fun event next => event.broken = false ∨ next = .drop := by
  induction h with
  | nil => simp
  | accept _ _ ih => exact ih
  | own _ _ ih => exact ih
  | @drop accepted accepted' oldest oldest' events hle h ih =>
    rw [List.flatMap_cons, List.filter_cons_of_pos rfl, List.isChain_cons, ← ih]
    exact ⟨fun hnodup => ⟨fun _ _ => .inl rfl, hnodup⟩, fun hnodup => hnodup.2⟩
  | @hand accepted accepted' oldest oldest' taken parcel broken events hfits hbroken hstrategy h ih =>
    have hrange : (Event.hand oldest parcel taken broken).numbers.Nodup := List.nodup_range'
    rw [List.flatMap_cons, List.nodup_append', and_iff_right hrange, List.filter_cons_of_pos rfl, List.isChain_cons, ih,
      and_comm]
    refine and_congr_left' ⟨fun hdisjoint next hnext => ?_, fun hnext => ?_⟩
    · cases next with
      | accept item => exact absurd (List.mem_of_mem_head? hnext) (by simp [Event.removes])
      | own calls => exact absurd (List.mem_of_mem_head? hnext) (by simp [Event.removes])
      | drop => exact .inr rfl
      | hand first parcel' taken' broken' =>
        -- The next round starts with the first item left behind, if there is one.
        refine .inl (Bool.eq_false_iff.mpr fun htrue => ?_)
        have hlt := hbroken.mpr htrue
        refine hdisjoint (List.mem_range'_1.mpr ⟨Nat.le_add_right oldest taken, ?_⟩) (h.oldest_mem hnext)
        rw [hfits.length]
        exact Nat.add_lt_add_left (Nat.lt_of_lt_of_le hlt (Nat.le_max_left ..)) oldest
    · intro number hnumber hlater
      have hlt := (List.mem_range'_1.mp hnumber).2
      rw [hfits.length] at hlt
      have hle := h.oldest_le hlater
      cases hremoved : (events.filter Event.removes).head? with
      | none =>
        obtain ⟨event, hmem, hnumber⟩ := List.mem_flatMap.mp hlater
        rw [List.head?_eq_none_iff, List.filter_eq_nil_iff] at hremoved
        rw [event.numbers_of_not_removes (Bool.eq_false_iff.mpr (hremoved event hmem))] at hnumber
        cases hnumber
      | some next =>
        rcases hnext next hremoved with hnone | rfl
        · have hall : ¬taken < parcel.batch.length := fun hlt => Bool.eq_false_iff.mp hnone (hbroken.mp hlt)
          omega
        · have hle := h.accepted_le hremoved hlater
          have hbatch := hfits.batch_le
          have htaken := hfits.taken_le
          rw [List.length_drop] at hbatch htaken
          omega

/-- One item at a time, none is handed out twice. -/
theorem nodup_of_oneByOne (h : History .oneByOne accepted oldest events accepted' oldest') :
    (events.flatMap Event.numbers).Nodup := by
  rw [h.nodup_iff, List.isChain_iff_forall_rel_of_append_cons_cons]
  intro event next before after hsplit
  refine .inl (Bool.eq_false_iff.mpr fun hbroken => ?_)
  have hmem : event ∈ events.filter Event.removes := hsplit ▸ List.mem_append_right before List.mem_cons_self
  cases h.combineTransfers_of_broken (List.mem_of_mem_filter hmem) hbroken

end History
end Cable
end Jtag
