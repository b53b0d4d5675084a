import Jtag.Proofs.Cable.Combine

/-! What any driver was asked to do. A driver is led from one state to another by the calls it carries out;
    the calls tell which clocks went by, and which samples of TDO were taken before which of them. Deferred items
    were done if the clocks that went by are theirs, and if what they yielded was sampled where they stand. -/

namespace Jtag

/-- A call that a driver got, with what it answered. -/
inductive Entry where
  | clock (tms tdi : Bool) (count : Nat)
  | sample (level : Bool)
  /-- A transfer, with the samples it took if they were wanted. -/
  | transfer (input sampled : List Bool)
  | flush
  /-- Any other call, or one that failed. -/
  | other
deriving DecidableEq, Repr

namespace Entry

def ticks : Entry → List Tick
  | clock tms tdi count => List.replicate count ⟨tms, tdi⟩
  | transfer input _ => Tick.lows input
  | _ => []

/-- The samples that a call behind `start` clocks took, each with the number of clocks before it. -/
def heard (start : Nat) : Entry → List (Nat × Bool)
  | sample level => [(start, level)]
  | transfer _ sampled => (sampled.zipIdx start).map Prod.swap
  | _ => []

def heardAll : Nat → List Entry → List (Nat × Bool)
  | _, [] => []
  | start, entry :: entries => entry.heard start ++ heardAll (start + entry.ticks.length) entries

theorem heardAll_append (start : Nat) (entries more : List Entry) :
    heardAll start (entries ++ more) =
      heardAll start entries ++ heardAll (start + (entries.flatMap ticks).length) more := by
  induction entries generalizing start with
  | nil => rfl
  | cons entry entries ih =>
    rw [List.cons_append, heardAll, ih, heardAll, List.append_assoc, List.flatMap_cons, List.length_append, Nat.add_assoc]

theorem mem_heard_transfer {start i : Nat} {b : Bool} {input sampled : List Bool} (h : sampled[i]? = some b) :
    (start + i, b) ∈ (transfer input sampled).heard start := by
  refine List.mem_map.mpr ⟨(b, start + i), ?_, rfl⟩
  rw [List.mk_mem_zipIdx_iff_le_and_getElem?_sub, Nat.add_sub_cancel_left]
  exact ⟨Nat.le_add_right .., h⟩

end Entry

/-! ### Drivers -/

section Drivers
variable {σ : Type} [Driver σ]

/-- The call succeeds and leads the driver from one state to the other. A transfer whose samples are not wanted
    counts as one without samples, whatever it answers. -/
def Entry.Does : Entry → σ → σ → Prop
  | .clock tms tdi count, s, t => (Driver.clock tms tdi count).runOn s = (.ok (), t)
  | .sample level, s, t => Driver.sampleTdo.runOn s = (.ok level, t)
  | .transfer input sampled, s, t =>
    (Driver.transfer input true).runOn s = (.ok sampled, t) ∨
      sampled = [] ∧ ∃ answer, (Driver.transfer input false).runOn s = (.ok answer, t)
  | .flush, s, t => Driver.flush.runOn s = (.ok (), t)
  | .other, _, _ => False

def Leads : List Entry → σ → σ → Prop
  | [], s, t => s = t
  | entry :: entries, s, u => ∃ t, entry.Does s t ∧ Leads entries t u

theorem Leads.append {entries more : List Entry} {s t u : σ} (h : Leads entries s t) (h' : Leads more t u) :
    Leads (entries ++ more) s u := by
  induction entries generalizing s with
  | nil => exact (show s = t from h) ▸ h'
  | cons entry entries ih =>
    obtain ⟨r, hdoes, hrest⟩ := h
    exact ⟨r, hdoes, ih hrest⟩

theorem Leads.concat {entries : List Entry} {entry : Entry} {s t u : σ} (h : Leads entries s t)
    (h' : entry.Does t u) : Leads (entries ++ [entry]) s u := h.append ⟨u, h', rfl⟩

/-- A transfer whose samples are wanted answers one for each bit. -/
def Framed (σ : Type) [Driver σ] : Prop :=
  ∀ (input sampled : List Bool) (s t : σ), (Driver.transfer input true).runOn s = (.ok sampled, t) →
    sampled.length = input.length

theorem Steady.framed (d : Steady σ) : Framed σ := by
  intro input sampled s t hrun
  rw [d.runOn_transfer] at hrun
  cases hrun
  exact (d.length_listen _ _).trans (Tick.length_lows input)

end Drivers

/-! ### Items -/

namespace Item

/-- An item that a chain defers: it drives and reads no other line. -/
def plain : Item → Bool
  | clock .. | sampleTdo | transfer .. => true
  | setSignals .. | sampleSignal _ => false

def ticks : Item → List Tick
  | clock tms tdi count => List.replicate count ⟨tms, tdi⟩
  | transfer input _ => Tick.lows input
  | _ => []

theorem ticks_of_combinable {item : Item} (h : item.combinable = true) : item.ticks = Tick.lows item.bits := by
  cases item with
  | clock tms tdi count =>
    cases tms with
    | false => exact (Tick.lows_replicate count tdi).symm
    | true => cases h
  | setSignals mask value => cases h
  | sampleSignal lines => cases h
  | sampleTdo => rfl
  | transfer input capture => rfl

theorem length_ticks_of_combinable {item : Item} (h : item.combinable = true) : item.ticks.length = item.size := by
  rw [ticks_of_combinable h, Tick.length_lows, size_eq_length_bits]

/-- What an item that stands behind `start` clocks yields, out of samples that were taken. -/
def Yields (samples : List (Nat × Bool)) (start : Nat) : Item → List Outcome → Prop
  | sampleTdo, outcomes => ∃ level, outcomes = [.tdo level] ∧ (start, level) ∈ samples
  | transfer input true, outcomes =>
    ∃ bits, outcomes = [.transfer bits] ∧ bits.length = input.length ∧
      ∀ i b, bits[i]? = some b → (start + i, b) ∈ samples
  | _, outcomes => outcomes = []

theorem Yields.mono {samples more : List (Nat × Bool)} {start : Nat} {item : Item} {outcomes : List Outcome}
    (h : item.Yields samples start outcomes) (hmore : samples ⊆ more) : item.Yields more start outcomes := by
  cases item with
  | sampleTdo =>
    obtain ⟨level, hout, hmem⟩ := h
    exact ⟨level, hout, hmore hmem⟩
  | transfer input capture =>
    cases capture with
    | false => exact h
    | true =>
      obtain ⟨bits, hout, hlength, hmem⟩ := h
      exact ⟨bits, hout, hlength, fun i b hb => hmore (hmem i b hb)⟩
  | clock tms tdi count => exact h
  | setSignals mask value => exact h
  | sampleSignal lines => exact h

/-- What several items yield that follow each other. -/
def YieldsAll (samples : List (Nat × Bool)) : Nat → List Item → List Outcome → Prop
  | _, [], outcomes => outcomes = []
  | start, item :: items, outcomes =>
    ∃ own others, outcomes = own ++ others ∧ item.Yields samples start own ∧
      YieldsAll samples (start + item.ticks.length) items others

theorem YieldsAll.mono {samples more : List (Nat × Bool)} {start : Nat} {items : List Item} {outcomes : List Outcome}
    (h : YieldsAll samples start items outcomes) (hmore : samples ⊆ more) : YieldsAll more start items outcomes := by
  induction items generalizing start outcomes with
  | nil => exact h
  | cons item items ih =>
    obtain ⟨own, others, hout, hown, hothers⟩ := h
    exact ⟨own, others, hout, hown.mono hmore, ih hothers⟩

theorem YieldsAll.concat {samples : List (Nat × Bool)} {start : Nat} {items : List Item} {item : Item}
    {outcomes new : List Outcome} (h : YieldsAll samples start items outcomes)
    (hitem : item.Yields samples (start + (items.flatMap ticks).length) new) :
    YieldsAll samples start (items ++ [item]) (outcomes ++ new) := by
  induction items generalizing start outcomes with
  | nil =>
    obtain rfl : outcomes = [] := h
    exact ⟨new, [], (List.append_nil _).symm, hitem, rfl⟩
  | cons first items ih =>
    obtain ⟨own, others, rfl, hown, hothers⟩ := h
    refine ⟨own, others ++ new, List.append_assoc .., hown, ih hothers ?_⟩
    rwa [List.flatMap_cons, List.length_append, ← Nat.add_assoc] at hitem

end Item

/-! ### Done items -/

section Done
variable {σ : Type} [Driver σ] {mark s t : σ} {done : List Item} {outcomes new : List Outcome} {entry : Entry}
  {item : Item}

/-- The driver was led from `mark` to `s` by the clocks of `done`, and the samples taken on the way are what these
    items yielded. -/
def Led (mark : σ) (done : List Item) (outcomes : List Outcome) (s : σ) : Prop :=
  ∃ entries, Leads entries mark s ∧ entries.flatMap Entry.ticks = done.flatMap Item.ticks ∧
    Item.YieldsAll (Entry.heardAll 0 entries) 0 done outcomes

theorem heardAll_concat {entries : List Entry} (hsame : entries.flatMap Entry.ticks = done.flatMap Item.ticks)
    (entry : Entry) : Entry.heardAll 0 (entries ++ [entry]) =
      Entry.heardAll 0 entries ++ entry.heard (done.flatMap Item.ticks).length := by
  rw [Entry.heardAll_append, hsame, Nat.zero_add, Entry.heardAll, Entry.heardAll, List.append_nil]

theorem Led.does (h : Led mark done outcomes s) (hdoes : entry.Does s t) (hticks : entry.ticks = item.ticks)
    (hyields : ∀ start, item.Yields (entry.heard start) start new) : Led mark (done ++ [item]) (outcomes ++ new) t := by
  obtain ⟨entries, hleads, hsame, hdone⟩ := h
  refine ⟨entries ++ [entry], hleads.concat hdoes, ?_, ?_⟩
  · rw [List.flatMap_append, List.flatMap_append, hsame, List.flatMap_singleton, List.flatMap_singleton, hticks]
  · rw [heardAll_concat hsame]
    refine (hdone.mono (List.subset_append_left ..)).concat ?_
    rw [Nat.zero_add]
    exact (hyields _).mono (List.subset_append_right ..)

theorem Led.idle (h : Led mark done outcomes s) (hdoes : entry.Does s t) (hticks : entry.ticks = []) :
    Led mark done outcomes t := by
  obtain ⟨entries, hleads, hsame, hdone⟩ := h
  refine ⟨entries ++ [entry], hleads.concat hdoes, ?_, ?_⟩
  · rw [List.flatMap_append, hsame, List.flatMap_singleton, hticks, List.append_nil]
  · rw [heardAll_concat hsame]
    exact hdone.mono (List.subset_append_left ..)

theorem Led.wait (h : Led mark done outcomes s) (hwait : Led s [] new t) : Led mark done outcomes t := by
  obtain ⟨entries, hleads, hsame, hdone⟩ := h
  obtain ⟨more, hleads', hsame', -⟩ := hwait
  refine ⟨entries ++ more, hleads.append hleads', ?_, ?_⟩
  · rw [List.flatMap_append, hsame, hsame', List.flatMap_nil, List.append_nil]
  · rw [Entry.heardAll_append]
    exact hdone.mono (List.subset_append_left ..)

end Done
end Jtag
