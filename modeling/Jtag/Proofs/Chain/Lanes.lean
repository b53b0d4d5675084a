import Jtag.Proofs.Chain.Shift

/-! The shifts of all parts of a chain become one stream. Only the last one leaves the shift state, so the
    clocks are those of a single shift of all inputs in a row, and every output gets the slice of the
    samples that belongs to the input of its part. -/

namespace Jtag

/-! ### Staying in the shift state -/

namespace Tap
namespace Tracker

theorem state_clock_low (t : Tracker) : (t.clock false).state = t.state.next false := rfl

theorem state_follow_lows {t : Tracker} {column : Column} (h : t.state = .scan column .shift) (bits : List Bool) :
    (t.follow (Tick.lows bits)).state = .scan column .shift := by
  induction bits generalizing t with
  | nil => exact h
  | cons bit bits ih =>
    apply ih
    rw [state_clock_low, h]
    cases column <;> rfl

theorem next_low_of_isShift {s : State} (h : s.isShift = true) : ∃ column, s.next false = .scan column .shift := by
  rcases s with _ | _ | _ | ⟨column, stage⟩ <;> try exact absurd h Bool.false_ne_true
  cases stage <;> try exact absurd h Bool.false_ne_true
  all_goals exact ⟨column, by cases column <;> rfl⟩

end Tracker
end Tap

namespace Chain

/-- A shift that stays ends in the shift state. -/
theorem state_follow_pass {t : Tap.Tracker} (h : t.state.isShift = true) {bits : List Bool} (hbits : bits ≠ []) :
    ∃ column, (t.follow (passTicks t.state bits .shift)).state = .scan column .shift := by
  obtain ⟨bit, bits, rfl⟩ := List.exists_cons_of_ne_nil hbits
  obtain ⟨column, hcolumn⟩ := Tap.Tracker.next_low_of_isShift h
  refine ⟨column, ?_⟩
  have hticks : passTicks t.state (bit :: bits) .shift = enterTicks t.state ++ Tick.lows (bit :: bits) :=
    (List.append_nil _).trans (congrArg (enterTicks t.state ++ ·) (shiftTicks_false _))
  rw [hticks, Tap.Tracker.follow_append]
  by_cases hcapture : t.state.isCapture = true
  · rw [enterTicks, if_pos hcapture]
    exact Tap.Tracker.state_follow_lows hcolumn (bit :: bits)
  · rw [enterTicks, if_neg hcapture]
    exact Tap.Tracker.state_follow_lows hcolumn bits

theorem enterTicks_shift (column : Tap.Column) : enterTicks (.scan column .shift) = [] := rfl

theorem passTicks_append {s s' : Tap.State} (hs : enterTicks s' = []) (bits : List Bool) {more : List Bool}
    (hmore : more ≠ []) (exit : Exit) :
    passTicks s (bits ++ more) exit = passTicks s bits .shift ++ passTicks s' more exit := by
  have hbits : shiftTicks Exit.shift.leavesShift bits = Tick.lows bits := shiftTicks_false bits
  rw [passTicks, passTicks, passTicks, shiftTicks_append _ bits hmore, hs, hbits, List.nil_append]
  simp only [List.append_assoc]
  rfl

variable {σ : Type} [Driver σ] {d : Steady σ} {c : Chain σ} {t : Tap.Tracker} {parts : List Part}
  {m : Machine σ}

theorem samples_append {s s' : Tap.State} (hs : enterTicks s' = []) (bits : List Bool) {more : List Bool}
    (hmore : more ≠ []) (exit : Exit) (driver : σ) :
    samples d s (bits ++ more) exit driver =
      samples d s bits .shift driver ++ samples d s' more exit (d.walk (passTicks s bits .shift) driver) := by
  have hbits : shiftTicks Exit.shift.leavesShift bits = Tick.lows bits := shiftTicks_false bits
  have hpass : passTicks s bits .shift = enterTicks s ++ Tick.lows bits :=
    (List.append_nil _).trans (congrArg (enterTicks s ++ ·) hbits)
  rw [samples, samples, samples, shiftTicks_append _ bits hmore, d.listen_append, hs, hbits, hpass, d.walk_append]
  rfl

/-! ### The first pass over all parts -/

/-- All inputs in a row. -/
def stream (registers : List (Register × Register)) : List Bool := registers.flatMap (·.1.bits)

theorem stream_ne_nil {registers : List (Register × Register)} (h : registers ≠ []) : stream registers ≠ [] := by
  obtain ⟨⟨input, output⟩, rest, rfl⟩ := List.exists_cons_of_ne_nil h
  exact List.append_ne_nil_of_left_ne_nil input.bits_ne_nil _

/-- The results that the shifts of a lane leave behind of the samples they took. -/
def laneOutcomes (exit : Exit) (last : Nat) : Nat → List (Register × Register) → List Bool → List Outcome
  | _, [], _ => []
  | index, (input, output) :: rest, samples =>
    shiftOutcomes (exitOf exit last index) output.length (samples.take input.length) ++
      laneOutcomes exit last (index + 1) rest (samples.drop input.length)

theorem laneOutcomes_cons (exit : Exit) (last index : Nat) {input : Register} (output : Register)
    (rest : List (Register × Register)) {own : List Bool} (hown : own.length = input.length) (others : List Bool) :
    laneOutcomes exit last index ((input, output) :: rest) (own ++ others) =
      shiftOutcomes (exitOf exit last index) output.length own ++ laneOutcomes exit last (index + 1) rest others := by
  rw [laneOutcomes, List.take_left' hown, List.drop_left' hown]

theorem Drives.deferAll (h : c.Drives d t parts m) (hshift : t.state.isShift = true) (output : Bool) (exit : Exit)
    {last index : Nat} {registers : List (Register × Register)} (hne : registers ≠ [])
    (hlast : last + 1 = index + registers.length) :
    let ticks := passTicks t.state (stream registers) exit
    ∃ c', ((registers.zipIdx index).forM fun ((input, filled), index) =>
        Chain.deferShift input (if output then some filled.length else none) (exitOf exit last index)).runOn c =
          (.ok (), c') ∧
      c'.Drives d (t.follow ticks) parts ⟨d.walk ticks m.driver, m.results ++
        if output then laneOutcomes exit last index registers (samples d t.state (stream registers) exit m.driver)
        else []⟩ := by
  -- Only the last part leaves the shift state: every other one ends where the next begins.
  induction registers generalizing c t m index with
  | nil => exact absurd rfl hne
  | cons first rest ih =>
    obtain ⟨input, filled⟩ := first
    have hstream : stream ((input, filled) :: rest) = input.bits ++ stream rest := rfl
    cases rest with
    | nil =>
      have hexit : exitOf exit last index = exit := if_pos (Nat.succ.inj hlast).symm
      obtain ⟨c₁, h₁, k₁⟩ := h.deferShift input (if output then some filled.length else none) exit
      refine ⟨c₁, ?_, ?_⟩
      · rw [← hexit] at h₁
        exact (Action.runOn_bind_ok h₁ _).trans rfl
      · rw [hstream, show stream [] = [] from rfl, List.append_nil]
        cases output with
        | false => exact k₁
        | true =>
          have hlength := length_samples d t.state input.bits exit m.driver
          have houtcomes := laneOutcomes_cons exit last index filled [] hlength []
          rw [hexit, List.append_nil, laneOutcomes, List.append_nil] at houtcomes
          rw [if_pos rfl, houtcomes]
          exact k₁
    | cons next rest =>
      have hexit : exitOf exit last index = .shift := if_neg (by rw [List.length_cons, List.length_cons] at hlast; omega)
      have hmore : stream (next :: rest) ≠ [] := stream_ne_nil (List.cons_ne_nil next rest)
      obtain ⟨c₁, h₁, k₁⟩ := h.deferShift input (if output then some filled.length else none) .shift
      obtain ⟨column, hcolumn⟩ := state_follow_pass hshift input.bits_ne_nil
      have henter : enterTicks (t.follow (passTicks t.state input.bits .shift)).state = [] :=
        hcolumn ▸ enterTicks_shift column
      have hlast' : last + 1 = (index + 1) + (next :: rest).length := by
        rw [hlast, List.length_cons (a := (input, filled))]
        omega
      obtain ⟨c₂, h₂, k₂⟩ := ih k₁ (by rw [hcolumn]; rfl) (List.cons_ne_nil next rest) hlast'
      refine ⟨c₂, ?_, ?_⟩
      · rw [← hexit] at h₁
        exact (Action.runOn_bind_ok h₁ _).trans h₂
      · rw [hstream, passTicks_append henter input.bits hmore exit, samples_append henter input.bits hmore exit,
          Tap.Tracker.follow_append, d.walk_append]
        cases output with
        | false =>
          simp only [Bool.false_eq_true, ↓reduceIte, Option.elim, List.append_nil] at k₂ ⊢
          exact k₂
        | true =>
          rw [if_pos rfl, laneOutcomes_cons _ _ _ _ _ (length_samples ..), hexit, ← List.append_assoc]
          exact k₂

/-! ### The second pass over all parts -/

theorem getElem?_middle {α : Type} (done rest : List α) (a : α) : (done ++ a :: rest)[done.length]? = some a := by
  rw [List.getElem?_append_right (Nat.le_refl _), Nat.sub_self]
  rfl

theorem modify_middle {α : Type} (done rest : List α) (a : α) (f : α → α) :
    (done ++ a :: rest).modify done.length f = done ++ f a :: rest := by
  induction done with
  | nil => rfl
  | cons b done ih => exact congrArg (b :: ·) ih

theorem Lane.registers?_eq_some {lane : Lane} {p : Part} {input output : Register} :
    lane.registers? p = some (input, output) ↔ lane.input p = some input ∧ lane.output p = some output := by
  unfold Lane.registers?
  cases lane.input p <;> cases lane.output p <;> simp

variable {s : σ} {results : List Outcome} {lane : Lane}

/-- The outputs of a lane, each with its slice of the samples. -/
def laneOutputs : List (Register × Register) → List Bool → List Register
  | [], _ => []
  | (input, output) :: rest, samples =>
    output.overlay (samples.take input.length) :: laneOutputs rest (samples.drop input.length)

theorem Drives.collectPart (lane : Lane) {index : Nat} {exit : Exit} {samples : List Bool} {output : Register}
    (h : c.Drives d t parts ⟨s, shiftOutcomes exit output.length samples ++ results⟩)
    (hpart : parts[index]?.bind lane.output = some output) :
    ∃ c' k, (Chain.collectPart lane index samples.length exit).runOn c = (.ok (), c') ∧
      c'.Drives d t (parts.modify index (lane.store (output.overlay samples))) ⟨d.settle^[k] s, results⟩ := by
  obtain ⟨⟨cable, hc, hstands⟩, htracker, hparts⟩ := h
  obtain ⟨cable', k, h₁, k₁⟩ := collect_stands hstands
  refine ⟨{ c with cable? := some cable', parts := c.parts.modify index (lane.store (output.overlay samples)) }, k, ?_,
    ⟨cable', rfl, k₁⟩, htracker, by rw [hparts]⟩
  rw [Chain.collectPart, Action.runOn_mk, hc, hparts, hpart]
  dsimp only
  rw [h₁]
  rfl

theorem Drives.collectAll {exit : Exit} {last : Nat} {done rest : List Part} {registers : List (Register × Register)}
    {samples : List Bool}
    (h : c.Drives d t (done ++ rest) ⟨s, laneOutcomes exit last done.length registers samples ++ results⟩)
    (hregisters : rest.map lane.registers? = registers.map some) (hsamples : samples.length = (stream registers).length) :
    ∃ c' k, ((registers.zipIdx done.length).forM fun ((input, _), index) =>
        Chain.collectPart lane index input.length (exitOf exit last index)).runOn c = (.ok (), c') ∧
      c'.Drives d t (done ++ List.zipWith lane.store (laneOutputs registers samples) rest)
        ⟨d.settle^[k] s, results⟩ := by
  -- The parts in `done` hold their outputs already, so the next one stands at position `done.length`.
  induction registers generalizing c s done rest samples with
  | nil =>
    obtain rfl : rest = [] := List.map_eq_nil_iff.mp hregisters
    exact ⟨c, 0, rfl, h⟩
  | cons first registers ih =>
    obtain ⟨input, output⟩ := first
    obtain ⟨p, rest, rfl⟩ : ∃ p rest', rest = p :: rest' := by
      cases rest with
      | nil => exact absurd hregisters (List.cons_ne_nil _ _).symm
      | cons p rest => exact ⟨p, rest, rfl⟩
    obtain ⟨hp, hrest⟩ := List.cons.inj hregisters
    obtain ⟨-, houtput⟩ := lane.registers?_eq_some.mp hp
    have hlength : samples.length = input.length + (stream registers).length := hsamples.trans List.length_append
    have hown : (samples.take input.length).length = input.length := List.length_take_of_le (by omega)
    rw [laneOutcomes, List.append_assoc] at h
    obtain ⟨c₁, k, h₁, k₁⟩ := h.collectPart lane (by rw [getElem?_middle]; exact houtput)
    generalize hfilled : lane.store (output.overlay (samples.take input.length)) p = filled at k₁
    have hnext : (done ++ [filled]).length = done.length + 1 := List.length_append
    rw [modify_middle, hfilled, List.append_cons, ← hnext] at k₁
    obtain ⟨c₂, k', h₂, k₂⟩ := ih k₁ hrest (by rw [List.length_drop, hlength, Nat.add_sub_cancel_left])
    rw [hown] at h₁
    rw [hnext] at h₂
    refine ⟨c₂, k' + k, (Action.runOn_bind_ok h₁ _).trans h₂, ?_⟩
    rw [laneOutputs, List.zipWith_cons_cons, hfilled, List.append_cons, Function.iterate_add_apply]
    exact k₂

/-! ### Both passes -/

/-- The clocks of a scan of all parts that captures first. -/
def scanTicks (column : Tap.Column) (s : Tap.State) (bits : List Bool) (exit : Exit) : List Tick :=
  captureTicks column ++ passTicks s bits exit

theorem filterMap_registers {registers : List (Register × Register)}
    (h : parts.map lane.registers? = registers.map some) : parts.filterMap lane.registers? = registers := by
  calc parts.filterMap lane.registers?
      = (parts.map lane.registers?).filterMap id := (List.filterMap_map (g := id)).symm
    _ = registers.filterMap some := by rw [h, List.filterMap_map]; rfl
    _ = registers := List.filterMap_some

/-- A scan of all parts, which may start with a capture. -/
theorem Drives.shiftLane (h : c.Drives d t parts ⟨s, []⟩) {registers : List (Register × Register)}
    (hregisters : parts.map lane.registers? = registers.map some) (hne : registers ≠ [])
    (capturing : Bool) (hshift : (t.follow (leadTicks capturing lane.column)).state.isShift = true) (output : Bool)
    (exit : Exit) :
    let lead := leadTicks capturing lane.column
    let state := (t.follow lead).state
    let ticks := lead ++ passTicks state (stream registers) exit
    let taken := samples d state (stream registers) exit (d.walk lead s)
    ∃ c' k, (Chain.shiftLane lane output capturing exit).runOn c = (.ok (), c') ∧
      c'.Drives d (t.follow ticks)
        (if output then List.zipWith lane.store (laneOutputs registers taken) parts else parts)
        ⟨d.settle^[k] (d.walk ticks s), []⟩ := by
  intro lead state ticks taken
  obtain ⟨c₁, h₁, k₁⟩ := h.lead capturing lane.column
  have hparts : (c₁.parts.filterMap lane.registers?) = registers := by
    rw [k₁.parts]
    exact filterMap_registers hregisters
  have hcount : registers.length = parts.length := by simpa using (congrArg List.length hregisters).symm
  have hlast : (c₁.parts.length - 1) + 1 = 0 + registers.length := by
    have hpos := List.length_pos_iff.mpr hne
    rw [k₁.parts]
    omega
  obtain ⟨c₂, h₂, k₂⟩ := k₁.deferAll hshift output exit hne hlast
  have hcollected : ∃ c₃ k, (if output then
          registers.zipIdx.forM fun ((input, _), index) =>
            Chain.collectPart lane index input.length (exitOf exit (c₁.parts.length - 1) index)
        else Chain.onCable (Cable.flush .toOutput) : ChainAction σ Unit).runOn c₂ = (.ok (), c₃) ∧
      c₃.Drives d ((t.follow lead).follow (passTicks state (stream registers) exit))
        (if output then List.zipWith lane.store (laneOutputs registers taken) parts else parts)
        ⟨d.settle^[k] (d.walk (passTicks state (stream registers) exit) (d.walk lead s)), []⟩ := by
    cases output with
    | false =>
      obtain ⟨c₃, h₃, k₃⟩ := k₂.onCable fun cable hstands => by
        obtain ⟨cable', h', k'⟩ := hstands.flush .toOutput (by decide)
        exact ⟨cable', h', k'.stands⟩
      exact ⟨c₃, 1, h₃, k₃⟩
    | true =>
      have hresults : c₂.Drives d ((t.follow lead).follow (passTicks state (stream registers) exit))
          ([] ++ parts) ⟨d.walk (passTicks state (stream registers) exit) (d.walk lead s),
            laneOutcomes exit (c₁.parts.length - 1) ([] : List Part).length registers taken ++ []⟩ := by
        rw [List.append_nil]
        exact k₂
      exact hresults.collectAll hregisters (length_samples ..)
  obtain ⟨c₃, k, h₃, k₃⟩ := hcollected
  refine ⟨c₃, k, ?_, ?_⟩
  · rw [Chain.shiftLane, Action.runOn_bind_ok h.requireCable]
    refine (Action.runOn_when_ok h₁).trans ?_
    rw [Action.runOn_bind_ok (Action.runOn_get c₁)]
    dsimp only
    rw [hparts]
    exact (Action.runOn_bind_ok h₂ _).trans h₃
  · rw [show t.follow ticks = _ from Tap.Tracker.follow_append .., show d.walk ticks s = _ from d.walk_append ..]
    exact k₃

/-! ### What the parts keep -/

theorem activeInstruction?_store {p : Part} {i : Instruction} (h : p.activeInstruction? = some i) (r : Register) :
    (Lane.instruction.store r p).activeInstruction? = some (i.capture r.bits) := by
  obtain ⟨index, hactive, hindex⟩ := Option.bind_eq_some_iff.mp h
  have hstore : Lane.instruction.store r p = p.modifyInstruction index (·.capture r.bits) := by
    simp only [Lane.instruction, hactive]
  have hmodified : (p.instructions.modify index (·.capture r.bits))[index]? = some (i.capture r.bits) := by
    rw [List.getElem?_modify_eq, hindex]
    rfl
  rw [hstore]
  exact Option.bind_eq_some_iff.mpr ⟨index, hactive, hmodified⟩

theorem activeRegister?_store {p : Part} {register : DataRegister} (h : p.activeRegister? = some register)
    (r : Register) :
    (Lane.data.store r p).activeRegister? = some { register with output := r } := by
  obtain ⟨index, hactive, hindex⟩ := Option.bind_eq_some_iff.mp h
  have hstore : Lane.data.store r p = p.modifyRegister index fun register => { register with output := r } := by
    simp only [Lane.data, hactive]
  have hmodified : (p.registers.modify index fun register => { register with output := r })[index]? =
      some { register with output := r } := by
    rw [List.getElem?_modify_eq, hindex]
    rfl
  rw [hstore]
  exact Option.bind_eq_some_iff.mpr ⟨index, hactive, hmodified⟩

theorem zipWith_zipWith_self {α β γ δ : Type} (f : γ → α → δ) (g : α → β → γ) (xs : List α) (ys : List β) :
    List.zipWith f (List.zipWith g xs ys) xs = List.zipWith (fun x y => f (g x y) x) xs ys := by
  induction xs generalizing ys with
  | nil => rfl
  | cons x xs ih =>
    cases ys with
    | nil => rfl
    | cons y ys => exact congrArg (_ :: ·) (ih ys)

/-- The registers of a lane that finds both of them in one view of the parts. -/
theorem map_registers? {α : Type} {view : Part → Option α} {input output : α → Register}
    (hlane : ∀ p, lane.input p = (view p).map input ∧ lane.output p = (view p).map output) {held : List α}
    (hheld : parts.map view = held.map some) :
    parts.map lane.registers? = (held.map fun a => (input a, output a)).map some := by
  have hregisters : ∀ p, lane.registers? p = (view p).map fun a => (input a, output a) := by
    intro p
    obtain ⟨hinput, houtput⟩ := hlane p
    rw [Lane.registers?, hinput, houtput]
    cases view p <;> rfl
  calc parts.map lane.registers?
      = (parts.map view).map (Option.map fun a => (input a, output a)) := by
        rw [List.map_map]
        exact List.map_congr_left fun p _ => hregisters p
    _ = (held.map fun a => (input a, output a)).map some := by
        rw [hheld, List.map_map, List.map_map]
        rfl

/-- What a lane stores in every part, as seen through something that each store changes in the same way. -/
theorem map_store {α : Type} {view : Part → Option α} {fill : Register → α → α} {store : Register → Part → Part}
    (hstore : ∀ {p a}, view p = some a → ∀ r, view (store r p) = some (fill r a)) {held : List α}
    (hheld : parts.map view = held.map some) (outputs : List Register) :
    (List.zipWith store outputs parts).map view = (List.zipWith fill outputs held).map some := by
  induction parts generalizing held outputs with
  | nil =>
    obtain rfl : held = [] := List.map_eq_nil_iff.mp hheld.symm
    rw [List.zipWith_nil_right, List.zipWith_nil_right]
    rfl
  | cons p parts ih =>
    obtain ⟨a, held, rfl⟩ : ∃ a held', held = a :: held' := by
      cases held with
      | nil => exact absurd hheld (List.cons_ne_nil _ _)
      | cons a held => exact ⟨a, held, rfl⟩
    obtain ⟨hp, hparts⟩ := List.cons.inj hheld
    cases outputs with
    | nil => rfl
    | cons r outputs => exact congrArg₂ List.cons (hstore hp r) (ih hparts outputs)

end Chain
end Jtag
