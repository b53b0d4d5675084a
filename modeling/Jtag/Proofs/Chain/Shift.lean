import Jtag.Proofs.Chain.Drives

/-! One shift in two passes. The first pass clocks the bits of the input out, the last one with TMS high
    if the shift state is left, and notes a transfer and single samples; the second pass picks them up.
    Together the output holds the level of TDO before each clock of the input, as far as it reaches. -/

namespace Jtag

/-! ### Overlays -/

theorem Register.eq_of_bits {r r' : Register} (h : r.bits = r'.bits) : r = r' := by
  cases r
  cases r'
  cases h
  rfl

theorem Register.set?_of_lt {r : Register} {index : Nat} (h : index < r.length) (value : Bool) :
    ∃ r', r.set? index value = some r' ∧ r'.bits = r.bits.set index value := ⟨_, if_pos h, rfl⟩

namespace Bits

theorem set_overlay {source target : List Bool} (h : source.length < target.length) (b : Bool) :
    (overlay source target).set source.length b = overlay (source ++ [b]) target := by
  induction source generalizing target with
  | nil =>
    cases target with
    | nil => simp at h
    | cons a target => rfl
  | cons a source ih =>
    cases target with
    | nil => simp at h
    | cons a' target => exact congrArg (a :: ·) (ih (Nat.lt_of_succ_lt_succ h))

/-- What lies behind the end of the target is not written. -/
theorem overlay_take (source target : List Bool) :
    overlay (source.take target.length) target = overlay source target := by
  induction source generalizing target with
  | nil => rw [List.take_nil]
  | cons a source ih =>
    cases target with
    | nil => rfl
    | cons a' target => exact congrArg (a :: ·) (ih target)

theorem overlay_append {source target : List Bool} (h : source.length = target.length) (more : List Bool) :
    overlay source (target ++ more) = source ++ more := by
  induction source generalizing target with
  | nil => rw [List.eq_nil_of_length_eq_zero h.symm, overlay]
  | cons a source ih =>
    cases target with
    | nil => simp at h
    | cons a' target => exact congrArg (a :: ·) (ih (Nat.succ.inj h))

theorem overlay_eq_of_length {source target : List Bool} (h : source.length = target.length) :
    overlay source target = source := by
  have hall := overlay_append h []
  rwa [List.append_nil, List.append_nil] at hall

theorem getElem?_overlay_of_le {source target : List Bool} {k : Nat} (h : source.length ≤ k) :
    (overlay source target)[k]? = target[k]? := by
  induction source generalizing target k with
  | nil => rfl
  | cons b source ih =>
    cases target with
    | nil => rfl
    | cons b' target =>
      obtain ⟨k, rfl⟩ := Nat.exists_eq_add_of_le' (Nat.lt_of_lt_of_le (Nat.zero_lt_succ _) h)
      exact ih (Nat.le_of_succ_le_succ h)

theorem getElem?_overlay_of_lt {source target : List Bool} {k : Nat} (h : k < source.length)
    (hfits : k < target.length) : (overlay source target)[k]? = source[k]? := by
  induction source generalizing target k with
  | nil => exact absurd h (Nat.not_lt_zero k)
  | cons b source ih =>
    cases target with
    | nil => exact absurd hfits (Nat.not_lt_zero k)
    | cons b' target =>
      cases k with
      | zero => rfl
      | succ k => exact ih (Nat.lt_of_succ_lt_succ h) (Nat.lt_of_succ_lt_succ hfits)

end Bits

namespace Chain

/-! ### The clocks of a shift -/

/-- The clocks that shift bits; if the shift state is left, the last one has TMS high. -/
def shiftTicks (leave : Bool) : List Bool → List Tick
  | [] => []
  | bit :: bits => ⟨leave && bits.isEmpty, bit⟩ :: shiftTicks leave bits

/-- The clock that leads from a capture state into the shift state. -/
def enterTicks (s : Tap.State) : List Tick := if s.isCapture then [⟨false, false⟩] else []

/-- The clocks that follow the last bit. -/
def exitTicks (exit : Exit) : List Tick := exit.trailer.map (⟨·, false⟩)

@[simp] theorem length_shiftTicks (leave : Bool) (bits : List Bool) : (shiftTicks leave bits).length = bits.length := by
  induction bits with
  | nil => rfl
  | cons bit bits ih => exact congrArg (· + 1) ih

theorem shiftTicks_false (bits : List Bool) : shiftTicks false bits = Tick.lows bits := by
  induction bits with
  | nil => rfl
  | cons bit bits ih => exact congrArg (_ :: ·) ih

theorem shiftTicks_append (leave : Bool) (bits : List Bool) {more : List Bool} (hmore : more ≠ []) :
    shiftTicks leave (bits ++ more) = Tick.lows bits ++ shiftTicks leave more := by
  induction bits with
  | nil => rfl
  | cons bit bits ih =>
    have hempty : (bits ++ more).isEmpty = false := by cases bits <;> simp [hmore]
    rw [List.cons_append, shiftTicks, hempty, Bool.and_false, ih]
    rfl

theorem bulk_le (exit : Exit) (length : Nat) : exit.bulk length ≤ length := by
  unfold Exit.bulk
  split <;> omega

/-- The bits that fit into a transfer come first, each with TMS low. -/
theorem shiftTicks_eq_bulk {exit : Exit} {bits : List Bool} (hbits : bits ≠ []) {n : Nat}
    (hn : n ≤ exit.bulk bits.length) :
    shiftTicks exit.leavesShift bits =
      Tick.lows (bits.take n) ++ shiftTicks exit.leavesShift (bits.drop n) := by
  cases hleave : exit.leavesShift with
  | false => rw [shiftTicks_false, shiftTicks_false, ← Tick.lows_append, List.take_append_drop]
  | true =>
    have hpos := List.length_pos_iff.mpr hbits
    rw [Exit.bulk, if_pos hleave] at hn
    have hdrop : bits.drop n ≠ [] := by
      rw [← List.length_pos_iff, List.length_drop]
      omega
    rw [← shiftTicks_append true (bits.take n) hdrop, List.take_append_drop]

variable {σ : Type} [Driver σ] {d : Steady σ} {c : Chain σ} {t : Tap.Tracker} {parts : List Part}
  {m : Machine σ}

/-! ### The first pass -/

/-- The results that a shift leaves behind of the samples it took, for an output of `n` bits. -/
def shiftOutcomes (exit : Exit) (n : Nat) (samples : List Bool) : List Outcome :=
  let bulk := min (exit.bulk samples.length) n
  .transfer (samples.take bulk) :: ((samples.drop bulk).take (n - bulk)).map .tdo

/-- The samples still to take, the next of which belongs to position `index`. -/
theorem taken_cons (outputLength? : Option Nat) (index : Nat) (sample : Bool) (samples : List Bool) :
    ((sample :: samples).take (outputLength?.elim 0 (· - index))).map Outcome.tdo =
      (if outputLength?.any (index < ·) then [.tdo sample] else []) ++
        (samples.take (outputLength?.elim 0 (· - (index + 1)))).map .tdo := by
  cases outputLength? with
  | none => rfl
  | some n =>
    simp only [Option.elim, Option.any_some, decide_eq_true_eq]
    by_cases hn : index < n
    · obtain ⟨rest, hrest⟩ := Nat.exists_eq_add_of_lt hn
      subst hrest
      rw [if_pos hn, show index + rest + 1 - index = rest + 1 by omega,
        show index + rest + 1 - (index + 1) = rest by omega]
      rfl
    · rw [if_neg hn, Nat.sub_eq_zero_of_le (Nat.le_of_not_lt hn),
        Nat.sub_eq_zero_of_le (Nat.le_succ_of_le (Nat.le_of_not_lt hn))]
      rfl

theorem Drives.deferSampleTdo (h : c.Drives d t parts m) :
    ∃ c', (Chain.onCable Cable.deferSampleTdo).runOn c = (.ok (), c') ∧
      c'.Drives d t parts ⟨m.driver, m.results ++ [.tdo (d.tdo m.driver)]⟩ :=
  h.onCable fun _ hstands => hstands.defer .sampleTdo

theorem Drives.deferSingles (h : c.Drives d t parts m) (outputLength? : Option Nat) (leave : Bool) (index : Nat)
    (bits : List Bool) :
    ∃ c', (Chain.deferSingles outputLength? leave index bits).runOn c = (.ok (), c') ∧
      c'.Drives d (t.follow (shiftTicks leave bits)) parts
        ⟨d.walk (shiftTicks leave bits) m.driver,
          m.results ++ ((d.listen (shiftTicks leave bits) m.driver).take
            (outputLength?.elim 0 (· - index))).map .tdo⟩ := by
  induction bits generalizing c t m index with
  | nil => exact ⟨c, rfl, by simpa [Steady.walk, Steady.listen, shiftTicks] using h⟩
  | cons bit bits ih =>
    have hsample : ∃ c₁, (if outputLength?.any (index < ·) then Chain.onCable Cable.deferSampleTdo
          else pure () : ChainAction σ Unit).runOn c = (.ok (), c₁) ∧
        c₁.Drives d t parts ⟨m.driver, m.results ++
          if outputLength?.any (index < ·) then [.tdo (d.tdo m.driver)] else []⟩ := by
      split
      · exact h.deferSampleTdo
      · exact ⟨c, rfl, by rwa [List.append_nil]⟩
    obtain ⟨c₁, h₁, k₁⟩ := hsample
    obtain ⟨c₂, h₂, k₂⟩ := k₁.deferClock (leave && bits.isEmpty) bit 1
    obtain ⟨c₃, h₃, k₃⟩ := ih k₂ (index + 1)
    refine ⟨c₃, ?_, ?_⟩
    · rw [Chain.deferSingles]
      exact (Action.runOn_when_ok h₁).trans ((Action.runOn_bind_ok h₂ _).trans h₃)
    · rwa [List.append_assoc, ← taken_cons] at k₃

/-- All clocks of a shift that begins in the state `s`. -/
def passTicks (s : Tap.State) (bits : List Bool) (exit : Exit) : List Tick :=
  enterTicks s ++ shiftTicks exit.leavesShift bits ++ exitTicks exit

/-- The level of TDO before each clock of the bits. -/
def samples (d : Steady σ) (s : Tap.State) (bits : List Bool) (exit : Exit) (driver : σ) : List Bool :=
  d.listen (shiftTicks exit.leavesShift bits) (d.walk (enterTicks s) driver)

@[simp] theorem length_samples (d : Steady σ) (s : Tap.State) (bits : List Bool) (exit : Exit) (driver : σ) :
    (samples d s bits exit driver).length = bits.length := by
  rw [samples, d.length_listen, length_shiftTicks]

/-- The bits of a shift, some in a transfer and the others one clock each, and the clocks behind them. -/
theorem Drives.deferBits (h : c.Drives d t parts m) {bits : List Bool} (hbits : bits ≠ [])
    (outputLength? : Option Nat) (exit : Exit) :
    let bulk := match outputLength? with
      | none => exit.bulk bits.length
      | some outputLength => min (exit.bulk bits.length) outputLength
    let ticks := shiftTicks exit.leavesShift bits
    ∃ c', (do
        Chain.onCable (Cable.deferTransfer (bits.take bulk) outputLength?.isSome)
        Chain.track (·.clocks false bulk)
        Chain.deferSingles outputLength? exit.leavesShift bulk (bits.drop bulk)
        exit.trailer.forM fun tms => Chain.deferClock tms false 1 : ChainAction σ Unit).runOn c = (.ok (), c') ∧
      c'.Drives d (t.follow (ticks ++ exitTicks exit)) parts ⟨d.walk (ticks ++ exitTicks exit) m.driver,
        m.results ++ outputLength?.elim [] (shiftOutcomes exit · (d.listen ticks m.driver))⟩ := by
  intro bulk ticks
  have hle : bulk ≤ exit.bulk bits.length := by
    cases outputLength? with
    | none => exact Nat.le_refl _
    | some n => exact Nat.min_le_left ..
  have hlength : (bits.take bulk).length = bulk := List.length_take_of_le (Nat.le_trans hle (bulk_le exit bits.length))
  have hticks : ticks = Tick.lows (bits.take bulk) ++ shiftTicks exit.leavesShift (bits.drop bulk) :=
    shiftTicks_eq_bulk hbits hle
  obtain ⟨c₁, h₁, k₁⟩ := h.onCable fun cable hstands => hstands.defer (.transfer (bits.take bulk) outputLength?.isSome)
  obtain ⟨c₂, h₂, k₂⟩ := k₁.track (·.clocks false bulk)
  obtain ⟨c₃, h₃, k₃⟩ := k₂.deferSingles outputLength? exit.leavesShift bulk (bits.drop bulk)
  obtain ⟨c₄, h₄, k₄⟩ := k₃.deferLevels exit.trailer
  refine ⟨c₄, ?_, ?_⟩
  · exact (Action.runOn_bind_ok h₁ _).trans
      ((Action.runOn_bind_ok h₂ _).trans ((Action.runOn_bind_ok h₃ _).trans h₄))
  -- Tracker, driver and results each split where the transfer ends and the single clocks begin.
  have htracker : t.follow ticks =
      (t.clocks false bulk).follow (shiftTicks exit.leavesShift (bits.drop bulk)) := by
    have hclocks := t.clocks_low_eq_follow (bits.take bulk)
    rw [hlength] at hclocks
    rw [hticks, Tap.Tracker.follow_append, hclocks]
  have hdriver : d.walk ticks m.driver = d.walk (shiftTicks exit.leavesShift (bits.drop bulk))
      (d.walk (Tick.lows (bits.take bulk)) m.driver) := by rw [hticks, d.walk_append]
  have hlisten : d.listen ticks m.driver = d.listen (Tick.lows (bits.take bulk)) m.driver ++
      d.listen (shiftTicks exit.leavesShift (bits.drop bulk)) (d.walk (Tick.lows (bits.take bulk)) m.driver) := by
    rw [hticks, d.listen_append]
  have hhead : (d.listen (Tick.lows (bits.take bulk)) m.driver).length = bulk := by
    rw [d.length_listen, Tick.length_lows, hlength]
  have hresults : m.results ++ outputLength?.elim [] (shiftOutcomes exit · (d.listen ticks m.driver)) =
      (d.perform (.transfer (bits.take bulk) outputLength?.isSome) m).results ++
        ((d.listen (shiftTicks exit.leavesShift (bits.drop bulk)) (d.walk (Tick.lows (bits.take bulk)) m.driver)).take
          (outputLength?.elim 0 (· - bulk))).map .tdo := by
    cases outputLength? with
    | none => exact (List.append_nil _).trans ((List.append_nil _).trans (List.append_nil _)).symm
    | some n =>
      have hbulk : min (exit.bulk (d.listen ticks m.driver).length) n = bulk := by
        rw [d.length_listen, length_shiftTicks]
      show m.results ++ shiftOutcomes exit n (d.listen ticks m.driver) = _
      rw [shiftOutcomes, hbulk, hlisten, List.take_left' hhead, List.drop_left' hhead, Steady.perform,
        List.append_assoc]
      rfl
  rw [Tap.Tracker.follow_append, d.walk_append, htracker, hdriver, hresults]
  exact k₄

/-- A whole shift, from the clock into the shift state to the clocks behind the last bit. -/
theorem Drives.deferShift (h : c.Drives d t parts m) (input : Register) (outputLength? : Option Nat) (exit : Exit) :
    let ticks := passTicks t.state input.bits exit
    ∃ c', (Chain.deferShift input outputLength? exit).runOn c = (.ok (), c') ∧
      c'.Drives d (t.follow ticks) parts ⟨d.walk ticks m.driver,
        m.results ++ outputLength?.elim [] (shiftOutcomes exit · (samples d t.state input.bits exit m.driver))⟩ := by
  intro ticks
  have hstate : c.state = t.state := congrArg Tap.Tracker.state h.tracker
  have hwarned : ∃ c₁, (unless c.state.isShift do Chain.warn (.shiftFrom c.state) : ChainAction σ Unit).runOn c =
      (.ok (), c₁) ∧ c₁.Drives d t parts m := by
    split
    · exact ⟨c, rfl, h⟩
    · exact h.warn _
  obtain ⟨c₁, h₁, k₁⟩ := hwarned
  have hentered : ∃ c₂, (if c.state.isCapture then Chain.deferClock false false 1 else pure () :
      ChainAction σ Unit).runOn c₁ = (.ok (), c₂) ∧
      c₂.Drives d (t.follow (enterTicks t.state)) parts ⟨d.walk (enterTicks t.state) m.driver, m.results⟩ := by
    rw [hstate, enterTicks]
    split
    · exact k₁.deferClock false false 1
    · exact ⟨c₁, rfl, k₁⟩
  obtain ⟨c₂, h₂, k₂⟩ := hentered
  obtain ⟨c₃, h₃, k₃⟩ := k₂.deferBits input.bits_ne_nil outputLength? exit
  refine ⟨c₃, ?_, ?_⟩
  · unfold Chain.deferShift
    rw [Action.runOn_bind_ok h.requireCable, Action.runOn_bind_ok (Action.runOn_get c)]
    exact (Action.runOn_unless_ok h₁).trans ((Action.runOn_when_ok h₂).trans h₃)
  · rw [show ticks = enterTicks t.state ++ _ from List.append_assoc .., Tap.Tracker.follow_append, d.walk_append]
    exact k₃

/-! ### The second pass -/

variable {cable : Cable σ} {s : σ} {results : List Outcome}

theorem collectSingles_stands (values : List Bool) {taken : List Bool} {target : List Bool} {output : Register}
    (h : cable.Stands d ⟨s, values.map .tdo ++ results⟩) (houtput : output.bits = Bits.overlay taken target)
    (hfits : taken.length + values.length ≤ target.length) :
    ∃ cable' output' k, (collectSingles taken.length values.length).runOn (cable, output) = (.ok (), cable', output') ∧
      output'.bits = Bits.overlay (taken ++ values) target ∧ cable'.Stands d ⟨d.settle^[k] s, results⟩ := by
  induction values generalizing cable taken output s with
  | nil => exact ⟨cable, output, 0, rfl, by rw [houtput, List.append_nil], h⟩
  | cons value values ih =>
    rw [List.length_cons] at hfits
    have hlength : output.length = target.length := by rw [Register.length, houtput, Bits.length_overlay]
    have hindex : taken.length < output.length := by omega
    obtain ⟨cable₁, h₁, k₁⟩ := Cable.Stands.sampleTdoLate h
    obtain ⟨output₁, hset, hbits⟩ := output.set?_of_lt hindex value
    rw [houtput, Bits.set_overlay (hlength ▸ hindex)] at hbits
    have hlate : (Action.within (·.1) (fun s cable => (cable, s.2)) Cable.sampleTdoLate :
        Action (Cable σ × Register) CableError Bool).runOn (cable, output) = (.ok value, cable₁, output) := by
      rw [Action.runOn_within, h₁]
    have hchange : (Action.change fun s => (s.1, (s.2.set? taken.length value).getD s.2) :
        Action (Cable σ × Register) CableError Unit).runOn (cable₁, output) = (.ok (), cable₁, output₁) := by
      rw [Action.runOn_change, hset]
      rfl
    obtain ⟨cable₂, output₂, k, h₂, hbits₂, k₂⟩ := ih k₁.stands hbits (by rw [List.length_append]; simp; omega)
    refine ⟨cable₂, output₂, k + 1, ?_, by rw [hbits₂, List.append_assoc]; rfl, k₂⟩
    rw [List.length_append] at h₂
    exact (Action.runOn_bind_ok hlate _).trans ((Action.runOn_bind_ok hchange _).trans h₂)

/-- What a shift left behind is picked up into the register that asked for it. -/
theorem collect_stands {exit : Exit} {samples : List Bool} {output : Register}
    (h : cable.Stands d ⟨s, shiftOutcomes exit output.length samples ++ results⟩) :
    ∃ cable' k, (collect samples.length exit).runOn (cable, output) = (.ok (), cable', output.overlay samples) ∧
      cable'.Stands d ⟨d.settle^[k] s, results⟩ := by
  generalize hbulk : min (exit.bulk samples.length) output.length = bulk at h
  rw [shiftOutcomes, hbulk, List.cons_append] at h
  obtain ⟨cable₁, h₁, k₁⟩ := h.transferLate
  have hle : bulk ≤ samples.length := hbulk ▸ Nat.le_trans (Nat.min_le_left ..) (bulk_le exit samples.length)
  have hle' : bulk ≤ output.length := hbulk ▸ Nat.min_le_right ..
  have hhead : (samples.take bulk).length = bulk := List.length_take_of_le hle
  have hcount : ((samples.drop bulk).take (output.length - bulk)).length =
      min samples.length output.length - bulk := by
    rw [List.length_take, List.length_drop]
    omega
  have hlate : (Action.within (·.1) (fun s cable => (cable, s.2)) Cable.transferLate :
      Action (Cable σ × Register) CableError (List Bool)).runOn (cable, output) =
        (.ok (samples.take bulk), cable₁, output) := by
    rw [Action.runOn_within, h₁]
  have hfits : (samples.take bulk).length + ((samples.drop bulk).take (output.length - bulk)).length ≤
      output.bits.length := by
    rw [hhead, hcount, ← Register.length]
    omega
  obtain ⟨cable₂, output₂, k, h₂, hbits₂, k₂⟩ := collectSingles_stands _ k₁.stands
    (show (output.overlay (samples.take bulk)).bits = _ from rfl) hfits
  have hall : samples.take bulk ++ (samples.drop bulk).take (output.length - bulk) = samples.take output.length := by
    rw [← List.take_add, Nat.add_sub_cancel' hle']
  have houtput : output₂ = output.overlay samples := by
    apply Register.eq_of_bits
    rw [hbits₂, hall, Register.length, Bits.overlay_take]
    rfl
  rw [hhead, hcount, houtput] at h₂
  refine ⟨cable₂, k + 1, ?_, k₂⟩
  rw [collect, Action.runOn_bind_ok hlate, Action.runOn_bind_ok (Action.runOn_change ..),
    Action.runOn_bind_ok (Action.runOn_inspect ..)]
  dsimp only
  rw [show (output.overlay (samples.take bulk)).length = output.length from Bits.length_overlay .., hbulk]
  exact h₂

theorem Drives.shiftOutput {input output : Register} {exit : Exit} {samples : List Bool}
    (h : c.Drives d t parts ⟨s, shiftOutcomes exit output.length samples ++ results⟩)
    (hlength : samples.length = input.length) :
    ∃ c' k, (Chain.shiftOutput input.length output exit).runOn c = (.ok (output.overlay samples), c') ∧
      c'.Drives d t parts ⟨d.settle^[k] s, results⟩ := by
  obtain ⟨⟨cable, hcable, hstands⟩, htracker, hparts⟩ := h
  obtain ⟨cable', k, hrun, hstands'⟩ := collect_stands hstands
  refine ⟨{ c with cable? := some cable' }, k, ?_, ⟨cable', rfl, hstands'⟩, htracker, hparts⟩
  rw [Chain.shiftOutput, Action.runOn_mk, hcable]
  dsimp only
  rw [← hlength, hrun]
  rfl

/-- A register shifted through the chain: with nothing else left to be picked up, the output holds the level of
    TDO before each clock of the input. -/
theorem Drives.exchange (h : c.Drives d t parts ⟨s, []⟩) (input output : Register) (exit : Exit) :
    let ticks := passTicks t.state input.bits exit
    ∃ c' k, (Chain.exchange input output exit).runOn c =
        (.ok (output.overlay (samples d t.state input.bits exit s)), c') ∧
      c'.Drives d (t.follow ticks) parts ⟨d.settle^[k] (d.walk ticks s), []⟩ := by
  intro ticks
  obtain ⟨c₁, h₁, k₁⟩ := h.deferShift input (some output.length) exit
  have hresults : c₁.Drives d (t.follow ticks) parts ⟨d.walk ticks s,
      shiftOutcomes exit output.length (samples d t.state input.bits exit s) ++ []⟩ := by
    rw [List.append_nil]
    exact k₁
  obtain ⟨c₂, k, h₂, k₂⟩ := hresults.shiftOutput (length_samples ..)
  exact ⟨c₂, k, (Action.runOn_bind_ok h₁ _).trans h₂, k₂⟩

end Chain
end Jtag
