import Mathlib.Data.Prod.Basic
import Jtag.Proofs.Cable.Watched
import Jtag.Proofs.Chain.ShiftItems

/-! What a reset recovers after failures. It brings the controllers and the tracker to Run-Test/Idle, whatever failed
    before. It does not drop results that nobody picked up: a shift behind it gets the bits that leave the chain if
    there are none, and the bits of an earlier transfer otherwise. -/

namespace Jtag

namespace Chain

open Jtag.Action

variable {σ : Type} [Driver σ] {c c' : Chain σ} {start : Tap.Tracker} {mark : σ} {items : List Item}
  {left : List Outcome} {input output out : Register} {exit : Exit}

/-- The reset clocks come behind everything that waits. -/
theorem reset_ok_inv (hframed : Framed σ) {cable : Cable σ} (hcable : c.cable? = some cable)
    (h : cable.Asked mark items left) (hrun : Chain.reset.runOn c = (.ok (), c')) :
    ∃ cable' done outcomes, c'.cable? = some cable' ∧ c'.tracker = .ofState .runTestIdle ∧
      done.flatMap Item.ticks = items.flatMap Item.ticks ++ Tap.resetTicks ∧ cable'.Ran mark done [] left outcomes := by
  obtain ⟨_, c₁, h₁, h₂⟩ := bind_ok_inv hrun
  obtain ⟨cable₁, outcomes₁, hcable₁, hran₁, htracker₁⟩ := clock_ok_inv hframed hcable h h₁
  obtain ⟨cable₂, outcomes₂, hcable₂, hran₂, htracker₂⟩ :=
    clock_ok_inv hframed hcable₁ ⟨_, [], outcomes₁, (List.append_nil _).symm, hran₁⟩ h₂
  refine ⟨cable₂, _, outcomes₂, hcable₂, ?_, ?_, hran₂⟩
  · rw [htracker₂, htracker₁, ← Tap.Tracker.follow_append]
    exact c.tracker.follow_resetTicks
  · rw [List.flatMap_append, List.flatMap_append, List.append_assoc]
    rfl

theorem Follows.exchange (hframed : Framed σ) (h : c.Follows start mark items left)
    (hcapture : c.state.isCapture = true) (hrun : (Chain.exchange input output exit).runOn c = (.ok out, c')) :
    let bulk := min (exit.bulk input.length) output.length
    let count := min input.length output.length - bulk
    ∃ (cable : Cable σ) (outcomes : List Outcome) (bits : List Bool) (held : List Outcome) (values : List Bool),
      c'.cable? = some cable ∧ left ++ outcomes = .transfer bits :: held ∧ values.length = count ∧
      held.take count = (values.take held.length).map .tdo ∧
      cable.Drained mark (items ++ .clock false false 1 :: shiftItems input.bits output.length exit) outcomes
        (held.drop count) ∧
      ∀ k, out.bits[k]? =
        if k < bulk then (output.overlay bits).bits[k]? else (values[k - bulk]?).or (output.overlay bits).bits[k]? := by
  intro bulk count
  obtain ⟨_, c₁, h₁, h₂⟩ := bind_ok_inv hrun
  obtain ⟨⟨cable, hcable, hasked⟩, -⟩ := h.deferShift hframed hcapture h₁
  rw [Chain.shiftOutput, runOn_mk, hcable] at h₂
  rcases hcollect : (Chain.collect input.length exit).runOn (cable, output) with ⟨e | _, cable', output'⟩
  · simp only [hcollect] at h₂
    cases h₂
  · simp only [hcollect] at h₂
    cases h₂
    obtain ⟨outcomes, bits, held, values, hresults, hvalues, htake, hdrained, -, hget⟩ :=
      collect_ok_inv hframed hasked hcollect
    exact ⟨cable', outcomes, bits, held, values, rfl, hresults, hvalues, htake, hdrained, hget⟩

/-- What came out of a shift whose first bit was clocked behind `start` clocks of `calls`: each bit is the level of TDO
    before its own clock, as far as the input and the output reach, and the bits behind are left as they were. -/
structure ShiftedOut (calls : List Entry) (start : Nat) (input output out : Register) : Prop where
  sampled : ∀ k < min input.length output.length, ∃ b, out.bits[k]? = some b ∧ (start + k, b) ∈ Entry.heardAll 0 calls
  others : ∀ k, min input.length output.length ≤ k → out.bits[k]? = output.bits[k]?

/-- Where nothing was left before, a shift gets its own bits. -/
theorem Follows.exchange_fresh (hframed : Framed σ) {column : Tap.Column}
    (h : c.Follows start mark (captureItems column) []) (hcapture : c.state.isCapture = true)
    (hrun : (Chain.exchange input output exit).runOn c = (.ok out, c')) :
    ∃ cable entries, c'.cable? = some cable ∧ cable.finished.toList = [] ∧ Leads entries mark cable.driver ∧
      ShiftedOut entries (selectClocks column + 2) input output out := by
  obtain ⟨cable, outcomes, bits, held, values, hcable, hresults, hvalues, htake, hdrained, hget⟩ :=
    h.exchange hframed hcapture hrun
  obtain ⟨entries, hleads, -, hyields⟩ := hdrained.led
  -- The three clocks before the first bit yield nothing.
  obtain ⟨own₁, others, rfl, hown₁, own₂, others, rfl, hown₂, own₃, others, rfl, hown₃, hshift⟩ := hyields
  obtain rfl : own₁ = [] := hown₁
  obtain rfl : own₂ = [] := hown₂
  obtain rfl : own₃ = [] := hown₃
  have hstart : 0 + (Item.clock true false (selectClocks column)).ticks.length +
      (Item.clock false false 1).ticks.length + (Item.clock false false 1).ticks.length = selectClocks column + 2 := by
    simp [Item.ticks]
  rw [hstart] at hshift
  obtain ⟨seen, values', rfl, hseen, hvalues', hmem, hmem'⟩ := yieldsAll_shiftItems hshift
  obtain ⟨hbits, rfl⟩ := List.cons.inj hresults
  obtain rfl : seen = bits := Outcome.transfer.inj hbits
  have hinput : input.bits.length = input.length := rfl
  rw [hinput] at hseen hvalues' hmem'
  have hbulk : min (exit.bulk input.length) output.length ≤ min input.length output.length :=
    Nat.le_min.mpr ⟨Nat.le_trans (Nat.min_le_left ..) (bulk_le exit input.length), Nat.min_le_right ..⟩
  have hshort : min input.length output.length ≤ output.length := Nat.min_le_right ..
  generalize min (exit.bulk input.length) output.length = bulk at *
  generalize hreach : min input.length output.length = reach at *
  have hlength : (values'.map Outcome.tdo).length = reach - bulk := by rw [List.length_map, hvalues']
  obtain rfl : values' = values := by
    rw [hlength, ← hlength, List.take_length, hlength, ← hvalues, List.take_length] at htake
    exact (List.map_inj_right fun a b hab => Outcome.tdo.inj hab).mp htake
  refine ⟨cable, entries, hcable, ?_, hleads, ?_, ?_⟩
  · rw [hdrained.finished.toList, ← hlength, List.drop_length]
  · intro k hk
    rw [hreach] at hk
    by_cases hin : k < bulk
    · have hlt : k < seen.length := hseen ▸ hin
      refine ⟨seen[k], ?_, hmem k _ (List.getElem?_eq_getElem hlt)⟩
      rw [hget k, if_pos hin, ← List.getElem?_eq_getElem hlt]
      exact Bits.getElem?_overlay_of_lt hlt (Nat.lt_of_lt_of_le hk hshort)
    · obtain ⟨i, rfl⟩ := Nat.exists_eq_add_of_le (Nat.le_of_not_lt hin)
      have hlt : i < values'.length := by omega
      refine ⟨values'[i], ?_, Nat.add_assoc .. ▸ hmem' i _ (List.getElem?_eq_getElem hlt)⟩
      rw [hget, if_neg hin, Nat.add_sub_cancel_left, List.getElem?_eq_getElem hlt]
      rfl
  · intro k hk
    rw [hreach] at hk
    have hover : seen.length ≤ k := by omega
    rw [hget k, if_neg (by omega), List.getElem?_eq_none (by omega), Option.none_or]
    exact Bits.getElem?_overlay_of_le hover

/-- Where results were left, a shift gets the oldest of them instead. -/
theorem Follows.exchange_stale (hframed : Framed σ) {result : Outcome} {others : List Outcome}
    (h : c.Follows start mark items (result :: others)) (hcapture : c.state.isCapture = true)
    (hrun : (Chain.exchange input output exit).runOn c = (.ok out, c')) :
    ∃ stale, result = .transfer stale ∧
      ∀ k < min stale.length (min (exit.bulk input.length) output.length), out.bits[k]? = stale[k]? := by
  obtain ⟨cable, outcomes, bits, held, values, -, hresults, -, -, -, hget⟩ := h.exchange hframed hcapture hrun
  obtain ⟨rfl, -⟩ := List.cons.inj hresults
  refine ⟨bits, rfl, fun k hk => ?_⟩
  have hfits : k < output.bits.length := Nat.lt_of_lt_of_le hk (Nat.le_trans (Nat.min_le_right ..) (Nat.min_le_right ..))
  rw [hget k, if_pos (Nat.lt_of_lt_of_le hk (Nat.min_le_right ..))]
  exact Bits.getElem?_overlay_of_lt (Nat.lt_of_lt_of_le hk (Nat.min_le_left ..)) hfits

/-- Behind every run of operations, whichever of them failed and however, a reset that succeeds leaves the tracker in
    Run-Test/Idle, and with it every controller that followed its clocks. If no results were left then, a capture
    and a shift that succeed bring back what leaves the chain during them; otherwise the output starts with the
    bits of a transfer from before. -/
theorem reset_recovers (hframed : Framed σ) {driver : Watched σ} {memory : Memory} {before connected recovered : Chain (Watched σ)}
    (hconnect : (Chain.connect driver memory).runOn before = (.ok (), connected)) (ops : List Operation)
    (hreset : Chain.reset.runOn (Chain.operateAll ops connected).2 = (.ok (), recovered)) :
    ∃ cable cable' calls, (Chain.operateAll ops connected).2.cable? = some cable ∧ recovered.cable? = some cable' ∧
      cable'.driver.log = cable.driver.log ++ calls ∧ recovered.state = .runTestIdle ∧
      (∀ s : Tap.State, s ≠ .unknown → (calls.flatMap Entry.ticks).foldl (fun s k => s.next k.tms) s = .runTestIdle) ∧
      ∀ column input output out exit captured shifted, (Chain.capture column).runOn recovered = (.ok (), captured) →
        (Chain.exchange input output exit).runOn captured = (.ok out, shifted) →
          (cable'.finished.toList = [] → ∃ cable'' more, shifted.cable? = some cable'' ∧
            cable''.finished.toList = [] ∧ cable''.driver.log = cable'.driver.log ++ more ∧
            ShiftedOut more (selectClocks column + 2) input output out) ∧
          ∀ result others, cable'.finished.toList = result :: others → ∃ stale, result = .transfer stale ∧
            ∀ k < min stale.length (min (exit.bulk input.length) output.length), out.bits[k]? = stale[k]? := by
  have hframed' := Watched.framed hframed
  obtain ⟨cable, hcable, hsound⟩ := preserved_connected.operateAll ops (connect_connected hconnect) fun _ _ => id
  obtain ⟨pending, hpending, hplain⟩ := hsound.todo
  obtain ⟨results, hresults⟩ := hsound.finished
  obtain ⟨cable', done, outcomes, hcable', htracker, hticks, hran⟩ :=
    reset_ok_inv hframed' hcable (Cable.asked_start hpending hresults hplain) hreset
  obtain ⟨calls, hleads, hsame, -⟩ := hran.led
  refine ⟨cable, cable', calls, hcable, hcable', Watched.log_of_leads hleads, congrArg Tap.Tracker.state htracker,
    fun s hs => ?_, fun column input output out exit captured shifted hcapture hshift => ?_⟩
  · rw [hsame, hticks, List.foldl_append]
    exact Tap.Tracker.foldl_resetTicks (Tap.Tracker.foldl_ne_unknown hs _)
  -- What waited before the reset was executed by it, and its results count as left behind, too.
  have hfollows : recovered.Follows (.ofState .runTestIdle) cable'.driver [] (results ++ outcomes) :=
    ⟨⟨cable', hcable', Cable.asked_start hran.todo hran.finished nofun⟩, htracker⟩
  have hcaptured := hfollows.capture hframed' hcapture
  have hstate : captured.state.isCapture = true := by
    rw [Chain.state, hcaptured.tracker]
    cases column <;> rfl
  rw [hran.finished.toList]
  refine ⟨fun hnone => ?_, fun result others hleft => ?_⟩
  · rw [hnone] at hcaptured
    obtain ⟨cable'', more, hcable'', hfinished, hleads', hout⟩ := hcaptured.exchange_fresh hframed' hstate hshift
    exact ⟨cable'', more, hcable'', hfinished, Watched.log_of_leads hleads', hout⟩
  · rw [hleft] at hcaptured
    exact hcaptured.exchange_stale hframed' hstate hshift

/-- A driver that executes items one by one, reads three high levels of TDO and low ones behind them, and fails the
    call of a number. -/
def failingAt (number : Nat) : Watched Recorder where
  driver :=
    { strategy := .oneByOne, signals := .resetLines, samples := .listed [true, true, true] false, flips := [],
      sampled := 0, fault? := some ⟨number, .io .brokenPipe⟩, bitwise := false, logging := false, count := 0,
      calls := #[] }
  log := []

/-- A capture that fails halfway: behind the reset three bits are shifted out that were sampled then. -/
theorem reset_recovers_failed_capture :
    let zeros : Register := ⟨[false, false, false], nofun⟩
    let connected := (Chain.connect (failingAt 12) .ample).runOn (Chain.new Config.default)
    let failed := Chain.operateAll [.capture .data] connected.2
    let recovered := Chain.reset.runOn failed.2
    let captured := (Chain.capture .data).runOn recovered.2
    let shifted := (Chain.exchange zeros zeros .idle).runOn captured.2
    (Framed Recorder ∧ connected.1 = .ok () ∧ recovered.1 = .ok ()) ∧
      failed.1 = [.error (.cable (.io .brokenPipe))] ∧ recovered.2.state = .runTestIdle ∧ captured.1 = .ok () ∧
      shifted.1 = .ok ⟨[true, true, true], nofun⟩ ∧
      ∃ calls, ShiftedOut calls (selectClocks .data + 2) zeros zeros ⟨[true, true, true], nofun⟩ := by
  intro zeros connected failed recovered captured shifted
  have hconnect : connected.1 = .ok () := by decide +kernel
  have hfailed : failed.1 = [.error (.cable (.io .brokenPipe))] := by decide +kernel
  have hreset : recovered.1 = .ok () := by decide +kernel
  have hcaptured : captured.1 = .ok () := by decide +kernel
  have hshifted : shifted.1 = .ok ⟨[true, true, true], nofun⟩ := by decide +kernel
  have hnone : recovered.2.cable?.map (·.finished.toList) = some [] := by decide +kernel
  have hconnect' : connected = (.ok (), connected.2) := Prod.fst_eq_iff.mp hconnect
  have hreset' : recovered = (.ok (), recovered.2) := Prod.fst_eq_iff.mp hreset
  obtain ⟨_, cable, _, -, hcable, -, hstate, -, hshift⟩ :=
    reset_recovers Recorder.framed hconnect' [.capture .data] hreset'
  have hcaptured' : captured = (.ok (), captured.2) := Prod.fst_eq_iff.mp hcaptured
  have hshifted' : shifted = (.ok ⟨[true, true, true], nofun⟩, shifted.2) := Prod.fst_eq_iff.mp hshifted
  obtain ⟨hfresh, -⟩ := hshift .data zeros zeros _ .idle _ _ hcaptured' hshifted'
  rw [hcable] at hnone
  obtain ⟨_, calls, -, -, -, hout⟩ := hfresh (Option.some.inj hnone)
  exact ⟨⟨Recorder.framed, hconnect, hreset⟩, hfailed, hstate, hcaptured, hshifted, calls, hout⟩

/-- A shift that fails behind its last sample leaves its results. The shift behind the reset is told three high
    levels, while all levels that were sampled during it are low. -/
theorem reset_leaves_results :
    let zeros : Register := ⟨[false, false, false], nofun⟩
    let connected := (Chain.connect (failingAt 16) .ample).runOn (Chain.new Config.default)
    let failed := Chain.operateAll [.capture .data, .exchange zeros zeros .idle] connected.2
    let recovered := Chain.reset.runOn failed.2
    let captured := (Chain.capture .data).runOn recovered.2
    let shifted := (Chain.exchange zeros zeros .idle).runOn captured.2
    let calls : List Entry := [.clock true false 1, .clock false false 1, .clock false false 1,
      .transfer [false, false] [false, false], .sample false, .clock true false 1, .clock true false 1,
      .clock false false 1, .flush, .flush]
    connected.1 = .ok () ∧ failed.1 = [.ok (), .error (.cable (.io .brokenPipe))] ∧ recovered.1 = .ok () ∧
      captured.1 = .ok () ∧ shifted.1 = .ok ⟨[true, true, true], nofun⟩ ∧ recovered.2.isConnected = true ∧
      shifted.2.cable?.map (·.driver.log) = recovered.2.cable?.map (·.driver.log ++ calls) ∧
      ¬ShiftedOut calls (selectClocks .data + 2) zeros zeros ⟨[true, true, true], nofun⟩ := by
  intro zeros connected failed recovered captured shifted calls
  refine ⟨by decide +kernel, by decide +kernel, by decide +kernel, by decide +kernel, by decide +kernel,
    by decide +kernel, by decide +kernel, fun h => ?_⟩
  obtain ⟨b, hb, hmem⟩ := h.sampled 0 (by decide)
  cases hb
  exact absurd hmem (by decide)

end Chain
end Jtag
