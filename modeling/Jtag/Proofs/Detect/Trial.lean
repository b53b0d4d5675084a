import Mathlib.Tactic.Ring
import Jtag.Chain.Detect
import Jtag.Proofs.Register.Count

/-! What comes back from a path of unknown length. Everything that was ever in the path or went into it is
    one tape, which leaves the path in its order, as many bits late as the path is long. A trial of a
    length finds its pattern where that length puts it, and a path that is longer shows an older piece of
    the tape there. The pattern of ones tells them apart: of all places in the trials of a length, only
    those of the pattern itself hold nothing but ones. -/

namespace Jtag.Detect

/-- What one trial of a length sends. -/
def trial (length : Nat) (pattern : List Bool) : List Bool :=
  List.replicate length false ++ pattern ++ List.replicate length false

def trials (length : Nat) (patterns : List (List Bool)) : List Bool := patterns.flatMap (trial length)

/-- What stands where a trial of `length` looks for its pattern, if the path holds the last `n` bits of `tape`. -/
def window (n : Nat) (tape : List Bool) (length : Nat) (pattern : List Bool) : List Bool :=
  ((tape ++ trial length pattern).drop (tape.length + 2 * length - n)).take pattern.length

variable {n length width : Nat} {tape pattern : List Bool} {patterns done : List (List Bool)}

theorem length_trial (length : Nat) (pattern : List Bool) : (trial length pattern).length = 2 * length + pattern.length := by
  simp [trial]
  ring

theorem length_trials (h : ∀ v ∈ patterns, v.length = width) :
    (trials length patterns).length = patterns.length * (2 * length + width) := by
  induction patterns with
  | nil => simp [trials]
  | cons v patterns ih =>
    have hrest := ih fun w hw => h w (List.mem_cons_of_mem v hw)
    rw [trials] at hrest ⊢
    rw [List.flatMap_cons, List.length_append, length_trial, h v List.mem_cons_self, hrest, List.length_cons]
    ring

theorem trials_append (length : Nat) (patterns more : List (List Bool)) :
    trials length (patterns ++ more) = trials length patterns ++ trials length more := List.flatMap_append

theorem trials_singleton (length : Nat) (pattern : List Bool) : trials length [pattern] = trial length pattern :=
  List.flatMap_singleton ..

/-! ### Bits of the tape -/

theorem getElem?_trials (h : ∀ v ∈ patterns, v.length = width) (index : Nat) {offset : Nat}
    (hoffset : offset < 2 * length + width) :
    (trials length patterns)[index * (2 * length + width) + offset]? =
      (patterns[index]?).bind fun v => (trial length v)[offset]? := by
  induction patterns generalizing index with
  | nil => simp [trials]
  | cons v patterns ih =>
    have hlength : (trial length v).length = 2 * length + width := by rw [length_trial, h v List.mem_cons_self]
    cases index with
    | zero =>
      rw [trials, List.flatMap_cons, List.getElem?_append_left (by omega)]
      simp
    | succ index =>
      have hrest := ih (fun w hw => h w (List.mem_cons_of_mem v hw)) index
      have hstep : (index + 1) * (2 * length + width) = index * (2 * length + width) + (2 * length + width) :=
        Nat.succ_mul ..
      have hskip : (index + 1) * (2 * length + width) + offset - (trial length v).length =
          index * (2 * length + width) + offset := by omega
      have hbehind : (trial length v).length ≤ (index + 1) * (2 * length + width) + offset := by omega
      rw [trials, List.flatMap_cons, List.getElem?_append_right hbehind, hskip]
      exact hrest

theorem trials_starts_low (hlength : 0 < length) (hne : patterns ≠ []) : (trials length patterns)[0]? = some false := by
  obtain ⟨v, patterns, rfl⟩ := List.exists_cons_of_ne_nil hne
  obtain ⟨length, rfl⟩ := Nat.exists_eq_add_of_lt hlength
  rfl

/-- A trial is zero around its pattern. -/
theorem getElem?_trial_around {offset : Nat} (hlength : pattern.length = width) (hoffset : offset < 2 * length + width)
    (haround : offset < length ∨ length + width ≤ offset) : (trial length pattern)[offset]? = some false := by
  rw [trial]
  rcases haround with hbefore | hbehind
  · rw [List.getElem?_append_left (by simp; omega), List.getElem?_append_left (by simpa using hbefore)]
    simp [hbefore]
  · rw [List.getElem?_append_right (by simp; omega), List.getElem?_replicate_of_lt (by simp; omega)]

theorem getElem?_trial_pattern {offset : Nat} (hoffset : offset < pattern.length) :
    (trial length pattern)[length + offset]? = pattern[offset]? := by
  rw [trial, List.getElem?_append_left (by simp; omega), List.getElem?_append_right (by simp)]
  simp

/-! ### Where a pattern is found -/

/-- Of what comes back with a pattern, the bits in front of the window are shifted out, and zeros follow behind it. -/
theorem shiftDown_back (length : Nat) (hne : pattern ≠ []) (hreach : n ≤ tape.length) :
    let back := ((tape ++ trial length pattern).drop (tape.length + length - n)).take (length + pattern.length)
    back.length = length + pattern.length ∧
      Bits.shiftDown length back = window n tape length pattern ++ List.replicate length false := by
  intro back
  have hpos : 0 < pattern.length := List.length_pos_iff.mpr hne
  have hback : back.length = length + pattern.length := by
    rw [List.length_take, List.length_drop, List.length_append, length_trial]
    omega
  have hplace : tape.length + length - n + length = tape.length + 2 * length - n := by omega
  refine ⟨hback, ?_⟩
  rw [Bits.shiftDown, if_neg (by omega), List.drop_take, List.drop_drop, hplace, Nat.add_sub_cancel_left]
  rfl

/-- A path that is longer than the length by some whole trials brings the pattern back as soon as so many trials
    of it went by. -/
theorem window_of_late {late : Nat} (hpattern : pattern.length = width) (hn : n = length + late * (2 * length + width)) :
    window n (tape ++ trials length (List.replicate late pattern)) length pattern = pattern := by
  have hwide : ∀ v ∈ List.replicate late pattern, v.length = width := fun v hv => List.eq_of_mem_replicate hv ▸ hpattern
  have hlate : (trials length (List.replicate late pattern)).length = late * (2 * length + width) := by
    rw [length_trials hwide, List.length_replicate]
  have hplace : (tape ++ trials length (List.replicate late pattern)).length + 2 * length - n = tape.length + length := by
    rw [List.length_append, hlate]
    omega
  -- The trial just sent and the ones before it are all the same, so the first of them may be looked at.
  have hsame : trials length (List.replicate late pattern) ++ trial length pattern =
      trial length pattern ++ trials length (List.replicate late pattern) := by
    rw [← trials_singleton, ← trials_append, ← trials_append, ← List.replicate_succ', List.replicate_succ]
    rfl
  rw [window, hplace, List.append_assoc, List.drop_length_add_append, hsame, trial]
  simp

theorem getElem?_of_take_drop {bits : List Bool} {place count : Nat}
    (h : (bits.drop place).take count = List.replicate count true) {offset : Nat} (hoffset : offset < count) :
    bits[place + offset]? = some true := by
  have hbit := congrArg (·[offset]?) h
  simpa [List.getElem?_take, List.getElem?_drop, hoffset] using hbit

/-- Of all places in a row of trials, only those of patterns of ones are followed by ones alone. -/
theorem place_of_ones (hlength : 0 < length) (hwidth : 0 < width) (h : ∀ v ∈ patterns, v.length = width) {place : Nat}
    (hones : ∀ offset < width, (trials length patterns)[place + offset]? = some true) :
    ∃ index, place = index * (2 * length + width) + length ∧ patterns[index]? = some (List.replicate width true) := by
  have hplace : place < patterns.length * (2 * length + width) := by
    obtain ⟨hlt, -⟩ := List.getElem?_eq_some_iff.mp (hones 0 hwidth)
    rwa [length_trials h] at hlt
  have hindex : place / (2 * length + width) < patterns.length := Nat.div_lt_of_lt_mul (by rwa [Nat.mul_comm])
  have hoffset : place % (2 * length + width) < 2 * length + width := Nat.mod_lt _ (by omega)
  have hsplit : place = place / (2 * length + width) * (2 * length + width) + place % (2 * length + width) :=
    (Nat.div_add_mod' ..).symm
  generalize place / (2 * length + width) = index at hindex hsplit
  generalize place % (2 * length + width) = start at hoffset hsplit
  obtain ⟨v, hv⟩ : ∃ v, patterns[index]? = some v := ⟨_, List.getElem?_eq_getElem hindex⟩
  have hwide : v.length = width := h v (List.mem_of_getElem? hv)
  have hbit : ∀ offset < width, start + offset < 2 * length + width →
      (trial length v)[start + offset]? = some true := by
    intro offset hwithin hfits
    have hthere := hones offset hwithin
    rw [hsplit, Nat.add_assoc, getElem?_trials h index hfits, hv] at hthere
    exact hthere
  -- At any other place of the trial, one of the bits is a zero that stands before or behind the pattern.
  have hstart : start = length := by
    by_contra hne
    rcases Nat.lt_or_gt_of_ne hne with hbefore | hbehind
    · have hone := hbit 0 hwidth hoffset
      rw [Nat.add_zero, getElem?_trial_around hwide hoffset (.inl hbefore)] at hone
      cases hone
    · have hfits : start + (length + width - start) < 2 * length + width := by omega
      have hone := hbit (length + width - start) (by omega) hfits
      rw [getElem?_trial_around hwide hfits (.inr (by omega))] at hone
      cases hone
  subst hstart
  refine ⟨index, hsplit, hv.trans (congrArg some ?_)⟩
  refine List.eq_replicate_iff.mpr ⟨hwide, fun b hb => ?_⟩
  obtain ⟨offset, hwithin, rfl⟩ := List.getElem_of_mem hb
  have hone := hbit offset (hwide ▸ hwithin) (by omega)
  rw [getElem?_trial_pattern hwithin, List.getElem?_eq_getElem hwithin] at hone
  exact Option.some.inj hone

/-- Ones that reach behind the start of the trials, where a zero stands, are those of a pattern. -/
theorem place_of_late_ones (hlength : 0 < length) (hwidth : 0 < width) (h : ∀ v ∈ patterns, v.length = width)
    (hne : patterns ≠ []) {place : Nat} (hreach : tape.length < place + width)
    (hones : ((tape ++ trials length patterns).drop place).take width = List.replicate width true) :
    ∃ index, place = tape.length + (index * (2 * length + width) + length) ∧
      patterns[index]? = some (List.replicate width true) := by
  have hbit {offset : Nat} (hoffset : offset < width) := getElem?_of_take_drop hones hoffset
  rcases Nat.lt_or_ge place tape.length with hbefore | hbehind
  · have hone := hbit (show tape.length - place < width by omega)
    rw [Nat.add_sub_cancel' (Nat.le_of_lt hbefore), List.getElem?_append_right (Nat.le_refl _), Nat.sub_self,
      trials_starts_low hlength hne] at hone
    cases hone
  · have hthere : ∀ offset < width, (trials length patterns)[place - tape.length + offset]? = some true := by
      intro offset hoffset
      have hone := hbit hoffset
      rwa [List.getElem?_append_right (Nat.le_add_right_of_le hbehind), Nat.sub_add_comm hbehind] at hone
    obtain ⟨index, hindex, hpattern⟩ := place_of_ones hlength hwidth h hthere
    exact ⟨index, (Nat.sub_eq_iff_eq_add' hbehind).mp hindex, hpattern⟩

/-- Only the trials of a pattern of ones show ones alone. -/
theorem window_ones_iff (hlength : 0 < length) (hwidth : 0 < width) (hdone : ∀ v ∈ done, v.length = width)
    (hother : ∀ v ∈ done, v ≠ List.replicate width true) (hshort : length ≤ n) (htape : n ≤ tape.length)
    (hbound : n < (done.length + 1) * (2 * length + width)) (count : Nat) :
    let ones := List.replicate width true
    window n (tape ++ trials length (done ++ List.replicate count ones)) length ones = ones ↔
      ∃ late, late ≤ count ∧ n = length + late * (2 * length + width) := by
  intro ones
  have hones : ones.length = width := List.length_replicate
  constructor
  · intro hwindow
    generalize hall : done ++ List.replicate count ones = all at hwindow
    have hwide : ∀ v ∈ all ++ [ones], v.length = width := by
      intro v hv
      rw [← hall] at hv
      simp only [List.mem_append, List.mem_replicate, List.mem_singleton] at hv
      rcases hv with (hv | ⟨-, rfl⟩) | rfl
      · exact hdone v hv
      · exact hones
      · exact hones
    have hcount : all.length = done.length + count := by rw [← hall, List.length_append, List.length_replicate]
    have hsent : (trials length all).length = all.length * (2 * length + width) :=
      length_trials fun v hv => hwide v (List.mem_append_left _ hv)
    rw [window, List.append_assoc, ← trials_singleton, ← trials_append, hones, List.length_append, hsent] at hwindow
    have hreach : tape.length < tape.length + all.length * (2 * length + width) + 2 * length - n + width := by
      have hmore : (done.length + 1) * (2 * length + width) ≤ (all.length + 1) * (2 * length + width) :=
        Nat.mul_le_mul_right _ (by omega)
      have hnext : (all.length + 1) * (2 * length + width) = all.length * (2 * length + width) + (2 * length + width) :=
        Nat.succ_mul ..
      omega
    obtain ⟨index, hplace, hpattern⟩ := place_of_late_ones hlength hwidth hwide (by simp) hreach hwindow
    have hlast : index ≤ all.length := by
      obtain ⟨hlt, -⟩ := List.getElem?_eq_some_iff.mp hpattern
      simpa [Nat.lt_succ_iff] using hlt
    have hown : done.length ≤ index := by
      by_contra hearlier
      have hearlier := Nat.lt_of_not_le hearlier
      rw [← hall, List.append_assoc, List.getElem?_append_left hearlier] at hpattern
      exact hother _ (List.mem_of_getElem? hpattern) rfl
    obtain ⟨late, hlate⟩ := Nat.exists_eq_add_of_le hlast
    refine ⟨late, by omega, ?_⟩
    rw [hlate, Nat.add_mul] at hplace
    omega
  · rintro ⟨late, hlate, hn⟩
    obtain ⟨earlier, rfl⟩ := Nat.exists_eq_add_of_le' hlate
    rw [← List.replicate_append_replicate, ← List.append_assoc, trials_append, ← List.append_assoc]
    exact window_of_late hones hn

/-! ### Counting trials -/

/-- How many of the next `count` trials bring their pattern back. -/
def goodTrials (n length : Nat) (pattern : List Bool) : Nat → List Bool → Nat
  | 0, _ => 0
  | count + 1, tape =>
    (window n tape length pattern == pattern).toNat + goodTrials n length pattern count (tape ++ trial length pattern)

theorem goodTrials_eq_countP_from (start count : Nat) :
    goodTrials n length pattern count (tape ++ trials length (List.replicate start pattern)) =
      (List.range' start count).countP fun i =>
        window n (tape ++ trials length (List.replicate i pattern)) length pattern == pattern := by
  induction count generalizing start with
  | zero => rfl
  | succ count ih =>
    have hnext : tape ++ trials length (List.replicate start pattern) ++ trial length pattern =
        tape ++ trials length (List.replicate (start + 1) pattern) := by
      rw [List.append_assoc, ← trials_singleton, ← trials_append, List.replicate_succ']
    rw [goodTrials, hnext, ih, List.range'_succ, List.countP_cons, Nat.add_comm]
    cases window n (tape ++ trials length (List.replicate start pattern)) length pattern == pattern <;> rfl

theorem goodTrials_eq_countP (n length : Nat) (pattern : List Bool) (count : Nat) (tape : List Bool) :
    goodTrials n length pattern count tape = (List.range count).countP fun i =>
      window n (tape ++ trials length (List.replicate i pattern)) length pattern == pattern := by
  rw [List.range_eq_range', ← goodTrials_eq_countP_from]
  simp [trials]

theorem countP_range' (late start count : Nat) :
    (List.range' start count).countP (late ≤ ·) = start + count - max start late := by
  induction count generalizing start with
  | zero => simp
  | succ count ih =>
    rw [List.range'_succ, List.countP_cons, ih]
    by_cases h : late ≤ start <;> simp [h] <;> omega

theorem countP_range (late count : Nat) : (List.range count).countP (late ≤ ·) = count - late := by
  rw [List.range_eq_range', countP_range', Nat.zero_add, Nat.zero_max]

theorem goodTrials_eq {late : Nat}
    (h : ∀ i, window n (tape ++ trials length (List.replicate i pattern)) length pattern = pattern ↔ late ≤ i)
    (count : Nat) : goodTrials n length pattern count tape = count - late := by
  rw [goodTrials_eq_countP, ← countP_range]
  refine List.countP_congr fun i _ => ?_
  rw [beq_iff_eq, decide_eq_true_iff]
  exact h i

theorem le_goodTrials {late : Nat}
    (h : ∀ i, late ≤ i → window n (tape ++ trials length (List.replicate i pattern)) length pattern = pattern)
    (count : Nat) : count - late ≤ goodTrials n length pattern count tape := by
  rw [goodTrials_eq_countP, ← countP_range]
  refine List.countP_mono_left fun i _ hi => ?_
  rw [decide_eq_true_iff] at hi
  exact beq_iff_eq.mpr (h i hi)

theorem exists_window {count : Nat} (h : 0 < goodTrials n length pattern count tape) :
    ∃ i, window n (tape ++ trials length (List.replicate i pattern)) length pattern = pattern := by
  rw [goodTrials_eq_countP, List.countP_pos_iff] at h
  obtain ⟨i, -, hi⟩ := h
  exact ⟨i, beq_iff_eq.mp hi⟩

/-! ### All patterns of a length -/

/-- The patterns of the first `done` values from one on, each as often as it is tried. -/
def sent (width count done : Nat) : List (List Bool) :=
  (List.range done).flatMap fun value => List.replicate count (Bits.ofNat width (value + 1))

theorem sent_succ (width count done : Nat) :
    sent width count (done + 1) = sent width count done ++ List.replicate count (Bits.ofNat width (done + 1)) := by
  simp [sent, List.range_succ]

theorem length_sent (width count done : Nat) : (sent width count done).length = done * count := by
  induction done with
  | zero => rw [Nat.zero_mul]; rfl
  | succ done ih => rw [sent_succ, List.length_append, ih, List.length_replicate, Nat.succ_mul]

theorem mem_sent {count value : Nat} {v : List Bool} (h : v ∈ sent width count value) :
    ∃ k < value, v = Bits.ofNat width (k + 1) := by
  obtain ⟨k, hk, hv⟩ := List.mem_flatMap.mp h
  exact ⟨k, List.mem_range.mp hk, List.eq_of_mem_replicate hv⟩

/-- How many trials bring the pattern of the value `done + 1` back, if the values before were all tried. -/
def goodAt (n length width count : Nat) (tape : List Bool) (done : Nat) : Nat :=
  goodTrials n length (Bits.ofNat width (done + 1)) count (tape ++ trials length (sent width count done))

/-- A path that is `late` trials longer than the length fails at most the first `late` trials of a pattern. -/
theorem le_goodAt {late : Nat} (hn : n = length + late * (2 * length + width)) (count : Nat) (tape : List Bool)
    (done : Nat) : count - late ≤ goodAt n length width count tape done := by
  refine le_goodTrials (fun i hi => ?_) count
  obtain ⟨earlier, rfl⟩ := Nat.exists_eq_add_of_le' hi
  rw [← List.replicate_append_replicate, trials_append, ← List.append_assoc]
  exact window_of_late (Bits.length_ofNat width (done + 1)) hn

/-- The pattern of ones comes back only on such a path, and only behind its first `late` trials. -/
theorem goodAt_last (hlength : 0 < length) (hwidth : 0 < width) (hshort : length ≤ n) (htape : n ≤ tape.length)
    {count : Nat} (hbound : n < ((2 ^ width - 2) * count + 1) * (2 * length + width))
    (hgood : 0 < goodAt n length width count tape (2 ^ width - 2)) :
    ∃ late, n = length + late * (2 * length + width) ∧
      goodAt n length width count tape (2 ^ width - 2) = count - late := by
  have htwo : 2 ≤ 2 ^ width := Nat.le_self_pow (by omega) 2
  have hlast : Bits.ofNat width (2 ^ width - 2 + 1) = List.replicate width true := by
    rw [show 2 ^ width - 2 + 1 = 2 ^ width - 1 by omega, Bits.ofNat_last]
  have hdone : ∀ v ∈ sent width count (2 ^ width - 2), v.length = width := by
    intro v hv
    obtain ⟨k, -, rfl⟩ := mem_sent hv
    exact Bits.length_ofNat ..
  have hother : ∀ v ∈ sent width count (2 ^ width - 2), v ≠ List.replicate width true := by
    intro v hv hones
    obtain ⟨k, hk, rfl⟩ := mem_sent hv
    rw [← Bits.ofNat_last] at hones
    have hvalue := Bits.ofNat_inj (by omega) (by omega) hones
    omega
  rw [← length_sent width count (2 ^ width - 2)] at hbound
  have hones (i : Nat) := window_ones_iff hlength hwidth hdone hother hshort htape hbound i
  simp only [trials_append, ← List.append_assoc, ← hlast] at hones
  rw [goodAt] at hgood ⊢
  obtain ⟨i, hi⟩ := exists_window hgood
  obtain ⟨late, -, hn⟩ := (hones i).mp hi
  refine ⟨late, hn, goodTrials_eq (fun j => ?_) count⟩
  rw [hones]
  constructor
  · rintro ⟨late', hlate', hn'⟩
    have hsame : late' * (2 * length + width) = late * (2 * length + width) := by omega
    exact Nat.eq_of_mul_eq_mul_right (by omega) hsame ▸ hlate'
  · exact fun hlate => ⟨late, hlate, hn⟩

/-- Which lengths all patterns pass for: the length of the path, and those that it exceeds by so few whole trials
    that the others are enough. -/
theorem passes_iff (hlength : 0 < length) (hwidth : 0 < width) (hshort : length ≤ n) (htape : n ≤ tape.length)
    {count : Nat} (hbound : n < ((2 ^ width - 2) * count + 1) * (2 * length + width)) {threshold : Nat}
    (hthreshold : 0 < threshold) :
    (∀ done < 2 ^ width - 1, threshold ≤ 100 * goodAt n length width count tape done / count) ↔
      ∃ late, n = length + late * (2 * length + width) ∧ threshold ≤ 100 * (count - late) / count := by
  constructor
  · intro hall
    have htwo : 2 ≤ 2 ^ width := Nat.le_self_pow (by omega) 2
    have hlast := hall (2 ^ width - 2) (by omega)
    have hgood : 0 < goodAt n length width count tape (2 ^ width - 2) := by
      refine Nat.pos_of_ne_zero fun hnone => ?_
      rw [hnone, Nat.mul_zero, Nat.zero_div] at hlast
      exact Nat.not_lt_of_le hlast hthreshold
    obtain ⟨late, hn, hcount⟩ := goodAt_last hlength hwidth hshort htape hbound hgood
    exact ⟨late, hn, hcount ▸ hlast⟩
  · rintro ⟨late, hn, hpercent⟩ done -
    calc threshold ≤ 100 * (count - late) / count := hpercent
      _ ≤ 100 * goodAt n length width count tape done / count :=
        Nat.div_le_div_right (Nat.mul_le_mul_left 100 (le_goodAt hn count tape done))

end Jtag.Detect
