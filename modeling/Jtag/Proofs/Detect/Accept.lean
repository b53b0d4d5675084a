import Mathlib.Algebra.Group.Nat.Defs
import Jtag.Config

/-! Which length a measurement takes a path for. The trials of a length see a longer path as well, if it is longer
    by some whole trials, and then all but as many of them bring their pattern back. The length of the path itself
    always passes, so the question is which shorter lengths do. -/

namespace Jtag

/-- The paths that are shorter than this end before the first pattern of ones comes back out of them. -/
def DetectConfig.reach (detect : DetectConfig) : Nat :=
  ((2 ^ detect.patternBits - 2) * max detect.testCount 1 + 1) * (detect.patternBits + 2)

namespace Detect

/-- A path of `n` bits is `late` whole trials of a length longer than it, and enough trials are left when as many
    fail. -/
def Passes (detect : DetectConfig) (n length late : Nat) : Prop :=
  n = length + late * (2 * length + detect.patternBits) ∧
    detect.thresholdPercent ≤ 100 * (max detect.testCount 1 - late) / max detect.testCount 1

/-- A length passes for that of a path of `n` bits. -/
def Accepts (detect : DetectConfig) (n length : Nat) : Prop :=
  Passes detect n length ((n - length) / (2 * length + detect.patternBits))

instance (detect : DetectConfig) (n length : Nat) : Decidable (Accepts detect n length) :=
  inferInstanceAs (Decidable (_ ∧ _))

theorem accepts_iff {detect : DetectConfig} (hwidth : 0 < detect.patternBits) {n length : Nat} :
    Accepts detect n length ↔ ∃ late, Passes detect n length late := by
  constructor
  · exact fun h => ⟨_, h⟩
  · rintro ⟨late, hn, hpercent⟩
    have hlate : (n - length) / (2 * length + detect.patternBits) = late := by
      rw [hn, Nat.add_sub_cancel_left, Nat.mul_div_cancel _ (by omega)]
    rw [Accepts, hlate]
    exact ⟨hn, hpercent⟩

theorem accepts_self {detect : DetectConfig} (hwidth : 0 < detect.patternBits) (hthreshold : detect.thresholdPercent ≤ 100)
    (n : Nat) : Accepts detect n n := by
  refine (accepts_iff hwidth).mpr ⟨0, by omega, ?_⟩
  rwa [Nat.sub_zero, Nat.mul_div_cancel _ (Nat.lt_of_lt_of_le Nat.one_pos (Nat.le_max_right ..))]

/-- The first length that passes is that of the path, unless it is too long or a shorter one passes. -/
theorem find?_accepts (detect : DetectConfig) (hwidth : 0 < detect.patternBits)
    (hthreshold : detect.thresholdPercent ≤ 100) {n : Nat} (hpos : 0 < n)
    (hshorter : ∀ length, 0 < length → length < n → ¬ Accepts detect n length) (limit : Nat) :
    ((List.range' 1 limit).find? fun length => Accepts detect n length) = if n ≤ limit then some n else none := by
  split
  · have hself := accepts_self hwidth hthreshold n
    refine List.find?_range'_eq_some.mpr ⟨decide_eq_true hself, ?_, ?_⟩
    · rw [List.mem_range'_1]
      omega
    · intro length hlow hlength
      simpa using hshorter length hlow hlength
  · refine List.find?_range'_eq_none.mpr fun length hlow hlength => ?_
    simpa using hshorter length hlow (by omega)

theorem exists_find?_accepts {detect : DetectConfig} (hwidth : 0 < detect.patternBits)
    (hthreshold : detect.thresholdPercent ≤ 100) {n limit : Nat} (hpos : 0 < n) (hlimit : n ≤ limit) :
    ∃ length, ((List.range' 1 limit).find? fun length => Accepts detect n length) = some length ∧ 0 < length ∧
      Accepts detect n length ∧ ∀ shorter, 0 < shorter → shorter < length → ¬ Accepts detect n shorter := by
  cases hfound : (List.range' 1 limit).find? fun length => Accepts detect n length with
  | none =>
    have hself := List.find?_range'_eq_none.mp hfound n hpos (by omega)
    rw [decide_eq_true (accepts_self hwidth hthreshold n)] at hself
    cases hself
  | some length =>
    obtain ⟨haccepts, hlength, hshorter⟩ := List.find?_range'_eq_some.mp hfound
    refine ⟨length, rfl, (List.mem_range'_1.mp hlength).1, of_decide_eq_true haccepts, fun shorter hlow hlt => ?_⟩
    simpa using hshorter shorter hlow hlt

theorem Passes.lt {detect : DetectConfig} (hwidth : 0 < detect.patternBits) {n length late : Nat}
    (h : Passes detect n length late) (hlate : 0 < late) : length < n := by
  have hperiod : 0 < late * (2 * length + detect.patternBits) := Nat.mul_pos hlate (by omega)
  have hn := h.1
  omega

/-- If all trials have to bring their pattern back, no other length passes. -/
theorem not_accepts_of_full {detect : DetectConfig} (hwidth : 0 < detect.patternBits)
    (hthreshold : detect.thresholdPercent = 100) {n length : Nat} (hlength : length < n) : ¬ Accepts detect n length := by
  rw [accepts_iff hwidth]
  rintro ⟨late, hn, hpercent⟩
  rw [hthreshold] at hpercent
  have hcount : 0 < max detect.testCount 1 := Nat.lt_of_lt_of_le Nat.one_pos (Nat.le_max_right ..)
  have hlate : late ≠ 0 := by
    rintro rfl
    omega
  -- No trial may be lost, but `late` of them are.
  have hall := (Nat.le_div_iff_mul_le hcount).mp hpercent
  omega

end Detect

end Jtag
