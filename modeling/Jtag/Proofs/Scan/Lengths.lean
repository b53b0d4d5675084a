import Jtag.Scan.Split

/-! The lengths that a split gives. One for each part, and what is read off the captured path is never zero, nor
    longer than the path: starts are strictly ordered, and all of them lie inside the path. Lengths that are told
    beforehand are only checked for their sum and their starts, which a zero may pass. -/

namespace Jtag
namespace Scan

theorem startsFrom_lt {offset start : Nat} {bits : List Bool} (h : start ∈ startsFrom offset bits) :
    offset ≤ start ∧ start < offset + bits.length := by
  induction bits generalizing offset with
  | nil => exact absurd h List.not_mem_nil
  | cons b bits ih =>
    have hlater : start ∈ startsFrom (offset + 1) bits → offset ≤ start ∧ start < offset + (b :: bits).length := by
      intro hmem
      have := ih hmem
      rw [List.length_cons]
      omega
    rw [startsFrom] at h
    split at h
    · rcases List.mem_cons.mp h with rfl | hmem
      · exact ⟨Nat.le_refl _, by rw [List.length_cons]; omega⟩
      · exact hlater hmem
    · exact hlater h

theorem startsFrom_sorted (offset : Nat) (bits : List Bool) : (startsFrom offset bits).Pairwise (· < ·) := by
  induction bits generalizing offset with
  | nil => exact List.Pairwise.nil
  | cons b bits ih =>
    rw [startsFrom]
    split
    · exact List.pairwise_cons.mpr ⟨fun start hmem => (startsFrom_lt hmem).1, ih (offset + 1)⟩
    · exact ih (offset + 1)

theorem length_lengthsOfStarts (starts : List Nat) (total : Nat) : (lengthsOfStarts starts total).length = starts.length := by
  cases starts with
  | nil => rfl
  | cons first rest => simp [lengthsOfStarts]

/-- Between two starts, and behind the last one, there is at least one bit, and no more than there are in all. -/
theorem lengthsOfStarts_bounds {starts : List Nat} {total : Nat} (hsorted : starts.Pairwise (· < ·))
    (hinside : ∀ start ∈ starts, start < total) :
    ∀ length ∈ lengthsOfStarts starts total, 0 < length ∧ length ≤ total := by
  induction starts with
  | nil => exact nofun
  | cons first rest ih =>
    obtain ⟨hfirst, hrest⟩ := List.pairwise_cons.mp hsorted
    have hlater := ih hrest fun start hmem => hinside start (List.mem_cons_of_mem first hmem)
    cases rest with
    | nil =>
      have hfits := hinside first List.mem_cons_self
      intro length hmem
      obtain rfl : length = total - first := by simpa [lengthsOfStarts] using hmem
      exact ⟨Nat.sub_pos_of_lt hfits, Nat.sub_le ..⟩
    | cons next rest =>
      intro length hmem
      rcases List.mem_cons.mp hmem with rfl | hmem
      · have hnext : next < total := hinside next (List.mem_cons_of_mem first List.mem_cons_self)
        exact ⟨Nat.sub_pos_of_lt (hfirst next List.mem_cons_self), Nat.le_trans (Nat.sub_le ..) (Nat.le_of_lt hnext)⟩
      · exact hlater length hmem

/-- A split that succeeds repeats the lengths that were told and checked, or else there is but one part, or as many
    starts as parts. -/
theorem irLengths?_ok_cases {ir : List Bool} {parts : Nat} {expected? : Option (List Nat)} {lengths : List Nat}
    (h : irLengths? ir parts expected? = .ok lengths) :
    (starts ir).head? = some 0 ∧ lengths.length = parts ∧
      (expected? = some lengths ∧ Word.wrap (total lengths) = Word.wrap ir.length ∧
          checkStarts ((starts ir).map Word.wrap) 0 lengths = .ok () ∨
        expected? = none ∧ (lengths = [ir.length] ∨ lengths = lengthsOfStarts (starts ir) ir.length)) := by
  unfold irLengths? at h
  dsimp only at h
  split at h
  · cases h
  · rename_i hfit
    refine ⟨Decidable.of_not_not fun hne => hfit (.inr (.inr hne)), ?_⟩
    cases expected? with
    | some expected =>
      dsimp only at h
      split at h
      · cases h
      · rename_i hsum
        cases hstarts : checkStarts ((starts ir).map Word.wrap) 0 expected with
        | error fault => rw [hstarts] at h; cases h
        | ok _ =>
          rw [hstarts] at h
          obtain rfl := Except.ok.inj h
          rw [not_or, Decidable.not_not, Decidable.not_not] at hsum
          exact ⟨hsum.1, .inl ⟨rfl, hsum.2, hstarts⟩⟩
    | none =>
      dsimp only at h
      split at h
      · rename_i hone
        cases h
        exact ⟨hone.symm, .inr ⟨rfl, .inl rfl⟩⟩
      · split at h
        · rename_i hcount
          cases h
          exact ⟨(length_lengthsOfStarts ..).trans hcount.symm, .inr ⟨rfl, .inr rfl⟩⟩
        · cases h

theorem starts_lt {ir : List Bool} {start : Nat} (h : start ∈ starts ir) : start < ir.length := by
  simpa using (startsFrom_lt h).2

/-- A split that succeeds repeats the lengths that were told, or else finds lengths of at least one bit, and of no
    more than the path has. -/
theorem irLengths?_ok_inv {ir : List Bool} {parts : Nat} {expected? : Option (List Nat)} {lengths : List Nat}
    (h : irLengths? ir parts expected? = .ok lengths) :
    lengths.length = parts ∧
      (expected? = some lengths ∨ expected? = none ∧ ∀ length ∈ lengths, 0 < length ∧ length ≤ ir.length) := by
  obtain ⟨hhead, hcount, ⟨hexpected, -, -⟩ | ⟨hexpected, rfl | rfl⟩⟩ := irLengths?_ok_cases h
  · exact ⟨hcount, .inl hexpected⟩
  · have hpos : 0 < ir.length := starts_lt (List.mem_of_head? hhead)
    exact ⟨hcount, .inr ⟨hexpected, by simpa using hpos⟩⟩
  · exact ⟨hcount, .inr ⟨hexpected, lengthsOfStarts_bounds (startsFrom_sorted 0 ir) fun _ => starts_lt⟩⟩

end Scan
end Jtag
