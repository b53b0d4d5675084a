import Mathlib.Data.List.Sort
import Jtag.Proofs.Scan.Lengths
import Jtag.Proofs.Scan.Split

/-! Where the registers of an instruction path start. Each of them starts with a one and a zero, so the true starts
    are among the candidates, and with as many candidates as parts they are all of them. A split that is accepted
    has a start for each of its registers, also if it was told; but a register of no bits passes for the one behind
    it, and lengths whose sum is cut off by a word for others. -/

namespace Jtag
namespace Scan

variable {ir : List Bool} {i offset : Nat} {lengths : List Nat} {captures : List (List Bool)}

/-! ### Candidates -/

/-- A register can start here: there is a one, and a zero behind it. -/
def Begins (ir : List Bool) (i : Nat) : Prop := ir[i]? = some true ∧ ir[i + 1]? = some false

instance : Decidable (Begins ir i) := inferInstanceAs (Decidable (_ ∧ _))

theorem Begins.add_two_le (h : Begins ir i) : i + 2 ≤ ir.length := (List.getElem?_eq_some_iff.mp h.2).1

/-- No register starts at the second bit of another one. -/
theorem Begins.not_succ (h : Begins ir i) : ¬Begins ir (i + 1) := fun h' => by
  have := h.2.symm.trans h'.1
  cases this

theorem begins_zero {b : Bool} {rest : List Bool} : Begins (b :: rest) 0 ↔ (b && rest.head? == some false) = true := by
  simp [Begins, List.head?_eq_getElem?]

theorem begins_append_right (front : List Bool) : Begins (front ++ ir) (front.length + i) ↔ Begins ir i := by
  simp [Begins, List.getElem?_append_right, Nat.add_assoc]

theorem add_mem_startsFrom : offset + i ∈ startsFrom offset ir ↔ Begins ir i := by
  induction ir generalizing offset i with
  | nil => simp [startsFrom, Begins]
  | cons b rest ih =>
    cases i with
    | zero =>
      have hlater : offset ∉ startsFrom (offset + 1) rest := fun h => by
        have := (startsFrom_lt h).1
        omega
      rw [Nat.add_zero, begins_zero, startsFrom]
      split <;> simp [*]
    | succ i =>
      have hlater : offset + (i + 1) ∈ startsFrom (offset + 1) rest ↔ Begins rest i := by
        rw [Nat.add_comm i 1, ← Nat.add_assoc]
        exact ih
      rw [startsFrom]
      split <;> simp [hlater, Begins]

theorem mem_starts : i ∈ starts ir ↔ Begins ir i := by
  have h : 0 + i ∈ startsFrom 0 ir ↔ Begins ir i := add_mem_startsFrom
  rwa [Nat.zero_add] at h

theorem head?_starts : (starts ir).head? = some 0 ↔ Begins ir 0 := by
  rw [← mem_starts]
  refine ⟨List.mem_of_head?, fun h => ?_⟩
  obtain ⟨first, rest, hstarts⟩ := List.exists_cons_of_ne_nil (List.ne_nil_of_mem h)
  have hsorted := startsFrom_sorted 0 ir
  rw [← starts, hstarts, List.pairwise_cons] at hsorted
  rw [hstarts] at h ⊢
  rcases List.mem_cons.mp h with rfl | hlater
  · rfl
  · exact absurd (hsorted.1 0 hlater) (Nat.not_lt_zero first)

/-! ### True starts -/

theorem le_of_mem_offsets {start : Nat} (h : start ∈ offsets offset lengths) : offset ≤ start := by
  induction lengths generalizing offset with
  | nil => cases h
  | cons length lengths ih =>
    rcases List.mem_cons.mp h with rfl | h
    · exact Nat.le_refl _
    · exact Nat.le_trans (Nat.le_add_right ..) (ih h)

theorem offsets_sorted (h : ∀ length ∈ lengths, 0 < length) : (offsets offset lengths).Pairwise (· < ·) := by
  induction lengths generalizing offset with
  | nil => exact List.Pairwise.nil
  | cons length lengths ih =>
    obtain ⟨hlength, hlengths⟩ := List.forall_mem_cons.mp h
    refine List.pairwise_cons.mpr ⟨fun start hstart => ?_, ih hlengths⟩
    have := le_of_mem_offsets hstart
    omega

theorem total_map_length (captures : List (List Bool)) : total (captures.map List.length) = captures.flatten.length := by
  rw [← List.flatMap_id, length_flatMap]
  rfl

/-- Registers that start with a one and a zero do so in a row of them. -/
theorem begins_flatten (h : ∀ capture ∈ captures, [true, false] <+: capture) {start : Nat}
    (hstart : start ∈ offsets offset (captures.map List.length)) :
    ∃ i, start = offset + i ∧ Begins captures.flatten i := by
  induction captures generalizing offset with
  | nil => cases hstart
  | cons capture captures ih =>
    obtain ⟨⟨more, rfl⟩, hcaptures⟩ := List.forall_mem_cons.mp h
    rcases List.mem_cons.mp hstart with rfl | hstart
    · exact ⟨0, rfl, rfl, rfl⟩
    · obtain ⟨i, rfl, hi⟩ := ih hcaptures hstart
      exact ⟨_, Nat.add_assoc .., (begins_append_right _).mpr hi⟩

theorem offsets_sublist (hpos : ∀ length ∈ lengths, 0 < length) (h : ∀ start ∈ offsets 0 lengths, Begins ir start) :
    (offsets 0 lengths).Sublist (starts ir) := by
  have hsorted : (offsets 0 lengths).Pairwise (· < ·) := offsets_sorted hpos
  refine List.sublist_of_subperm_of_pairwise ?_ hsorted (startsFrom_sorted 0 ir)
  exact List.subperm_of_subset hsorted.nodup fun start hstart => mem_starts.mpr (h start hstart)

/-! ### Splits of true registers -/

section
variable (hne : lengths ≠ []) (hsub : (offsets 0 lengths).Sublist (starts ir)) (htotal : total lengths = ir.length)
include hne hsub

theorem fits_of_sublist :
    ¬(lengths.length = 0 ∨ (starts ir).length < lengths.length ∨ (starts ir).head? ≠ some 0) := by
  have hcount := hsub.length_le
  rw [length_offsets] at hcount
  obtain ⟨first, rest, rfl⟩ := List.exists_cons_of_ne_nil hne
  have hbegins : Begins ir 0 := mem_starts.mp (hsub.subset List.mem_cons_self)
  rintro (hnil | hfew | hhead)
  · exact absurd hnil (Nat.succ_ne_zero _)
  · omega
  · exact hhead (head?_starts.mpr hbegins)

include htotal

theorem irLengths?_told : irLengths? ir lengths.length (some lengths) = .ok lengths := by
  unfold irLengths?
  dsimp only
  have hstarts : checkStarts ((starts ir).map Word.wrap) (Word.wrap 0) lengths = .ok () :=
    checkStarts_eq_ok_iff.mpr fun _ hstart => List.mem_map_of_mem (f := Word.wrap) (hsub.subset hstart)
  rw [if_neg (fits_of_sublist hne hsub), if_neg (by simp [htotal]), show 0 = Word.wrap 0 from rfl, hstarts]
  rfl

/-- Without lengths that are told the split is found if there is but one part, or no other candidate. -/
theorem irLengths?_untold : irLengths? ir lengths.length none =
    if lengths.length = 1 ∨ starts ir = offsets 0 lengths then .ok lengths
    else .error (.ambiguous (starts ir).length lengths.length) := by
  have hall : lengths.length = (starts ir).length ↔ starts ir = offsets 0 lengths := by
    rw [← length_offsets 0 lengths]
    exact ⟨fun h => (hsub.eq_of_length h).symm, fun h => congrArg List.length h.symm⟩
  have hsplit := lengthsOfStarts_offsets lengths 0
  rw [Nat.zero_add, htotal] at hsplit
  unfold irLengths?
  dsimp only
  rw [if_neg (fits_of_sublist hne hsub)]
  by_cases hone : lengths.length = 1
  · obtain ⟨length, rfl⟩ := List.length_eq_one_iff.mp hone
    rw [if_pos hone, if_pos (.inl hone), ← htotal]
    rfl
  · rw [if_neg hone]
    by_cases hcount : lengths.length = (starts ir).length
    · rw [if_pos hcount, if_pos (.inr (hall.mp hcount)), hall.mp hcount, hsplit]
    · rw [if_neg hcount, if_neg (not_or.mpr ⟨hone, mt hall.mpr hcount⟩)]

end

/-- Registers of at least two bits in a row are split into their lengths, which may be known beforehand. -/
theorem irLengths?_flatMap (h : ∀ length ∈ lengths, 2 ≤ length) (hne : lengths ≠ [])
    {expected? : Option (List Nat)} (hexpected : ∀ expected, expected? = some expected → expected = lengths) :
    irLengths? (lengths.flatMap instructionEntry) lengths.length expected? = .ok lengths := by
  have hstarts : starts (lengths.flatMap instructionEntry) = offsets 0 lengths := startsFrom_flatMap h 0
  have hsub : (offsets 0 lengths).Sublist (starts (lengths.flatMap instructionEntry)) := hstarts ▸ List.Sublist.refl _
  have htotal : total lengths = (lengths.flatMap instructionEntry).length := (length_flatMap_instructionEntry h).symm
  cases expected? with
  | some expected =>
    obtain rfl := hexpected expected rfl
    exact irLengths?_told hne hsub htotal
  | none => rw [irLengths?_untold hne hsub htotal, if_pos (.inr hstarts)]

/-- Splitting registers that start with a one and a zero is never wrong. Without lengths that are told it finds their
    true lengths just if there is one part, or no such pair of bits but at the starts of the registers, and
    otherwise it finds nothing; told the true lengths it always accepts them. -/
theorem irLengths_of_captures (hne : captures ≠ []) (h : ∀ capture ∈ captures, [true, false] <+: capture) :
    let ir := captures.flatten
    let lengths := captures.map List.length
    (captures.length = 1 ∨ (∀ i, Begins ir i → i ∈ offsets 0 lengths) →
      irLengths? ir captures.length none = .ok lengths) ∧
    (¬(captures.length = 1 ∨ ∀ i, Begins ir i → i ∈ offsets 0 lengths) →
      irLengths? ir captures.length none = .error (.ambiguous (starts ir).length captures.length)) ∧
    irLengths? ir captures.length (some lengths) = .ok lengths := by
  intro ir lengths
  have hne' : lengths ≠ [] := List.map_eq_nil_iff.not.mpr hne
  have hcount : lengths.length = captures.length := List.length_map ..
  have hpos : ∀ length ∈ lengths, 0 < length := by
    intro length hlength
    obtain ⟨capture, hcapture, rfl⟩ := List.mem_map.mp hlength
    exact Nat.lt_of_lt_of_le Nat.zero_lt_two (h capture hcapture).length_le
  have hbegins : ∀ start ∈ offsets 0 lengths, Begins ir start := by
    intro start hstart
    obtain ⟨i, rfl, hi⟩ := begins_flatten h hstart
    rwa [Nat.zero_add]
  have hsub : (offsets 0 lengths).Sublist (starts ir) := offsets_sublist hpos hbegins
  have htotal : total lengths = ir.length := total_map_length captures
  have honly : starts ir = offsets 0 lengths ↔ ∀ i, Begins ir i → i ∈ offsets 0 lengths := by
    constructor
    · intro heq i hi
      rw [← heq]
      exact mem_starts.mpr hi
    · intro hall
      exact (startsFrom_sorted 0 ir).eq_of_mem_iff (offsets_sorted hpos) fun i =>
        ⟨fun hi => hall i (mem_starts.mp hi), fun hi => hsub.subset hi⟩
  have huntold := irLengths?_untold hne' hsub htotal
  rw [hcount] at huntold
  refine ⟨fun hclear => ?_, fun hunclear => ?_, hcount ▸ irLengths?_told hne' hsub htotal⟩
  · rw [huntold, if_pos (hclear.imp_right honly.mpr)]
  · rw [huntold, if_neg (mt (Or.imp_right honly.mp) hunclear)]

/-- Two registers with a pair of bits too many between their starts, which has to be told from a start, and two
    without one. -/
theorem irLengths_of_captures_two :
    irLengths? [true, false, true, false, true, false] 2 none = .error (.ambiguous 3 2) ∧
      irLengths? [true, false, true, false, true, false] 2 (some [4, 2]) = .ok [4, 2] ∧
      irLengths? [true, false, false, true, false, true] 2 none = .ok [3, 3] := by
  have hwide : ∀ capture ∈ [[true, false, true, false], [true, false]], [true, false] <+: capture := by decide
  have hplain : ∀ capture ∈ [[true, false, false], [true, false, true]], [true, false] <+: capture := by decide
  obtain ⟨-, hunclear, htold⟩ := irLengths_of_captures (List.cons_ne_nil _ _) hwide
  obtain ⟨hclear, -, -⟩ := irLengths_of_captures (List.cons_ne_nil _ _) hplain
  refine ⟨hunclear ?_, htold, hclear (.inr fun i hi => ?_)⟩
  · rintro (hone | hall)
    · cases hone
    · exact absurd (hall 2 (by decide)) (by decide)
  · have hbound : i < 5 := Nat.lt_of_succ_le (Nat.le_of_succ_le_succ hi.add_two_le)
    have hall : ∀ i < 5, Begins [true, false, false, true, false, true] i → i ∈ offsets 0 [3, 3] := by decide
    exact hall i hbound hi

/-! ### Accepted splits -/

/-- The lengths between the candidates have these as their starts, and fill the path. -/
theorem offsets_lengthsOfStarts {first size : Nat} {rest : List Nat} (hsorted : (first :: rest).Pairwise (· < ·))
    (hinside : ∀ start ∈ first :: rest, start < size) :
    offsets first (lengthsOfStarts (first :: rest) size) = first :: rest ∧
      first + total (lengthsOfStarts (first :: rest) size) = size := by
  induction rest generalizing first with
  | nil =>
    have hfirst := hinside first List.mem_cons_self
    refine ⟨rfl, ?_⟩
    show first + (size - first + 0) = size
    omega
  | cons next rest ih =>
    obtain ⟨hfirst, hrest⟩ := List.pairwise_cons.mp hsorted
    have hstep : first + (next - first) = next := by
      have := hfirst next List.mem_cons_self
      omega
    have hlengths : lengthsOfStarts (first :: next :: rest) size = (next - first) :: lengthsOfStarts (next :: rest) size :=
      rfl
    obtain ⟨hoffsets, htotal⟩ := ih hrest fun start hstart => hinside start (List.mem_cons_of_mem first hstart)
    rw [hlengths, offsets, total, hstep, hoffsets, ← Nat.add_assoc, hstep, htotal]
    exact ⟨rfl, rfl⟩

/-- The lengths of an accepted split fill the path, and there is a start for each of them, as far as a word tells;
    what was not told does so in truth. -/
theorem irLengths?_ok_begins {parts : Nat} {expected? : Option (List Nat)} (hword : ir.length < Word.size)
    (h : irLengths? ir parts expected? = .ok lengths) :
    Word.wrap (total lengths) = ir.length ∧ (∀ start ∈ offsets 0 lengths, Begins ir (Word.wrap start)) ∧
      (expected? = some lengths ∨ total lengths = ir.length) := by
  have hinside {start : Nat} (hstart : start ∈ starts ir) : Word.wrap start = start :=
    Word.wrap_of_lt (Nat.lt_trans (starts_lt hstart) hword)
  obtain ⟨hhead, -, ⟨htold, htotal, hstarts⟩ | ⟨-, rfl | rfl⟩⟩ := irLengths?_ok_cases h
  · refine ⟨htotal.trans (Word.wrap_of_lt hword), fun start hstart => ?_, .inl htold⟩
    have hstarts : checkStarts ((starts ir).map Word.wrap) (Word.wrap 0) lengths = .ok () := hstarts
    obtain ⟨i, hi, heq⟩ := List.mem_map.mp (checkStarts_eq_ok_iff.mp hstarts start hstart)
    have hsame : Word.wrap start = i := heq.symm.trans (hinside hi)
    exact hsame ▸ mem_starts.mp hi
  · refine ⟨Word.wrap_of_lt hword, fun start hstart => ?_, .inr (Nat.add_zero _)⟩
    obtain rfl := List.mem_singleton.mp hstart
    exact head?_starts.mp hhead
  · obtain ⟨rest, hrest⟩ : ∃ rest, starts ir = 0 :: rest := by
      cases hstarts : starts ir <;> simp [hstarts] at hhead
      exact ⟨_, by rw [hhead]⟩
    obtain ⟨hoffsets, htotal⟩ := offsets_lengthsOfStarts (hrest ▸ startsFrom_sorted 0 ir)
      (hrest ▸ fun _ => starts_lt : ∀ start ∈ 0 :: rest, start < ir.length)
    rw [hrest, hoffsets]
    rw [Nat.zero_add] at htotal
    refine ⟨htotal.symm ▸ Word.wrap_of_lt hword, fun start hstart => ?_, .inr htotal⟩
    have hstart : start ∈ starts ir := hrest ▸ hstart
    rw [hinside hstart]
    exact mem_starts.mp hstart

/-- A split of a path into registers of at least two bits, each starting with a one and a zero. -/
structure Possible (ir : List Bool) (lengths : List Nat) : Prop where
  total : total lengths = ir.length
  two_le : ∀ length ∈ lengths, 2 ≤ length
  begins : ∀ start ∈ offsets 0 lengths, Begins ir start

theorem two_le_or_shared {length : Nat} (htotal : offset + total (length :: lengths) = ir.length)
    (h : ∀ start ∈ offsets offset (length :: lengths), Begins ir start) :
    2 ≤ length ∨ length = 0 ∧ offset ∈ offsets (offset + length) lengths := by
  obtain ⟨hfirst, hlater⟩ := List.forall_mem_cons.mp h
  cases lengths with
  | nil =>
    have := hfirst.add_two_le
    rw [total, total] at htotal
    omega
  | cons next lengths =>
    have hnext : Begins ir (offset + length) := hlater _ List.mem_cons_self
    -- One bit alone is no register: the next one would start with the zero of this one.
    have hone : length ≠ 1 := fun hone => hfirst.not_succ (hone ▸ hnext)
    by_cases hzero : length = 0
    · exact .inr ⟨hzero, hzero ▸ List.mem_cons_self⟩
    · exact .inl (by omega)

section
variable (htotal : offset + total lengths = ir.length) (h : ∀ start ∈ offsets offset lengths, Begins ir start)
include htotal h

/-- Registers that all have a start are at least two bits long, or share it with the next one. -/
theorem eq_zero_or_two_le : ∀ length ∈ lengths, length = 0 ∨ 2 ≤ length := by
  induction lengths generalizing offset with
  | nil => exact fun _ h => absurd h List.not_mem_nil
  | cons length lengths ih =>
    refine List.forall_mem_cons.mpr ⟨?_, ih ((Nat.add_assoc ..).trans htotal) (List.forall_mem_cons.mp h).2⟩
    exact (two_le_or_shared htotal h).symm.imp_left And.left

theorem nodup_offsets_iff : (offsets offset lengths).Nodup ↔ 0 ∉ lengths := by
  refine ⟨fun hnodup => ?_, fun hpos => ?_⟩
  · induction lengths generalizing offset with
    | nil => exact List.not_mem_nil
    | cons length lengths ih =>
      obtain ⟨hnew, hnodup⟩ := List.nodup_cons.mp hnodup
      refine List.not_mem_cons_of_ne_of_not_mem (fun hzero => ?_)
        (ih ((Nat.add_assoc ..).trans htotal) (List.forall_mem_cons.mp h).2 hnodup)
      rcases two_le_or_shared htotal h with hlong | ⟨-, hshared⟩
      · rw [← hzero] at hlong
        cases hlong
      · exact hnew hshared
  · exact (offsets_sorted fun length hlength => Nat.pos_of_ne_zero fun hzero => hpos (hzero ▸ hlength)).nodup

end

/-! Registers of no bits can be left out. -/

theorem total_filter (lengths : List Nat) : total (lengths.filter (· ≠ 0)) = total lengths := by
  induction lengths with
  | nil => rfl
  | cons length lengths ih =>
    by_cases hzero : length = 0
    · rw [List.filter_cons_of_neg (by simp [hzero]), ih, total, hzero, Nat.zero_add]
    · rw [List.filter_cons_of_pos (by simp [hzero]), total, ih, total]

theorem offsets_filter_subset (lengths : List Nat) (offset : Nat) :
    offsets offset (lengths.filter (· ≠ 0)) ⊆ offsets offset lengths := by
  induction lengths generalizing offset with
  | nil => exact List.Subset.refl _
  | cons length lengths ih =>
    by_cases hzero : length = 0
    · rw [List.filter_cons_of_neg (by simp [hzero]), hzero]
      exact List.subset_cons_of_subset _ (ih offset)
    · rw [List.filter_cons_of_pos (by simp [hzero])]
      exact List.cons_subset_cons _ (ih _)

theorem mem_offsets_le {start : Nat} (h : start ∈ offsets offset lengths) : start ≤ offset + total lengths := by
  induction lengths generalizing offset with
  | nil => cases h
  | cons length lengths ih =>
    rw [total]
    rcases List.mem_cons.mp h with rfl | h
    · exact Nat.le_add_right ..
    · have := ih h
      omega

/-- A split that is accepted has a length for each part, and as far as a word tells the lengths fill the path and
    each of them has a start. It is a possible one just if none of the lengths is zero and their sum is true, which
    may be wrong only of lengths that were told. If the sum is true, it is a possible one but for the zeros, and just
    without a zero no two parts share a start. -/
theorem irLengths_possible {parts : Nat} {expected? : Option (List Nat)} (hword : ir.length < Word.size)
    (h : irLengths? ir parts expected? = .ok lengths) :
    lengths.length = parts ∧ Word.wrap (total lengths) = ir.length ∧
      (∀ start ∈ offsets 0 lengths, Begins ir (Word.wrap start)) ∧
      (Possible ir lengths ↔ 0 ∉ lengths ∧ total lengths = ir.length) ∧ (¬Possible ir lengths → expected? = some lengths) ∧
      (total lengths = ir.length → Possible ir (lengths.filter (· ≠ 0)) ∧ ((offsets 0 lengths).Nodup ↔ 0 ∉ lengths)) := by
  obtain ⟨hcount, horigin⟩ := irLengths?_ok_inv h
  obtain ⟨hwrapped, hbegins, htrue⟩ := irLengths?_ok_begins hword h
  have hfilter : total lengths = ir.length →
      Possible ir (lengths.filter (· ≠ 0)) ∧ ((offsets 0 lengths).Nodup ↔ 0 ∉ lengths) := by
    intro htotal
    have hfull : 0 + total lengths = ir.length := (Nat.zero_add _).trans htotal
    have hbegins : ∀ start ∈ offsets 0 lengths, Begins ir start := by
      intro start hstart
      have hle : start ≤ ir.length := hfull ▸ mem_offsets_le hstart
      exact Word.wrap_of_lt (Nat.lt_of_le_of_lt hle hword) ▸ hbegins start hstart
    refine ⟨⟨(total_filter lengths).trans htotal, fun length hlength => ?_, fun start hstart => ?_⟩,
      nodup_offsets_iff hfull hbegins⟩
    · obtain ⟨hmem, hne⟩ := List.mem_filter.mp hlength
      exact (eq_zero_or_two_le hfull hbegins length hmem).resolve_left (of_decide_eq_true hne)
    · exact hbegins start (offsets_filter_subset lengths 0 hstart)
  have hpossible : Possible ir lengths ↔ 0 ∉ lengths ∧ total lengths = ir.length := by
    refine ⟨fun hall => ⟨fun hzero => absurd (hall.two_le 0 hzero) (by decide), hall.total⟩, fun ⟨hnone, htotal⟩ => ?_⟩
    have hkept : lengths.filter (· ≠ 0) = lengths :=
      List.filter_eq_self.mpr fun length hlength => decide_eq_true fun hzero => hnone (hzero ▸ hlength)
    exact hkept ▸ (hfilter htotal).1
  refine ⟨hcount, hwrapped, hbegins, hpossible, fun hnot => ?_, hfilter⟩
  rcases horigin with htold | ⟨-, hbounds⟩
  · exact htold
  · refine htrue.resolve_right fun htotal => hnot (hpossible.mpr ⟨fun hzero => ?_, htotal⟩)
    exact Nat.lt_irrefl 0 (hbounds 0 hzero).1

/-- Two registers whose lengths were told. -/
theorem irLengths_possible_two :
    let ir := [true, false, true, false, true, false]
    ir.length < Word.size ∧ irLengths? ir 2 (some [4, 2]) = .ok [4, 2] ∧ Possible ir [4, 2] ∧ (offsets 0 [4, 2]).Nodup := by
  intro ir
  have hword : ir.length < Word.size := by decide
  have haccepted : irLengths? ir 2 (some [4, 2]) = .ok [4, 2] := by decide
  obtain ⟨-, -, -, hpossible, -, hzeros⟩ := irLengths_possible hword haccepted
  exact ⟨hword, haccepted, hpossible.mpr (by decide), (hzeros rfl).2.mpr (by decide)⟩

/-- A first register of no bits is accepted, where the second one starts. -/
theorem irLengths_shared_start :
    let ir := [true, false, false, false, true, false, false, false]
    irLengths? ir 2 (some [0, 8]) = .ok [0, 8] ∧ ¬Possible ir [0, 8] ∧ offsets 0 [0, 8] = [0, 0] :=
  ⟨by decide, fun h => absurd (h.two_le 0 List.mem_cons_self) (by decide), rfl⟩

/-- Three registers of which the second one is told to be longer than any row: a word loses what is too much of the
    sum, and the third one starts before the second. -/
example :
    let ir := [true, false, false, false, true, false, false, false, true, false, false, false]
    let lengths := [8, Word.size - 4, 8]
    irLengths? ir 3 (some lengths) = .ok lengths ∧ (offsets 0 lengths).map Word.wrap = [0, 8, 4] := by
  decide +kernel

end Scan
end Jtag
