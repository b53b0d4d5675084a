import Jtag.Register.Text

/-! Registers of a length, and registers that a text spells. A text spells a register exactly if it is the text of that
    register, so it is made of digits, and it has one character, and one byte, for each bit. Where a text is refused,
    its last character that is no digit is told. -/

namespace Jtag

namespace Bits

theorem ofDigit?_eq_some {c : Char} {b : Bool} : ofDigit? c = some b ↔ c = digit b := by
  constructor
  · intro h
    unfold ofDigit? at h
    split at h <;> cases h <;> rfl
  · rintro rfl
    cases b <;> rfl

theorem ofDigits?_eq_ok {cs : List Char} {bits : List Bool} : ofDigits? cs = .ok bits ↔ cs = bits.map digit := by
  induction cs generalizing bits with
  | nil => cases bits <;> simp [ofDigits?]
  | cons c cs ih =>
    cases bits with
    | nil => exact iff_of_false (fun h => absurd (length_of_ofDigits? h) (by simp)) (List.cons_ne_nil c cs)
    | cons b bits =>
      rw [List.map_cons, List.cons.injEq, ← ofDigit?_eq_some, ← ih, ofDigits?]
      cases ofDigit? c <;> cases ofDigits? cs <;> simp [Except.map]

/-- The character stands for a bit. -/
def IsDigit (c : Char) : Prop := c = '0' ∨ c = '1'

theorem isDigit_digit (b : Bool) : IsDigit (digit b) := by
  cases b
  · exact .inl rfl
  · exact .inr rfl

theorem ofDigit?_eq_none {c : Char} : ofDigit? c = none ↔ ¬IsDigit c := by
  constructor
  · rintro h (rfl | rfl) <;> cases h
  · intro h
    cases hc : ofDigit? c with
    | none => rfl
    | some b => exact absurd (ofDigit?_eq_some.mp hc ▸ isDigit_digit b) h

/-- The first character that is no digit is told. -/
theorem ofDigits?_eq_error {cs : List Char} {e : RegisterError} : ofDigits? cs = .error e ↔
    ∃ front c back, cs = front ++ c :: back ∧ (∀ d ∈ front, IsDigit d) ∧ ¬IsDigit c ∧ e = .invalidCharacter c := by
  induction cs with
  | nil => simp [ofDigits?]
  | cons c cs ih =>
    rw [ofDigits?]
    cases hc : ofDigit? c with
    | none =>
      have hbad : ¬IsDigit c := ofDigit?_eq_none.mp hc
      constructor
      · intro h
        cases h
        exact ⟨[], c, cs, rfl, fun _ hd => absurd hd List.not_mem_nil, hbad, rfl⟩
      · rintro ⟨front, c', back, hcs, hfront, -, rfl⟩
        cases front with
        | nil =>
          cases hcs
          rfl
        | cons d front =>
          cases hcs
          exact absurd (hfront c List.mem_cons_self) hbad
    | some b =>
      have hgood : IsDigit c := ofDigit?_eq_some.mp hc ▸ isDigit_digit b
      have hrest : (ofDigits? cs).map (b :: ·) = .error e ↔ ofDigits? cs = .error e := by
        cases ofDigits? cs <;> simp [Except.map]
      refine hrest.trans (ih.trans ?_)
      constructor
      · rintro ⟨front, c', back, rfl, hfront, hbad, rfl⟩
        exact ⟨c :: front, c', back, rfl, List.forall_mem_cons.mpr ⟨hgood, hfront⟩, hbad, rfl⟩
      · rintro ⟨front, c', back, hcs, hfront, hbad, rfl⟩
        cases front with
        | nil =>
          cases hcs
          exact absurd hgood hbad
        | cons d front =>
          cases hcs
          exact ⟨front, c', back, rfl, fun d hd => hfront d (List.mem_cons_of_mem c hd), hbad, rfl⟩

@[simp] theorem toList_text (bits : List Bool) : (text bits).toList = bits.reverse.map digit := String.toList_ofList

@[simp] theorem utf8ByteSize_text (bits : List Bool) : (text bits).utf8ByteSize = bits.length := by
  have hsize : ∀ l : List Bool, (String.ofList (l.map digit)).utf8ByteSize = l.length := by
    intro l
    induction l with
    | nil => rfl
    | cons b l ih =>
      rw [List.map_cons, String.ofList_cons, String.utf8ByteSize_append, ih, String.utf8ByteSize_singleton,
        List.length_cons, Nat.add_comm]
      cases b <;> rfl
  rw [text, hsize, List.length_reverse]

end Bits

namespace Register

variable {length : Nat} {r : Register} {s : String}

theorem ofBits?_eq_ok {bits : List Bool} : ofBits? bits = .ok r ↔ r.bits = bits := by
  obtain ⟨bits', hne⟩ := r
  unfold ofBits?
  split
  · rename_i hnil
    exact ⟨nofun, fun h => absurd (h.trans hnil) hne⟩
  · rw [Except.ok.injEq, mk.injEq, eq_comm]

theorem zeros?_eq_ok : zeros? length = .ok r ↔ r.bits = List.replicate length false := ofBits?_eq_ok

theorem length_toList_text (r : Register) : r.text.toList.length = r.length := by simp [text, Register.length]

@[simp] theorem utf8ByteSize_text (r : Register) : r.text.utf8ByteSize = r.length := Bits.utf8ByteSize_text r.bits

theorem load?_eq_ok {blank : Register} (h : blank.length = s.toList.length) : blank.load? s = .ok r ↔ s = r.text := by
  have htext : s = r.text ↔ s.toList.reverse = r.bits.map Bits.digit := by
    rw [← String.toList_inj, text, Bits.toList_text, List.map_reverse, List.reverse_eq_iff]
  rw [load?, if_pos h.symm, htext, ← Bits.ofDigits?_eq_ok]
  cases hbits : Bits.ofDigits? s.toList.reverse with
  | error e => simp [bind, Except.bind]
  | ok bits =>
    have hfits : bits.length = blank.bits.length := by
      rw [Bits.length_of_ofDigits? hbits, List.length_reverse]
      exact h.symm
    obtain ⟨bits', hne⟩ := r
    simp [bind, Except.bind, copyFrom?, hfits, withBits]

theorem ofText?_eq_ok : ofText? s = .ok r ↔ s = r.text := by
  unfold ofText?
  cases hblank : zeros? s.toList.length with
  | ok blank =>
    refine load?_eq_ok ?_
    rw [Register.length, zeros?_eq_ok.mp hblank, List.length_replicate]
  | error e =>
    refine ⟨nofun, ?_⟩
    rintro rfl
    rw [length_toList_text] at hblank
    have hmade := zeros?_eq_ok (r := r.fill false).mpr rfl
    rw [show zeros? r.length = .ok (r.fill false) from hmade] at hblank
    cases hblank

/-- Why a text is refused where a number of bits is expected: it has another number of characters, or else its last
    character that is no digit. -/
def Refused (length : Nat) (s : String) (e : RegisterError) : Prop :=
  if s.toList.length = length then
    ∃ front c back, s.toList = front ++ c :: back ∧ ¬Bits.IsDigit c ∧ (∀ d ∈ back, Bits.IsDigit d) ∧
      e = .invalidCharacter c
  else e = .lengthMismatch length s.toList.length

theorem load?_eq_error {e : RegisterError} : r.load? s = .error e ↔ Refused r.length s e := by
  unfold load? Refused
  split
  · rename_i hlength
    have hbits : (Bits.ofDigits? s.toList.reverse >>= r.copyFrom?) = .error e ↔
        Bits.ofDigits? s.toList.reverse = .error e := by
      cases hbits : Bits.ofDigits? s.toList.reverse with
      | error e' => simp [bind, Except.bind]
      | ok bits =>
        have hfits : bits.length = r.bits.length := by
          rw [Bits.length_of_ofDigits? hbits, List.length_reverse]
          exact hlength
        simp [bind, Except.bind, copyFrom?, hfits]
    rw [hbits, Bits.ofDigits?_eq_error]
    -- What is read from the end starts with what stands last.
    constructor
    · rintro ⟨front, c, back, hs, hfront, hbad, rfl⟩
      refine ⟨back.reverse, c, front.reverse, ?_, hbad, fun d hd => hfront d (List.mem_reverse.mp hd), rfl⟩
      rw [← List.reverse_reverse s.toList, hs]
      simp
    · rintro ⟨front, c, back, hs, hbad, hback, rfl⟩
      refine ⟨back.reverse, c, front.reverse, ?_, fun d hd => hback d (List.mem_reverse.mp hd), hbad, rfl⟩
      rw [hs]
      simp
  · rw [Except.error.injEq, eq_comm]

/-- A text is loaded exactly if it spells a register as long as the one it is loaded into. -/
theorem load?_eq_ok_iff {r' : Register} : r.load? s = .ok r' ↔ r'.length = r.length ∧ s = r'.text := by
  by_cases hlength : r.length = s.toList.length
  · rw [load?_eq_ok hlength]
    refine (and_iff_right_of_imp fun h => ?_).symm
    rw [hlength, h, length_toList_text]
  · refine iff_of_false (fun h => ?_) fun h => hlength ?_
    · rw [load?, if_neg (Ne.symm hlength)] at h
      cases h
    · rw [← h.1, h.2, length_toList_text]

/-- The texts of a number of characters that spell a register. -/
theorem exists_text_iff :
    (∃ r : Register, s = r.text ∧ r.length = length) ↔
      1 ≤ length ∧ s.toList.length = length ∧ ∀ c ∈ s.toList, c = '0' ∨ c = '1' := by
  constructor
  · rintro ⟨r, rfl, rfl⟩
    refine ⟨r.length_pos, r.length_toList_text, fun c hc => ?_⟩
    rw [text, Bits.toList_text] at hc
    obtain ⟨b, -, rfl⟩ := List.mem_map.mp hc
    exact Bits.isDigit_digit b
  · rintro ⟨hpos, hlength, hdigits⟩
    have hcount : (s.toList.reverse.map (· == '1')).length = length := by simp [hlength]
    refine ⟨⟨s.toList.reverse.map (· == '1'), List.ne_nil_of_length_pos (hcount ▸ hpos)⟩, ?_, hcount⟩
    have hback : s.toList.map (fun c => Bits.digit (c == '1')) = s.toList := by
      refine (List.map_congr_left fun c hc => ?_).trans (List.map_id _)
      rcases hdigits c hc with rfl | rfl <;> rfl
    rw [← String.toList_inj, text, Bits.toList_text, ← List.map_reverse, List.reverse_reverse, List.map_map]
    exact hback.symm

/-- The texts that spell a register. -/
theorem exists_eq_text_iff : (∃ r : Register, s = r.text) ↔ s ≠ "" ∧ ∀ c ∈ s.toList, Bits.IsDigit c := by
  have hlength : (∃ r : Register, s = r.text) ↔ ∃ r : Register, s = r.text ∧ r.length = s.toList.length := by
    refine exists_congr fun r => (and_iff_left_of_imp ?_).symm
    rintro rfl
    exact r.length_toList_text.symm
  have hpos : 1 ≤ s.toList.length ↔ s ≠ "" := by
    rw [Nat.one_le_iff_ne_zero, Ne, List.length_eq_zero_iff, String.toList_eq_nil_iff]
  rw [hlength, exists_text_iff, hpos]
  exact and_congr_right fun _ => and_iff_right rfl

end Register
end Jtag
