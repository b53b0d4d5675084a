import Jtag.Proofs.Register.Count

/-! The entries of a data path are a prefix code. No entry is the beginning of another one, so a row of bits is
    split in at most one way, and where splitting stops no other way leads further. -/

namespace Jtag

namespace IdCode

variable {id : IdCode} {bits : List Bool}

theorem ofBits?_eq_some_iff : ofBits? bits = some id ↔ ∃ more, bits = id.bits ++ more := by
  constructor
  · intro h
    unfold ofBits? at h
    split at h
    · rename_i hlong
      cases h
      have hlength : (bits.take length).length = length := List.length_take_of_le hlong
      have hvalue : (BitVec.ofNat 32 (Bits.toNat (bits.take length))).toNat = Bits.toNat (bits.take length) := by
        have hlt := Bits.toNat_lt (bits.take length)
        rw [hlength] at hlt
        exact Nat.mod_eq_of_lt hlt
      have hread : Bits.ofNat length (Bits.toNat (bits.take length)) = bits.take length := by
        have hback := Bits.ofNat_toNat (bits.take length)
        rwa [hlength] at hback
      refine ⟨bits.drop length, ?_⟩
      rw [IdCode.bits, hvalue, hread, List.take_append_drop]
    · cases h
  · rintro ⟨more, rfl⟩
    exact id.ofBits?_append more

theorem ofBits?_eq_none_iff : ofBits? bits = none ↔ bits.length < length := by
  unfold ofBits?
  split <;> simp <;> omega

theorem bits_append_inj {id' : IdCode} {more more' : List Bool} (h : id.bits ++ more = id'.bits ++ more') :
    id = id' ∧ more = more' := by
  have hread := id.ofBits?_append more
  rw [h, id'.ofBits?_append] at hread
  cases hread
  exact ⟨rfl, List.append_cancel_left h⟩

end IdCode

namespace Scan

variable {entries others : List (Option IdCode)} {entry entry' : Option IdCode} {rest more : List Bool} {e : ScanError}

/-- All identification codes among the entries are valid. -/
def AllValid (entries : List (Option IdCode)) : Prop := ∀ id, some id ∈ entries → id.valid = true

theorem allValid_nil : AllValid [] := fun _ h => absurd h List.not_mem_nil

theorem allValid_cons : AllValid (entry :: entries) ↔ AllValid [entry] ∧ AllValid entries := by
  simp [AllValid, forall_and, or_imp]

/-- A rest of a data path that has no next entry: it starts with a one, but no valid code follows. -/
def Stuck (rest : List Bool) (e : ScanError) : Prop :=
  rest.head? = some true ∧ (rest.length < IdCode.length ∧ e = .truncatedIdCode ∨
    ∃ id more, rest = id.bits ++ more ∧ id.valid = false ∧ e = .invalidIdCode id)

/-! ### Entries as a prefix code -/

theorem head_dataEntry (h : AllValid [entry]) (more : List Bool) :
    (dataEntry entry ++ more).head? = some entry.isSome := by
  cases entry with
  | none => rfl
  | some id =>
    obtain ⟨rest, hbits, -⟩ := IdCode.bits_of_valid (h id List.mem_cons_self)
    rw [dataEntry, hbits]
    rfl

theorem dataEntry_append_inj (h : AllValid [entry]) (h' : AllValid [entry'])
    (heq : dataEntry entry ++ rest = dataEntry entry' ++ more) : entry = entry' ∧ rest = more := by
  have hhead := head_dataEntry h rest
  rw [heq, head_dataEntry h'] at hhead
  cases entry <;> cases entry' <;> try cases hhead
  case none.none => exact ⟨rfl, List.append_cancel_left heq⟩
  case some.some id id' =>
    obtain ⟨rfl, hrest⟩ := IdCode.bits_append_inj heq
    exact ⟨rfl, hrest⟩

theorem not_stuck_dataEntry (h : AllValid [entry]) : ¬Stuck (dataEntry entry ++ more) e := by
  rintro ⟨hone, hwhy⟩
  cases entry with
  | none => cases hone
  | some id =>
    rcases hwhy with ⟨hshort, -⟩ | ⟨id', more', hbits, hinvalid, -⟩
    · rw [dataEntry, List.length_append, id.length_bits] at hshort
      omega
    · obtain ⟨rfl, -⟩ := IdCode.bits_append_inj hbits
      rw [h id List.mem_cons_self] at hinvalid
      cases hinvalid

/-- No other entries reach behind a place where splitting is stuck. -/
theorem prefix_of_stuck (h : AllValid entries) (hothers : AllValid others) (hstuck : Stuck rest e)
    (heq : others.flatMap dataEntry ++ more = entries.flatMap dataEntry ++ rest) : others <+: entries := by
  induction others generalizing entries with
  | nil => exact List.nil_prefix
  | cons other others ih =>
    obtain ⟨hother, hothers⟩ := allValid_cons.mp hothers
    rw [List.flatMap_cons, List.append_assoc] at heq
    cases entries with
    | nil =>
      rw [List.flatMap_nil, List.nil_append] at heq
      exact absurd (heq ▸ hstuck) (not_stuck_dataEntry hother)
    | cons entry entries =>
      obtain ⟨hentry, hentries⟩ := allValid_cons.mp h
      rw [List.flatMap_cons, List.append_assoc] at heq
      obtain ⟨rfl, hbehind⟩ := dataEntry_append_inj hother hentry heq
      exact List.cons_prefix_cons.mpr ⟨rfl, ih hentries hothers hbehind⟩

/-! ### What splitting finds -/

theorem idCodes?_of_stuck (h : Stuck rest e) : idCodes? rest = .error e := by
  obtain ⟨hone, hwhy⟩ := h
  obtain ⟨bits, rfl⟩ : ∃ bits, rest = true :: bits := by
    cases rest <;> simp at hone
    exact ⟨_, by rw [hone]⟩
  rw [idCodes?]
  rcases hwhy with ⟨hshort, rfl⟩ | ⟨id, more, hbits, hinvalid, rfl⟩
  · rw [IdCode.ofBits?_eq_none_iff.mpr hshort]
  · rw [IdCode.ofBits?_eq_some_iff.mpr ⟨more, hbits⟩]
    simp [hinvalid]

theorem exists_entries (bits : List Bool) :
    ∃ entries rest, AllValid entries ∧ bits = entries.flatMap dataEntry ++ rest ∧ (rest = [] ∨ ∃ e, Stuck rest e) := by
  fun_induction idCodes? bits with
  | case1 => exact ⟨[], [], allValid_nil, rfl, .inl rfl⟩
  | case2 rest ih =>
    obtain ⟨entries, left, hvalid, hrest, hend⟩ := ih
    exact ⟨none :: entries, left, allValid_cons.mpr ⟨by simp [AllValid], hvalid⟩, congrArg (false :: ·) hrest, hend⟩
  | case3 rest hread => exact ⟨[], _, allValid_nil, rfl, .inr ⟨_, rfl, .inl ⟨IdCode.ofBits?_eq_none_iff.mp hread, rfl⟩⟩⟩
  | case4 rest id hread hvalid ih =>
    obtain ⟨entries, left, hentries, hrest, hend⟩ := ih
    obtain ⟨more, hbits⟩ := IdCode.ofBits?_eq_some_iff.mp hread
    obtain ⟨tail, hid, hlength⟩ := IdCode.bits_of_valid hvalid
    -- Behind the one that was looked at come the other bits of the code, and then what is split next.
    refine ⟨some id :: entries, left, allValid_cons.mpr ⟨by simpa [AllValid] using hvalid, hentries⟩, ?_, hend⟩
    rw [hid, List.cons_append, List.cons.injEq] at hbits
    rw [hbits.2, List.drop_left' hlength] at hrest
    rw [List.flatMap_cons, dataEntry, List.append_assoc, ← hrest, hid, hbits.2, List.cons_append]
  | case5 rest id hread hvalid =>
    obtain ⟨more, hbits⟩ := IdCode.ofBits?_eq_some_iff.mp hread
    exact ⟨[], _, allValid_nil, rfl, .inr ⟨_, rfl, .inr ⟨id, more, hbits, Bool.eq_false_of_not_eq_true hvalid, rfl⟩⟩⟩

theorem idCodes?_outcome (dr : List Bool) :
    (∃ entries, AllValid entries ∧ dr = entries.flatMap dataEntry ∧ idCodes? dr = .ok entries) ∨
      ∃ entries rest e, AllValid entries ∧ dr = entries.flatMap dataEntry ++ rest ∧ Stuck rest e ∧
        idCodes? dr = .error e := by
  obtain ⟨entries, rest, hvalid, rfl, rfl | ⟨e, hstuck⟩⟩ := exists_entries dr
  · rw [List.append_nil]
    exact .inl ⟨entries, hvalid, rfl, idCodes?_flatMap hvalid⟩
  · refine .inr ⟨entries, rest, e, hvalid, rfl, hstuck, ?_⟩
    rw [idCodes?_append hvalid, idCodes?_of_stuck hstuck]
    rfl

/-- Splitting a data path is the inverse of putting entries in a row. It succeeds for exactly the rows of valid
    entries, and with these entries. It fails for the other rows, behind the longest row of entries that there
    is in front, and tells what is wrong with the rest. -/
theorem idCodes_invert_entries (dr : List Bool) :
    (∀ entries, idCodes? dr = .ok entries ↔ AllValid entries ∧ dr = entries.flatMap dataEntry) ∧
    ∀ e, idCodes? dr = .error e ↔ ∃ entries rest, AllValid entries ∧ dr = entries.flatMap dataEntry ++ rest ∧
      (∀ others more, AllValid others → dr = others.flatMap dataEntry ++ more → others <+: entries) ∧ Stuck rest e := by
  constructor
  · intro entries
    constructor
    · intro h
      rcases idCodes?_outcome dr with ⟨found, hvalid, hdr, hfound⟩ | ⟨found, rest, e, -, -, -, hfailed⟩
      · cases h.symm.trans hfound
        exact ⟨hvalid, hdr⟩
      · cases h.symm.trans hfailed
    · rintro ⟨hvalid, rfl⟩
      exact idCodes?_flatMap hvalid
  · intro e
    constructor
    · intro h
      rcases idCodes?_outcome dr with ⟨found, -, -, hfound⟩ | ⟨found, rest, e', hvalid, hdr, hstuck, hfailed⟩
      · cases h.symm.trans hfound
      · cases h.symm.trans hfailed
        refine ⟨found, rest, hvalid, hdr, fun others more hothers heq => ?_, hstuck⟩
        exact prefix_of_stuck hvalid hothers hstuck (heq.symm.trans hdr)
    · rintro ⟨entries, rest, hvalid, rfl, -, hstuck⟩
      rw [idCodes?_append hvalid, idCodes?_of_stuck hstuck]
      rfl

end Scan
end Jtag
