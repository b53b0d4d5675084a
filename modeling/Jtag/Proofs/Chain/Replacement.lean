import Jtag.Proofs.Chain.Operation
import Jtag.Proofs.Part.Length
import Jtag.Proofs.Scan.Lengths
import Jtag.Sim.Cable

/-! What a detection puts in the place of the parts. A scan reaches the controllers and writes warnings, but no
    part is touched before it succeeded. From then on the old parts are gone, and the new ones are built one by
    one; this fails exactly at a part whose length, as it was told, is zero or more than a row can hold. -/

namespace Jtag
namespace Chain

open Jtag.Action

variable {σ α : Type} {before c : Chain σ}

/-- The chain has the parts it had before, the same active one, and the same length told. -/
structure SameParts (before c : Chain σ) : Prop where
  parts : c.parts = before.parts
  active : c.active = before.active
  scannedLength? : c.scannedLength? = before.scannedLength?

theorem SameParts.refl (c : Chain σ) : SameParts c c := ⟨rfl, rfl, rfl⟩

theorem SameParts.instructionLength (h : SameParts before c) : c.instructionLength = before.instructionLength := by
  rw [Chain.instructionLength, Chain.instructionLength, h.parts, h.scannedLength?]

/-! ### Scanning -/

theorem apart_sameParts : Apart (SameParts before) := fun _ _ _ _ hc => ⟨hc.parts, hc.active, hc.scannedLength?⟩

theorem makeFilled_ok_inv {length : Nat} {value : Bool} {r : Register} {c c' : Chain σ}
    (h : (makeFilled length value).runOn c = (.ok r, c')) : length ≤ Word.rowLimit ∧ r.length = length := by
  obtain ⟨hrow, hmade⟩ := runOn_throwing_eq_ok.mp h
  have hfilled : Register.filled? length value = .ok r := by
    cases hrun : Register.filled? length value with
    | error e =>
      rw [hrun] at hmade
      cases hmade
    | ok r' =>
      rw [hrun] at hmade
      cases hmade
      rfl
  refine ⟨Nat.le_of_not_lt hrow, ?_⟩
  rw [Register.length, Register.ofBits?_eq_ok.mp hfilled, List.length_replicate]

variable [Driver σ]

theorem sameParts_scan (expected? : Option (List Nat)) (c : Chain σ) :
    SameParts c ((Chain.scan expected?).runOn c).2 :=
  Always.holds (apart_sameParts.reaching.scan expected?) (SameParts.refl c)

/-- What is picked up goes into the register that is there, and leaves its length alone. -/
theorem length_collect (inputLength : Nat) (exit : Exit) (length : Nat) :
    Always (fun s : Cable σ × Register => s.2.length = length) (collect inputLength exit) := by
  have hsingles : ∀ count index, Always (fun s : Cable σ × Register => s.2.length = length) (collectSingles index count) := by
    intro count
    induction count with
    | zero => exact fun _ => keeps_pure _
    | succ count ih =>
      refine fun index => Keeps.bind (fun s hs _ => hs) fun value => Keeps.bind (keeps_change fun s hs => ?_) fun _ => ih _
      show ((s.2.set? index value).getD s.2).length = length
      unfold Register.set?
      split
      · simpa using hs
      · exact hs
  refine Keeps.bind (fun s hs _ => hs) fun bits => Keeps.bind (keeps_change fun s hs => ?_) fun _ => ?_
  · exact (Register.length_overlay _ _).trans hs
  · exact keeps_bind_inspect fun _ => hsingles _ _

theorem exchange_ok_length {input output r : Register} {exit : Exit} {c c' : Chain σ}
    (h : (exchange input output exit).runOn c = (.ok r, c')) : r.length = output.length := by
  obtain ⟨_, t, -, hout⟩ := bind_ok_inv h
  unfold shiftOutput at hout
  rw [runOn_mk] at hout
  cases hcable : t.cable? with
  | none =>
    rw [hcable] at hout
    cases hout
  | some cable =>
    have hkept := (length_collect input.length exit output.length).holds (s := (cable, output)) rfl
    rw [hcable] at hout
    rcases hrun : (collect input.length exit).runOn (cable, output) with ⟨e | _, cable', filled⟩
    · simp only [hrun] at hout
      cases hout
    · rw [hrun] at hkept
      simp only [hrun] at hout
      cases hout
      exact hkept

/-- A path that was captured is a row. -/
theorem capturedPath_ok_length {length : Nat} {column : Tap.Column} {path : List Bool} {c c' : Chain σ}
    (h : (capturedPath length column).runOn c = (.ok path, c')) : path.length ≤ Word.rowLimit := by
  obtain ⟨⟨first, second⟩, _, htwice, h⟩ := bind_ok_inv h
  obtain ⟨ones, _, -, htwice⟩ := bind_ok_inv htwice
  obtain ⟨both, _, -, htwice⟩ := bind_ok_inv htwice
  obtain ⟨blank, _, hblank, htwice⟩ := bind_ok_inv htwice
  obtain ⟨first', _, hfirst, htwice⟩ := bind_ok_inv htwice
  obtain ⟨second', _, -, htwice⟩ := bind_ok_inv htwice
  cases htwice
  obtain ⟨_, _, -, hexchange⟩ := bind_ok_inv hfirst
  obtain ⟨hrow, hlength⟩ := makeFilled_ok_inv hblank
  obtain ⟨-, hpath⟩ := runOn_throwing_eq_ok.mp h
  cases hpath
  calc _ ≤ first.bits.length := List.length_take_le' ..
    _ = length := (exchange_ok_length hexchange).trans hlength
    _ ≤ Word.rowLimit := hrow

theorem map_irLength_zipWith {idCodes : List (Option IdCode)} {lengths : List Nat}
    (h : lengths.length = idCodes.length) :
    (List.zipWith Found.mk idCodes lengths).map (·.irLength) = lengths := by
  refine List.ext_getElem (by simp [h]) fun i h₁ h₂ => ?_
  rw [List.getElem_map, List.getElem_zipWith]

/-- A register of this length can be made. -/
def Makeable (length : Nat) : Prop := 0 < length ∧ length ≤ Word.rowLimit

/-- The lengths a scan finds are those it was told, or else lengths that registers can have. -/
theorem scan_ok_inv {expected? : Option (List Nat)} {c c' : Chain σ} {found : List Found}
    (h : (Chain.scan expected?).runOn c = (.ok found, c')) :
    expected? = some (found.map (·.irLength)) ∨ ∀ length ∈ found.map (·.irLength), Makeable length := by
  -- What is sent before the first split decides nothing about lengths.
  obtain ⟨_, _, -, h⟩ := bind_ok_inv h
  obtain ⟨_, _, -, h⟩ := bind_ok_inv h
  obtain ⟨dr, _, -, h⟩ := bind_ok_inv h
  cases hids : Scan.idCodes? dr with
  | error e =>
    rw [hids] at h
    dsimp only at h
    cases hwarn : idCodeWarning? e with
    | none =>
      rw [hwarn] at h
      cases h
    | some w =>
      rw [hwarn] at h
      obtain ⟨_, _, -, h⟩ := bind_ok_inv h
      cases h
  | ok idCodes =>
    rw [hids] at h
    obtain ⟨_, _, hpure, h⟩ := bind_ok_inv h
    cases hpure
    obtain ⟨ir, _, hpath, h⟩ := bind_ok_inv h
    cases hlengths : Scan.irLengths? ir idCodes.length expected? with
    | error fault =>
      rw [hlengths] at h
      obtain ⟨_, _, -, hthrow⟩ := bind_ok_inv h
      cases hthrow
    | ok lengths =>
      rw [hlengths] at h
      cases h
      obtain ⟨hcount, hsplit⟩ := Scan.irLengths?_ok_inv hlengths
      rw [map_irLength_zipWith hcount]
      refine hsplit.imp_right fun hbounds length hlength => ?_
      obtain ⟨hpos, hle⟩ := hbounds.2 length hlength
      exact ⟨hpos, Nat.le_trans hle (capturedPath_ok_length hpath)⟩

/-! ### Building the parts -/

/-- The part that is built for what a scan found, or why none is. Nothing of this depends on the chain. -/
def partOf? (names : Manufacturers) (database : Database) (found : Found) : Except Error Part :=
  match found.idCode? with
  | none => genericPart? names found
  | some id =>
    match database.lookup? id with
    | none => genericPart? names found
    | some d =>
      match definedPart? id d with
      | .ok part =>
        if part.instructionLength = found.irLength then .ok (identify names id part) else genericPart? names found
      | .error (.part _) => genericPart? names found
      | .error e => .error e

variable {names : Manufacturers} {database : Database} {found : Found} {part : Part}

omit [Driver σ] in
/-- Only warnings are left behind by the building of a part. -/
theorem partOf_run (names : Manufacturers) (database : Database) (found : Found) (c : Chain σ) :
    ∃ warnings, (partOf names database found).runOn c = (partOf? names database found, { c with warnings }) := by
  unfold partOf partOf?
  cases found.idCode? with
  | none => exact ⟨c.warnings, rfl⟩
  | some id =>
    dsimp only
    cases database.lookup? id with
    | none => exact ⟨c.warnings, rfl⟩
    | some d =>
      simp only [applyDefinition]
      rcases definedPart? id d with e | part
      · cases e with
        | part cause => exact ⟨_, rfl⟩
        | _ => exact ⟨c.warnings, rfl⟩
      · dsimp only
        split
        · exact ⟨c.warnings, rfl⟩
        · exact ⟨_, rfl⟩

/-- The definition that the database has for a code applies without failure and has the length that was found. -/
structure Applies (database : Database) (found : Found) (id : IdCode) (part : Part) : Prop where
  idCode? : found.idCode? = some id
  definition : ∃ d, database.lookup? id = some d ∧ definedPart? id d = .ok part
  length : part.instructionLength = found.irLength

theorem Applies.pos {id : IdCode} (h : Applies database found id part) : 0 < found.irLength := by
  obtain ⟨-, ⟨d, -, hdefined⟩, hlength⟩ := h
  rw [← hlength]
  exact definedPart?_length_pos hdefined

/-- For want of a definition that applies a part is the generic one, unless a definition asks for what cannot be
    held. -/
theorem partOf?_cases (names : Manufacturers) (database : Database) (found : Found) :
    partOf? names database found = genericPart? names found ∨
      (∃ id part, Applies database found id part ∧ partOf? names database found = .ok (identify names id part)) ∨
      (¬database.Fits ∧ ∃ e, partOf? names database found = .error e) := by
  unfold partOf?
  cases hcode : found.idCode? with
  | none => exact .inl rfl
  | some id =>
    dsimp only
    cases hlookup : database.lookup? id with
    | none => exact .inl rfl
    | some d =>
      dsimp only
      rcases hdefined : definedPart? id d with e | part
      · by_cases hfits : database.Fits
        · obtain ⟨cause, rfl⟩ := definedPart?_error (hfits.lookup? hlookup) hdefined
          exact .inl rfl
        · cases e with
          | part cause => exact .inl rfl
          | _ => exact .inr (.inr ⟨hfits, _, rfl⟩)
      · by_cases hlength : part.instructionLength = found.irLength
        · exact .inr (.inl ⟨id, part, ⟨hcode, ⟨d, hlookup, hdefined⟩, hlength⟩, if_pos hlength⟩)
        · exact .inl (if_neg hlength)

/-- A generic part has the length that was found, if a register can have it. -/
theorem genericPart?_length (h : genericPart? names found = .ok part) :
    part.instructionLength = found.irLength ∧ Makeable found.irLength := by
  obtain ⟨_, hadded, ⟨e, -, hfails⟩ | ⟨rfl, _, hmade, hlength⟩⟩ := genericPart?_run names found
  · rw [hfails] at h
    cases h
  · rw [hmade] at h
    cases h
    cases hadded with
    | done hpos hrow => exact ⟨hlength, hpos, hrow⟩

/-- A part has the length that was found, which is not zero. -/
theorem partOf?_ok (h : partOf? names database found = .ok part) :
    part.instructionLength = found.irLength ∧ 0 < found.irLength := by
  rcases partOf?_cases names database found with hgeneric | ⟨id, defined, happlies, hdefined⟩ | ⟨-, e, hfails⟩
  · obtain ⟨hlength, hpos, -⟩ := genericPart?_length (hgeneric.symm.trans h)
    exact ⟨hlength, hpos⟩
  · obtain rfl := Except.ok.inj (hdefined.symm.trans h)
    exact ⟨happlies.length, happlies.pos⟩
  · cases hfails.symm.trans h

/-- Where the database fits, it is for its length that a part cannot be built. -/
theorem partOf?_error {e : Error} (hfits : database.Fits) (h : partOf? names database found = .error e) :
    BypassAdded found.irLength (.error e) := by
  rcases partOf?_cases names database found with hgeneric | ⟨id, defined, -, hdefined⟩ | ⟨hnot, -⟩
  · obtain ⟨_, hadded, ⟨e', rfl, hfails⟩ | ⟨-, _, hmade, -⟩⟩ := genericPart?_run names found
    · cases hfails.symm.trans (hgeneric.symm.trans h)
      exact hadded
    · cases hmade.symm.trans (hgeneric.symm.trans h)
  · cases hdefined.symm.trans h
  · exact absurd hfits hnot

/-- What parts were built of what was found: all of them, or those in front of the first one that cannot be. -/
inductive Built (names : Manufacturers) (database : Database) : List Found → List Part → Except Error Unit → Prop
  | nil : Built names database [] [] (.ok ())
  | cons {found : Found} {rest : List Found} {part : Part} {parts : List Part} {answer : Except Error Unit}
      (hpart : partOf? names database found = .ok part) (hrest : Built names database rest parts answer) :
      Built names database (found :: rest) (part :: parts) answer
  | failed {found : Found} {rest : List Found} {e : Error} (hfails : partOf? names database found = .error e) :
      Built names database (found :: rest) [] (.error e)

omit [Driver σ] in
theorem addFound_run (names : Manufacturers) (database : Database) (found : List Found) (c : Chain σ)
    (hlength : c.scannedLength? = none) :
    ∃ answer c' built, (addFound names database found).runOn c = (answer, c') ∧
      Built names database found built answer ∧ c'.parts = c.parts ++ built ∧ c'.active = c.active ∧
      c'.scannedLength? = none := by
  induction found generalizing c with
  | nil => exact ⟨_, c, [], rfl, .nil, (List.append_nil _).symm, rfl, hlength⟩
  | cons first rest ih =>
    obtain ⟨warnings, hrun⟩ := partOf_run names database first c
    cases hpart : partOf? names database first with
    | error e =>
      rw [hpart] at hrun
      exact ⟨_, _, [], runOn_bind_error (runOn_bind_error hrun _) _, .failed hpart, (List.append_nil _).symm, rfl, hlength⟩
    | ok part =>
      rw [hpart] at hrun
      obtain ⟨answer, c', built, hrest, hbuilt, hparts, hactive, hnone⟩ :=
        ih { c with warnings, scannedLength? := none, parts := c.parts ++ [part] } rfl
      have hfirst : (do let _ ← addPart (← partOf names database first) : ChainAction σ PUnit).runOn c =
          (.ok (), { c with warnings, scannedLength? := none, parts := c.parts ++ [part] }) := runOn_bind_ok hrun _
      refine ⟨answer, c', part :: built, (runOn_bind_ok hfirst _).trans hrest, .cons hpart hbuilt, ?_, hactive, hnone⟩
      rw [hparts, List.append_assoc, List.singleton_append]

/-- The parts have the lengths that were found, up to the first one that is not built. -/
theorem Built.lengths {found : List Found} {parts : List Part} {answer : Except Error Unit}
    (h : Built names database found parts answer) :
    (answer = .ok () ∧ parts.map (·.instructionLength) = found.map (·.irLength) ∧ 0 ∉ found.map (·.irLength)) ∨
      ∃ e failed rest, answer = .error e ∧
        found.map (·.irLength) = parts.map (·.instructionLength) ++ failed :: rest ∧
        (database.Fits → BypassAdded failed (.error e)) := by
  induction h with
  | nil => exact .inl ⟨rfl, rfl, List.not_mem_nil⟩
  | @cons first rest part parts answer hpart _ ih =>
    obtain ⟨hlength, hpos⟩ := partOf?_ok hpart
    rcases ih with ⟨rfl, hlengths, hzero⟩ | ⟨e, failed, more, rfl, hlengths, hfault⟩
    · refine .inl ⟨rfl, congrArg₂ List.cons hlength hlengths, ?_⟩
      exact List.not_mem_cons_of_ne_of_not_mem (Nat.ne_of_lt hpos) hzero
    · exact .inr ⟨e, failed, more, rfl, congrArg₂ List.cons hlength.symm hlengths, hfault⟩
  | @failed first rest e hfails =>
    exact .inr ⟨e, first.irLength, rest.map (·.irLength), rfl, rfl, fun hfits => partOf?_error hfits hfails⟩

/-! ### Detecting -/

/-- The chain whose parts are about to be replaced. -/
def cleared (c : Chain σ) : Chain σ := { c with parts := [], active := 0, scannedLength? := none }

/-- Behind a scan that succeeded the parts that were found are added to none, and counted. -/
theorem runOn_detectParts {expected? : Option (List Nat)} {found : List Found} {c c₁ c' : Chain σ}
    {built : Except Error Unit} (hscan : (scan expected?).runOn c = (.ok found, c₁))
    (hadd : (addFound names database found).runOn (cleared c₁) = (built, c')) :
    (detectParts names expected? database).runOn c = (built.map fun _ => c'.parts.length, c') := by
  rw [detectParts, runOn_bind_ok hscan]
  cases built with
  | error e => exact runOn_bind_error hadd _
  | ok _ => exact runOn_bind_ok hadd _

/-- A detection that fails while it scans keeps the parts. Behind a scan that succeeded they are replaced: by all
    that were found, or by those in front of the first one that cannot be built. -/
theorem detectParts_outcome (names : Manufacturers) (c : Chain σ) (expected? : Option (List Nat)) (database : Database) :
    ∃ answer c', (detectParts names expected? database).runOn c = (answer, c') ∧
      ((∃ e, (scan expected?).runOn c = (.error e, c') ∧ answer = .error e ∧ SameParts c c') ∨
       ∃ found c₁ built, (scan expected?).runOn c = (.ok found, c₁) ∧
          Built names database found c'.parts built ∧ answer = built.map (fun _ => found.length) ∧ c'.active = 0) := by
  rcases hscan : (scan expected?).runOn c with ⟨e | found, c₁⟩
  · have hsame := sameParts_scan expected? c
    rw [hscan] at hsame
    exact ⟨_, c₁, runOn_bind_error hscan _, .inl ⟨e, rfl, rfl, hsame⟩⟩
  · obtain ⟨answer, c', built, hrun, hbuilt, hparts, hactive, -⟩ :=
      addFound_run names database found (cleared c₁) rfl
    obtain rfl : c'.parts = built := hparts
    refine ⟨_, c', runOn_detectParts hscan hrun, .inr ⟨found, c₁, answer, rfl, hbuilt, ?_, hactive⟩⟩
    rcases hbuilt.lengths with ⟨-, hlengths, -⟩ | ⟨e, _, _, rfl, -⟩
    · have hcount := congrArg List.length hlengths
      rw [List.length_map, List.length_map] at hcount
      rw [hcount]
    · rfl

/-- A detection that fails leaves the parts, the active one and the length of the instruction path as they were if
    the scan fails, and with a database that fits it fails nowhere else unless a length was told that no register
    has. But behind a scan that lets such a length pass, the old parts are gone when it fails, and only those in
    front of the length are there. -/
theorem detectParts_keeps_parts (names : Manufacturers) (c : Chain σ) (expected? : Option (List Nat))
    (database : Database) :
    ∃ answer c', (detectParts names expected? database).runOn c = (answer, c') ∧
      ((database.Fits ∧ ∀ lengths, expected? = some lengths → ∀ length ∈ lengths, Makeable length) →
        ∀ e, answer = .error e → SameParts c c' ∧ c'.instructionLength = c.instructionLength) ∧
      (∀ e c₁, (scan expected?).runOn c = (.error e, c₁) →
        answer = .error e ∧ SameParts c c' ∧ c'.instructionLength = c.instructionLength) ∧
      ∀ found c₁, (scan expected?).runOn c = (.ok found, c₁) → c'.active = 0 ∧
        ((answer = .ok found.length ∧ c'.parts.map (·.instructionLength) = found.map (·.irLength) ∧
            0 ∉ found.map (·.irLength)) ∨
          ∃ e length rest, answer = .error e ∧
            found.map (·.irLength) = c'.parts.map (·.instructionLength) ++ length :: rest ∧
            (database.Fits → (length = 0 ∧ e = .part (.register .invalidLength)) ∨
              (Word.rowLimit < length ∧ e = .overlong length))) := by
  obtain ⟨answer, c', hrun, ⟨e, hscan, rfl, hsame⟩ | ⟨found, c₁, built, hscan, hbuilt, rfl, hactive⟩⟩ :=
    detectParts_outcome names c expected? database
  · have hkept := And.intro hsame hsame.instructionLength
    refine ⟨_, c', hrun, fun _ _ _ => hkept, fun e' c₁ hscan' => ?_, fun found c₁ hscan' => ?_⟩
    · cases hscan.symm.trans hscan'
      exact ⟨rfl, hkept⟩
    · cases hscan.symm.trans hscan'
  · have hlengths := hbuilt.lengths
    refine ⟨_, c', hrun, fun ⟨hfits, htold⟩ e hfails => ?_, fun e c₂ hscan' => ?_, fun found' c₂ hscan' => ?_⟩
    · rcases hlengths with ⟨rfl, -⟩ | ⟨e', length, rest, rfl, hsplit, hfault⟩
      · cases hfails
      · have hmem : length ∈ found.map (·.irLength) := by simp [hsplit]
        have hmakeable : Makeable length :=
          (scan_ok_inv hscan).elim (fun hsome => htold _ hsome length hmem) (· length hmem)
        cases hfault hfits with
        | zero hzero => exact absurd hzero (Nat.ne_of_gt hmakeable.1)
        | overlong hlong => exact absurd hlong (Nat.not_lt_of_le hmakeable.2)
    · cases hscan.symm.trans hscan'
    · cases hscan.symm.trans hscan'
      refine ⟨hactive, ?_⟩
      rcases hlengths with ⟨rfl, hall, hzero⟩ | ⟨e, length, rest, rfl, hsplit, hfault⟩
      · exact .inl ⟨rfl, hall, hzero⟩
      · refine .inr ⟨e, length, rest, rfl, hsplit, fun hfits => ?_⟩
        cases hfault hfits with
        | zero hzero => exact .inl ⟨hzero, rfl⟩
        | overlong hlong => exact .inr ⟨hlong, rfl⟩

/-- Two devices whose instruction registers are told to be zero and eight bits long: the sum is right and both start
    where a register can, so the scan succeeds, and the two parts that were there are gone when it fails. -/
theorem detectParts_loses_parts :
    let detect : DetectConfig := { DetectConfig.default with maxParts := 1, maxRegisterLength := 9 }
    let prepare : ChainAction Sim.Pod Unit := do
      connect (Sim.Pod.new [Sim.Device.new 4, Sim.Device.new 4] .oneByOne) .ample
      let _ ← addPart { Part.new none with instructionLength := 4 }
      let _ ← addPart (Part.new none)
      setActive 1
    let prepared := prepare.runOn (Chain.new { Config.default with detect })
    let detected := (detectParts (fun _ _ => none) (some [0, 8]) Database.empty).runOn prepared.2
    (prepared.1 = .ok () ∧ prepared.2.parts.length = 2 ∧ prepared.2.active = 1 ∧ prepared.2.instructionLength = 4) ∧
      detected.1 = .error (.part (.register .invalidLength)) ∧ detected.2.parts = [] ∧ detected.2.active = 0 ∧
      detected.2.instructionLength = 0 := by
  decide +kernel

/-- Three devices, one of which is told to have more bits than a row holds; a word loses what is too much of the
    sum. -/
example :
    let detect : DetectConfig := { DetectConfig.default with maxParts := 1, maxRegisterLength := 13 }
    let prepare : ChainAction Sim.Pod Unit := do
      connect (Sim.Pod.new [Sim.Device.new 4, Sim.Device.new 4, Sim.Device.new 4] .oneByOne) .ample
      let _ ← addPart (Part.new none)
    let prepared := prepare.runOn (Chain.new { Config.default with detect })
    let detected := (detectParts (fun _ _ => none) (some [8, Word.size - 4, 8]) Database.empty).runOn prepared.2
    detected.1 = .error (.overlong (Word.size - 4)) ∧ detected.2.parts.map (·.instructionLength) = [8] := by
  decide +kernel

end Chain
end Jtag
