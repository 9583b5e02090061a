import Registrar.Proofs.Text.Tables

/-! # Composing keeps identifiers

The compatibility composition of an identifier is an identifier. What every record of the tables
maps it to can stand where the characters of the record do, marks keep their places behind the first
character, and so do the characters that marks are composed with. Characters of ASCII stay as they
are, with nothing composed to them.
-/

namespace Registrar.Compatibility

/-! ## Reading the tables

The tables are long, so that what holds of all their records is evaluated by recursors, which take
the fewest steps.
-/

/-- Whether all items of a list pass a test. -/
noncomputable def passAll {α : Type} (test : α → Bool) (items : List α) : Bool :=
  List.rec true (fun item _ passed => cond (test item) passed false) items

/-- Whether all numbers below a bound pass a test. -/
noncomputable def passBelow (test : Nat → Bool) (bound : Nat) : Bool :=
  Nat.rec true (fun i passed => cond (test i) passed false) bound

/-- Whether a code point is in the class of a mask. -/
def hasBit (mask point : Nat) : Bool := Nat.beq (Nat.land 1 (Nat.shiftRight mask point)) 1

/-- The records of a line. -/
noncomputable def lineRecords (fuel : Nat) : Nat → List Nat → List (List Nat) → List (List Nat) :=
  Nat.rec (fun _ _ records => records)
    (fun _ read line record records =>
      cond (Nat.beq line 0) records
        (cond (Nat.blt (Nat.mod line 0x1000000) 0x100000)
          (read (Nat.div line 0x1000000) (Nat.mod line 0x1000000 :: record) records)
          (read (Nat.div line 0x1000000) []
            ((Nat.sub (Nat.mod line 0x1000000) 0x100000 :: record) :: records))))
    fuel

/-- Whether all records of a table pass a test. -/
noncomputable def passTable (test : List Nat → Bool) (table : List Nat) : Bool :=
  passAll (fun line => passAll test (lineRecords 16 line [] [])) table

theorem passAll_eq_true {α : Type} {test : α → Bool} {items : List α}
    (h : passAll test items = true) : ∀ item ∈ items, test item = true := by
  induction items with
  | nil => simp
  | cons item items ih =>
    change cond (test item) (passAll test items) false = true at h
    cases hitem : test item with
    | false => simp [hitem] at h
    | true =>
      rw [hitem] at h
      exact List.forall_mem_cons.mpr ⟨hitem, ih h⟩

theorem passBelow_eq_true {test : Nat → Bool} {bound : Nat} (h : passBelow test bound = true) :
    ∀ i < bound, test i = true := by
  induction bound with
  | zero => simp
  | succ bound ih =>
    change cond (test bound) (passBelow test bound) false = true at h
    intro i hi
    cases hbound : test bound with
    | false => simp [hbound] at h
    | true =>
      rw [hbound] at h
      by_cases hlast : i = bound
      · rwa [hlast]
      · exact ih h i (by omega)

theorem hasBit_eq (mask point : Nat) : hasBit mask point = mask.testBit point := by
  have hbit : (1 &&& mask >>> point) = 0 ∨ (1 &&& mask >>> point) = 1 := by
    rw [Nat.one_and_eq_mod_two]
    omega
  have hleft : hasBit mask point = Nat.beq (1 &&& mask >>> point) 1 := rfl
  rw [hleft, Nat.testBit]
  rcases hbit with hbit | hbit <;> rw [hbit] <;> rfl

theorem lineRecords_eq (fuel line : Nat) (record : List Nat) (records : List (List Nat)) :
    lineRecords fuel line record records = readLine fuel line record records := by
  induction fuel generalizing line record records with
  | zero => rfl
  | succ fuel ih =>
    have hstep : lineRecords (fuel + 1) line record records =
        cond (Nat.beq line 0) records
          (cond (Nat.blt (line % 0x1000000) 0x100000)
            (lineRecords fuel (line / 0x1000000) (line % 0x1000000 :: record) records)
            (lineRecords fuel (line / 0x1000000) []
              (((line % 0x1000000 - 0x100000) :: record) :: records))) := rfl
    have hzero : Nat.beq line 0 = decide (line = 0) := by
      rw [Bool.eq_iff_iff, Nat.beq_eq, decide_eq_true_eq]
    have hless : Nat.blt (line % 0x1000000) 0x100000 = decide (line % 0x1000000 < 0x100000) := by
      rw [Bool.eq_iff_iff, Nat.blt_eq, decide_eq_true_eq]
    rw [hstep, readLine, ih, ih, hzero, hless]
    by_cases hline : line = 0
    · simp [hline]
    · by_cases hnumber : line % 0x1000000 < 0x100000
      · simp [hline, hnumber]
      · simp [hline, hnumber]

theorem passTable_eq_true {test : List Nat → Bool} {table : List Nat}
    (h : passTable test table = true) : ∀ record ∈ readRecords table, test record = true := by
  unfold readRecords
  intro record hrecord
  obtain ⟨line, hline, hrecord⟩ := List.mem_flatMap.mp hrecord
  have hpass := passAll_eq_true (passAll_eq_true h line hline) record
  rw [lineRecords_eq] at hpass
  exact hpass hrecord

/-! ## The records of the tables -/

/-- Whether the decomposition of a code point can stand in its place in an identifier. -/
noncomputable def keepsPlace (point : Nat) (targets : List Nat) : Bool :=
  Nat.ble 128 point && passAll (hasBit continueMask) targets &&
    match targets with
    | [] => false
    | target :: _ => !hasBit startMask point || hasBit startMask target

/-- Whether all decompositions of a record keep their places. -/
noncomputable def keepsPlaces : List Nat → Bool
  | [start, count, target] => passBelow (fun i => keepsPlace (start + i) [target + i]) count
  | start :: _ :: targets => keepsPlace start targets
  | _ => true

/-- Whether the marks of a record open no identifier. -/
noncomputable def areMarks : List Nat → Bool
  | [start, count, _] =>
    passBelow (fun i => Nat.ble 128 (start + i) && !hasBit startMask (start + i)) count
  | _ => true

/-- Whether the composition of a record can stand in the place of its first character. -/
def keepsComposition : List Nat → Bool
  | [first, second, composed] => Nat.ble 128 second &&
      (!(hasBit continueMask first && hasBit continueMask second) ||
        hasBit continueMask composed && (!hasBit startMask first || hasBit startMask composed))
  | _ => true

/-- Whether a run of code points is in the class of a mask. -/
def hasRun (mask first count : Nat) : Bool :=
  (mask >>> first) &&& (2 ^ count - 1) == 2 ^ count - 1

/-- Whether syllables and their letters can stand in identifiers. -/
def hasHangul : Bool :=
  hasRun startMask 0x1100 19 && hasRun continueMask 0x1161 21 && hasRun continueMask 0x11A8 27 &&
    hasRun startMask hangulBase 11172

/-- All tables keep identifiers. -/
theorem keeps_tables :
    (passTable keepsPlaces decompositionTable && passTable areMarks combiningTable &&
      passTable keepsComposition compositionTable && hasHangul) = true := by
  decide +kernel

theorem keepsPlaces_table : ∀ record ∈ readRecords decompositionTable, keepsPlaces record = true := by
  have htables := keeps_tables
  simp only [Bool.and_eq_true] at htables
  exact passTable_eq_true htables.1.1.1

theorem areMarks_table : ∀ record ∈ readRecords combiningTable, areMarks record = true := by
  have htables := keeps_tables
  simp only [Bool.and_eq_true] at htables
  exact passTable_eq_true htables.1.1.2

theorem keepsComposition_table :
    ∀ record ∈ readRecords compositionTable, keepsComposition record = true := by
  have htables := keeps_tables
  simp only [Bool.and_eq_true] at htables
  exact passTable_eq_true htables.1.2

/-! ## Lookups in the tables -/

section

variable {α β γ : Type} [BEq α] [LawfulBEq α] [Hashable α] [LawfulHashable α]
  {table : Std.HashMap α β} {P : α → β → Prop}

/-- All entries of a table have a property. -/
def Holds (table : Std.HashMap α β) (P : α → β → Prop) : Prop :=
  ∀ key value, table[key]? = some value → P key value

theorem holds_empty : Holds (∅ : Std.HashMap α β) P := by
  intro key value h
  simp at h

theorem Holds.insert {key : α} {value : β} (h : Holds table P) (hentry : P key value) :
    Holds (table.insert key value) P := by
  intro other found hfound
  rw [Std.HashMap.getElem?_insert] at hfound
  by_cases hkey : key = other
  · subst hkey
    simp only [beq_self_eq_true, if_true, Option.some.injEq] at hfound
    rwa [← hfound]
  · rw [if_neg (by simpa using hkey)] at hfound
    exact h other found hfound

omit [LawfulBEq α] [LawfulHashable α] in
theorem holds_foldl {step : Std.HashMap α β → γ → Std.HashMap α β} {items : List γ}
    (hstep : ∀ table, ∀ item ∈ items, Holds table P → Holds (step table item) P)
    (h : Holds table P) : Holds (items.foldl step table) P := by
  induction items generalizing table with
  | nil => exact h
  | cons item items ih =>
    apply ih
    · intro table other hother
      exact hstep table other (List.mem_cons_of_mem item hother)
    · exact hstep table item List.mem_cons_self h

end

theorem decompositions_keep :
    Holds decompositions fun point targets => keepsPlace point targets = true := by
  unfold decompositions
  refine holds_foldl (fun table record hrecord h => ?_) holds_empty
  have hkeeps := keepsPlaces_table record hrecord
  match record with
  | [] | [_] => exact h
  | [_, _] => exact h.insert hkeeps
  | [start, count, target] =>
    refine holds_foldl (fun table i hi htable => ?_) h
    exact htable.insert (passBelow_eq_true hkeeps i (List.mem_range.mp hi))
  | start :: _ :: first :: second :: targets => exact h.insert hkeeps

theorem combiningClasses_open : Holds combiningClasses fun point _ =>
    (Nat.ble 128 point && !hasBit startMask point) = true := by
  unfold combiningClasses
  refine holds_foldl (fun table record hrecord h => ?_) holds_empty
  have hmarks := areMarks_table record hrecord
  match record with
  | [] | [_] | [_, _] | _ :: _ :: _ :: _ :: _ => exact h
  | [start, count, value] =>
    refine holds_foldl (fun table i hi htable => ?_) h
    exact htable.insert (passBelow_eq_true hmarks i (List.mem_range.mp hi))

theorem compositions_keep : Holds compositions fun pair composed =>
    keepsComposition [pair.1, pair.2, composed] = true := by
  unfold compositions
  refine holds_foldl (fun table record hrecord h => ?_) holds_empty
  have hkeeps := keepsComposition_table record hrecord
  match record with
  | [] | [_] | [_, _] | _ :: _ :: _ :: _ :: _ => exact h
  | [first, second, composed] => exact h.insert hkeeps

/-- A mark is above ASCII and opens no identifier. -/
theorem combiningClass_eq_zero {point : Nat} (h : point < 128 ∨ isStartPoint point = true) :
    combiningClass point = 0 := by
  unfold combiningClass
  rw [Std.HashMap.getD_eq_getD_getElem?]
  cases hfound : combiningClasses[point]? with
  | none => rfl
  | some value =>
    have hmark : (Nat.ble 128 point && !hasBit startMask point) = true :=
      combiningClasses_open point value hfound
    rw [hasBit_eq] at hmark
    unfold isStartPoint at h
    simp only [Bool.and_eq_true, Nat.ble_eq, Bool.not_eq_true'] at hmark
    obtain h | h := h
    · omega
    · rw [hmark.2] at h
      cases h

/-! ## Hangul -/

theorem testBit_of_hasRun {mask first count : Nat} (h : hasRun mask first count = true) :
    ∀ i < count, mask.testBit (first + i) = true := by
  intro i hi
  have hrun : (mask >>> first) &&& (2 ^ count - 1) = 2 ^ count - 1 := eq_of_beq h
  have hbit : ((mask >>> first) &&& (2 ^ count - 1)).testBit i = true := by
    rw [hrun, Nat.testBit_two_pow_sub_one]
    exact decide_eq_true hi
  rw [Nat.testBit_and, Nat.testBit_shiftRight] at hbit
  exact (Bool.and_eq_true_iff.mp hbit).1

theorem hangul_runs : hasRun startMask 0x1100 19 = true ∧ hasRun continueMask 0x1161 21 = true ∧
    hasRun continueMask 0x11A8 27 = true ∧ hasRun startMask hangulBase 11172 = true := by
  have hhangul : hasHangul = true := (Bool.and_eq_true_iff.mp keeps_tables).2
  simpa only [hasHangul, Bool.and_eq_true, and_assoc] using hhangul

theorem isStartPoint_lead : ∀ i < 19, isStartPoint (0x1100 + i) = true :=
  testBit_of_hasRun hangul_runs.1

theorem isContinuePoint_vowel : ∀ i < 21, isContinuePoint (0x1161 + i) = true :=
  testBit_of_hasRun hangul_runs.2.1

theorem isContinuePoint_trail : ∀ i < 27, isContinuePoint (0x11A8 + i) = true :=
  testBit_of_hasRun hangul_runs.2.2.1

theorem isStartPoint_syllable : ∀ i < 11172, isStartPoint (hangulBase + i) = true :=
  testBit_of_hasRun hangul_runs.2.2.2

/-! ## Decomposition -/

theorem decompose_of_lt {point : Nat} (h : point < 128) : decompose point = [point] := by
  have hbelow : ¬(hangulBase ≤ point ∧ point < hangulBase + 11172) := by
    unfold hangulBase
    omega
  unfold decompose
  rw [if_neg (by simpa using hbelow), Std.HashMap.getD_eq_getD_getElem?]
  cases hfound : decompositions[point]? with
  | none => rfl
  | some targets =>
    have hkeeps := decompositions_keep point targets hfound
    simp only [keepsPlace, Bool.and_eq_true, Nat.ble_eq] at hkeeps
    omega

/-- A syllable is decomposed to two or three letters. -/
theorem decompose_syllable (index : Nat) (h : index < 11172) :
    (∀ target ∈ decompose (hangulBase + index), isContinuePoint target = true) ∧
      ((decompose (hangulBase + index)).head?.any isStartPoint) = true := by
  have hlead := isStartPoint_lead (index / 588) (by omega)
  have hvowel := isContinuePoint_vowel (index % 588 / 28) (by omega)
  have htrail (hpositive : index % 28 ≠ 0) : isContinuePoint (0x11A7 + index % 28) = true := by
    have hbit := isContinuePoint_trail (index % 28 - 1) (by omega)
    rwa [show 0x11A8 + (index % 28 - 1) = 0x11A7 + index % 28 by omega] at hbit
  unfold decompose
  rw [if_pos (by simp; omega), Nat.add_sub_cancel_left]
  dsimp only
  constructor
  · intro target htarget
    simp only [List.mem_append, List.mem_cons, List.not_mem_nil, or_false] at htarget
    obtain (rfl | rfl) | htarget := htarget
    · exact isContinuePoint_of_isStartPoint hlead
    · exact hvowel
    · by_cases hzero : index % 28 = 0
      · simp [hzero] at htarget
      · simp only [beq_iff_eq, hzero, if_false, List.mem_singleton] at htarget
        rw [htarget]
        exact htrail hzero
  · simp [hlead]

/-- What a code point is decomposed to can stand in its place. -/
theorem decompose_keeps {point : Nat} (h : isContinuePoint point = true) :
    (∀ target ∈ decompose point, isContinuePoint target = true) ∧
      (isStartPoint point = true → (decompose point).head?.any isStartPoint = true) := by
  by_cases hsyllable : hangulBase ≤ point ∧ point < hangulBase + 11172
  · obtain ⟨hfrom, hto⟩ := hsyllable
    have hparts := decompose_syllable (point - hangulBase) (by omega)
    rw [Nat.add_sub_cancel' hfrom] at hparts
    exact ⟨hparts.1, fun _ => hparts.2⟩
  · unfold decompose
    rw [if_neg (by simpa using hsyllable), Std.HashMap.getD_eq_getD_getElem?]
    cases hfound : decompositions[point]? with
    | none => simp [h]
    | some targets =>
      have hkeeps := decompositions_keep point targets hfound
      simp only [keepsPlace, Bool.and_eq_true] at hkeeps
      obtain ⟨⟨-, hall⟩, hhead⟩ := hkeeps
      have hall := passAll_eq_true hall
      simp only [hasBit_eq] at hall hhead
      refine ⟨hall, fun hstart => ?_⟩
      cases targets with
      | nil => cases hhead
      | cons target targets =>
        unfold isStartPoint at hstart
        rw [hstart] at hhead
        exact hhead

/-! ## Reordering -/

theorem insertMark_perm (mark : Nat) (marks : List Nat) :
    (insertMark mark marks).Perm (mark :: marks) := by
  induction marks with
  | nil => exact .refl _
  | cons other marks ih =>
    rw [insertMark]
    split
    · exact (ih.cons other).trans (.swap mark other marks)
    · exact .refl _

/-- Reordering keeps all code points. -/
theorem reorder_perm (run points : List Nat) : (reorder run points).Perm (run ++ points) := by
  induction points generalizing run with
  | nil => simp [reorder]
  | cons point points ih =>
    rw [reorder]
    split
    · exact ((ih []).cons point).append_left run
    · have hinserted := (insertMark_perm point run).append_right points
      exact (ih _).trans (hinserted.trans List.perm_middle.symm)

theorem reorder_concat {point : Nat} (h : combiningClass point = 0) (run points : List Nat) :
    reorder run (points ++ [point]) = reorder run points ++ [point] := by
  induction points generalizing run with
  | nil => simp [reorder, h]
  | cons first points ih =>
    rw [List.cons_append, reorder, reorder]
    split
    · rw [ih, List.append_assoc, List.cons_append]
    · exact ih _

/-! ## Composition -/

theorem composePair_of_lt {first second : Nat} (h : second < 128) :
    composePair first second = none := by
  have hvowel : decide (0x1161 ≤ second) = false := decide_eq_false (by omega)
  have htrail : decide (0x11A7 < second) = false := decide_eq_false (by omega)
  unfold composePair
  rw [hvowel, htrail]
  simp only [Bool.and_false, Bool.false_and, Bool.false_eq_true, if_false]
  rw [Std.HashMap.get?_eq_getElem?]
  cases hfound : compositions[(first, second)]? with
  | none => rfl
  | some composed =>
    have hkeeps := compositions_keep _ composed hfound
    simp only [keepsComposition, Bool.and_eq_true, Nat.ble_eq] at hkeeps
    omega

/-- What two code points are composed to can stand in the place of the first one. -/
theorem composePair_keeps {first second composed : Nat} (h : composePair first second = some composed)
    (hfirst : isContinuePoint first = true) (hsecond : isContinuePoint second = true) :
    isContinuePoint composed = true ∧
      (isStartPoint first = true → isStartPoint composed = true) := by
  have hsyllable (i : Nat) (hi : i < 11172) : isContinuePoint (hangulBase + i) = true ∧
      (isStartPoint first = true → isStartPoint (hangulBase + i) = true) :=
    ⟨isContinuePoint_of_isStartPoint (isStartPoint_syllable i hi),
      fun _ => isStartPoint_syllable i hi⟩
  unfold composePair at h
  split at h
  · next hletters =>
    simp only [Bool.and_eq_true, decide_eq_true_eq] at hletters
    rw [← Option.some.inj h]
    exact hsyllable _ (by omega)
  · split at h
    · next hletters =>
      obtain ⟨⟨⟨⟨hfrom, hto⟩, hplain⟩, htrail⟩, hlast⟩ := by simpa using hletters
      have hcomposed : hangulBase + (first - hangulBase + (second - 0x11A7)) = composed := by
        rw [← Nat.add_assoc, Nat.add_sub_cancel' hfrom]
        exact Option.some.inj h
      rw [← hcomposed]
      exact hsyllable _ (by omega)
    · have hkeeps := compositions_keep _ composed h
      simp only [keepsComposition, hasBit_eq, Bool.and_eq_true] at hkeeps
      unfold isContinuePoint at hfirst hsecond ⊢
      unfold isStartPoint
      simpa [hfirst, hsecond, ← Bool.not_eq_true, imp_iff_not_or] using hkeeps.2

/-- What the last starter and a code point are composed to, if nothing blocks them. -/
def joined? (starter blocked : Option Nat) (point : Nat) : Option Nat :=
  starter.bind fun first =>
    if blocked.all (· < combiningClass point) then composePair first point else none

theorem joined?_eq_some {starter blocked : Option Nat} {point composed : Nat}
    (h : joined? starter blocked point = some composed) :
    ∃ first ∈ starter, composePair first point = some composed := by
  obtain ⟨first, hfirst, hpair⟩ := Option.bind_eq_some_iff.mp h
  split at hpair
  · exact ⟨first, hfirst, hpair⟩
  · cases hpair

/-- A code point is joined to the starter, opens a new run, or stays behind the starter. -/
theorem composeFrom_cons (starter : Option Nat) (marks : List Nat) (blocked : Option Nat)
    (point : Nat) (points : List Nat) :
    composeFrom starter marks blocked (point :: points) =
      (joined? starter blocked point).elim
        (if combiningClass point == 0 then
          starter.toList ++ marks.reverse ++ composeFrom (some point) [] none points
        else composeFrom starter (point :: marks) (some (combiningClass point)) points)
        fun composed => composeFrom (some composed) marks blocked points := by
  unfold joined?
  rw [composeFrom.eq_def]
  dsimp only
  cases blocked with
  | none =>
    rw [Option.all_none]
    dsimp only
    generalize (starter.bind _ : Option Nat) = joined
    cases joined with
    | none => rw [Option.elim_none]
    | some composed => rw [Option.elim_some]
  | some last =>
    rw [Option.all_some]
    dsimp only
    generalize (starter.bind _ : Option Nat) = joined
    cases joined with
    | none => rw [Option.elim_none]
    | some composed => rw [Option.elim_some]

/-- Composing gives code points of identifiers from such. -/
theorem composeFrom_continues {starter : Option Nat} {marks points : List Nat}
    (hstarter : ∀ point ∈ starter, isContinuePoint point = true)
    (hmarks : ∀ point ∈ marks, isContinuePoint point = true)
    (hpoints : ∀ point ∈ points, isContinuePoint point = true) (blocked : Option Nat) :
    ∀ point ∈ composeFrom starter marks blocked points, isContinuePoint point = true := by
  have hkept {starter : Option Nat} {marks : List Nat}
      (hstarter : ∀ point ∈ starter, isContinuePoint point = true)
      (hmarks : ∀ point ∈ marks, isContinuePoint point = true) :
      ∀ point ∈ starter.toList ++ marks.reverse, isContinuePoint point = true := by
    intro point hpoint
    rcases List.mem_append.mp hpoint with hpoint | hpoint
    · exact hstarter point (by simpa using hpoint)
    · exact hmarks point (List.mem_reverse.mp hpoint)
  induction points generalizing starter marks blocked with
  | nil => exact hkept hstarter hmarks
  | cons point points ih =>
    obtain ⟨hpoint, hpoints⟩ := List.forall_mem_cons.mp hpoints
    rw [composeFrom_cons]
    cases hjoined : joined? starter blocked point with
    | some composed =>
      obtain ⟨first, hfirst, hpair⟩ := joined?_eq_some hjoined
      have hkeeps := composePair_keeps hpair (hstarter first hfirst) hpoint
      have hstarter : ∀ point ∈ some composed, isContinuePoint point = true := by
        simpa using hkeeps.1
      exact ih hstarter hmarks hpoints blocked
    | none =>
      rw [Option.elim_none]
      split
      · intro other hother
        rcases List.mem_append.mp hother with hother | hother
        · exact hkept hstarter hmarks other hother
        · have hopened : ∀ opened ∈ some point, isContinuePoint opened = true := by
            simpa using hpoint
          exact ih hopened (by simp) hpoints none other hother
      · exact ih hstarter (List.forall_mem_cons.mpr ⟨hpoint, hmarks⟩) hpoints _

/-- Behind a character that may open an identifier, composing keeps one in front. -/
theorem composeFrom_starts {first : Nat} {marks points : List Nat} (hfirst : isStartPoint first = true)
    (hpoints : ∀ point ∈ points, isContinuePoint point = true) (blocked : Option Nat) :
    (composeFrom (some first) marks blocked points).head?.any isStartPoint = true := by
  induction points generalizing first marks blocked with
  | nil => simp [composeFrom, hfirst]
  | cons point points ih =>
    obtain ⟨hpoint, hpoints⟩ := List.forall_mem_cons.mp hpoints
    rw [composeFrom_cons]
    cases hjoined : joined? (some first) blocked point with
    | some composed =>
      obtain ⟨_, hsame, hpair⟩ := joined?_eq_some hjoined
      cases hsame
      have hkeeps := composePair_keeps hpair (isContinuePoint_of_isStartPoint hfirst) hpoint
      exact ih (hkeeps.2 hfirst) hpoints blocked
    | none =>
      rw [Option.elim_none]
      split
      · simp [hfirst]
      · exact ih hfirst hpoints _

theorem composeFrom_concat {point : Nat} (h : point < 128) (starter : Option Nat)
    (marks : List Nat) (blocked : Option Nat) (points : List Nat) :
    composeFrom starter marks blocked (points ++ [point]) =
      composeFrom starter marks blocked points ++ [point] := by
  have hclass : combiningClass point = 0 := combiningClass_eq_zero (.inl h)
  induction points generalizing starter marks blocked with
  | nil =>
    have hjoined : joined? starter blocked point = none := by
      cases starter <;> simp [joined?, composePair_of_lt h]
    rw [List.nil_append, composeFrom_cons, hjoined, Option.elim_none, hclass]
    simp [composeFrom]
  | cons first points ih =>
    rw [List.cons_append, composeFrom_cons, composeFrom_cons]
    cases joined? starter blocked first with
    | some composed => exact ih _ _ _
    | none =>
      rw [Option.elim_none, Option.elim_none]
      split
      · rw [ih, List.append_assoc, List.append_assoc, List.append_assoc]
      · exact ih _ _ _

/-! ## Identifiers -/

/-- Whether code points are those of an identifier. -/
def AreIdentifier (points : List Nat) : Prop :=
  points.head?.any isStartPoint = true ∧ ∀ point ∈ points, isContinuePoint point = true

/-- The composition of an identifier is an identifier. -/
theorem areIdentifier_composePoints {points : List Nat} (h : AreIdentifier points) :
    AreIdentifier (composePoints points) := by
  obtain ⟨hstart, hpoints⟩ := h
  obtain ⟨first, more, rfl⟩ : ∃ first more, points = first :: more := by
    cases points with
    | nil => cases hstart
    | cons first more => exact ⟨first, more, rfl⟩
  have hfirst := (decompose_keeps (hpoints first List.mem_cons_self)).2 hstart
  have hall : ∀ target ∈ (first :: more).flatMap decompose, isContinuePoint target = true := by
    intro target htarget
    obtain ⟨point, hpoint, htarget⟩ := List.mem_flatMap.mp htarget
    exact (decompose_keeps (hpoints point hpoint)).1 target htarget
  obtain ⟨head, rest, hdecomposed, hhead⟩ : ∃ head rest,
      (first :: more).flatMap decompose = head :: rest ∧ isStartPoint head = true := by
    cases hparts : decompose first with
    | nil =>
      rw [hparts] at hfirst
      cases hfirst
    | cons head rest =>
      rw [hparts] at hfirst
      exact ⟨head, rest ++ more.flatMap decompose, by rw [List.flatMap_cons, hparts]; rfl, hfirst⟩
  have hclass := combiningClass_eq_zero (.inr hhead)
  rw [hdecomposed] at hall
  have hordered : ∀ point ∈ reorder [] rest, isContinuePoint point = true := by
    intro point hpoint
    exact hall point (List.mem_cons_of_mem head ((reorder_perm [] rest).mem_iff.mp hpoint))
  have hcomposed : composePoints (first :: more) =
      composeFrom (some head) [] none (reorder [] rest) := by
    unfold composePoints
    rw [hdecomposed, reorder, hclass, beq_self_eq_true, if_pos rfl, List.nil_append,
      composeFrom_cons, joined?, Option.bind_none, Option.elim_none, hclass, beq_self_eq_true,
      if_pos rfl]
    rfl
  rw [hcomposed]
  refine ⟨composeFrom_starts hhead hordered none, ?_⟩
  have hstarter : ∀ point ∈ some head, isContinuePoint point = true := by
    simpa using isContinuePoint_of_isStartPoint hhead
  exact composeFrom_continues hstarter (by simp) hordered none

theorem composePoints_concat {point : Nat} (h : point < 128) (points : List Nat) :
    composePoints (points ++ [point]) = composePoints points ++ [point] := by
  unfold composePoints
  rw [List.flatMap_append, List.flatMap_singleton, decompose_of_lt h,
    reorder_concat (combiningClass_eq_zero (.inl h)), composeFrom_concat h]

/-! ## Composed texts -/

theorem areIdentifier_iff (letters : List Char) :
    AreIdentifier (letters.map Char.toNat) ↔ isIdentifierChars letters = true := by
  cases letters with
  | nil => simp [AreIdentifier, isIdentifierChars]
  | cons c letters =>
    have hcontinue := fun h : isStartPoint c.toNat = true => isContinuePoint_of_isStartPoint h
    simp only [AreIdentifier, isIdentifierChars, List.map_cons, List.head?_cons, Option.any_some,
      List.forall_mem_cons, List.forall_mem_map, Bool.and_eq_true, List.all_eq_true,
      isIdentifierStart_eq, isIdentifierContinue_eq]
    constructor
    · rintro ⟨hfirst, -, hmore⟩
      exact ⟨hfirst, hmore⟩
    · rintro ⟨hfirst, hmore⟩
      exact ⟨hfirst, hcontinue hfirst, hmore⟩

theorem toNat_ofNat {point : Nat} (h : point.isValidChar) : (Char.ofNat point).toNat = point := by
  unfold Char.ofNat
  rw [dif_pos h]
  rfl

theorem map_toNat_map_ofNat {points : List Nat} (h : ∀ point ∈ points, point.isValidChar) :
    (points.map Char.ofNat).map Char.toNat = points := by
  rw [List.map_map]
  calc points.map (Char.toNat ∘ Char.ofNat) = points.map id :=
        List.map_congr_left fun point hpoint => by
          rw [Function.comp_apply, toNat_ofNat (h point hpoint), id]
    _ = points := List.map_id points

/-- An identifier is composed to an identifier. -/
theorem isIdentifierChars_composeText {letters : List Char} (h : isIdentifierChars letters = true) :
    isIdentifierChars (composeText letters) = true := by
  unfold composeText
  split
  · exact h
  · have hcomposed := areIdentifier_composePoints ((areIdentifier_iff letters).mpr h)
    have hvalid : ∀ point ∈ composePoints (letters.map Char.toNat), point.isValidChar :=
      fun point hpoint => isValidChar_of_isContinuePoint (hcomposed.2 point hpoint)
    rw [← areIdentifier_iff, map_toNat_map_ofNat hvalid]
    exact hcomposed

theorem composeText_concat {c : Char} (h : isAscii c = true) (letters : List Char) :
    composeText (letters ++ [c]) = composeText letters ++ [c] := by
  have hpoint : c.toNat < 128 := by simpa [isAscii] using h
  unfold composeText
  rw [List.all_append, List.all_cons, List.all_nil, h, Bool.and_true, Bool.and_true]
  split
  · rfl
  · rw [List.map_append, List.map_singleton, composePoints_concat hpoint, List.map_append,
      List.map_singleton, Char.ofNat_toNat]

/-- What ASCII letters stand behind is composed apart from them. -/
theorem composeText_append {more : List Char} (h : ∀ c ∈ more, isAscii c = true)
    (letters : List Char) : composeText (letters ++ more) = composeText letters ++ more := by
  induction more generalizing letters with
  | nil => rw [List.append_nil, List.append_nil]
  | cons c more ih =>
    obtain ⟨hc, hmore⟩ := List.forall_mem_cons.mp h
    rw [List.append_cons, ih hmore, composeText_concat hc, List.append_assoc, List.singleton_append]

/-! ## Letters that are composed to ASCII -/

/-- Whether a record maps a code point, if at all, to given ones. -/
def agrees (point : Nat) (others : List Nat) : List Nat → Bool
  | [start, count, target] =>
    !(Nat.ble start point && Nat.blt point (start + count)) || [target + (point - start)] == others
  | start :: _ :: targets => !Nat.beq start point || targets == others
  | _ => true

theorem decompositions_agree {point : Nat} {others : List Nat}
    (hagree : passTable (agrees point others) decompositionTable = true) :
    Holds decompositions fun key targets => key = point → targets = others := by
  unfold decompositions
  refine holds_foldl (fun table record hrecord h => ?_) holds_empty
  have hrecord := passTable_eq_true hagree record hrecord
  match record with
  | [] | [_] => exact h
  | [start, _] =>
    refine h.insert ?_
    rintro rfl
    simpa [agrees, Nat.beq_refl] using hrecord
  | [start, count, target] =>
    refine holds_foldl (fun table i hi htable => htable.insert ?_) h
    rintro rfl
    have hbelow : Nat.ble start (start + i) = true ∧ Nat.blt (start + i) (start + count) = true := by
      rw [Nat.ble_eq, Nat.blt_eq]
      have hi := List.mem_range.mp hi
      omega
    simpa [agrees, hbelow] using hrecord
  | start :: _ :: first :: second :: targets =>
    refine h.insert ?_
    rintro rfl
    simpa [agrees, Nat.beq_refl] using hrecord

/-- A key that every step keeps stays in a table. -/
theorem mem_foldl {α β γ : Type} [BEq α] [Hashable α] {key : α} {table : Std.HashMap α β}
    {step : Std.HashMap α β → γ → Std.HashMap α β} {items : List γ}
    (hkeep : ∀ table item, key ∈ table → key ∈ step table item) (h : key ∈ table) :
    key ∈ items.foldl step table := by
  induction items generalizing table with
  | nil => exact h
  | cons item items ih => exact ih (hkeep table item h)

theorem mem_decompositions {point target : Nat}
    (h : [point, 1, target] ∈ readRecords decompositionTable) : point ∈ decompositions := by
  have hinsert {table : Std.HashMap Nat (List Nat)} (key : Nat) (targets : List Nat)
      (htable : point ∈ table) : point ∈ table.insert key targets :=
    Std.HashMap.mem_insert.mpr (.inr htable)
  obtain ⟨before, after, hrecords⟩ := List.append_of_mem h
  unfold decompositions
  rw [hrecords, List.foldl_append, List.foldl_cons]
  refine mem_foldl (fun table record htable => ?_) (Std.HashMap.mem_insert_self (k := point))
  match record with
  | [] | [_] => exact htable
  | [_, _] | _ :: _ :: _ :: _ :: _ => exact hinsert _ _ htable
  | [_, _, _] => exact mem_foldl (fun table i htable => hinsert _ _ htable) htable

/-- The feminine ordinal indicator is decomposed to the letter that it raises. -/
theorem decompose_ordinal : decompose 0xAA = [0x61] := by
  have hrecord : [0xAA, 1, 0x61] ∈ readRecords decompositionTable := by decide +kernel
  have hmem : 0xAA ∈ decompositions := mem_decompositions hrecord
  have hagree : passTable (agrees 0xAA [0x61]) decompositionTable = true := by decide +kernel
  obtain ⟨targets, hfound⟩ := Option.isSome_iff_exists.mp (Std.HashMap.isSome_getElem?_iff_mem.mpr hmem)
  obtain rfl := decompositions_agree hagree _ targets hfound rfl
  unfold decompose
  rw [if_neg (by decide), Std.HashMap.getD_eq_getD_getElem?, hfound]
  rfl

/-- The indicator is composed to the letter that it raises. -/
theorem composeText_ordinal {more : List Char} (h : ∀ c ∈ more, isAscii c = true) :
    composeText ('ª' :: more) = 'a' :: more := by
  have hletter : combiningClass 0x61 = 0 := combiningClass_eq_zero (.inl (by decide))
  have hone : composeText ['ª'] = ['a'] := by
    unfold composeText
    rw [if_neg (by decide)]
    unfold composePoints
    rw [List.map_singleton, List.flatMap_singleton, show 'ª'.toNat = 0xAA from rfl,
      decompose_ordinal, reorder, hletter, if_pos (by rfl), reorder, List.nil_append, composeFrom_cons, hletter]
    rfl
  rw [← List.singleton_append, composeText_append h, hone]
  rfl

end Registrar.Compatibility
