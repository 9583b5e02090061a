import Mathlib.Data.List.Chain
import Mathlib.Data.Nat.Bitwise
import Registrar.Text.Blank
import Registrar.Text.Compatibility
import Registrar.Text.Identifier

/-! # Tables of characters

A class of characters as one number with a bit for each code point, so that what holds of every
record of the tables of compositions can be computed.
-/

namespace Registrar

namespace CharClass

/-- The code points from every other flip up to the next, one bit for each. -/
def mask : List Nat → Nat
  | first :: last :: turns => ((1 <<< (last - first)) - 1) <<< first ||| mask turns
  | _ => 0

variable {turns : List Nat} {point : Nat}

theorem testBit_range (first last : Nat) :
    (((1 <<< (last - first)) - 1) <<< first).testBit point =
      (decide (first ≤ point) && decide (point < last)) := by
  rw [Nat.testBit_shiftLeft, Nat.one_shiftLeft, Nat.testBit_two_pow_sub_one, Bool.eq_iff_iff]
  simp only [Bool.and_eq_true, decide_eq_true_eq, ge_iff_le]
  omega

theorem testBit_mask_of_lt (h : ∀ turn ∈ turns, point < turn) : (mask turns).testBit point = false := by
  induction turns using mask.induct with
  | case1 first last turns ih =>
    simp only [List.forall_mem_cons] at h
    obtain ⟨hfirst, -, hturns⟩ := h
    rw [mask, Nat.testBit_or, testBit_range, ih hturns]
    simp
    omega
  | case2 turns hturns =>
    rw [mask.eq_2 _ hturns]
    exact Nat.zero_testBit _

/-- Membership of a class is a bit of its number. -/
theorem odd_eq_testBit (hincreasing : turns.IsChain (· ≤ ·)) (heven : turns.length % 2 = 0) :
    odd point turns = (mask turns).testBit point := by
  induction turns using mask.induct with
  | case1 first last turns ih =>
    have hpairwise := List.isChain_iff_pairwise.mp hincreasing
    simp only [List.pairwise_cons, List.forall_mem_cons] at hpairwise
    obtain ⟨⟨hfirst, -⟩, hlast, hturns⟩ := hpairwise
    have hmore := ih (List.isChain_iff_pairwise.mpr hturns)
      (by simp only [List.length_cons] at heven; omega)
    rw [mask, Nat.testBit_or, testBit_range]
    simp only [odd]
    by_cases hbelow : point < last
    · have hnone : (mask turns).testBit point = false :=
        testBit_mask_of_lt fun turn hturn => Nat.lt_of_lt_of_le hbelow (hlast turn hturn)
      by_cases hinside : first ≤ point
      · simp [hbelow, hinside, hnone]
      · simp [hinside, hnone]
    · have hinside : first ≤ point ∧ last ≤ point := by omega
      simp [hbelow, hinside, hmore]
  | case2 turns hturns =>
    rw [mask.eq_2 _ hturns, Nat.zero_testBit]
    match turns with
    | [] => rfl
    | [_] => simp at heven
    | first :: last :: turns => exact absurd rfl (hturns first last turns)

end CharClass

/-! ## Code points of identifiers -/

/-- The code points that may open an identifier. -/
def startMask : Nat :=
  CharClass.mask [65, 91, 95, 96, 97, 123] ||| CharClass.mask wideIdentifierStart.turns

/-- The code points that may stand inside an identifier. -/
def continueMask : Nat :=
  CharClass.mask [48, 58, 65, 91, 95, 96, 97, 123] ||| CharClass.mask wideIdentifierContinue.turns

/-- Whether a code point may open an identifier. -/
def isStartPoint (point : Nat) : Bool := startMask.testBit point

/-- Whether a code point may stand inside an identifier. -/
def isContinuePoint (point : Nat) : Bool := continueMask.testBit point

/-- A class of characters above ASCII joins with letters of ASCII that pass a test. -/
def Joins (test : Char → Bool) (letters : List Nat) (wide : CharClass) : Prop :=
  (∀ point < 128, test (Char.ofNat point) = (CharClass.mask letters).testBit point) ∧
    CharClass.mask letters < 2 ^ 128 ∧ (∀ turn ∈ wide.turns, 128 ≤ turn) ∧
    wide.turns.IsChain (· ≤ ·) ∧ wide.turns.length % 2 = 0

/-- A character of ASCII is tested, any other one is looked up. -/
theorem Joins.testBit {test : Char → Bool} {letters : List Nat} {wide : CharClass}
    (h : Joins test letters wide) (c : Char) :
    (CharClass.mask letters ||| CharClass.mask wide.turns).testBit c.toNat =
      if isAscii c then test c else wide.contains c := by
  obtain ⟨htest, hletters, hwide, hincreasing, heven⟩ := h
  rw [Nat.testBit_or]
  split
  · next hascii =>
    have hc : c.toNat < 128 := by simpa [isAscii] using hascii
    have hletter := htest c.toNat hc
    rw [Char.ofNat_toNat] at hletter
    rw [CharClass.testBit_mask_of_lt fun turn hturn => Nat.lt_of_lt_of_le hc (hwide turn hturn),
      Bool.or_false, hletter]
  · next hascii =>
    have hc : 128 ≤ c.toNat := by simpa [isAscii] using hascii
    rw [Nat.testBit_lt_two_pow (Nat.lt_of_lt_of_le hletters (Nat.pow_le_pow_right (by decide) hc)),
      Bool.false_or, CharClass.contains, CharClass.odd_eq_testBit hincreasing heven]

/-- The tables of both classes are in order. -/
theorem joins_wide :
    Joins (fun c => c.isAlpha || c == '_') [65, 91, 95, 96, 97, 123] wideIdentifierStart ∧
      Joins (fun c => c.isAlphanum || c == '_') [48, 58, 65, 91, 95, 96, 97, 123]
        wideIdentifierContinue := by
  unfold Joins
  decide +kernel

theorem isIdentifierStart_eq (c : Char) : isIdentifierStart c = isStartPoint c.toNat :=
  (joins_wide.1.testBit c).symm

theorem isIdentifierContinue_eq (c : Char) : isIdentifierContinue c = isContinuePoint c.toNat :=
  (joins_wide.2.testBit c).symm

/-- Characters that open identifiers may stand inside them, and no half of a pair does. -/
theorem masks_identifier : startMask &&& continueMask = startMask ∧
    continueMask >>> 0x110000 = 0 ∧ (continueMask >>> 0xD800) &&& (2 ^ 0x800 - 1) = 0 := by
  decide +kernel

/-- What may open an identifier may stand inside it. -/
theorem isContinuePoint_of_isStartPoint {point : Nat} (h : isStartPoint point = true) :
    isContinuePoint point = true := by
  unfold isStartPoint at h
  rw [← masks_identifier.1, Nat.testBit_and] at h
  exact (Bool.and_eq_true_iff.mp h).2

theorem isIdentifierContinue_of_isIdentifierStart {c : Char} (h : isIdentifierStart c = true) :
    isIdentifierContinue c = true := by
  rw [isIdentifierStart_eq] at h
  rw [isIdentifierContinue_eq]
  exact isContinuePoint_of_isStartPoint h

/-- Code points that may stand inside an identifier are characters. -/
theorem isValidChar_of_isContinuePoint {point : Nat} (h : isContinuePoint point = true) :
    point.isValidChar := by
  obtain ⟨-, hbound, hhalves⟩ := masks_identifier
  have hlt : point < 0x110000 := by
    by_contra hge
    have hbit : (continueMask >>> 0x110000).testBit (point - 0x110000) = true := by
      rwa [Nat.testBit_shiftRight, Nat.add_sub_cancel' (Nat.not_lt.mp hge)]
    rw [hbound, Nat.zero_testBit] at hbit
    cases hbit
  have hhalf : ¬(0xD800 ≤ point ∧ point < 0xE000) := by
    rintro ⟨hfrom, hto⟩
    have hbit : ((continueMask >>> 0xD800) &&& (2 ^ 0x800 - 1)).testBit (point - 0xD800) = true := by
      rw [Nat.testBit_and, Nat.testBit_shiftRight, Nat.testBit_two_pow_sub_one,
        Nat.add_sub_cancel' hfrom]
      simp only [Bool.and_eq_true, decide_eq_true_eq]
      exact ⟨h, by omega⟩
    rw [hhalves, Nat.zero_testBit] at hbit
    cases hbit
  unfold Nat.isValidChar
  omega

/-! ## Blanks -/

/-- The blanks of Unicode. -/
def blanksOfUnicode : List Nat :=
  [9, 10, 11, 12, 13, 28, 29, 30, 31, 32, 0x85, 0xA0, 0x1680, 0x2000, 0x2001, 0x2002, 0x2003, 0x2004,
    0x2005, 0x2006, 0x2007, 0x2008, 0x2009, 0x200A, 0x2028, 0x2029, 0x202F, 0x205F, 0x3000]

/-- No blank starts or continues an identifier. -/
theorem isBlank_of_identifierChar {c : Char}
    (h : isIdentifierStart c = true ∨ isIdentifierContinue c = true) : isBlank c = false := by
  have hnone : ∀ point ∈ blanksOfUnicode, isIdentifierStart (Char.ofNat point) = false ∧
      isIdentifierContinue (Char.ofNat point) = false := by
    decide +kernel
  rw [Bool.eq_false_iff]
  intro hblank
  have hmem : c.toNat ∈ blanksOfUnicode := by
    simp only [isBlank, Bool.or_eq_true, Bool.and_eq_true, decide_eq_true_eq, beq_iff_eq] at hblank
    simp only [blanksOfUnicode, List.mem_cons, List.not_mem_nil, or_false]
    omega
  have hchar := hnone _ hmem
  rw [Char.ofNat_toNat] at hchar
  rcases h with h | h
  · rw [hchar.1] at h
    cases h
  · rw [hchar.2] at h
    cases h

theorem isBlank_of_isIdentifierChars {letters : List Char} (h : isIdentifierChars letters = true) :
    ∀ c ∈ letters, isBlank c = false := by
  cases letters with
  | nil => exact List.forall_mem_nil _
  | cons first more =>
    obtain ⟨hstart, hmore⟩ := Bool.and_eq_true_iff.mp h
    exact List.forall_mem_cons.mpr ⟨isBlank_of_identifierChar (.inl hstart),
      fun c hc => isBlank_of_identifierChar (.inr (List.all_eq_true.mp hmore c hc))⟩

end Registrar
