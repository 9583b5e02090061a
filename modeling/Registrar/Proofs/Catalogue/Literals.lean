import Registrar.Catalogue.Render
import Registrar.Source.Escape
import Registrar.Source.Lexer

/-! # What literals denote

A generated literal escapes as JSON does, and is read by the rules of the source. Both agree
on every character of the basic plane. Any other character is written as a pair of halves,
which the source takes for two code points, so that such a literal denotes something else.
-/

namespace Registrar

/-- The forms of an escape: a letter after a backslash, the character itself, or its digits. -/
theorem Json.escapeChar_cases (c : Char) :
    (∃ letter, escapeChar c = ['\\', letter] ∧
      Source.Escape.simple? letter = some c.toNat ∧ isLineBoundary letter = false) ∨
    (escapeChar c = [c] ∧ c ≠ '"' ∧ c ≠ '\\' ∧ 32 ≤ c.toNat ∧ c.toNat < 127) ∨
    escapeChar c = unicodeEscape c.toNat := by
  unfold escapeChar
  split
  · exact .inl ⟨_, rfl, rfl, rfl⟩
  · exact .inl ⟨_, rfl, rfl, rfl⟩
  · exact .inl ⟨_, rfl, rfl, rfl⟩
  · exact .inl ⟨_, rfl, rfl, rfl⟩
  · exact .inl ⟨_, rfl, rfl, rfl⟩
  · exact .inl ⟨_, rfl, rfl, rfl⟩
  · exact .inl ⟨_, rfl, rfl, rfl⟩
  · next hquote hbackslash _ _ _ _ _ =>
    split
    · next hplain => exact .inr (.inl ⟨rfl, hquote, hbackslash, by simpa using hplain⟩)
    · exact .inr (.inr rfl)

namespace Source

/-- A literal denotes a text: it is one token, which stands for the characters of the text. -/
def Denotes (literal text : String) : Prop :=
  ∃ body, Escape.decodeText false body = some (text.toList.map Char.toNat) ∧
    ∀ rest, rest.head? ≠ some '"' →
      Lexer.readToken (literal.toList ++ rest) = some (.string ⟨false, false, false, body⟩, rest)

/-- All characters of a text are of the basic plane. -/
def IsBasic (text : String) : Prop := ∀ c ∈ text.toList, c.toNat < 0x10000

namespace Escape

/-- The code points that the escape of a character stands for: two halves outside the basic
plane. -/
def units (c : Char) : List Nat :=
  if c.toNat < 0x10000 then [c.toNat]
  else [0xD800 + (c.toNat - 0x10000) / 0x400, 0xDC00 + (c.toNat - 0x10000) % 0x400]

theorem toNat_lt (c : Char) : c.toNat < 0x110000 := by
  have h := c.valid
  simp only [UInt32.isValidChar, Nat.isValidChar] at h
  simp only [Char.toNat]
  omega

theorem hexValue?_hexDigit : ∀ digit < 16, Json.hexValue? (hexDigit digit) = some digit := by
  decide

theorem decodeFrom_hex {left value digit : Nat} {c : Char} (hc : Json.hexValue? c = some digit)
    (hleft : 1 < left) (rest : List Char) :
    decodeFrom false (.hex left value) (c :: rest) =
      decodeFrom false (.hex (left - 1) (value * 16 + digit)) rest := by
  simp only [decodeFrom, hc, Option.bind_eq_bind, Option.bind_some]
  rw [if_neg (Nat.not_le.mpr hleft)]

theorem decodeFrom_lastHex {value digit : Nat} {c : Char} (hc : Json.hexValue? c = some digit)
    (hpoint : value * 16 + digit ≤ maximalPoint) (rest : List Char) :
    decodeFrom false (.hex 1 value) (c :: rest) =
      (decodeFrom false .plain rest).map ((value * 16 + digit) :: ·) := by
  simp only [decodeFrom, hc, Option.bind_eq_bind, Option.bind_some]
  rw [if_pos (Nat.le_refl 1), if_neg (Nat.not_lt.mpr hpoint)]
  cases decodeFrom false .plain rest <;> rfl

/-- Four digits stand for the number they write. -/
theorem decodeFrom_unicode {n : Nat} (hn : n < 0x10000) (rest : List Char) :
    decodeFrom false .plain ('\\' :: 'u' :: hexDigits 4 n ++ rest) =
      (decodeFrom false .plain rest).map (n :: ·) := by
  have hdigit (m : Nat) : Json.hexValue? (hexDigit (m % 16)) = some (m % 16) :=
    hexValue?_hexDigit _ (Nat.mod_lt _ (by decide))
  have hvalue : (((0 * 16 + n / 16 / 16 / 16 % 16) * 16 + n / 16 / 16 % 16) * 16
      + n / 16 % 16) * 16 + n % 16 = n := by omega
  change decodeFrom false (.hex 4 0) (hexDigit (n / 16 / 16 / 16 % 16) ::
    hexDigit (n / 16 / 16 % 16) :: hexDigit (n / 16 % 16) :: hexDigit (n % 16) :: rest) = _
  rw [decodeFrom_hex (hdigit _) (by decide), decodeFrom_hex (hdigit _) (by decide),
    decodeFrom_hex (hdigit _) (by decide), decodeFrom_lastHex (hdigit _), hvalue]
  rw [hvalue]
  unfold maximalPoint
  omega

theorem decodeFrom_plain {c : Char} (hc : c ≠ '\\') (rest : List Char) :
    decodeFrom false .plain (c :: rest) = (decodeFrom false .plain rest).map (c.toNat :: ·) := by
  simp only [decodeFrom, beq_iff_eq, hc, if_false]
  cases decodeFrom false .plain rest <;> rfl

theorem simple?_lt {c : Char} {point : Nat} (h : simple? c = some point) : point < 0x10000 := by
  unfold simple? at h
  split at h <;> simp_all <;> omega

theorem decodeFrom_simple {c : Char} {point : Nat} (hc : simple? c = some point)
    (hnewline : c ≠ '\n') (rest : List Char) :
    decodeFrom false .plain ('\\' :: c :: rest) =
      (decodeFrom false .plain rest).map (point :: ·) := by
  change decodeFrom false .escaped (c :: rest) = _
  simp only [decodeFrom, beq_iff_eq, hnewline, if_false, hc]
  cases decodeFrom false .plain rest <;> rfl

/-- The escape of a character is read as the code points it stands for. -/
theorem decodeFrom_escapeChar (c : Char) (rest : List Char) :
    decodeFrom false .plain (Json.escapeChar c ++ rest) =
      (decodeFrom false .plain rest).map (units c ++ ·) := by
  have hscalar := toNat_lt c
  obtain ⟨letter, h, hletter, hunbroken⟩ | ⟨h, -, hbackslash, -, hascii⟩ | h :=
    Json.escapeChar_cases c
  · have hnewline : letter ≠ '\n' := by
      rintro rfl
      exact absurd hunbroken (by decide)
    have hbasic : c.toNat < 0x10000 := simple?_lt hletter
    rw [h, units, if_pos hbasic]
    exact decodeFrom_simple hletter hnewline rest
  · rw [h, units, if_pos (by omega)]
    exact decodeFrom_plain hbackslash rest
  · rw [h]
    unfold Json.unicodeEscape units
    split
    · next hbasic => exact decodeFrom_unicode hbasic rest
    · next hwide =>
      have hhigh : 0xD800 + (c.toNat - 0x10000) / 0x400 < 0x10000 := by omega
      have hlow : 0xDC00 + (c.toNat - 0x10000) % 0x400 < 0x10000 := by omega
      rw [List.append_assoc, decodeFrom_unicode hhigh, decodeFrom_unicode hlow, Option.map_map]
      rfl

theorem decodeFrom_escapes (letters : List Char) :
    decodeFrom false .plain (letters.flatMap Json.escapeChar) = some (letters.flatMap units) := by
  induction letters with
  | nil => rfl
  | cons c letters ih =>
    rw [List.flatMap_cons, decodeFrom_escapeChar, ih, Option.map_some, List.flatMap_cons]

/-- Escapes stand for the characters themselves only within the basic plane: the first half of
a pair is smaller than the character. -/
theorem flatMap_units_eq_iff (letters : List Char) :
    letters.flatMap units = letters.map Char.toNat ↔ ∀ c ∈ letters, c.toNat < 0x10000 := by
  induction letters with
  | nil => simp
  | cons c letters ih =>
    rw [List.flatMap_cons, List.map_cons, List.forall_mem_cons, ← ih]
    unfold units
    split
    · next hbasic => simp [hbasic]
    · next hwide =>
      have hscalar := toNat_lt c
      have hne : 0xD800 + (c.toNat - 0x10000) / 0x400 ≠ c.toNat := by omega
      simp [hwide, hne]

end Escape

namespace Lexer

/-- Characters within a literal that are taken one by one. -/
def Kept (front : List Char) : Prop :=
  ∀ rest, readQuoted false '"' (front ++ rest) =
    (readQuoted false '"' rest).map fun read => (front ++ read.1, read.2)

variable {front more : List Char}

theorem kept_nil : Kept [] := fun rest => by
  cases h : readQuoted false '"' rest <;> simp [h]

theorem Kept.append (hfront : Kept front) (hmore : Kept more) : Kept (front ++ more) := by
  intro rest
  rw [List.append_assoc, hfront, hmore]
  cases readQuoted false '"' rest <;> simp

theorem kept_flatMap {letters : List Char} {f : Char → List Char}
    (h : ∀ c ∈ letters, Kept (f c)) : Kept (letters.flatMap f) := by
  induction letters with
  | nil => exact kept_nil
  | cons c letters ih =>
    obtain ⟨hc, hrest⟩ := List.forall_mem_cons.mp h
    exact hc.append (ih hrest)

theorem kept_pair (c : Char) : Kept ['\\', c] := by
  intro rest
  change readQuoted false '"' ('\\' :: c :: rest) = _
  rw [readQuoted]
  cases readQuoted false '"' rest <;> rfl

theorem kept_plain {c : Char} (hquote : c ≠ '"') (hbackslash : c ≠ '\\') (hnewline : c ≠ '\n') :
    Kept [c] := by
  intro rest
  change readQuoted false '"' (c :: rest) = _
  rw [readQuoted.eq_3 _ _ _ _ fun d rest' hc _ => hbackslash hc]
  simp only [beq_eq_false_iff_ne.mpr hquote, beq_eq_false_iff_ne.mpr hnewline, Bool.false_and,
    Bool.false_eq_true, if_false]
  cases readQuoted false '"' rest <;> rfl

theorem kept_hexDigit : ∀ digit < 16,
    hexDigit digit ≠ '"' ∧ hexDigit digit ≠ '\\' ∧ hexDigit digit ≠ '\n' := by
  decide

theorem kept_unicode (n : Nat) : Kept ('\\' :: 'u' :: hexDigits 4 n) := by
  have hdigit (m : Nat) : Kept [hexDigit (m % 16)] := by
    obtain ⟨hquote, hbackslash, hnewline⟩ := kept_hexDigit _ (Nat.mod_lt m (by decide : 16 > 0))
    exact kept_plain hquote hbackslash hnewline
  exact (kept_pair 'u').append ((hdigit _).append ((hdigit _).append ((hdigit _).append (hdigit _))))

/-- No escape ends the literal it stands in. -/
theorem kept_escapeChar (c : Char) : Kept (Json.escapeChar c) := by
  obtain ⟨letter, h, -, -⟩ | ⟨h, hquote, hbackslash, hprinted, -⟩ | h := Json.escapeChar_cases c
  · rw [h]
    exact kept_pair letter
  · have hnewline : c ≠ '\n' := by
      rintro rfl
      exact absurd hprinted (by decide)
    rw [h]
    exact kept_plain hquote hbackslash hnewline
  · rw [h]
    unfold Json.unicodeEscape
    split
    · exact kept_unicode _
    · exact (kept_unicode _).append (kept_unicode _)

theorem head_escapeChar (c : Char) : ∃ d more, Json.escapeChar c = d :: more ∧ d ≠ '"' := by
  obtain ⟨letter, h, -, -⟩ | ⟨h, hquote, -⟩ | h := Json.escapeChar_cases c
  · exact ⟨_, _, h, by decide⟩
  · exact ⟨_, _, h, hquote⟩
  · rw [h]
    unfold Json.unicodeEscape
    split
    · exact ⟨_, _, rfl, by decide⟩
    · exact ⟨_, _, rfl, by decide⟩

/-- The marks of a literal are not taken for the first two of three. -/
theorem readString_escapes (letters : List Char) {rest : List Char}
    (hrest : rest.head? ≠ some '"') :
    readString '"' (letters.flatMap Json.escapeChar ++ '"' :: rest) =
      some (letters.flatMap Json.escapeChar, rest) := by
  have hquoted : readQuoted false '"' (letters.flatMap Json.escapeChar ++ '"' :: rest) =
      some (letters.flatMap Json.escapeChar, rest) := by
    rw [kept_flatMap fun c _ => kept_escapeChar c]
    simp [readQuoted]
  rw [← hquoted]
  unfold readString
  cases letters with
  | nil =>
    cases rest with
    | nil => rfl
    | cons d rest =>
      have hd : d ≠ '"' := fun h => hrest (congrArg some h)
      simp [hd]
  | cons c letters =>
    obtain ⟨d, more, hescape, hd⟩ := head_escapeChar c
    rw [List.flatMap_cons, hescape, List.cons_append, List.cons_append]
    split
    · next h =>
      obtain ⟨rfl, -⟩ := List.cons.inj h
      simp [hd]
    · rfl

/-- A literal is read as one token. -/
theorem readToken_literal (text : String) {rest : List Char} (hrest : rest.head? ≠ some '"') :
    readToken ((Json.literal text).toList ++ rest) =
      some (.string ⟨false, false, false, text.toList.flatMap Json.escapeChar⟩, rest) := by
  have hliteral : (Json.literal text).toList ++ rest =
      '"' :: (text.toList.flatMap Json.escapeChar ++ '"' :: rest) := by
    simp [Json.literal, Json.literalChars]
  rw [hliteral]
  simp [readToken, readLetters, readString_escapes _ hrest]

end Lexer

/-- A generated literal denotes its text exactly if the text keeps to the basic plane. -/
theorem denotes_literal_iff (text : String) : Denotes (Json.literal text) text ↔ IsBasic text := by
  unfold Denotes IsBasic
  rw [← Escape.flatMap_units_eq_iff]
  have hdecoded : Escape.decodeText false (text.toList.flatMap Json.escapeChar) =
      some (text.toList.flatMap Escape.units) := Escape.decodeFrom_escapes _
  constructor
  · rintro ⟨body, hbody, hread⟩
    have hempty : ([] : List Char).head? ≠ some '"' := nofun
    have hsame := (Lexer.readToken_literal text hempty).symm.trans (hread [] hempty)
    simp only [Option.some.injEq, Prod.mk.injEq, Token.string.injEq, StringLiteral.mk.injEq,
      true_and, and_true] at hsame
    rw [← hsame, hdecoded] at hbody
    exact Option.some.inj hbody
  · intro hbasic
    exact ⟨_, hbasic ▸ hdecoded, fun rest hrest => Lexer.readToken_literal text hrest⟩

end Source

end Registrar
