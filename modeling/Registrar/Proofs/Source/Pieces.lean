import Registrar.Proofs.Catalogue.Sections

/-! # Pieces of source

A line of source is spelled out of words, signs, literals and the gaps between them. Each piece is
read as its tokens if the character after it does not run into it.
-/

namespace Registrar.Source

/-- A piece of a line of source. -/
inductive Piece
  | gap
  /-- A name or reserved word. -/
  | word (text : String)
  /-- The points before a relative name, or one between two names. -/
  | dots (count : Nat)
  /-- An operator or delimiter. -/
  | sign (text : String)
  /-- A text literal as it is generated. -/
  | literal (text : String)
  /-- A text literal between triple marks. -/
  | prose (body : List Char)

namespace Piece

/-- The text of a piece. -/
def letters : Piece → List Char
  | gap => [' ']
  | word text => text.toList
  | dots count => List.replicate count '.'
  | sign text => text.toList
  | literal text => (Json.literal text).toList
  | prose body => '"' :: '"' :: '"' :: (body ++ ['"', '"', '"'])

/-- The tokens of points: as many as possible are taken in threes. -/
def dotTokens (count : Nat) : List Token :=
  List.replicate (count / 3) (.symbol "...") ++ List.replicate (count % 3) (.symbol ".")

/-- The tokens a piece is read as; none if it is a word that is no name. -/
def tokens? : Piece → Option (List Token)
  | gap => some []
  | word text => (Lexer.nameToken text.toList).map ([·])
  | dots count => some (dotTokens count)
  | sign text => some [.symbol text]
  | literal text => some [.string ⟨false, false, false, text.toList.flatMap Json.escapeChar⟩]
  | prose body => some [.string ⟨false, false, false, body⟩]

/-- Whether a word is well spelled and ends before a character. -/
def wordEndsBefore (word : List Char) (next : Char) : Bool :=
  word.all Number.mayContinueName && !word.isEmpty && !Number.startsWithDigit word
    && !Number.mayContinueName next && next != '"' && next != '\''

/-- Whether a sign ends before a character. -/
def signEndsBefore (sign : List Char) (next : Char) : Bool :=
  match sign with
  | [c] => Lexer.singleSymbols.contains c && c != '.' && !Lexer.doubleSymbols.contains [c, next]
  | sign => sign == ['-', '>']

/-- Whether a piece is well spelled and ends before a character. -/
def endsBefore (next : Char) : Piece → Bool
  | gap => true
  | word text => wordEndsBefore text.toList next
  | dots _ => next != '.' && !next.isDigit
  | sign text => signEndsBefore text.toList next
  | literal _ => next != '"'
  | prose body => body.all fun c => c != '"' && c != '\\' && (c == '\n' || 32 ≤ c.toNat)

end Piece

namespace Lexer

variable {letters rest : List Char} {next c : Char}

theorem mayContinueName_of_add? {before after : Letters} (h : before.add? c = some after) :
    Number.mayContinueName c = true := by
  unfold Letters.add? at h
  repeat' split at h
  all_goals first
    | (next hc => simp only [Bool.and_eq_true, Bool.or_eq_true, beq_iff_eq] at hc
                  obtain ⟨-, rfl | rfl⟩ := hc <;> rfl)
    | cases h

theorem add?_eq_none {before : Letters} (h : Number.mayContinueName c = false) :
    before.add? c = none := by
  cases hadd : before.add? c with
  | none => rfl
  | some after =>
    rw [mayContinueName_of_add? hadd] at h
    cases h

/-- A word is not taken for the letters before a literal. -/
theorem readLetters_eq_none {before : Letters}
    (hletters : letters.all Number.mayContinueName = true)
    (hnext : Number.mayContinueName next = false) (hmark : next ≠ '"') (hquote : next ≠ '\'') :
    readLetters before (letters ++ next :: rest) = none := by
  induction letters generalizing before with
  | nil => simp [readLetters, hmark, hquote, add?_eq_none hnext]
  | cons c letters ih =>
    obtain ⟨hc, hletters⟩ := Bool.and_eq_true_iff.mp (List.all_cons.symm.trans hletters)
    have hplain : c ≠ '"' ∧ c ≠ '\'' := by
      constructor <;> rintro rfl <;> exact absurd hc (by decide)
    rw [List.cons_append, readLetters, if_neg (by simpa using hplain)]
    split
    · exact ih hletters
    · rfl

theorem takeWhile_append (hletters : letters.all Number.mayContinueName = true)
    (hnext : Number.mayContinueName next = false) :
    (letters ++ next :: rest).takeWhile Number.mayContinueName = letters ∧
      (letters ++ next :: rest).dropWhile Number.mayContinueName = next :: rest := by
  have hall := List.all_eq_true.mp hletters
  rw [List.takeWhile_append_of_pos hall, List.dropWhile_append_of_pos hall]
  simp [hnext]

variable (rest) in
/-- A word is read as one token, if it is a name. -/
theorem readToken_word (h : Piece.wordEndsBefore letters next = true) :
    readToken (letters ++ next :: rest) =
      (nameToken letters).map fun token => (token, next :: rest) := by
  simp only [Piece.wordEndsBefore, Bool.and_eq_true, Bool.not_eq_true', bne_iff_ne] at h
  obtain ⟨⟨⟨⟨⟨hletters, hne⟩, hdigit⟩, hnext⟩, hmark⟩, hquote⟩ := h
  unfold readToken
  rw [readLetters_eq_none hletters hnext hmark hquote]
  obtain ⟨c, more, rfl⟩ := List.exists_cons_of_ne_nil (by simpa using hne)
  obtain ⟨hc, -⟩ := Bool.and_eq_true_iff.mp (List.all_cons.symm.trans hletters)
  have hpoint : c ≠ '.' := by
    rintro rfl
    exact absurd hc (by decide)
  have hnumber : (c.isDigit || (c == '.' && Number.startsWithDigit (more ++ next :: rest))) = false := by
    simpa [hpoint, Number.startsWithDigit] using hdigit
  obtain ⟨htake, hdrop⟩ := takeWhile_append hletters hnext
  rw [List.cons_append] at htake hdrop ⊢
  dsimp only
  rw [hnumber, hc, htake, hdrop]
  cases nameToken (c :: more) <;> rfl

variable (rest) in
/-- A text in triple marks is read up to them. -/
theorem readQuoted_prose {body : List Char}
    (h : (Piece.prose body).endsBefore next = true) :
    readQuoted true '"' (body ++ '"' :: '"' :: '"' :: rest) = some (body, rest) := by
  unfold Piece.endsBefore at h
  induction body with
  | nil => simp [readQuoted]
  | cons c body ih =>
    obtain ⟨hc, hbody⟩ := Bool.and_eq_true_iff.mp (List.all_cons.symm.trans h)
    obtain ⟨⟨hmark, hbackslash⟩, -⟩ : (c ≠ '"' ∧ c ≠ '\\') ∧ _ := by simpa using hc
    rw [List.cons_append, readQuoted.eq_3 _ _ _ _ fun d rest' hsame _ => hbackslash hsame]
    simp [hmark, ih hbody]

theorem readToken_prose {body : List Char} (h : (Piece.prose body).endsBefore next = true) :
    readToken ((Piece.prose body).letters ++ next :: rest) =
      some (.string ⟨false, false, false, body⟩, next :: rest) := by
  have hread := readQuoted_prose (next :: rest) h
  simp [Piece.letters, readToken, readLetters, readString, hread]

variable (rest) in
/-- A sign is read as itself: no longer one starts with it. -/
theorem readSymbol_sign {sign : List Char} (h : Piece.signEndsBefore sign next = true) :
    readSymbol (sign ++ next :: rest) = some (sign, next :: rest) := by
  unfold Piece.signEndsBefore at h
  split at h
  · next c =>
    simp only [Bool.and_eq_true, bne_iff_ne, Bool.not_eq_true'] at h
    obtain ⟨⟨hsingle, hpoint⟩, hdouble⟩ := h
    have htriple : ∀ d, tripleSymbols.contains (c :: next :: d) = false := by
      intro d
      simp only [doubleSymbols, List.contains_cons, List.contains_nil, Bool.or_false,
        Bool.or_eq_false_iff, List.cons_beq_cons, List.beq_nil_eq] at hdouble
      simp only [tripleSymbols, List.contains_cons, List.contains_nil, Bool.or_false,
        Bool.or_eq_false_iff, List.cons_beq_cons]
      grind
    simp only [readSymbol, List.singleton_append, List.take_succ_cons, List.take_zero, htriple,
      hdouble, hsingle, Bool.false_eq_true, if_false, if_true]
  · obtain rfl := eq_of_beq h
    rfl

theorem head_of_signEndsBefore {sign : List Char} (h : Piece.signEndsBefore sign next = true) :
    ∃ c more, sign = c :: more ∧ (c ∈ singleSymbols ∧ c ≠ '.') := by
  unfold Piece.signEndsBefore at h
  split at h
  · next c =>
    simp only [Bool.and_eq_true, bne_iff_ne, Bool.not_eq_true', List.contains_iff_mem] at h
    exact ⟨c, [], rfl, h.1⟩
  · obtain rfl := eq_of_beq h
    exact ⟨'-', ['>'], rfl, by decide⟩

/-- Signs open no other token. -/
theorem singleSymbols_plain : ∀ c ∈ singleSymbols, c ≠ '"' ∧ c ≠ '\'' ∧
    c.isDigit = false ∧ Number.mayContinueName c = false :=
  forall_mem_of_all (by decide)

theorem printed_singleSymbols : ∀ c ∈ singleSymbols, 32 ≤ c.toNat :=
  forall_mem_of_all (by decide)

/-- A character that opens neither a word, a literal nor a number opens a sign. -/
theorem readToken_eq_readSymbol (hc : c ∈ singleSymbols)
    (hpoint : (c == '.' && Number.startsWithDigit rest) = false) :
    readToken (c :: rest) =
      (readSymbol (c :: rest)).map fun (symbol, rest) => (.symbol (String.ofList symbol), rest) := by
  obtain ⟨hmark, hquote, hdigit, hname⟩ := singleSymbols_plain c hc
  unfold readToken
  rw [readLetters, if_neg (by simp [hmark, hquote]), add?_eq_none hname]
  dsimp only
  rw [hdigit, hpoint, hname]
  rfl

variable (rest) in
theorem readToken_sign {text : String} (h : (Piece.sign text).endsBefore next = true) :
    readToken (text.toList ++ next :: rest) = some (.symbol text, next :: rest) := by
  have hread := readSymbol_sign rest h
  obtain ⟨c, more, htext, hc, hpoint⟩ := head_of_signEndsBefore h
  rw [htext, List.cons_append] at hread ⊢
  rw [readToken_eq_readSymbol hc (by simp [hpoint]), hread, Option.map_some, ← htext]
  dsimp only
  rw [String.ofList_toList]

/-- Three points are read as one token. -/
theorem readToken_dots (rest : List Char) :
    readToken ('.' :: '.' :: '.' :: rest) = some (.symbol "...", rest) := by
  rw [readToken_eq_readSymbol (by decide) (by simp [Number.startsWithDigit])]
  simp [readSymbol, tripleSymbols]

/-- A point that no other two follow is a token of its own. -/
theorem readToken_dot (hnext : next ≠ '.') (hdigit : next.isDigit = false) :
    readToken ('.' :: next :: rest) = some (.symbol ".", next :: rest) ∧
      readToken ('.' :: '.' :: next :: rest) = some (.symbol ".", '.' :: next :: rest) := by
  constructor
  · rw [readToken_eq_readSymbol (by decide) (by simp [Number.startsWithDigit, hdigit])]
    simp [readSymbol, tripleSymbols, doubleSymbols, singleSymbols, hnext]
  · rw [readToken_eq_readSymbol (by decide) (by simp [Number.startsWithDigit])]
    simp [readSymbol, tripleSymbols, doubleSymbols, singleSymbols, hnext]

end Lexer

theorem isAlpha_iff {c : Char} : c.isAlpha = true ↔
    65 ≤ c.toNat ∧ c.toNat ≤ 90 ∨ 97 ≤ c.toNat ∧ c.toNat ≤ 122 := by
  have hspelled : c.isAlpha = (decide (65 ≤ c.val ∧ c.val ≤ 90) ||
    decide (97 ≤ c.val) && decide (c.val ≤ 122)) := rfl
  simp [hspelled, UInt32.le_iff_toNat_le]

theorem printed_of_mayContinueName {c : Char} (h : Number.mayContinueName c = true) :
    32 ≤ c.toNat := by
  simp only [Number.mayContinueName, Char.isAlphanum, isAscii, Bool.or_eq_true, Bool.not_eq_true',
    beq_iff_eq, decide_eq_false_iff_not, isAlpha_iff, Char.isDigit_iff_toNat] at h
  obtain ((h | h) | rfl) | h := h
  · omega
  · simp at h
    omega
  · decide
  · omega

/-- Escapes are made of printed characters. -/
theorem printed_escapeChar (c : Char) : ∀ d ∈ Json.escapeChar c, 32 ≤ d.toNat := by
  have hdigit : ∀ digit < 16, 32 ≤ (hexDigit digit).toNat := by decide
  have hunicode (n : Nat) : ∀ d ∈ '\\' :: 'u' :: hexDigits 4 n, 32 ≤ d.toNat := by
    have hdigits (m : Nat) : 32 ≤ (hexDigit (m % 16)).toNat := hdigit _ (Nat.mod_lt m (by decide))
    simp [hexDigits, hdigits]
  unfold Json.escapeChar
  split
  all_goals try exact forall_mem_of_all (by decide)
  split
  · next hplain =>
    simp only [Bool.and_eq_true, decide_eq_true_eq] at hplain
    simpa using hplain.1
  · unfold Json.unicodeEscape
    split
    · exact hunicode _
    · exact List.forall_mem_append.mpr ⟨hunicode _, hunicode _⟩

/-- No piece holds a control character that ends no line. -/
theorem Piece.printed_letters {piece : Piece} {next : Char} (h : piece.endsBefore next = true) :
    ∀ c ∈ piece.letters, c = '\n' ∨ 32 ≤ c.toNat := by
  intro c hc
  cases piece with
  | gap =>
    obtain rfl := List.mem_singleton.mp hc
    exact .inr (by decide)
  | word text =>
    simp only [Piece.endsBefore, Piece.wordEndsBefore, Bool.and_eq_true] at h
    exact .inr (printed_of_mayContinueName (List.all_eq_true.mp h.1.1.1.1.1 c hc))
  | dots count =>
    obtain rfl := List.eq_of_mem_replicate hc
    exact .inr (by decide)
  | sign text =>
    simp only [Piece.endsBefore, Piece.signEndsBefore] at h
    rw [Piece.letters] at hc
    split at h
    · next d hd =>
      rw [hd] at hc
      obtain rfl := List.mem_singleton.mp hc
      simp only [Bool.and_eq_true, List.contains_iff_mem] at h
      exact .inr (Lexer.printed_singleSymbols c h.1.1)
    · rw [eq_of_beq h] at hc
      have hpoints : ∀ d ∈ ['-', '>'], 32 ≤ d.toNat := forall_mem_of_all (by decide)
      exact .inr (hpoints c hc)
  | literal text =>
    simp only [Piece.letters, Json.literal, Json.literalChars, String.toList_ofList,
      List.mem_append, List.mem_cons, List.mem_flatMap, List.not_mem_nil, or_false] at hc
    obtain (rfl | ⟨d, -, hc⟩) | rfl := hc
    · exact .inr (by decide)
    · exact .inr (printed_escapeChar d c hc)
    · exact .inr (by decide)
  | prose body =>
    simp only [Piece.endsBefore, List.all_eq_true] at h
    simp only [Piece.letters, List.mem_cons, List.mem_append, List.not_mem_nil, or_false] at hc
    rcases hc with rfl | rfl | rfl | hc | rfl | rfl | rfl
    all_goals first
      | exact .inr (by decide)
      | simpa using (Bool.and_eq_true_iff.mp (h c hc)).2

end Registrar.Source
