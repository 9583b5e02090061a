import Registrar.Proofs.Source.Pieces
import Registrar.Proofs.Project.Text

/-! # Lines are read as they are spelled

The tokens of a text follow from its lines: what the indentation of a line stands for, the tokens
of its pieces under the brackets that are open, and the end of the line. The reading of a text
is followed from place to place; no place takes more turns than the text before it allows.
-/

namespace Registrar.Source

/-- A line of source: its indentation and its pieces. A line without pieces is blank. -/
structure Line where
  indent : Nat
  pieces : List Piece

/-- The text of pieces. -/
def spell (pieces : List Piece) : List Char := pieces.flatMap Piece.letters

theorem spell_cons (piece : Piece) (pieces : List Piece) :
    spell (piece :: pieces) = piece.letters ++ spell pieces := List.flatMap_cons

/-- The tokens of pieces. -/
def tokensOf : List Piece → Option (List Token)
  | [] => some []
  | piece :: pieces => do return (← piece.tokens?) ++ (← tokensOf pieces)

/-- Whether pieces are well spelled and keep apart before a character. -/
def keepApart (next : Char) : List Piece → Bool
  | [] => true
  | piece :: pieces => piece.endsBefore ((spell pieces).headD next) && keepApart next pieces

namespace Line

/-- The text of a line. -/
def letters (line : Line) : List Char := List.replicate line.indent ' ' ++ spell line.pieces

/-- Whether a line is well spelled: its pieces keep apart, and the first one ends the
indentation. -/
def isSpelled (line : Line) : Bool :=
  keepApart '\n' line.pieces &&
    ((spell line.pieces).head?.all fun c => !Lexer.isGap c && c != '\\' && c != '\n' && c != '#')
    && (line.pieces.isEmpty || !(spell line.pieces).isEmpty)

end Line

/-- The text of lines, each of which is ended. -/
def spellLines (lines : List Line) : List Char := lines.flatMap (·.letters ++ ['\n'])

namespace Lexer

/-- The layout on the next line. -/
def Layout.nextLine (layout : Layout) : Layout := { layout with line := layout.line + 1 }

/-- The layout behind a token. -/
def Layout.pass (layout : Layout) (token : Token) : Option Layout :=
  (layout.after token).map fun next => { next with line := next.line + lineBreaks token }

/-- Place tokens one behind the other. -/
def Layout.enter (layout : Layout) : List Token → Option (List Lexeme × Layout)
  | [] => some ([], layout)
  | token :: tokens => do
    let next ← layout.pass token
    let (lexemes, last) ← next.enter tokens
    return (⟨token, layout.line⟩ :: lexemes, last)

/-- What an indentation stands for: nothing inside brackets. -/
def Layout.open (layout : Layout) (indent : Nat) : Option (List Lexeme × Layout) :=
  if layout.brackets.isEmpty then
    (indentation ⟨indent, indent, 0, 0⟩ layout).map fun (tokens, layout) =>
      (tokens.map (⟨·, layout.line⟩), layout)
  else some ([], layout)

/-- The end of a line, which is a token outside brackets. -/
def Layout.close (layout : Layout) : List Lexeme × Layout :=
  (if layout.brackets.isEmpty then [⟨.newline, layout.line⟩] else [], layout.nextLine)

/-- The tokens of a line and the layout behind it. -/
def readLine (layout : Layout) (line : Line) : Option (List Lexeme × Layout) :=
  if line.pieces.isEmpty then some ([], layout.nextLine)
  else do
    let tokens ← tokensOf line.pieces
    let (opening, layout) ← layout.open line.indent
    let (lexemes, layout) ← layout.enter tokens
    return (opening ++ lexemes ++ layout.close.1, layout.close.2)

/-- The tokens of lines and the layout behind them. -/
def readLines (layout : Layout) : List Line → Option (List Lexeme × Layout)
  | [] => some ([], layout)
  | line :: lines => do
    let (lexemes, next) ← readLine layout line
    let (more, last) ← readLines next lines
    return (lexemes ++ more, last)

/-- The tokens at the end of a text: open blocks are closed, brackets have to be. -/
def Layout.finish (layout : Layout) : Option (List Lexeme) :=
  if layout.brackets.isEmpty then
    (layout.open 0).map fun (closing, layout) => closing ++ [⟨.finish, layout.line⟩]
  else none

/-- A place in the reading of a text. -/
structure Place where
  atStart : Bool
  layout : Layout
  rest : List Char

namespace Place

/-- Read on from a place. -/
def read (place : Place) (fuel : Nat) : Option (List Lexeme) :=
  readTokens fuel place.atStart place.layout place.rest

/-- A bound of the turns that reading on takes. -/
def cost (place : Place) : Nat := 2 * place.rest.length + place.atStart.toNat

end Place

/-- From a place the reading gets to another with some tokens, or fails. -/
def Reads (place : Place) (result : Option (List Lexeme × Place)) : Prop :=
  ∃ turns, turns + result.elim 0 (·.2.cost) ≤ place.cost ∧
    ∀ fuel, place.read (turns + fuel) =
      result.bind fun read => (read.2.read fuel).map (read.1 ++ ·)

namespace Reads

variable {place next : Place} {lexemes : List Lexeme} {result : Option (List Lexeme × Place)}

theorem refl (place : Place) : Reads place (some ([], place)) := by
  refine ⟨0, by simp, fun fuel => ?_⟩
  rw [Nat.zero_add]
  cases h : place.read fuel <;> simp [h]

/-- What is read from one place to the next and from there on. -/
theorem trans (h : Reads place (some (lexemes, next))) (hnext : Reads next result) :
    Reads place (result.map fun read => (lexemes ++ read.1, read.2)) := by
  obtain ⟨turns, hcost, hread⟩ := h
  obtain ⟨more, hmore, hrest⟩ := hnext
  refine ⟨turns + more, ?_, fun fuel => ?_⟩
  · cases result <;> simp_all <;> omega
  · rw [Nat.add_assoc, hread, Option.bind_some, hrest]
    cases result with
    | none => rfl
    | some read => cases h : read.2.read fuel <;> simp [h]

/-- A failure is one with any fuel. -/
theorem fail (h : ∀ fuel, place.read fuel = none) : Reads place none :=
  ⟨0, Nat.zero_le _, fun _ => h _⟩

/-- One turn that gets closer to the end. -/
theorem turn (hcost : next.cost < place.cost)
    (h : ∀ fuel, place.read (fuel + 1) = (next.read fuel).map (lexemes ++ ·)) :
    Reads place (some (lexemes, next)) :=
  ⟨1, by simp only [Option.elim]; omega, fun fuel => by rw [Nat.add_comm 1 fuel]; exact h fuel⟩

end Reads

variable {layout : Layout} {rest : List Char} {c : Char}

/-! ## Within a line -/

theorem skipComment_of_ne (h : c ≠ '#') : skipComment (c :: rest) = c :: rest := by
  unfold skipComment
  split
  · next hsame => exact absurd (List.cons.inj hsame).1 h
  · rfl

theorem reads_gap (h : isGap c = true) :
    Reads ⟨false, layout, c :: rest⟩ (some ([], ⟨false, layout, rest⟩)) := by
  refine ⟨0, by grind [Place.cost], fun fuel => ?_⟩
  have hsame : (Place.mk false layout (c :: rest)).read fuel =
      (Place.mk false layout rest).read fuel := by
    cases fuel with
    | zero => rfl
    | succ fuel => simp [Place.read, readTokens, h]
  rw [Nat.zero_add, hsame]
  cases h : (Place.mk false layout rest).read fuel <;> simp [h]

/-- Characters that open a token. -/
def opensToken (c : Char) : Bool := !isGap c && c != '\\' && c != '\n' && c != '#'

theorem read_token (fuel : Nat) (h : opensToken c = true) :
    (Place.mk false layout (c :: rest)).read (fuel + 1) =
      (readToken (c :: rest)).bind fun read => (layout.pass read.1).bind fun next =>
        ((Place.mk false next read.2).read fuel).map (⟨read.1, layout.line⟩ :: ·) := by
  simp only [opensToken, Bool.and_eq_true, Bool.not_eq_true', bne_iff_ne] at h
  obtain ⟨⟨⟨hgap, hbackslash⟩, hnewline⟩, hcomment⟩ := h
  unfold Place.read
  rw [readTokens, List.dropWhile_cons_of_neg (by simpa using hgap), skipComment_of_ne hcomment]
  split
  · next h => cases h
  · next h => exact absurd (List.cons.inj h).1 hnewline
  · next h => exact absurd (List.cons.inj h).1 hbackslash
  · unfold Layout.pass
    cases hread : readToken (c :: rest) with
    | none => rfl
    | some read =>
      cases hnext : layout.after read.1 with
      | none => simp [hnext]
      | some next =>
        simp only [Option.bind_eq_bind, Option.bind_some, hnext, Option.map_some]
        cases readTokens fuel false _ read.2 <;> rfl

variable (layout) in
/-- A token is placed in the layout, or no bracket lets it stand. -/
theorem reads_token {token : Token} {after : List Char} (h : opensToken c = true)
    (hread : readToken (c :: rest) = some (token, after)) (hlength : after.length ≤ rest.length) :
    Reads ⟨false, layout, c :: rest⟩
      ((layout.pass token).map fun next => ([⟨token, layout.line⟩], ⟨false, next, after⟩)) := by
  cases hnext : layout.pass token with
  | none =>
    refine .fail fun fuel => ?_
    cases fuel with
    | zero => rfl
    | succ fuel => simp [read_token fuel h, hread, hnext]
  | some next =>
    refine .turn (by grind [Place.cost]) fun fuel => ?_
    simp [read_token fuel h, hread, hnext]

theorem reads_token_none (h : opensToken c = true) (hread : readToken (c :: rest) = none) :
    Reads ⟨false, layout, c :: rest⟩ none := by
  refine .fail fun fuel => ?_
  cases fuel with
  | zero => rfl
  | succ fuel => simp [read_token fuel h, hread]

theorem enter_append (tokens more : List Token) :
    layout.enter (tokens ++ more) = (layout.enter tokens).bind fun read =>
      (read.2.enter more).map fun final => (read.1 ++ final.1, final.2) := by
  induction tokens generalizing layout with
  | nil =>
    cases h : layout.enter more <;> simp [Layout.enter, h]
  | cons token tokens ih =>
    rw [List.cons_append, Layout.enter, Layout.enter]
    cases layout.pass token with
    | none => rfl
    | some next =>
      simp only [Option.bind_eq_bind, Option.bind_some, ih]
      cases next.enter tokens with
      | none => rfl
      | some read => cases h : read.2.enter more <;> simp [h]

/-- The place behind tokens that are entered. -/
def behind (rest : List Char) (read : List Lexeme × Layout) : List Lexeme × Place :=
  (read.1, ⟨false, read.2, rest⟩)

theorem reads_one {token : Token} {after : List Char} (h : opensToken c = true)
    (hread : readToken (c :: rest) = some (token, after)) (hlength : after.length ≤ rest.length) :
    Reads ⟨false, layout, c :: rest⟩ ((layout.enter [token]).map (behind after)) := by
  have htoken := reads_token layout h hread hlength
  cases hnext : layout.pass token <;> simpa [Layout.enter, behind, hnext] using htoken

/-- Names open a token, and so do signs. -/
theorem opensToken_of_mayContinueName (h : Number.mayContinueName c = true) :
    opensToken c = true := by
  have hplain : c ≠ ' ' ∧ c ≠ '\t' ∧ c ≠ '\x0c' ∧ c ≠ '\\' ∧ c ≠ '\n' ∧ c ≠ '#' := by
    refine ⟨?_, ?_, ?_, ?_, ?_, ?_⟩ <;> rintro rfl <;> exact absurd h (by decide)
  obtain ⟨hspace, htab, hfeed, hbackslash, hnewline, hcomment⟩ := hplain
  simp [opensToken, isGap, hspace, htab, hfeed, hbackslash, hnewline, hcomment]

theorem opensToken_of_mem : ∀ c ∈ singleSymbols, opensToken c = true :=
  forall_mem_of_all (by decide)

/-- Tokens that leave the layout as it is are placed on its line. -/
theorem enter_of_pass {tokens : List Token} (h : ∀ token ∈ tokens, layout.pass token = some layout) :
    layout.enter tokens = some (tokens.map (⟨·, layout.line⟩), layout) := by
  induction tokens with
  | nil => rfl
  | cons token tokens ih =>
    obtain ⟨htoken, htokens⟩ := List.forall_mem_cons.mp h
    rw [Layout.enter, htoken, Option.bind_eq_bind, Option.bind_some, ih htokens]
    rfl

theorem pass_dots (count : Nat) :
    ∀ token ∈ Piece.dotTokens count, layout.pass token = some layout := by
  intro token htoken
  rcases List.mem_append.mp htoken with h | h <;> rw [List.eq_of_mem_replicate h] <;> rfl

variable (layout) in
theorem reads_dot {after : List Char} {text : String} (htext : text = "..." ∨ text = ".")
    (hread : readToken ('.' :: rest) = some (.symbol text, after))
    (hlength : after.length ≤ rest.length) :
    Reads ⟨false, layout, '.' :: rest⟩
      (some ([⟨.symbol text, layout.line⟩], ⟨false, layout, after⟩)) := by
  have hpass : layout.pass (.symbol text) = some layout := by
    rcases htext with rfl | rfl <;> rfl
  have hone := reads_token layout (by decide) hread hlength
  rwa [hpass] at hone

variable (layout) (rest) in
/-- Points are taken in threes until fewer are left. -/
theorem reads_dots {next : Char} (hnext : next ≠ '.') (hdigit : next.isDigit = false) :
    ∀ count, Reads ⟨false, layout, List.replicate count '.' ++ next :: rest⟩
      (some ((Piece.dotTokens count).map (⟨·, layout.line⟩), ⟨false, layout, next :: rest⟩))
  | 0 => .refl _
  | 1 => reads_dot _ (.inr rfl) (readToken_dot hnext hdigit).1 (Nat.le_refl _)
  | 2 => (reads_dot _ (.inr rfl) (readToken_dot hnext hdigit).2 (Nat.le_refl _)).trans
      (reads_dot _ (.inr rfl) (readToken_dot hnext hdigit).1 (Nat.le_refl _))
  | count + 3 => by
    have hthree := reads_dot layout (.inl rfl) (readToken_dots (List.replicate count '.' ++ next :: rest)) (by grind)
    have htokens : Piece.dotTokens (count + 3) = .symbol "..." :: Piece.dotTokens count := by
      simp [Piece.dotTokens, List.replicate_succ]
    rw [htokens]
    exact hthree.trans (reads_dots hnext hdigit count)

variable (layout) (rest) in
/-- A piece is read as its tokens. -/
theorem reads_piece {piece : Piece} {next : Char} (h : piece.endsBefore next = true) :
    Reads ⟨false, layout, piece.letters ++ next :: rest⟩
      (piece.tokens?.bind fun tokens => (layout.enter tokens).map (behind (next :: rest))) := by
  cases piece with
  | gap => exact reads_gap rfl
  | word text =>
    have hread := readToken_word rest h
    simp only [Piece.endsBefore, Piece.wordEndsBefore, Bool.and_eq_true, Bool.not_eq_true'] at h
    obtain ⟨c, more, htext⟩ := List.exists_cons_of_ne_nil
      (show text.toList ≠ [] by simpa using h.1.1.1.1.2)
    have hopens : opensToken c = true := opensToken_of_mayContinueName
      (List.all_eq_true.mp h.1.1.1.1.1 c (htext ▸ List.mem_cons_self))
    simp only [Piece.letters, Piece.tokens?, htext] at hread ⊢
    cases htoken : nameToken (c :: more) with
    | none => exact reads_token_none hopens (hread.trans (by rw [htoken]; rfl))
    | some token => exact reads_one hopens (hread.trans (by rw [htoken]; rfl)) (by simp)
  | dots count =>
    simp only [Piece.endsBefore, Bool.and_eq_true, bne_iff_ne, Bool.not_eq_true'] at h
    have hdots := reads_dots layout rest h.1 h.2 count
    simpa [Piece.letters, Piece.tokens?, enter_of_pass (pass_dots count), behind] using hdots
  | sign text =>
    have hread := readToken_sign rest h
    obtain ⟨c, more, htext, hc, -⟩ := head_of_signEndsBefore h
    rw [htext] at hread
    rw [Piece.letters, htext]
    exact reads_one (opensToken_of_mem c hc) hread (by simp)
  | literal text =>
    have hnext : (next :: rest).head? ≠ some '"' := by simpa [Piece.endsBefore] using h
    have hread := readToken_literal text hnext
    obtain ⟨more, hliteral⟩ : ∃ more, (Json.literal text).toList = '"' :: more :=
      ⟨_, by rw [Json.literal, Json.literalChars, String.toList_ofList]; rfl⟩
    rw [hliteral] at hread
    rw [Piece.letters, hliteral]
    exact reads_one (by decide) hread (by simp)
  | prose body => exact reads_one (by decide) (readToken_prose h) (by grind [List.append_eq])

variable (layout) (rest) in
/-- Pieces at the end of a line are read as their tokens. -/
theorem reads_pieces {pieces : List Piece} (h : keepApart '\n' pieces = true) :
    Reads ⟨false, layout, spell pieces ++ '\n' :: rest⟩
      ((tokensOf pieces).bind fun tokens => (layout.enter tokens).map (behind ('\n' :: rest))) := by
  induction pieces generalizing layout with
  | nil => exact .refl _
  | cons piece pieces ih =>
    obtain ⟨hpiece, hpieces⟩ := Bool.and_eq_true_iff.mp h
    have hhead : ∃ after, spell pieces ++ '\n' :: rest = (spell pieces).headD '\n' :: after := by
      cases spell pieces <;> exact ⟨_, rfl⟩
    obtain ⟨after, hafter⟩ := hhead
    have hfirst := reads_piece layout after hpiece
    rw [← hafter] at hfirst
    rw [spell_cons, List.append_assoc, tokensOf]
    cases htokens : piece.tokens? with
    | none => simpa [htokens] using hfirst
    | some tokens =>
      rw [htokens, Option.bind_some] at hfirst
      cases hentered : layout.enter tokens with
      | none =>
        rw [hentered] at hfirst
        cases hmore : tokensOf pieces <;> simpa [hmore, enter_append, hentered] using hfirst
      | some entered =>
        rw [hentered] at hfirst
        have hall := hfirst.trans (ih _ hpieces)
        cases hmore : tokensOf pieces with
        | none => simpa [hmore] using hall
        | some more =>
          cases hrest : entered.2.enter more <;>
            simpa [hmore, enter_append, hentered, hrest, behind] using hall

/-! ## Whole lines -/

theorem readMargin_spaces (indent : Nat) (margin : Margin) (hgap : isGap c = false)
    (hbackslash : c ≠ '\\') :
    readMargin margin (List.replicate indent ' ' ++ c :: rest) =
      some (⟨margin.column + indent, margin.tabless + indent, margin.continued,
        margin.lineBreaks⟩, c :: rest) := by
  induction indent generalizing margin with
  | zero =>
    simp only [isGap, Bool.or_eq_false_iff, beq_eq_false_iff_ne] at hgap
    obtain ⟨⟨hspace, htab⟩, hfeed⟩ := hgap
    rw [List.replicate_zero, List.nil_append]
    unfold readMargin
    split <;> simp_all
  | succ indent ih =>
    rw [List.replicate_succ, List.cons_append, readMargin, ih]
    simp [Nat.add_assoc, Nat.add_comm 1]

theorem reads_blank (indent : Nat) :
    Reads ⟨true, layout, List.replicate indent ' ' ++ '\n' :: rest⟩
      (some ([], ⟨true, layout.nextLine, rest⟩)) := by
  refine .turn (by grind [Place.cost]) fun fuel => ?_
  unfold Place.read
  rw [readTokens, readMargin_spaces indent _ rfl (by decide)]
  cases h : readTokens fuel true layout.nextLine rest <;>
    simp_all [skipComment, Layout.nextLine]

/-- What opens a line that is not blank. -/
theorem read_open (fuel indent : Nat) (h : opensToken c = true) :
    (Place.mk true layout (List.replicate indent ' ' ++ c :: rest)).read (fuel + 1) =
      ((layout.open indent).map (behind (c :: rest))).bind fun read =>
        (read.2.read fuel).map (read.1 ++ ·) := by
  simp only [opensToken, Bool.and_eq_true, Bool.not_eq_true', bne_iff_ne] at h
  obtain ⟨⟨⟨hgap, hbackslash⟩, hnewline⟩, hcomment⟩ := h
  unfold Place.read
  rw [readTokens, readMargin_spaces indent _ hgap hbackslash, Option.bind_eq_bind,
    Option.bind_some]
  dsimp only
  rw [skipComment_of_ne hcomment]
  split
  · next h => exact absurd (List.cons.inj h).1 hnewline
  · unfold Layout.open
    simp only [Nat.zero_add, Nat.add_zero]
    by_cases hbrackets : layout.brackets.isEmpty = true
    · rw [if_pos hbrackets, if_pos hbrackets]
      cases indentation ⟨indent, indent, 0, 0⟩ layout with
      | none => rfl
      | some opened => cases h : readTokens fuel false opened.2 (c :: rest) <;> simp [behind, h]
    · rw [if_neg hbrackets, if_neg hbrackets]
      cases h : readTokens fuel false layout (c :: rest) <;> simp [behind, h]

variable (layout) (rest) in
theorem reads_open (indent : Nat) (h : opensToken c = true) :
    Reads ⟨true, layout, List.replicate indent ' ' ++ c :: rest⟩
      ((layout.open indent).map (behind (c :: rest))) := by
  cases hopen : layout.open indent with
  | none =>
    refine .fail fun fuel => ?_
    cases fuel with
    | zero => rfl
    | succ fuel => rw [read_open fuel indent h, hopen]; rfl
  | some opened =>
    refine .turn (by grind [Place.cost]) fun fuel => ?_
    rw [read_open fuel indent h, hopen]
    rfl

theorem reads_close : Reads ⟨false, layout, '\n' :: rest⟩
    (some (layout.close.1, ⟨true, layout.close.2, rest⟩)) := by
  refine .turn (by grind [Place.cost]) fun fuel => ?_
  unfold Place.read Layout.close
  rw [readTokens, List.dropWhile_cons_of_neg (by decide), skipComment_of_ne (by decide)]
  by_cases hbrackets : layout.brackets.isEmpty = true
  · cases h : readTokens fuel true layout.nextLine rest <;> simp_all [Layout.nextLine]
  · cases h : readTokens fuel true layout.nextLine rest <;> simp_all [Layout.nextLine]

/-- The place on the next line behind tokens. -/
def below (rest : List Char) (read : List Lexeme × Layout) : List Lexeme × Place :=
  (read.1, ⟨true, read.2, rest⟩)

variable (layout) (rest) in
/-- A line is read as it is spelled. -/
theorem reads_line {line : Line} (h : line.isSpelled = true) :
    Reads ⟨true, layout, line.letters ++ '\n' :: rest⟩
      ((readLine layout line).map (below rest)) := by
  obtain ⟨indent, pieces⟩ := line
  simp only [Line.isSpelled, Bool.and_eq_true] at h
  obtain ⟨⟨hpieces, hhead⟩, hempty⟩ := h
  unfold readLine Line.letters
  dsimp only at hpieces hhead hempty ⊢
  rw [List.append_assoc]
  cases hspell : spell pieces with
  | nil =>
    obtain rfl : pieces = [] := by simpa [hspell] using hempty
    exact reads_blank indent
  | cons c more =>
    have hne : pieces.isEmpty = false := by
      cases pieces with
      | nil => cases hspell
      | cons piece pieces => rfl
    have hopens : opensToken c = true := by simpa [hspell, opensToken] using hhead
    have hopened := reads_open layout (more ++ '\n' :: rest) indent hopens
    have hread (layout : Layout) := reads_pieces layout rest hpieces
    simp only [hspell, List.cons_append] at hread
    rw [if_neg (by simp [hne]), List.cons_append]
    cases hopen : layout.open indent with
    | none =>
      rw [hopen] at hopened
      cases tokensOf pieces <;> simpa using hopened
    | some opened =>
      rw [hopen] at hopened
      have hinner := hopened.trans (hread opened.2)
      cases htokens : tokensOf pieces with
      | none => simpa [htokens] using hinner
      | some tokens =>
        cases hentered : opened.2.enter tokens with
        | none => simpa [htokens, hentered] using hinner
        | some entered =>
          rw [htokens, Option.bind_some, hentered] at hinner
          simpa [hentered, below, behind] using hinner.trans reads_close

variable (layout) in
/-- Lines are read one after the other. -/
theorem reads_lines {lines : List Line} (h : ∀ line ∈ lines, line.isSpelled = true) :
    Reads ⟨true, layout, spellLines lines ++ rest⟩ ((readLines layout lines).map (below rest)) := by
  induction lines generalizing layout with
  | nil => exact .refl _
  | cons line lines ih =>
    obtain ⟨hline, hlines⟩ := List.forall_mem_cons.mp h
    have hfirst := reads_line layout (spellLines lines ++ rest) hline
    have hspell : spellLines (line :: lines) ++ rest =
        line.letters ++ '\n' :: (spellLines lines ++ rest) := by
      simp [spellLines]
    rw [hspell, readLines]
    cases hread : readLine layout line with
    | none => simpa [hread] using hfirst
    | some read =>
      rw [hread] at hfirst
      have hall := hfirst.trans (ih _ hlines)
      cases hmore : readLines read.2 lines <;> simpa [hmore, below] using hall

theorem brackets_indentation {margin : Margin} {opened : List Token × Layout}
    (h : indentation margin layout = some opened) : opened.2.brackets = layout.brackets := by
  unfold indentation at h
  dsimp only at h
  repeat' split at h
  all_goals first
    | (cases h; rfl)
    | cases h

/-- The end of a text. -/
theorem read_finish (fuel : Nat) :
    (Place.mk true layout []).read (fuel + 2) = layout.finish := by
  unfold Place.read Layout.finish Layout.open
  rw [readTokens]
  simp only [readMargin, Option.bind_eq_bind, Option.bind_some, skipComment, Nat.add_zero]
  by_cases hbrackets : layout.brackets.isEmpty = true
  · simp only [hbrackets, if_true]
    cases hclosed : indentation ⟨0, 0, 0, 0⟩ layout with
    | none => rfl
    | some closed =>
      have hsame : closed.2.brackets.isEmpty = true := by
        rw [brackets_indentation hclosed, hbrackets]
      simp [readTokens, skipComment, List.isEmpty_iff.mp hsame]
  · have hopen : layout.brackets ≠ [] := by simpa using hbrackets
    simp [readTokens, skipComment, hopen]

end Lexer

/-! ## Texts of lines -/

theorem printed_spell {pieces : List Piece} {next : Char} (h : keepApart next pieces = true) :
    ∀ c ∈ spell pieces, c = '\n' ∨ 32 ≤ c.toNat := by
  induction pieces with
  | nil => exact fun _ hc => absurd hc List.not_mem_nil
  | cons piece pieces ih =>
    obtain ⟨hpiece, hpieces⟩ := Bool.and_eq_true_iff.mp h
    rw [spell_cons]
    exact List.forall_mem_append.mpr ⟨Piece.printed_letters hpiece, ih hpieces⟩

/-- The control characters of well spelled lines are their ends. -/
theorem printed_spellLines {lines : List Line} (h : ∀ line ∈ lines, line.isSpelled = true) :
    ∀ c ∈ spellLines lines, c = '\n' ∨ 32 ≤ c.toNat := by
  intro c hc
  obtain ⟨line, hline, hc⟩ := List.mem_flatMap.mp hc
  have hspelled := h line hline
  simp only [Line.isSpelled, Bool.and_eq_true] at hspelled
  simp only [Line.letters, List.mem_append, List.mem_replicate, List.mem_singleton] at hc
  rcases hc with (⟨-, rfl⟩ | hc) | rfl
  · exact .inr (by decide)
  · exact printed_spell hspelled.1.1 c hc
  · exact .inl rfl

theorem mem_endLine {text : List Char} {c : Char} (h : c ∈ text) : c ∈ Lexer.endLine text := by
  unfold Lexer.endLine
  split
  · exact h
  · exact List.mem_append_left _ h

/-- No control character but a newline is in a text of well spelled lines. -/
theorem notMem_of_endLine {text : List Char} {lines : List Line}
    (htext : Lexer.endLine text = spellLines lines)
    (hlines : ∀ line ∈ lines, line.isSpelled = true) {c : Char} (hc : c.toNat < 32)
    (hnewline : c ≠ '\n') : c ∉ text := by
  intro hmem
  obtain h | h := printed_spellLines hlines c (htext ▸ mem_endLine hmem)
  · exact hnewline h
  · omega

/-- The tokens of a text follow from its lines. -/
theorem tokens?_eq_readLines {text : List Char} {lines : List Line}
    (htext : Lexer.endLine text = spellLines lines)
    (hlines : ∀ line ∈ lines, line.isSpelled = true) :
    tokens? text = (Lexer.readLines .initial lines).bind fun read =>
      read.2.finish.map (read.1 ++ ·) := by
  have hunified : unifyLineEnds text = text :=
    unifyLineEnds_of_not_mem (notMem_of_endLine htext hlines (by decide) (by decide))
  obtain ⟨turns, hcost, hread⟩ :=
    Lexer.reads_lines .initial hlines
  rw [List.append_nil] at hcost hread
  unfold tokens?
  rw [hunified, htext]
  change (Lexer.Place.mk true .initial (spellLines lines)).read _ = _
  cases hlayout : Lexer.readLines .initial lines with
  | none =>
    simp only [hlayout, Option.map_none, Option.elim_none, Lexer.Place.cost] at hcost hread
    obtain ⟨fuel, hfuel⟩ : ∃ fuel, 2 * (spellLines lines).length + 2 = turns + fuel :=
      ⟨2 * (spellLines lines).length + 2 - turns, by simp at hcost; omega⟩
    rw [hfuel, hread]
    rfl
  | some read =>
    simp only [hlayout, Option.map_some, Option.elim_some, Lexer.Place.cost, Lexer.below] at hcost hread
    obtain ⟨fuel, hfuel⟩ : ∃ fuel, 2 * (spellLines lines).length + 2 = turns + (fuel + 2) :=
      ⟨2 * (spellLines lines).length - turns, by simp at hcost; omega⟩
    rw [hfuel, hread, Option.bind_some, Lexer.read_finish]
    rfl

end Registrar.Source
