import Registrar.Proofs.Catalogue.Normal
import Registrar.Proofs.Parser.Unrolled
import Registrar.Proofs.Source.Abreast

/-! # Canonical form preserves modules

Putting a module into canonical form takes blanks and newlines from it, and says nothing else than
the module did: the tokens stay, for the reading of the canonical text keeps abreast with that of
the source. Two things are asked of the source: only newlines and carriage returns end its lines,
and its string literals are as canonical text may have them.
-/

namespace Registrar

namespace Source

/-! ## Texts of the same tokens -/

theorem twins_of_map_token {good : Token → Prop} {lexemes others : List Lexeme}
    (hsame : others.map (·.token) = lexemes.map (·.token))
    (hgood : ∀ lexeme ∈ lexemes, good lexeme.token) : Parser.Twins good lexemes others := by
  induction lexemes generalizing others with
  | nil =>
    obtain rfl := List.map_eq_nil_iff.mp hsame
    exact .nil
  | cons lexeme lexemes ih =>
    obtain ⟨hlexeme, hgood⟩ := List.forall_mem_cons.mp hgood
    obtain ⟨other, others, rfl, hother, hothers⟩ := List.map_eq_cons_iff.mp hsame
    exact .cons ⟨hother.symm, hlexeme⟩ (ih hothers hgood)

variable {source text : List Char} {lexemes others : List Lexeme}

/-- Texts of the same tokens are the same module but for positions, or none. -/
theorem rel_parseModule? (hsource : tokens? source = some lexemes)
    (htext : tokens? text = some others) (hsame : others.map (·.token) = lexemes.map (·.token))
    (hnull : text.contains '\x00' = source.contains '\x00') :
    Option.Rel (fun body other => bareModule other = bareModule body) (parseModule? source)
      (parseModule? text) := by
  obtain ⟨hweigh, hspelled⟩ := tokens?_spec hsource
  obtain ⟨hweigh', -⟩ := tokens?_spec htext
  have htwins := twins_of_map_token hsame hspelled
  rw [parseModule?_eq, parseModule?_eq, hnull, hsource, htext, Option.bind_some, Option.bind_some]
  split
  · exact .none
  · have hequal := htwins.weigh_eq
    refine Parser.rel_bind (Parser.rel_module htwins (by omega) (by omega)) ?_
    rintro ⟨body, rest⟩ ⟨other, rest'⟩ ⟨hbody, hrest⟩
    dsimp only at hbody hrest ⊢
    rw [hrest]
    split
    · exact .some (Parser.bareStmts_congr hbody).symm
    · exact .none

theorem tokens_of_parseModule? {body : Module} (h : parseModule? source = some body) :
    source.contains '\x00' = false ∧ ∃ lexemes, tokens? source = some lexemes := by
  rw [parseModule?_eq] at h
  split at h
  · cases h
  · next hnull =>
    obtain ⟨lexemes, hlexemes, -⟩ := Option.bind_eq_some_iff.mp h
    exact ⟨Bool.eq_false_iff.mpr hnull, lexemes, hlexemes⟩

/-! ## What is to be seen of a text -/

/-- The last character of a text that is not blank. -/
def lastVisible? (cs : List Char) : Option Char := (cs.filter fun c => !isBlank c).getLast?

theorem filter_unifyLineEnds (cs : List Char) :
    (unifyLineEnds cs).filter (fun c => !isBlank c) = cs.filter fun c => !isBlank c := by
  fun_induction unifyLineEnds cs with
  | case1 => rfl
  | case2 cs ih | case3 cs _ ih =>
    simpa [isBlank_newline, (by decide : isBlank '\r' = true)] using ih
  | case4 c cs _ _ ih => rw [List.filter_cons, List.filter_cons, ih]

theorem filter_endLine (cs : List Char) :
    (Lexer.endLine cs).filter (fun c => !isBlank c) = cs.filter fun c => !isBlank c := by
  unfold Lexer.endLine
  split
  · rfl
  · simp [isBlank_newline]

/-- A text that hides its end ends in a backslash but for blanks. -/
theorem HidesEnd.lastVisible? (h : HidesEnd (Lexer.endLine (unifyLineEnds source))) :
    lastVisible? source = some '\\' := by
  obtain ⟨back, ⟨front, hfront⟩, hnone⟩ := h
  have hback : back.filter (fun c => !isBlank c) = [] :=
    List.filter_eq_nil_iff.mpr fun c hc => List.any_eq_false.mp hnone c hc
  unfold Source.lastVisible?
  rw [← filter_unifyLineEnds, ← filter_endLine, ← hfront, List.filter_append]
  simp [hback, isBlank_newline, (by decide : isBlank '\\' = false)]

theorem whole_endLine (cs : List Char) : Whole (Lexer.endLine cs) := by
  unfold Lexer.endLine
  split
  · next hlast => exact .inr (List.getLast?_eq_some_iff.mp (eq_of_beq hlast))
  · exact .inr ⟨cs, rfl⟩

theorem mem_of_mem_unifyLineEnds {c : Char} (h : c ∈ unifyLineEnds source) :
    c = '\n' ∨ c ∈ source ∧ c ≠ '\r' := by
  fun_induction unifyLineEnds source with
  | case1 => cases h
  | case2 cs ih | case3 cs _ ih =>
    obtain rfl | h := List.mem_cons.mp h
    · exact .inl rfl
    · exact (ih h).imp_right fun h => ⟨by simp [h.1], h.2⟩
  | case4 d cs _ hreturn ih =>
    obtain rfl | h := List.mem_cons.mp h
    · exact .inr ⟨List.mem_cons_self, hreturn⟩
    · exact (ih h).imp_right fun h => ⟨List.mem_cons_of_mem _ h.1, h.2⟩

end Source

namespace Canonical

open Source

/-- Whether only newlines and carriage returns end the lines of a text. -/
def hasPlainLines (source : String) : Bool :=
  source.toList.all fun c => !isLineBoundary c || c == '\n' || c == '\r'

/-- Whether canonical form leaves the string literals of a text alone: no blank stands before a
newline in one, and no four newlines stand in a row. -/
def leavesStrings (source : String) : Bool :=
  (tokens? source.toList).all fun lexemes => lexemes.all (·.token.isTidy)

section

variable {source : List Char}
  (hplain : ∀ c ∈ source, isLineBoundary c = true → c = '\n' ∨ c = '\r')

include hplain

theorem isLineBoundary_of_mem :
    ∀ c ∈ unifyLineEnds source, isLineBoundary c = true → c = '\n' := by
  intro c hc hboundary
  obtain rfl | ⟨hc, hne⟩ := mem_of_mem_unifyLineEnds hc
  · rfl
  · exact (hplain c hc hboundary).resolve_right hne

/-- Canonical text is the text as tidied if something is to be seen of it, and else a newline. -/
theorem normalize_cases :
    Tidied 3 (Lexer.endLine (unifyLineEnds source)) (normalize source) ∨
      isVisible (Lexer.endLine (unifyLineEnds source)) = false ∧ normalize source = ['\n'] := by
  have hlines : lines (unifyLineEnds source) = lines source := linesFrom_unifyLineEnds [] source
  have hunified := isLineBoundary_of_mem hplain
  rw [normalize_eq_tidyLines, ← hlines]
  cases hvisible : (lines (unifyLineEnds source)).any isVisible with
  | true =>
    have hne : unifyLineEnds source ≠ [] := by
      intro hnil
      rw [hnil] at hvisible
      cases hvisible
    have hspelled := flatMap_linesFrom hunified [] (.inr hne)
    rw [List.reverse_nil, List.nil_append] at hspelled
    rw [← hspelled]
    refine .inl (tidied_tidyLines 3 (fun line hline c hc => ?_) hvisible)
    rw [← Bool.not_eq_true]
    exact fun hboundary => not_mem_linesFrom hboundary List.not_mem_nil line hline hc
  | false =>
    refine .inr ⟨?_, ?_⟩
    · by_cases hnil : unifyLineEnds source = []
      · rw [hnil]
        rfl
      · rw [← hvisible, ← isVisible_flatMap, lines, flatMap_linesFrom hunified [] (.inr hnil)]
        rfl
    · unfold tidyLines
      have hnone := dropEndWhile_all [] (forall_of_invisible 3 hvisible)
      rw [List.nil_append] at hnone
      rw [hnone]
      rfl

/-- The tokens of the canonical text are those of the source, but for lines, unless the source hides
its end. -/
theorem tokens?_normalize {lexemes : List Lexeme} (hread : tokens? source = some lexemes)
    (htidy : ∀ lexeme ∈ lexemes, lexeme.token.isTidy = true) :
    (∃ others, tokens? (normalize source) = some others ∧
        others.map (·.token) = lexemes.map (·.token)) ∨
      tokens? (normalize source) = none ∧ lastVisible? source = some '\\' := by
  have hended : Lexer.endLine (unifyLineEnds (normalize source)) = normalize source := by
    rw [unifyLineEnds_of_not_mem (not_mem_normalize source), Lexer.endLine, normalize,
      List.getLast?_concat]
    rfl
  have hwhole := whole_endLine (unifyLineEnds source)
  have hcanonical : tokens? (normalize source) =
      (Lexer.Place.mk true .initial (normalize source)).readAll := by
    rw [Lexer.tokens?_eq_readAll, hended]
  have hread' : (Lexer.Place.mk true .initial (Lexer.endLine (unifyLineEnds source))).readAll =
      some lexemes := hread
  rw [hcanonical]
  obtain htidied | ⟨hnone, hblank⟩ := normalize_cases hplain
  · have habreast : Lexer.Abreast ⟨true, .initial, Lexer.endLine (unifyLineEnds source)⟩
        ⟨true, Lexer.Layout.initial.onLine 1, normalize source⟩ := .start (by decide) htidied hwhole
    exact (habreast.readAll hread' htidy).imp_right fun h => ⟨h.1, h.2.lastVisible?⟩
  · have habreast : Lexer.Abreast ⟨true, .initial, Lexer.endLine (unifyLineEnds source)⟩
        ⟨true, Lexer.Layout.initial.onLine 2, []⟩ :=
      .start Nat.one_pos (.finish Nat.one_pos hnone) hwhole
    have hline : (Lexer.Place.mk true .initial ['\n']).readAll =
        (Lexer.Place.mk true (Lexer.Layout.initial.onLine 2) []).readAll := by
      rw [Lexer.Place.readAll_eq, Lexer.Place.turn_start, Lexer.readMargin_newline,
        Option.bind_some, Lexer.skipComment_of_ne (by decide), Lexer.turnBehind_newline,
        Option.bind_some, Lexer.Place.readBehind_nil]
      rfl
    rw [hblank, hline]
    exact (habreast.readAll hread' htidy).imp_right fun h => ⟨h.1, h.2.lastVisible?⟩

/-- Canonical form adds no character but newlines. -/
theorem mem_of_mem_normalize {c : Char} (h : c ∈ normalize source) : c = '\n' ∨ c ∈ source := by
  obtain htidied | ⟨-, hblank⟩ := normalize_cases hplain
  · have hmem := htidied.sublist.mem h
    have hunified : c = '\n' ∨ c ∈ unifyLineEnds source := by
      unfold Lexer.endLine at hmem
      split at hmem
      · exact .inr hmem
      · simpa [or_comm] using hmem
    obtain rfl | hmem := hunified
    · exact .inl rfl
    · exact (mem_of_mem_unifyLineEnds hmem).imp_right And.left
  · rw [hblank] at h
    exact .inl (List.mem_singleton.mp h)

end

/-- Canonical form preserves modules: the canonical text of a module is the same module but for
positions. It is no module at all only if the source ends in a backslash. -/
theorem ofSource?_preserves {source : String} {body : Module}
    (hsource : parseModule? source.toList = some body) (hplain : hasPlainLines source = true)
    (hstrings : leavesStrings source = true) :
    ∃ text, ofSource? source = some text ∧
      (∀ other, parseModule? text.toList = some other → bareModule other = bareModule body) ∧
      (lastVisible? source.toList ≠ some '\\' → ∃ other, parseModule? text.toList = some other) := by
  have hplain : ∀ c ∈ source.toList, isLineBoundary c = true → c = '\n' ∨ c = '\r' := by
    intro c hc hboundary
    simpa [hboundary] using List.all_eq_true.mp hplain c hc
  refine ⟨String.ofList (normalize source.toList), by rw [ofSource?, hsource]; rfl, ?_⟩
  rw [String.toList_ofList]
  obtain ⟨hnull, lexemes, hlexemes⟩ := tokens_of_parseModule? hsource
  have htidy : ∀ lexeme ∈ lexemes, lexeme.token.isTidy = true := by
    simpa [leavesStrings, hlexemes] using hstrings
  have hnull' : (normalize source.toList).contains '\x00' = false := by
    rw [← Bool.not_eq_true, List.contains_iff_mem] at hnull ⊢
    intro hmem
    exact (mem_of_mem_normalize hplain hmem).elim (by decide) hnull
  obtain ⟨others, hothers, hsame⟩ | ⟨hnone, hlast⟩ := tokens?_normalize hplain hlexemes htidy
  · have hrel := rel_parseModule? hlexemes hothers hsame (hnull'.trans hnull.symm)
    rw [hsource] at hrel
    cases hparsed : parseModule? (normalize source.toList) with
    | none =>
      rw [hparsed] at hrel
      cases hrel
    | some other =>
      rw [hparsed] at hrel
      obtain hbare := Option.rel_some_some.mp hrel
      exact ⟨fun _ h => Option.some.inj h ▸ hbare, fun _ => ⟨other, rfl⟩⟩
  · have hunread : parseModule? (normalize source.toList) = none := by
      rw [parseModule?_eq, hnone]
      split <;> rfl
    rw [hunread]
    exact ⟨nofun, fun hne => absurd hlast hne⟩

/-- A source with blanks at the ends of lines and more blank lines than canonical text has. -/
def blanksBetween : String := "x = '''a\n\n b'''  # c \n \n\n\n\ny = 1 \n\n"

theorem blanksBetween_preserved :
    ∃ body text other, parseModule? blanksBetween.toList = some body ∧
      ofSource? blanksBetween = some text ∧ parseModule? text.toList = some other ∧
      bareModule other = bareModule body := by
  obtain ⟨body, hbody⟩ := Option.isSome_iff_exists.mp
    (by decide +kernel : (parseModule? blanksBetween.toList).isSome = true)
  obtain ⟨text, htext, hbare, hparses⟩ :=
    ofSource?_preserves hbody (by decide +kernel) (by decide +kernel)
  obtain ⟨other, hother⟩ := hparses (by decide +kernel)
  exact ⟨body, text, other, hbody, htext, hother, hbare other hother⟩

/-! ## What canonical form does not preserve -/

/-- Whether the canonical text of a module is the same module but for positions. -/
def Preserves (source : String) : Prop :=
  ∀ text, ofSource? source = some text → ∃ body other, parseModule? source.toList = some body ∧
    parseModule? text.toList = some other ∧ bareModule other = bareModule body

/-- The text that a statement assigns. -/
def assigned? : Stmt → Option (List Nat)
  | .assign _ (.constant (.text points)) => some points
  | _ => none

theorem assigned?_bare (statement : Stmt) : assigned? statement.bare = assigned? statement := by
  cases statement with
  | assign targets value =>
    cases value with
    | constant value => cases value <;> rfl
    | _ => rfl
  | _ => rfl

theorem map_assigned?_bareModule (body : Module) :
    (bareModule body).map assigned? = body.map assigned? := by
  rw [bareModule, Parser.bareStmts_eq_map, List.map_map]
  exact List.map_congr_left fun statement _ => assigned?_bare statement

theorem not_preserves {source : String} (text : String) (htext : ofSource? source = some text)
    (hne : (parseModule? text.toList).map (·.map assigned?) ≠
      (parseModule? source.toList).map (·.map assigned?)) : ¬Preserves source := by
  intro h
  obtain ⟨body, other, hbody, hother, hbare⟩ := h text htext
  rw [hbody, hother, Option.map_some, Option.map_some, ← map_assigned?_bareModule other, hbare,
    map_assigned?_bareModule] at hne
  exact hne rfl

/-- Canonical form changes string literals: a blank before a newline goes, and so does the fourth of
newlines in a row. It cuts lines at form feeds, also in comments, and it takes the blank line from
under a backslash at the end. -/
theorem modules_not_preserved :
    ¬Preserves "x = '''a \nb'''\n" ∧ ¬Preserves "x = '''a\n\n\n\nb'''\n" ∧
      ¬Preserves "x = 'a'  # b\x0cc\n" ∧ ¬Preserves "x = 'a' \\\n\n" :=
  ⟨not_preserves "x = '''a\nb'''\n" (by decide +kernel) (by decide +kernel),
    not_preserves "x = '''a\n\n\nb'''\n" (by decide +kernel) (by decide +kernel),
    not_preserves "x = 'a'  # b\nc\n" (by decide +kernel) (by decide +kernel),
    not_preserves "x = 'a' \\\n" (by decide +kernel) (by decide +kernel)⟩

end Canonical

end Registrar
