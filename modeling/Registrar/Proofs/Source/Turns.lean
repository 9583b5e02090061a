import Registrar.Proofs.Parser.Tokens
import Registrar.Proofs.Source.Reading

/-! # Turns of the reading

A turn of the reading takes tokens from the head of a text and gets to a place from which less is to
be read. So the reading from a place is over before its fuel is, and what it gives is what the first
turn gives and what is read from the next place.
-/

namespace Registrar.Source.Lexer

/-- What one turn takes: some tokens, and the place it gets to unless the text is over. -/
abbrev Turn := List Lexeme × Option Place

/-- The turn behind the indentation of a line and a comment. -/
def turnBehind (margin : Margin) (layout : Layout) (text : List Char) : Option Turn :=
  if text.head? = some '\n' then some ([], some ⟨true, layout.nextLine, text.tail⟩)
  else if layout.brackets.isEmpty then
    (indentation margin layout).map fun (tokens, layout) =>
      (tokens.map (⟨·, layout.line⟩), some ⟨false, layout, text⟩)
  else some ([], some ⟨false, layout, text⟩)

/-- The turn behind a backslash, which has to hide the end of a line. -/
def turnHidden (layout : Layout) (text : List Char) : Option Turn :=
  match text with
  | '\n' :: c :: rest => some ([], some ⟨false, layout.nextLine, c :: rest⟩)
  | _ => none

/-- The turn that takes a token. -/
def turnToken (layout : Layout) (text : List Char) : Option Turn :=
  (readToken text).bind fun (token, rest) =>
    (layout.pass token).map fun next => ([⟨token, layout.line⟩], some ⟨false, next, rest⟩)

/-- The turn within a line, behind blanks and a comment. -/
def turnWithin (layout : Layout) (text : List Char) : Option Turn :=
  match text with
  | [] => if layout.brackets.isEmpty then some ([⟨.finish, layout.line⟩], none) else none
  | c :: rest =>
    if c = '\n' then some (layout.close.1, some ⟨true, layout.nextLine, rest⟩)
    else if c = '\\' then turnHidden layout rest
    else turnToken layout (c :: rest)

namespace Place

/-- One turn of the reading from a place. -/
def turn : Place → Option Turn
  | ⟨true, layout, cs⟩ =>
    (readMargin ⟨0, 0, 0, 0⟩ cs).bind fun (margin, rest) =>
      turnBehind margin { layout with line := layout.line + margin.lineBreaks } (skipComment rest)
  | ⟨false, layout, cs⟩ => turnWithin layout (skipComment (cs.dropWhile isGap))

/-- What is read from a place with fuel enough. -/
def readAll (place : Place) : Option (List Lexeme) := place.read (place.cost + 1)

/-- What is read behind a turn. -/
def readBehind (read : Place → Option (List Lexeme)) (turned : Turn) : Option (List Lexeme) :=
  turned.2.elim (some turned.1) fun next => (read next).map (turned.1 ++ ·)

variable {place next : Place} {layout : Layout} {cs : List Char} {lexemes : List Lexeme}

theorem turn_start (layout : Layout) (cs : List Char) : (Place.mk true layout cs).turn =
    (readMargin ⟨0, 0, 0, 0⟩ cs).bind fun found => turnBehind found.1
      { layout with line := layout.line + found.1.lineBreaks } (skipComment found.2) := rfl

theorem turn_within (layout : Layout) (cs : List Char) : (Place.mk false layout cs).turn =
    turnWithin layout (skipComment (cs.dropWhile isGap)) := rfl

theorem map_nil_append (read : Option (List Lexeme)) : read.map ([] ++ ·) = read := by
  cases read <;> rfl

theorem readBehind_nil (read : Place → Option (List Lexeme)) (next : Place) :
    readBehind read ([], some next) = read next := map_nil_append _

theorem read_start (fuel : Nat) (layout : Layout) (cs : List Char) :
    (Place.mk true layout cs).read (fuel + 1) =
      (Place.mk true layout cs).turn.bind (readBehind (·.read fuel)) := by
  rw [turn_start]
  unfold Place.read
  rw [readTokens]
  cases readMargin ⟨0, 0, 0, 0⟩ cs with
  | none => rfl
  | some found =>
    simp only [Option.bind_eq_bind, Option.bind_some]
    generalize skipComment found.2 = text
    unfold turnBehind
    split
    · exact (map_nil_append _).symm
    · next hother =>
      have hhead : ¬text.head? = some '\n' := by
        intro hhead
        obtain ⟨rest, rfl⟩ := List.head?_eq_some_iff.mp hhead
        exact hother rest rfl
      rw [if_neg hhead]
      split
      · cases indentation found.1 _ with
        | none => rfl
        | some opened =>
          cases h : readTokens fuel false opened.2 text <;> simp [h, readBehind]
      · exact (map_nil_append _).symm

theorem read_within (fuel : Nat) (layout : Layout) (cs : List Char) :
    (Place.mk false layout cs).read (fuel + 1) =
      (Place.mk false layout cs).turn.bind (readBehind (·.read fuel)) := by
  rw [turn_within]
  unfold Place.read
  rw [readTokens]
  generalize skipComment (cs.dropWhile isGap) = text
  unfold turnWithin
  split
  · split <;> rfl
  · next rest =>
    dsimp only
    rw [if_pos rfl]
    unfold Layout.close
    split
    · cases h : readTokens fuel true layout.nextLine rest <;>
        simp_all [Layout.nextLine, readBehind]
    · exact (map_nil_append _).symm
  · dsimp only
    rw [if_neg (by decide), if_pos rfl]
    split
    · exact (map_nil_append _).symm
    · next hother => rw [turnHidden.eq_2 _ _ hother]; rfl
  · next hnil hnewline hbackslash =>
    cases text with
    | nil => exact absurd rfl hnil
    | cons c rest =>
      dsimp only
      rw [if_neg (by rintro rfl; exact hnewline _ rfl),
        if_neg (by rintro rfl; exact hbackslash _ rfl)]
      unfold turnToken Layout.pass
      cases readToken (c :: rest) with
      | none => rfl
      | some found =>
        cases hnext : layout.after found.1 with
        | none => simp [hnext]
        | some next =>
          simp only [Option.bind_eq_bind, Option.bind_some, hnext, Option.map_some, readBehind]
          cases h : readTokens fuel false ⟨next.indents, next.brackets,
            next.line + lineBreaks found.1⟩ found.2 <;> simp [h]

/-- What is read from a place is what a turn takes and what is read from the next place. -/
theorem read_succ (place : Place) (fuel : Nat) :
    place.read (fuel + 1) = place.turn.bind (readBehind (·.read fuel)) := by
  obtain ⟨_ | _, layout, cs⟩ := place
  · exact read_within fuel layout cs
  · exact read_start fuel layout cs

/-! ## The end of the reading -/

theorem rest_of_turnBehind {margin : Margin} {text : List Char} {turned : Turn}
    (h : turnBehind margin layout text = some turned) : ∃ next, turned.2 = some next ∧
      next.rest <:+ text ∧ (next.atStart = true → next.rest.length < text.length) := by
  unfold turnBehind at h
  split at h
  · next hhead =>
    obtain ⟨rest, rfl⟩ := List.head?_eq_some_iff.mp hhead
    obtain rfl := Option.some.inj h
    exact ⟨_, rfl, List.suffix_cons _ _, fun _ => by simp⟩
  · split at h
    · obtain ⟨opened, -, rfl⟩ := Option.map_eq_some_iff.mp h
      exact ⟨_, rfl, List.suffix_rfl, nofun⟩
    · obtain rfl := Option.some.inj h
      exact ⟨_, rfl, List.suffix_rfl, nofun⟩

theorem rest_of_turnWithin {text : List Char} {turned : Turn}
    (h : turnWithin layout text = some turned) :
    ∀ next ∈ turned.2, next.rest <:+ text ∧ next.rest.length < text.length := by
  cases text with
  | nil =>
    simp only [turnWithin] at h
    split at h
    · obtain rfl := Option.some.inj h
      nofun
    · cases h
  | cons c rest =>
    simp only [turnWithin] at h
    split at h
    · obtain rfl := Option.some.inj h
      rintro _ ⟨⟩
      exact ⟨List.suffix_cons _ _, by simp⟩
    · split at h
      · unfold turnHidden at h
        split at h
        · obtain rfl := Option.some.inj h
          rintro _ ⟨⟩
          exact ⟨(List.suffix_cons _ _).trans (List.suffix_cons _ _), by simp⟩
        · cases h
      · obtain ⟨⟨token, rest⟩, hread, h⟩ := Option.bind_eq_some_iff.mp h
        obtain ⟨next, -, rfl⟩ := Option.map_eq_some_iff.mp h
        obtain ⟨-, hsuffix, hlength, -⟩ := readToken_spec hread
        rintro _ ⟨⟩
        exact ⟨hsuffix, hlength⟩

/-- A turn leaves less to be read. -/
theorem rest_of_turn {turned : Turn} (h : place.turn = some turned) (hnext : next ∈ turned.2) :
    next.rest <:+ place.rest ∧ next.cost < place.cost := by
  obtain ⟨atStart, layout, cs⟩ := place
  cases atStart with
  | true =>
    rw [turn_start] at h
    obtain ⟨found, hmargin, h⟩ := Option.bind_eq_some_iff.mp h
    obtain ⟨after, hafter, hsuffix, hlength⟩ := rest_of_turnBehind h
    obtain rfl : next = after := Option.some.inj (hnext.symm.trans hafter)
    have hread := (skipComment_suffix found.2).trans (readMargin_suffix hmargin).1
    have hall := hsuffix.trans hread
    refine ⟨hall, ?_⟩
    have hle := hall.length_le
    have hshorter := hread.length_le
    unfold cost
    cases hstart : next.atStart with
    | true =>
      have hless := hlength hstart
      simp only [Bool.toNat_true] at *
      omega
    | false => simp only [Bool.toNat_true, Bool.toNat_false] at *; omega
  | false =>
    rw [turn_within] at h
    obtain ⟨hsuffix, hlength⟩ := rest_of_turnWithin h next hnext
    have hread := (skipComment_suffix (cs.dropWhile isGap)).trans (List.dropWhile_suffix isGap)
    have hshorter := hread.length_le
    refine ⟨hsuffix.trans hread, ?_⟩
    unfold cost
    have hstart := next.atStart.toNat_le
    simp only [Bool.toNat_false] at *
    omega

theorem readBehind_congr {f g : Place → Option (List Lexeme)} {turned : Turn}
    (h : ∀ next ∈ turned.2, f next = g next) : readBehind f turned = readBehind g turned := by
  obtain ⟨lexemes, next⟩ := turned
  cases next with
  | none => rfl
  | some next => simp only [readBehind, Option.elim, h next rfl]

/-- Fuel beyond the cost of a place is not used. -/
theorem read_eq_readAll {fuel : Nat} (hfuel : place.cost < fuel) :
    place.read fuel = place.readAll := by
  induction hcost : place.cost using Nat.strongRecOn generalizing place fuel with
  | ind cost ih =>
    obtain ⟨fuel, rfl⟩ := Nat.exists_eq_succ_of_ne_zero (Nat.ne_of_gt (Nat.zero_lt_of_lt hfuel))
    unfold readAll
    rw [read_succ, read_succ]
    refine Option.bind_congr fun turned hturned => readBehind_congr fun next hnext => ?_
    obtain ⟨-, hless⟩ := rest_of_turn hturned hnext
    rw [ih next.cost (hcost ▸ hless) (by omega) rfl, ih next.cost (hcost ▸ hless) hless rfl]

/-- What is read from a place is what a turn takes and what is read from the next place. -/
theorem readAll_eq (place : Place) : place.readAll = place.turn.bind (readBehind readAll) := by
  unfold readAll
  rw [read_succ]
  refine Option.bind_congr fun turned hturned => readBehind_congr fun next hnext => ?_
  exact read_eq_readAll (rest_of_turn hturned hnext).2

end Place

/-- The tokens of a text are read from its start. -/
theorem tokens?_eq_readAll (text : List Char) :
    tokens? text = (Place.mk true .initial (endLine (unifyLineEnds text))).readAll := rfl

end Registrar.Source.Lexer
