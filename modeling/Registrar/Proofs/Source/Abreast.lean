import Registrar.Proofs.Catalogue.Lines
import Registrar.Proofs.Source.Kept
import Registrar.Proofs.Source.Turns

/-! # Tidied texts are read abreast

The reading of a tidied text keeps abreast with that of the text: each turn takes the same tokens
from both, but for turns over blank lines that the tidied text lacks. It gets stuck only where a
backslash hides the end of the last line, as there has to be a line below.
-/

namespace Registrar

variable {cs rest : List Char}

theorem Whole.of_suffix (h : Whole cs) (hsuffix : rest <:+ cs) : Whole rest := by
  obtain ⟨front, rfl⟩ := hsuffix
  obtain h | ⟨start, h⟩ := h
  · exact .inl (List.append_eq_nil_iff.mp h).2
  · obtain rfl | ⟨init, last, rfl⟩ := List.eq_nil_or_concat' rest
    · exact .inl rfl
    · rw [← List.append_assoc] at h
      obtain ⟨-, hlast⟩ := List.append_inj' h rfl
      exact .inr ⟨init, by rw [hlast]⟩

namespace Source

/-- Whether a backslash hides the end of the last line of a text that is not blank. -/
def HidesEnd (cs : List Char) : Prop := ∃ back, '\\' :: '\n' :: back <:+ cs ∧ isVisible back = false

theorem HidesEnd.of_suffix (h : HidesEnd rest) (hsuffix : rest <:+ cs) : HidesEnd cs := by
  obtain ⟨back, hback, hnone⟩ := h
  exact ⟨back, hback.trans hsuffix, hnone⟩

theorem isVisible_of_suffix (hnone : isVisible cs = false) (hsuffix : rest <:+ cs) :
    isVisible rest = false := by
  obtain ⟨front, rfl⟩ := hsuffix
  rw [isVisible, List.any_append, Bool.or_eq_false_iff] at hnone
  exact hnone.2

theorem endsLine_of_whole (hwhole : Whole cs) (hne : cs ≠ []) (hnone : isVisible cs = false) :
    endsLine cs = true := by
  obtain rfl | ⟨start, rfl⟩ := hwhole
  · exact absurd rfl hne
  · clear hne
    induction start with
    | nil => rfl
    | cons c start ih =>
      rw [List.cons_append, isVisible_cons, Bool.or_eq_false_iff, Bool.not_eq_false'] at hnone
      rw [List.cons_append, endsLine, hnone.1, ih hnone.2]
      simp

namespace Lexer

/-! ## Margins -/

variable {run : Nat} {c : Char} {ds : List Char} {margin found : Margin}

theorem readMargin_stop (hgap : isGap c = false) (hescape : c ≠ '\\') :
    readMargin margin (c :: cs) = some (margin, c :: cs) := by
  simp only [isGap, Bool.or_eq_false_iff, beq_eq_false_iff_ne] at hgap
  obtain ⟨⟨hspace, htab⟩, hfeed⟩ := hgap
  unfold readMargin
  split <;> simp_all

/-- The margin ends before what is neither a gap nor a backslash. -/
theorem head_of_readMargin (h : readMargin margin cs = some (found, c :: rest)) :
    isGap c = false ∧ c ≠ '\\' := by
  fun_induction readMargin margin cs with
  | case1 _ _ ih | case2 _ _ ih | case3 _ _ ih | case4 _ _ _ ih => exact ih h
  | case5 => cases h
  | case6 margin more hspace htab hfeed hhidden hescape =>
    obtain ⟨-, rfl⟩ := Prod.mk.inj (Option.some.inj h)
    have hne {d : Char} (hd : ∀ more, c :: rest = d :: more → False) : c ≠ d := by
      rintro rfl
      exact hd rest rfl
    exact ⟨by simp [isGap, hne hspace, hne htab, hne hfeed], hne hescape⟩

/-- The margin of a line without tokens is the gaps on it. -/
theorem readMargin_of_endsLine (margin : Margin) (hends : endsLine cs = true) :
    ∃ found, readMargin margin cs = some (found, cs.dropWhile isGap) := by
  fun_induction readMargin margin cs with
  | case1 _ more ih | case2 _ more ih | case3 _ more ih =>
    rw [List.dropWhile_cons_of_pos (by decide)]
    rw [endsLine_cons (by decide)] at hends
    exact ih (Bool.and_eq_true_iff.mp hends).2
  | case4 | case5 => simp [endsLine, isBlank] at hends
  | case6 margin more hspace htab hfeed hhidden hescape =>
    cases more with
    | nil => cases hends
    | cons c more =>
      have hne {d : Char} (hd : ∀ rest, c :: more = d :: rest → False) : c ≠ d := by
        rintro rfl
        exact hd more rfl
      rw [List.dropWhile_cons_of_neg (by simp [isGap, hne hspace, hne htab, hne hfeed])]
      exact ⟨margin, rfl⟩

theorem readMargin_newline : readMargin margin ('\n' :: cs) = some (margin, '\n' :: cs) :=
  readMargin_stop (by decide) (by decide)

theorem endsLine_dropWhile (hends : endsLine cs = true) : endsLine (cs.dropWhile isGap) = true := by
  induction cs with
  | nil => exact hends
  | cons c cs ih =>
    by_cases hc : isGap c = true
    · rw [List.dropWhile_cons_of_pos hc]
      have hne : c ≠ '\n' := by
        rintro rfl
        cases hc
      simp only [endsLine, beq_iff_eq, hne, Bool.or_eq_true, Bool.and_eq_true, false_or] at hends
      exact ih hends.2
    · rw [List.dropWhile_cons_of_neg hc]
      exact hends

/-- What the margin of a tidied text is, given that of the text: the same unless nothing stands on
the line, and none if the margin hides the end of the text. -/
def MarginsAlike (margin found : Margin) (cs ds rest : List Char) : Prop :=
  (∃ other others run, readMargin margin ds = some (other, others) ∧ IsLive run rest ∧
    Tidied run rest others ∧ (other = found ∨ endsLine rest = true)) ∨
  (readMargin margin ds = none ∧ HidesEnd cs)

theorem marginsAlike_of_endsLine (h : Tidied run cs ds) (hlive : IsLive run cs)
    (hends : endsLine cs = true) (hread : readMargin margin cs = some (found, rest)) :
    MarginsAlike margin found cs ds rest := by
  obtain ⟨_, hdropped⟩ := readMargin_of_endsLine margin hends
  obtain ⟨-, rfl⟩ := Prod.mk.inj (Option.some.inj (hread.symm.trans hdropped))
  obtain ⟨others, rfl⟩ := h.head_of_endsLine hlive hends
  obtain ⟨run', hlive', hrest⟩ := h.dropGaps hlive
  rw [List.dropWhile_cons_of_neg (by decide)] at hrest
  exact .inl ⟨_, _, run', readMargin_newline, hlive', hrest, .inr (endsLine_dropWhile hends)⟩

theorem MarginsAlike.gap {next : Margin} (hgap : isGap c = true)
    (hstep : ∀ rest, readMargin margin (c :: rest) = readMargin next rest)
    (ih : ∀ {run : Nat} {ds : List Char}, Tidied run cs ds → IsLive run cs →
      readMargin next cs = some (found, rest) → MarginsAlike next found cs ds rest)
    (h : Tidied run (c :: cs) ds) (hlive : IsLive run (c :: cs))
    (hread : readMargin next cs = some (found, rest)) :
    MarginsAlike margin found (c :: cs) ds rest := by
  cases hends : endsLine (c :: cs) with
  | true => exact marginsAlike_of_endsLine h hlive hends ((hstep cs).trans hread)
  | false =>
    have hne : c ≠ '\n' := by
      rintro rfl
      cases hgap
    rw [endsLine_cons hne] at hends
    cases h with
    | letter _ _ _ h =>
      obtain ⟨other, others, run', hother, halike⟩ | ⟨hother, hhides⟩ := ih h (.zero _) hread
      · exact .inl ⟨other, others, run', (hstep _).trans hother, halike⟩
      · exact .inr ⟨(hstep _).trans hother, hhides.of_suffix (List.suffix_cons _ _)⟩
    | blank _ hdropped =>
      rw [hends] at hdropped
      cases hdropped
    | newline | surplus => exact absurd rfl hne
    | finish hrun hnone => exact absurd rfl ((Tidied.finish hrun hnone).ne_nil hlive).2

theorem marginsAlike (h : Tidied run cs ds) (hlive : IsLive run cs)
    (hread : readMargin margin cs = some (found, rest)) : MarginsAlike margin found cs ds rest := by
  fun_induction readMargin margin cs generalizing run ds with
  | case1 _ _ ih | case2 _ _ ih | case3 _ _ ih =>
    exact .gap (by decide) (fun rest => by rw [readMargin]) ih h hlive hread
  | case4 margin c more ih =>
    obtain ⟨behind, rfl, hbehind⟩ := h.cons (by decide)
    have hbelow : c :: more <:+ '\\' :: '\n' :: c :: more :=
      (List.suffix_cons _ _).trans (List.suffix_cons _ _)
    obtain ⟨hlive', d, others, rfl, hothers⟩ | ⟨hnone, rfl⟩ := hbehind.underLine
    · obtain ⟨other, others, run', hother, halike⟩ | ⟨hother, hhides⟩ := ih hothers hlive' hread
      · exact .inl ⟨other, others, run', by rw [readMargin, hother], halike⟩
      · exact .inr ⟨by rw [readMargin, hother], hhides.of_suffix hbelow⟩
    · exact .inr ⟨rfl, c :: more, List.suffix_rfl, hnone⟩
  | case5 => cases hread
  | case6 margin more hspace htab hfeed hhidden hescape =>
    have hstop : readMargin margin more = some (margin, more) := by
      rw [readMargin.eq_6 margin more hspace htab hfeed hhidden hescape]
    obtain ⟨rfl, rfl⟩ := Prod.mk.inj (Option.some.inj hread)
    refine .inl ⟨margin, ds, run, ?_, hlive, h, .inl rfl⟩
    obtain ⟨c, rest, other, rfl, rfl, -, -⟩ | ⟨c, d, rest, other, rfl, rfl, -, -, rfl | rfl⟩ :=
      (h.looksLike hlive).head_cases
    · obtain ⟨hgap, hne⟩ := head_of_readMargin hstop
      exact readMargin_stop hgap hne
    · obtain ⟨hgap, hne⟩ := head_of_readMargin hstop
      exact readMargin_stop hgap hne
    · exact readMargin_newline

/-! ## Places that are read abreast -/

/-- A layout on another line. -/
def Layout.onLine (layout : Layout) (line : Nat) : Layout := { layout with line := line }

variable {layout : Layout} {line : Nat}

@[simp] theorem brackets_onLine (layout : Layout) (line : Nat) :
    (layout.onLine line).brackets = layout.brackets := rfl

theorem indentation_onLine (margin : Margin) (layout : Layout) (line : Nat) :
    indentation margin (layout.onLine line) =
      (indentation margin layout).map fun opened => (opened.1, opened.2.onLine line) := by
  unfold indentation Layout.onLine Layout.current
  dsimp only
  repeat' split
  all_goals rfl

theorem pass_onLine (layout : Layout) (line : Nat) (token : Token) :
    (layout.onLine line).pass token =
      (layout.pass token).map (·.onLine (line + lineBreaks token)) := by
  unfold Layout.pass Layout.after Layout.follow Layout.onLine
  dsimp only
  repeat' split
  all_goals rfl

/-- Places in a text and in a tidied one from which the same is to be read, but for lines. -/
inductive Abreast : Place → Place → Prop
  | start {run : Nat} {layout : Layout} {line : Nat} {cs ds : List Char} (hrun : 0 < run)
    (htext : Tidied run cs ds) (hwhole : Whole cs) :
    Abreast ⟨true, layout, cs⟩ ⟨true, layout.onLine line, ds⟩
  | within {run : Nat} {layout : Layout} {line : Nat} {cs ds : List Char} (hlive : IsLive run cs)
    (htext : Tidied run cs ds) (hwhole : Whole cs) :
    Abreast ⟨false, layout, cs⟩ ⟨false, layout.onLine line, ds⟩
  | ended {layout : Layout} {line : Nat} :
    Abreast ⟨false, layout, []⟩ ⟨false, layout.onLine line, []⟩

/-- Turns that take the same tokens and get to places that are abreast. -/
structure Turn.Alike (turned other : Turn) : Prop where
  tokens : other.1.map (·.token) = turned.1.map (·.token)
  places : Option.Rel Abreast turned.2 other.2

/-- What a turn in the text says of a place in the tidied text: there is a turn like it, or the text
hides its end and no turn is, or the turn is over a line that the tidied text lacks. -/
inductive Advances (place other : Place) (turned : Turn) : Prop
  | both (also : Turn) (hturn : other.turn = some also) (halike : turned.Alike also)
  | stuck (hturn : other.turn = none) (hhides : HidesEnd place.rest)
  | surplus {next : Place} (hturned : turned = ([], some next)) (hnext : Abreast next other)

variable {place other : Place} {turned : Turn}

/-- No turn is from a blank that ends no line. -/
theorem isBlank_of_turnWithin (h : turnWithin layout (c :: cs) ≠ none) (hnewline : c ≠ '\n') :
    isBlank c = false := by
  simp only [turnWithin, hnewline, if_false] at h
  by_cases hescape : c = '\\'
  · rw [hescape]
    decide
  · rw [if_neg hescape] at h
    unfold turnToken at h
    cases hread : readToken (c :: cs) with
    | none => simp [hread] at h
    | some found => exact isBlank_of_readToken hread

theorem isBlank_of_turn (h : (Place.mk false layout (c :: cs)).turn ≠ none) (hgap : isGap c = false)
    (hnewline : c ≠ '\n') : isBlank c = false := by
  by_cases hcomment : c = '#'
  · rw [hcomment]
    decide
  · rw [Place.turn_within, List.dropWhile_cons_of_neg (by simp [hgap]),
      skipComment_of_ne hcomment] at h
    exact isBlank_of_turnWithin h hnewline

theorem head_of_endsLine (hends : endsLine cs = true) :
    ∃ c rest, cs = c :: rest ∧ isBlank c = true := by
  cases cs with
  | nil => cases hends
  | cons c rest =>
    refine ⟨c, rest, rfl, ?_⟩
    by_cases hc : c = '\n'
    · rw [hc]
      exact isBlank_newline
    · rw [endsLine_cons hc] at hends
      exact (Bool.and_eq_true_iff.mp hends).1

theorem skipComment_of_endsLine (hends : endsLine cs = true) : skipComment cs = cs := by
  obtain ⟨c, rest, rfl, hc⟩ := head_of_endsLine hends
  exact skipComment_of_ne (ne_of_blank hc (by decide))

/-- A turn behind a margin stays on a line that is not over. -/
theorem turnBehind_other {text : List Char} (hhead : ¬text.head? = some '\n')
    (h : turnBehind margin layout text = some turned) :
    ∃ next, turned.2 = some ⟨false, next, text⟩ := by
  unfold turnBehind at h
  rw [if_neg hhead] at h
  split at h
  · obtain ⟨opened, -, rfl⟩ := Option.map_eq_some_iff.mp h
    exact ⟨_, rfl⟩
  · obtain rfl := Option.some.inj h
    exact ⟨_, rfl⟩

theorem turnBehind_newline (margin : Margin) (layout : Layout) (rest : List Char) :
    turnBehind margin layout ('\n' :: rest) = some ([], some ⟨true, layout.nextLine, rest⟩) := by
  rw [turnBehind, List.head?_cons, if_pos rfl, List.tail_cons]

/-- A turn over a line without tokens gets to the next line. -/
theorem turn_of_endsLine (hends : endsLine cs = true)
    (hturn : (Place.mk true layout cs).turn = some turned)
    (hgoes : ∀ next ∈ turned.2, next.turn ≠ none) :
    ∃ rest line, cs.dropWhile isGap = '\n' :: rest ∧
      turned = ([], some ⟨true, layout.onLine line, rest⟩) := by
  obtain ⟨margin, hmargin⟩ := readMargin_of_endsLine ⟨0, 0, 0, 0⟩ hends
  have hdropped := endsLine_dropWhile hends
  rw [Place.turn_start, hmargin, Option.bind_some, skipComment_of_endsLine hdropped] at hturn
  obtain ⟨c, rest, hrest, hblank⟩ := head_of_endsLine hdropped
  rw [hrest] at hmargin hturn
  by_cases hc : c = '\n'
  · subst hc
    rw [turnBehind_newline] at hturn
    exact ⟨rest, _, hrest, (Option.some.inj hturn).symm⟩
  · obtain ⟨next, hnext⟩ := turnBehind_other (by simpa using hc) hturn
    have hvisible := isBlank_of_turn (hgoes _ hnext) (head_of_readMargin hmargin).1 hc
    rw [hblank] at hvisible
    cases hvisible

/-- Behind a long run the newline of a line without tokens goes. -/
theorem surplus_of_endsLine (h : Tidied run cs ds) (hmore : 3 ≤ run) (hends : endsLine cs = true)
    (hvisible : isVisible cs = true) (hrest : cs.dropWhile isGap = '\n' :: rest) :
    Tidied (run + 1) rest ds := by
  induction h with
  | letter hc hkept =>
    rw [endsLine_cons hc, hkept] at hends
    cases hends
  | @blank run c cs ds hc hdropped _ _ ih =>
    obtain ⟨hblank, hends⟩ := Bool.and_eq_true_iff.mp hdropped
    by_cases hgap : isGap c = true
    · rw [List.dropWhile_cons_of_pos hgap] at hrest
      exact ih hmore hends (isVisible_of_blank hblank hvisible) hrest
    · rw [List.dropWhile_cons_of_neg hgap] at hrest
      exact absurd (List.cons.inj hrest).1 hc
  | newline hless => exact absurd hless (Nat.not_lt.mpr hmore)
  | surplus _ _ h =>
    rw [List.dropWhile_cons_of_neg (by decide)] at hrest
    rw [← (List.cons.inj hrest).2]
    exact h
  | finish _ hnone =>
    rw [hnone] at hvisible
    cases hvisible

/-- Lines without tokens are passed in both texts, or in the text only. -/
theorem advances_of_endsLine (h : Tidied run cs ds) (hrun : 0 < run) (hwhole : Whole cs)
    (hends : endsLine cs = true) (hturn : (Place.mk true layout cs).turn = some turned)
    (hgoes : ∀ next ∈ turned.2, next.turn ≠ none) :
    Advances ⟨true, layout, cs⟩ ⟨true, layout.onLine line, ds⟩ turned := by
  obtain ⟨rest, n, hrest, rfl⟩ := turn_of_endsLine hends hturn hgoes
  have hwhole' : Whole rest := hwhole.of_suffix (Place.rest_of_turn hturn rfl).1
  by_cases hvisible : isVisible cs = true
  · by_cases hless : run < 3
    · have hlive : IsLive run cs := .inr ⟨hless, hvisible⟩
      obtain ⟨others, rfl⟩ := h.head_of_endsLine hlive hends
      obtain ⟨run', hlive', hdropped⟩ := h.dropGaps hlive
      rw [hrest, List.dropWhile_cons_of_neg (by decide)] at hdropped
      rw [hrest] at hlive'
      obtain ⟨_, heq, hothers⟩ := hdropped.newline_inv hlive'
      obtain rfl := (List.cons.inj heq).2
      refine .both ([], some ⟨true, (layout.onLine line).nextLine, others⟩) ?_
        ⟨rfl, .some (.start (Nat.succ_pos _) hothers hwhole')⟩
      rw [Place.turn_start, readMargin_newline, Option.bind_some, skipComment_of_ne (by decide),
        turnBehind_newline]
      rfl
    · have hmore := Nat.not_lt.mp hless
      have hbelow := surplus_of_endsLine h hmore hends hvisible hrest
      exact .surplus rfl (.start (Nat.succ_pos _) hbelow hwhole')
  · have hnone := Bool.eq_false_iff.mpr hvisible
    obtain rfl := h.eq_nil hrun hnone
    have hnone' := isVisible_of_suffix hnone (Place.rest_of_turn hturn rfl).1
    exact .surplus rfl (.start Nat.one_pos (.finish Nat.one_pos hnone') hwhole')

/-- The blocks that a margin opens or closes are the same in both texts. -/
theorem turnBehind_alike (line : Nat) (text also : List Char) (htext : ¬text.head? = some '\n')
    (halso : ¬also.head? = some '\n')
    (hplaces : ∀ next line, Abreast ⟨false, next, text⟩ ⟨false, next.onLine line, also⟩)
    (h : turnBehind margin layout text = some turned) :
    ∃ other, turnBehind margin (layout.onLine line) also = some other ∧ turned.Alike other := by
  unfold turnBehind at h ⊢
  rw [if_neg htext] at h
  rw [if_neg halso, indentation_onLine, brackets_onLine]
  by_cases hbrackets : layout.brackets.isEmpty = true
  · rw [if_pos hbrackets] at h
    obtain ⟨⟨tokens, next⟩, hopened, rfl⟩ := Option.map_eq_some_iff.mp h
    refine ⟨(tokens.map (⟨·, line⟩), some ⟨false, next.onLine line, also⟩), ?_, ?_,
      .some (hplaces next line)⟩
    · rw [if_pos hbrackets, hopened]
      rfl
    · simp [Function.comp_def]
  · rw [if_neg hbrackets] at h
    obtain rfl := Option.some.inj h
    exact ⟨_, if_neg hbrackets, rfl, .some (hplaces _ _)⟩

/-- At the end of the texts the same blocks are closed. -/
theorem advances_of_nil (hturn : (Place.mk true layout []).turn = some turned) :
    Advances ⟨true, layout, []⟩ ⟨true, layout.onLine line, []⟩ turned := by
  obtain ⟨also, halso, halike⟩ := turnBehind_alike line [] [] nofun nofun
    (fun _ _ => .ended) hturn
  exact .both also halso halike

theorem skipComment_cons (h : skipComment cs = c :: rest) (hc : c ≠ '\n') : cs = c :: rest := by
  cases cs with
  | nil => cases h
  | cons d cs =>
    by_cases hd : d = '#'
    · subst hd
      have hdropped : cs.dropWhile (· != '\n') = c :: rest := h
      have hhead := List.head_dropWhile_not (l := cs) (· != '\n') (by simp [hdropped])
      simp [hdropped, hc] at hhead
    · rwa [skipComment_of_ne hd] at h

/-- A line with tokens is opened in both texts, or the text hides its end. -/
theorem advances_of_tokens (h : Tidied 0 cs ds) (hwhole : Whole cs)
    (hturn : (Place.mk true layout cs).turn = some turned)
    (hgoes : ∀ next ∈ turned.2, next.turn ≠ none) :
    Advances ⟨true, layout, cs⟩ ⟨true, layout.onLine line, ds⟩ turned := by
  have hwhole' : ∀ next ∈ turned.2, Whole next.rest :=
    fun next hnext => hwhole.of_suffix (Place.rest_of_turn hturn hnext).1
  rw [Place.turn_start] at hturn
  obtain ⟨⟨margin, rest⟩, hmargin, hturn⟩ := Option.bind_eq_some_iff.mp hturn
  obtain ⟨other, others, run, hother, hlive, hrest, hsame⟩ | ⟨hother, hhides⟩ :=
    marginsAlike h (.zero _) hmargin
  · have hfound : (Place.mk true (layout.onLine line) ds).turn = turnBehind other
        (layout.onLine (line + other.lineBreaks)) (skipComment others) := by
      rw [Place.turn_start, hother]
      rfl
    obtain ⟨run', hlive', hskipped⟩ := hrest.skipComment hlive
    dsimp only at hturn
    by_cases hhead : (skipComment rest).head? = some '\n'
    · obtain ⟨more, hmore⟩ := List.head?_eq_some_iff.mp hhead
      rw [hmore] at hlive' hskipped hturn
      obtain ⟨more', hmore', hbelow⟩ := hskipped.newline_inv hlive'
      rw [turnBehind_newline] at hturn
      obtain rfl := Option.some.inj hturn
      refine .both ([], some ⟨true, (layout.onLine (line + other.lineBreaks)).nextLine, more'⟩)
        ?_ ⟨rfl, .some (.start (Nat.succ_pos _) hbelow (hwhole' _ rfl))⟩
      rw [hfound, hmore', turnBehind_newline]
    · obtain ⟨next, hnext⟩ := turnBehind_other hhead hturn
      obtain ⟨c, more, hmore⟩ := List.exists_cons_of_ne_nil (hskipped.ne_nil hlive').1
      rw [hmore] at hhead hturn hnext hlive' hskipped
      have hne : c ≠ '\n' := by simpa using hhead
      obtain rfl := skipComment_cons hmore hne
      have hc := isBlank_of_turn (hgoes _ hnext) (head_of_readMargin hmargin).1 hne
      obtain ⟨more', hmore', hmoreTidied⟩ := hskipped.cons hc
      have hends : endsLine (c :: more) = false := by rw [endsLine_cons hne, hc, Bool.false_and]
      obtain rfl : other = margin := hsame.resolve_right (by rw [hends]; exact Bool.false_ne_true)
      obtain ⟨also, halso, halike⟩ := turnBehind_alike (line + other.lineBreaks)
        (c :: more) (c :: more') hhead (by simpa using hne)
        (fun _ _ => .within hlive' (hmore' ▸ hskipped) (hwhole' _ hnext)) hturn
      exact .both also (by rw [hfound, hmore']; exact halso) halike
  · refine .stuck ?_ hhides
    rw [Place.turn_start, hother]
    rfl

theorem tokens_close (layout : Layout) (line : Nat) :
    (layout.onLine line).close.1.map (·.token) = layout.close.1.map (·.token) := by
  unfold Layout.close
  rw [brackets_onLine]
  split <;> rfl

/-- A hidden end of a line is passed in both texts if something is below. -/
theorem advances_of_hidden {text also : List Char} (h : Tidied 0 text also) (hwhole : Whole text)
    (hsuffix : '\\' :: text <:+ place.rest) (hturn : turnHidden layout text = some turned)
    (hother : other.turn = turnHidden (layout.onLine line) also) : Advances place other turned := by
  unfold turnHidden at hturn
  split at hturn
  · next c rest =>
    obtain rfl := Option.some.inj hturn
    obtain ⟨hlive, d, others, rfl, hothers⟩ | ⟨hnone, rfl⟩ := h.underLine
    · exact .both ([], some ⟨false, (layout.onLine line).nextLine, d :: others⟩) hother
        ⟨rfl, .some (.within hlive hothers (hwhole.of_suffix (List.suffix_cons _ _)))⟩
    · exact .stuck hother ⟨_, hsuffix, hnone⟩
  · cases hturn

/-- Tokens are taken from both texts. -/
theorem advances_of_token {text also : List Char} (h : Tidied run text also)
    (hlive : IsLive run text) (hwhole : Whole text) (hturn : turnToken layout text = some turned)
    (hother : other.turn = turnToken (layout.onLine line) also)
    (htidy : ∀ lexeme ∈ turned.1, lexeme.token.isTidy = true) : Advances place other turned := by
  obtain ⟨⟨token, rest⟩, hread, hturn⟩ := Option.bind_eq_some_iff.mp hturn
  obtain ⟨next, hnext, rfl⟩ := Option.map_eq_some_iff.mp hturn
  obtain ⟨others, run', hother', hlive', hrest⟩ :=
    h.readToken hlive hread (htidy _ (List.mem_singleton_self _))
  obtain ⟨-, hsuffix, -, -⟩ := readToken_spec hread
  refine .both ([⟨token, line⟩], some ⟨false, next.onLine (line + lineBreaks token), others⟩) ?_
    ⟨rfl, .some (.within hlive' hrest (hwhole.of_suffix hsuffix))⟩
  rw [hother, turnToken, hother', Option.bind_some]
  dsimp only
  rw [pass_onLine, hnext]
  rfl

theorem advances_within (h : Tidied run cs ds) (hlive : IsLive run cs) (hwhole : Whole cs)
    (hturn : (Place.mk false layout cs).turn = some turned)
    (htidy : ∀ lexeme ∈ turned.1, lexeme.token.isTidy = true) :
    Advances ⟨false, layout, cs⟩ ⟨false, layout.onLine line, ds⟩ turned := by
  obtain ⟨run₁, hlive₁, h₁⟩ := h.dropGaps hlive
  obtain ⟨run₂, hlive₂, h₂⟩ := h₁.skipComment hlive₁
  have hsuffix : skipComment (cs.dropWhile isGap) <:+ cs :=
    (skipComment_suffix _).trans (List.dropWhile_suffix _)
  have hother := Place.turn_within (layout.onLine line) ds
  rw [Place.turn_within] at hturn
  generalize skipComment (cs.dropWhile isGap) = text at *
  generalize skipComment (ds.dropWhile isGap) = also at *
  have hwhole₂ := hwhole.of_suffix hsuffix
  obtain ⟨c, rest, rfl⟩ := List.exists_cons_of_ne_nil (h₂.ne_nil hlive₂).1
  by_cases hnewline : c = '\n'
  · subst hnewline
    obtain ⟨others, rfl, hothers⟩ := h₂.newline_inv hlive₂
    obtain rfl := Option.some.inj hturn
    exact .both _ hother ⟨tokens_close layout line,
      .some (.start (Nat.succ_pos _) hothers (hwhole₂.of_suffix (List.suffix_cons _ _)))⟩
  · have hc : isBlank c = false :=
      isBlank_of_turnWithin (by rw [hturn]; exact Option.some_ne_none _) hnewline
    obtain ⟨others, rfl, hothers⟩ := h₂.cons hc
    simp only [turnWithin, hnewline, if_false] at hturn hother
    by_cases hescape : c = '\\'
    · subst hescape
      rw [if_pos rfl] at hturn hother
      exact advances_of_hidden hothers (hwhole₂.of_suffix (List.suffix_cons _ _)) hsuffix hturn
        hother
    · rw [if_neg hescape] at hturn hother
      exact advances_of_token h₂ hlive₂ hwhole₂ hturn hother htidy

/-- A turn in the text is one in the tidied text, but for the end that the text hides. -/
theorem Abreast.advances (h : Abreast place other) (hturn : place.turn = some turned)
    (hgoes : ∀ next ∈ turned.2, next.turn ≠ none)
    (htidy : ∀ lexeme ∈ turned.1, lexeme.token.isTidy = true) : Advances place other turned := by
  cases h with
  | @start run layout line cs ds hrun htext hwhole =>
    cases hends : endsLine cs with
    | true => exact advances_of_endsLine htext hrun hwhole hends hturn hgoes
    | false =>
      by_cases hnil : cs = []
      · subst hnil
        obtain rfl := htext.eq_nil hrun rfl
        exact advances_of_nil hturn
      · have hvisible : isVisible cs = true := by
          rw [← Bool.not_eq_false]
          intro hnone
          rw [endsLine_of_whole hwhole hnil hnone] at hends
          cases hends
        exact advances_of_tokens (htext.zero_of_visible hvisible hends) hwhole hturn hgoes
  | within hlive htext hwhole => exact advances_within htext hlive hwhole hturn htidy
  | @ended layout line =>
    simp only [Place.turn_within, List.dropWhile_nil, skipComment, turnWithin] at hturn
    split at hturn
    · next hbrackets =>
      obtain rfl := Option.some.inj hturn
      exact .both _ (if_pos hbrackets) ⟨rfl, .none⟩
    · cases hturn

/-- What is read from places that are abreast is the same but for lines, unless the text hides its
end and nothing is read from the tidied text. -/
theorem Abreast.readAll (h : Abreast place other) {lexemes : List Lexeme}
    (hread : place.readAll = some lexemes)
    (htidy : ∀ lexeme ∈ lexemes, lexeme.token.isTidy = true) :
    (∃ others, other.readAll = some others ∧ others.map (·.token) = lexemes.map (·.token)) ∨
      (other.readAll = none ∧ HidesEnd place.rest) := by
  induction hcost : place.cost using Nat.strongRecOn generalizing place other lexemes with
  | ind cost ih =>
    rw [Place.readAll_eq] at hread
    obtain ⟨⟨taken, next⟩, hturn, hread⟩ := Option.bind_eq_some_iff.mp hread
    have hgoes : ∀ after ∈ next, after.turn ≠ none := by
      rintro after rfl hnone
      obtain ⟨more, hmore, -⟩ := Option.map_eq_some_iff.mp hread
      rw [Place.readAll_eq, hnone] at hmore
      cases hmore
    have htaken : ∀ lexeme ∈ taken, lexeme.token.isTidy = true := by
      cases next with
      | none =>
        obtain rfl := Option.some.inj hread
        exact htidy
      | some next =>
        obtain ⟨more, -, rfl⟩ := Option.map_eq_some_iff.mp hread
        exact (List.forall_mem_append.mp htidy).1
    cases h.advances hturn hgoes htaken with
    | stuck hother hhides =>
      rw [Place.readAll_eq other, hother]
      exact .inr ⟨rfl, hhides⟩
    | both also hother halike =>
      obtain ⟨taken', next'⟩ := also
      obtain ⟨htokens, hplaces⟩ := halike
      rw [Place.readAll_eq other, hother, Option.bind_some]
      cases hplaces with
      | none =>
        obtain rfl := Option.some.inj hread
        exact .inl ⟨taken', rfl, htokens⟩
      | @some next next' hnext =>
        obtain ⟨more, hmore, rfl⟩ := Option.map_eq_some_iff.mp hread
        obtain ⟨hsuffix, hless⟩ := Place.rest_of_turn hturn rfl
        obtain ⟨others, hothers, hsame⟩ | ⟨hothers, hhides⟩ :=
          ih next.cost (hcost ▸ hless) hnext hmore (List.forall_mem_append.mp htidy).2 rfl
        · refine .inl ⟨taken' ++ others, by simp [Place.readBehind, hothers], ?_⟩
          rw [List.map_append, List.map_append, hsame]
          exact congrArg (· ++ _) htokens
        · exact .inr ⟨by simp [Place.readBehind, hothers], hhides.of_suffix hsuffix⟩
    | @surplus next hturned hnext =>
      cases hturned
      obtain ⟨more, hmore, rfl⟩ := Option.map_eq_some_iff.mp hread
      obtain ⟨hsuffix, hless⟩ := Place.rest_of_turn hturn rfl
      obtain hsame | ⟨hothers, hhides⟩ :=
        ih next.cost (hcost ▸ hless) hnext hmore (List.forall_mem_append.mp htidy).2 rfl
      · exact .inl hsame
      · exact .inr ⟨hothers, hhides.of_suffix hsuffix⟩

end Lexer

end Source

end Registrar
