import Registrar.Proofs.Source.Combinators
import Registrar.Proofs.Text.Composing
import Registrar.Source.Lexer

/-! # Names as they are read

An identifier is read as a name in its composed spelling, unless it is a reserved word.
-/

namespace Registrar.Source

/-- The spelling that an identifier is read in. -/
def readName (name : String) : String :=
  if name.toList.all isAscii then name else String.ofList (Compatibility.composeText name.toList)

/-- The token an identifier is read as. -/
def wordToken (name : String) : Token :=
  if keywords.contains name then .keyword name else .name (readName name)

theorem nameToken_of_isIdentifier {name : String} (h : isIdentifier name = true) :
    Lexer.nameToken name.toList = some (wordToken name) := by
  unfold Lexer.nameToken wordToken readName
  rw [String.ofList_toList]
  dsimp only
  split
  · rfl
  · split
    · rfl
    · exact if_pos h

theorem toList_readName (name : String) :
    (readName name).toList = Compatibility.composeText name.toList := by
  unfold readName
  split
  · next hascii => rw [Compatibility.composeText, if_pos hascii]
  · rw [String.toList_ofList]

/-- An identifier is read as one. -/
theorem isIdentifier_readName {name : String} (h : isIdentifier name = true) :
    isIdentifier (readName name) = true := by
  unfold isIdentifier
  rw [toList_readName]
  exact Compatibility.isIdentifierChars_composeText h

theorem isIdentifier_ofList (letters : List Char) :
    isIdentifier (String.ofList letters) = isIdentifierChars letters := by
  rw [isIdentifier, String.toList_ofList]

/-- ASCII letters that may stand in a name are an identifier unless a digit heads them. -/
theorem isIdentifierChars_of_isAscii {letters : List Char} (hne : letters ≠ [])
    (hletters : letters.all Number.mayContinueName = true)
    (hdigit : Number.startsWithDigit letters = false) (hascii : letters.all isAscii = true) :
    isIdentifierChars letters = true := by
  obtain ⟨c, more, rfl⟩ := List.exists_cons_of_ne_nil hne
  have hplain (d : Char) (hd : d ∈ c :: more) : isAscii d = true ∧ (d.isAlphanum || d == '_') = true := by
    have hd1 := List.all_eq_true.mp hascii d hd
    have hd2 := List.all_eq_true.mp hletters d hd
    simp only [Number.mayContinueName, hd1, Bool.not_true, Bool.or_false] at hd2
    exact ⟨hd1, hd2⟩
  have hdigit : c.isDigit = false := hdigit
  obtain ⟨hc, hletter⟩ := hplain c List.mem_cons_self
  have hstart : isIdentifierStart c = true := by
    simpa [isIdentifierStart, hc, Char.isAlphanum, hdigit] using hletter
  have hmore : more.all isIdentifierContinue = true := List.all_eq_true.mpr fun d hd => by
    obtain ⟨hd, hletter⟩ := hplain d (List.mem_cons_of_mem c hd)
    simpa [isIdentifierContinue, hd] using hletter
  exact Bool.and_eq_true_iff.mpr ⟨hstart, hmore⟩

theorem isAscii_of_keyword : ∀ word ∈ keywords, word.toList.all isAscii = true := by
  decide

/-- A word is a token exactly if it is an identifier, as words of ASCII letters are. -/
theorem nameToken_eq {name : String}
    (h : name.toList.all isAscii = true → isIdentifier name = true) :
    Lexer.nameToken name.toList = if isIdentifier name then some (wordToken name) else none := by
  split
  · next hname => exact nameToken_of_isIdentifier hname
  · next hname =>
    have hwide : name.toList.all isAscii = false := Bool.eq_false_iff.mpr fun hall => hname (h hall)
    have hword : keywords.contains name = false := by
      rw [Bool.eq_false_iff, ne_eq, List.contains_iff_mem]
      intro hmem
      rw [isAscii_of_keyword name hmem] at hwide
      cases hwide
    unfold Lexer.nameToken
    rw [String.ofList_toList]
    dsimp only
    rw [hword, hwide]
    exact if_neg hname

theorem name?_wordToken (name : String) :
    (wordToken name).name? = if keywords.contains name then none else some (readName name) := by
  unfold wordToken
  split <;> rfl

end Registrar.Source
