import Registrar.Catalogue.Render
import Registrar.Proofs.Catalogue.Lines
import Registrar.Proofs.Catalogue.Literals

/-! # The lists of the generated module

A generated module lists its dependencies and its contributing modules, one to a line. Both lists
come through to the final text as they are, whatever stands in the rest of it.
-/

namespace Registrar.Catalogue

/-- The lines that list the contributing modules. -/
def initializerLines (references : List Reference) : List String :=
  ["CONTRIBUTING_MODULES: tuple[str, ...] = ("]
    ++ references.map (fun reference => "    " ++ (Json.literal reference.module ++ ","))
    ++ [")"]

/-- The lines that list the dependencies with their types. -/
def dependenciesLines (entries : List Entry) : List String :=
  ["ContainerDependencies = TypedDict(", "    \"ContainerDependencies\","]
    ++ (if entries.isEmpty then ["    \x7b\x7d,"]
      else
        ["    \x7b"]
          ++ entries.map (fun entry =>
            "        " ++ (Json.literal entry.key ++ ": " ++ Json.literal entry.type ++ ","))
          ++ ["    \x7d,"])
    ++ ["    total=False,", ")"]

theorem toList_indented (indent : String) (texts : List String) :
    (indented indent texts).toList =
      texts.flatMap fun text => indent.toList ++ text.toList ++ ['\n'] := by
  unfold indented
  rw [String.toList_join, List.flatMap_map]
  congr 1
  funext text
  rw [String.toList_append, String.toList_append]
  rfl

/-! ## Lines without breaks -/

theorem isLine_of_check {line : List Char}
    (h : (line.all (!isLineBoundary ·) && line.getLast?.any (!isBlank ·)) = true) :
    IsLine line := by
  obtain ⟨hunbroken, hclosed⟩ := Bool.and_eq_true_iff.mp h
  refine ⟨fun c hc => by simpa using List.all_eq_true.mp hunbroken c hc, ?_⟩
  obtain ⟨c, hc, hblank⟩ := Option.any_eq_true _ _ |>.mp hclosed
  obtain ⟨start, hstart⟩ := List.getLast?_eq_some_iff.mp hc
  exact ⟨start, c, hstart, by simpa using hblank⟩

theorem isLine_of_checks {texts : List String}
    (h : texts.all (fun text => text.toList.all (!isLineBoundary ·) &&
      text.toList.getLast?.any (!isBlank ·)) = true) :
    ∀ text ∈ texts, IsLine text.toList :=
  fun text htext => isLine_of_check (List.all_eq_true.mp h text htext)

theorem unbroken_hexDigit : ∀ digit < 16, isLineBoundary (hexDigit digit) = false := by
  decide

theorem unbroken_unicode (n : Nat) :
    ∀ c ∈ '\\' :: 'u' :: hexDigits 4 n, isLineBoundary c = false := by
  have hdigit (m : Nat) : isLineBoundary (hexDigit (m % 16)) = false :=
    unbroken_hexDigit _ (Nat.mod_lt m (by decide))
  have hmarks : isLineBoundary '\\' = false ∧ isLineBoundary 'u' = false := by decide
  simp [hexDigits, hdigit, hmarks]

/-- An escape is in one piece: characters that end a line are escaped. -/
theorem unbroken_escapeChar (c : Char) : ∀ d ∈ Json.escapeChar c, isLineBoundary d = false := by
  obtain ⟨letter, h, -, hunbroken⟩ | ⟨h, -, -, hprinted, hascii⟩ | h := Json.escapeChar_cases c
  · have hbackslash : isLineBoundary '\\' = false := by decide
    simp [h, hunbroken, hbackslash]
  · simp [h, isLineBoundary]
    omega
  · rw [h]
    unfold Json.unicodeEscape
    split
    · exact unbroken_unicode _
    · exact List.forall_mem_append.mpr ⟨unbroken_unicode _, unbroken_unicode _⟩

theorem unbroken_literal (text : String) :
    ∀ c ∈ (Json.literal text).toList, isLineBoundary c = false := by
  have hmark : isLineBoundary '"' = false := by decide
  unfold Json.literal Json.literalChars
  rw [String.toList_ofList]
  simp only [List.mem_append, List.mem_cons, List.mem_flatMap, List.not_mem_nil, or_false]
  rintro c ((rfl | ⟨d, -, hc⟩) | rfl)
  · exact hmark
  · exact unbroken_escapeChar d c hc
  · exact hmark

/-- A line of fixed characters around literals. -/
theorem isLine_append {start finish : List Char} {literal : String}
    (hstart : start.all (!isLineBoundary ·) = true) (hfinish : IsLine finish) :
    IsLine (start ++ ((Json.literal literal).toList ++ finish)) := by
  refine ⟨?_, ?_⟩
  · simp only [List.forall_mem_append]
    exact ⟨fun c hc => by simpa using List.all_eq_true.mp hstart c hc, unbroken_literal literal,
      hfinish.unbroken⟩
  · obtain ⟨front, c, rfl, hc⟩ := hfinish.closed
    exact ⟨start ++ ((Json.literal literal).toList ++ front), c, by simp, hc⟩

theorem isLine_initializerLines (references : List Reference) :
    ∀ line ∈ (initializerLines references).map String.toList, IsLine line := by
  simp only [initializerLines, List.map_append, List.map_map, List.forall_mem_append,
    List.forall_mem_map, List.map_cons, List.map_nil, List.mem_singleton, forall_eq]
  refine ⟨⟨isLine_of_check (by decide), fun reference _ => ?_⟩,
    isLine_of_check (by decide)⟩
  simp only [Function.comp_apply, String.toList_append]
  exact isLine_append (by decide) (isLine_of_check (by decide))

theorem isLine_dependenciesLines (entries : List Entry) :
    ∀ line ∈ (dependenciesLines entries).map String.toList, IsLine line := by
  have hentry (entry : Entry) : IsLine ("        " ++
      (Json.literal entry.key ++ ": " ++ Json.literal entry.type ++ ",")).toList := by
    simp only [String.toList_append, List.append_assoc]
    exact isLine_append (by decide)
      (isLine_append (by decide) (isLine_of_check (by decide)))
  have hopening : ∀ line ∈ ["ContainerDependencies = TypedDict(",
      "    \"ContainerDependencies\","], IsLine line.toList := isLine_of_checks (by decide)
  have hclosing : ∀ line ∈ ["    total=False,", ")"], IsLine line.toList :=
    isLine_of_checks (by decide)
  simp only [List.forall_mem_map]
  unfold dependenciesLines
  simp only [List.forall_mem_append]
  refine ⟨⟨hopening, ?_⟩, hclosing⟩
  split
  · exact isLine_of_checks (by decide)
  · simp only [List.forall_mem_append, List.forall_mem_map]
    exact ⟨⟨isLine_of_checks (by decide), fun entry _ => hentry entry⟩,
      isLine_of_checks (by decide)⟩

/-! ## The blocks of the text -/

theorem toList_initializerBlock (references : List Reference) :
    ∃ rest, (initializerBlock references).toList =
      joinChars ['\n'] ((initializerLines references).map String.toList) ++ '\n' :: rest := by
  have hopening : "CONTRIBUTING_MODULES: tuple[str, ...] = (\n".toList =
      "CONTRIBUTING_MODULES: tuple[str, ...] = (".toList ++ ['\n'] := by
    decide
  have hclosing : [")"].map String.toList = [")".toList] := rfl
  unfold initializerBlock initializerLines
  rw [String.toList_append, String.toList_append, toList_indented, String.toList_intercalate,
    List.map_append, hclosing, joinChars_concat, hopening, List.map_cons, List.map_cons,
    List.intercalate_cons_cons]
  generalize List.intercalate "\n".toList (_ :: _) = rest
  refine ⟨rest, ?_⟩
  simp only [List.map_append, List.map_cons, List.map_map, List.map_nil, List.flatMap_append,
    List.flatMap_cons, List.flatMap_nil, List.flatMap_map, Function.comp_apply,
    String.toList_append, List.append_assoc, List.append_nil]
  rfl

theorem toList_dependenciesBlock (entries : List Entry) :
    ∃ rest, (dependenciesBlock entries).toList =
      joinChars ['\n'] ((dependenciesLines entries).map String.toList) ++ '\n' :: rest := by
  have hopening : "ContainerDependencies = TypedDict(\n    \"ContainerDependencies\",\n".toList =
      "ContainerDependencies = TypedDict(".toList ++
        ('\n' :: "    \"ContainerDependencies\",".toList ++ ['\n']) := by
    decide
  have hfinish : "    total=False,\n)\n".toList =
      "    total=False,".toList ++ ('\n' :: ")".toList ++ ['\n']) := by
    decide
  have hclosing : ["    total=False,", ")"].map String.toList =
      ["    total=False,".toList] ++ [")".toList] := rfl
  have hempty : "    \x7b\x7d,\n".toList = "    \x7b\x7d,".toList ++ ['\n'] := by decide
  have hfirst : "    \x7b\n".toList = "    \x7b".toList ++ ['\n'] := by decide
  have hlast : "    \x7d,\n".toList = "    \x7d,".toList ++ ['\n'] := by decide
  unfold dependenciesBlock dependenciesLines
  rw [List.map_append, hclosing, ← List.append_assoc, joinChars_concat, String.toList_append,
    String.toList_append, String.toList_append, String.toList_append, hopening, hfinish]
  refine ⟨"\"\"\"Dependency keys registered in ``container`` mapped to the types dependents".toList
    ++ " consume.\"\"\"".toList, ?_⟩
  split
  · simp only [hempty, List.map_cons, List.map_nil, List.flatMap_cons, List.flatMap_nil,
      List.cons_append, List.nil_append, List.append_assoc, List.append_nil]
  · simp only [toList_indented, hfirst, hlast, List.map_append, List.map_cons, List.map_map,
      List.map_nil, List.flatMap_append, List.flatMap_cons, List.flatMap_nil, List.flatMap_map,
      Function.comp_apply, String.toList_append, List.cons_append, List.nil_append,
      List.append_assoc, List.append_nil]

/-- The sections of the text stand one under the other. -/
theorem toList_text (runtimeModule : String) (contributing : List Contribution) :
    ∃ opening middle, (text runtimeModule contributing).toList =
      opening ++ '\n' ::
        ((dependenciesBlock (entries (contributing.flatMap (·.file.exports)))).toList ++
          (middle ++ '\n' :: (initializerBlock (contributing.map (·.reference))).toList)) := by
  have hseparator : "\n\n".toList = ['\n', '\n'] := by decide
  have hjoin (first second third fourth last : List Char) :
      joinChars ['\n', '\n'] [first, second, third, fourth, last] =
        (first ++ '\n' :: '\n' :: (second ++ ['\n'])) ++ '\n' ::
          (third ++ (('\n' :: '\n' :: (fourth ++ ['\n'])) ++ '\n' :: last)) := by
    simp [joinChars]
  unfold text
  rw [String.toList_intercalate, hseparator, ← joinChars_eq_intercalate]
  exact ⟨_, _, hjoin _ _ _ _ _⟩

/-- A text that ends in a line break, a block, and more lines after it. -/
theorem stands_of_toList {text front rest : List Char} {block : List (List Char)} {body : List Char}
    (hbody : ∃ tail, body = joinChars ['\n'] block ++ '\n' :: tail)
    (htext : text = front ++ '\n' :: (body ++ rest)) : Stands block text := by
  obtain ⟨tail, rfl⟩ := hbody
  refine ⟨front ++ ['\n'], '\n' :: (tail ++ rest), ?_, .inr ⟨_, rfl⟩,
    Whole.reverse_iff.mpr (.inr ⟨_, rfl⟩)⟩
  rw [htext]
  simp

variable {runtimeModule source : String} {directory : List String} {files : List FileExports}
  {contributing : List Contribution}

/-- What a rendering gives is the canonical spelling of the text of the contributions. -/
theorem render_eq_ok (h : (render runtimeModule directory files).2 = .ok source) :
    ∃ contributing, contributions directory files = .ok contributing ∧
      source.toList = Canonical.normalize (text runtimeModule contributing).toList := by
  unfold render at h
  split at h
  · cases h
  · split at h
    · cases h
    · next contributing hcontributing =>
      refine ⟨contributing, hcontributing, ?_⟩
      unfold Canonical.ofSource? at h
      cases hparsed : Source.parseModule? (text runtimeModule contributing).toList with
      | none =>
        simp only [hparsed, Option.map_none] at h
        cases h
      | some parsed =>
        simp only [hparsed, Option.map_some, Except.ok.injEq] at h
        rw [← h, String.toList_ofList]

/-- The list of dependencies and the list of contributing modules are in the rendered text. -/
theorem isInfix_of_render (h : (render runtimeModule directory files).2 = .ok source)
    (hcontributing : contributions directory files = .ok contributing) :
    (dependenciesLines (entries (contributing.flatMap (·.file.exports)))).map String.toList
        <:+: lines source.toList ∧
      (initializerLines (contributing.map (·.reference))).map String.toList
        <:+: lines source.toList := by
  obtain ⟨_, hsame, hsource⟩ := render_eq_ok h
  cases hcontributing.symm.trans hsame
  obtain ⟨opening, middle, htext⟩ := toList_text runtimeModule contributing
  have hregroup (front block middle last : List Char) :
      front ++ '\n' :: (block ++ (middle ++ '\n' :: last)) =
        (front ++ '\n' :: (block ++ middle)) ++ '\n' :: (last ++ []) := by
    simp
  have hdependencies := isLine_dependenciesLines (entries (contributing.flatMap (·.file.exports)))
  have hinitializer := isLine_initializerLines (contributing.map (·.reference))
  rw [hsource]
  constructor
  · exact Canonical.isInfix_normalize hdependencies (List.cons_ne_nil _ _)
      ((stands_of_toList (toList_dependenciesBlock _) htext).isInfix hdependencies)
  · exact Canonical.isInfix_normalize hinitializer (List.cons_ne_nil _ _)
      ((stands_of_toList (toList_initializerBlock _)
        (htext.trans (hregroup _ _ _ _))).isInfix hinitializer)

end Registrar.Catalogue
