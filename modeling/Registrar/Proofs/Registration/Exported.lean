import Mathlib.Data.List.TakeWhile
import Registrar.Proofs.Registration.Sites
import Registrar.Proofs.Text.Composing

/-! # Exported names

The names a module exports are those in its first plain assignment of the list. Bindings of the list
with an annotation are not looked at, and neither is a later one that replaces the first. So symbols
are public by the value that the list has at the end of the module where its first plain binding is its
last binding, or where nothing binds it, and not in general.
-/

namespace Registrar.Registration

open Source

/-- The code points of a string literal. -/
def points? : Expr → Option (List Nat)
  | .constant (.text points) => some points
  | _ => none

/-- The names, by their code points, in a literal list or tuple that has nothing but strings. -/
def listed? : Expr → Option (List (List Nat))
  | .list elements | .tuple elements => elements.mapM points?
  | _ => none

/-- A symbol is public by the declared names, or by its first character where none are declared. -/
def IsPublic : Option (List (List Nat)) → String → Prop
  | some names, symbol => symbol.toList.map Char.toNat ∈ names
  | none, symbol => symbol.toList.head? ≠ some '_'

/-- The values that the statements of a module bind to a name. -/
def bindings (id : String) (body : Module) : List Expr :=
  body.filterMap (assigned? id)

/-- The names in the first plain binding of the list. -/
def declared? (body : Module) : Option (List (List Nat)) :=
  (body.findSome? exportValue?).bind listed?

/-- The names in the list at the end of the module. -/
def final? (body : Module) : Option (List (List Nat)) :=
  (bindings "__all__" body).getLast?.bind listed?

/-- The statements behind the first plain binding of the list, or all where there is none. -/
def behindPlain (body : Module) : List Stmt :=
  match body.dropWhile fun statement => (exportValue? statement).isNone with
  | [] => body
  | _ :: after => after

/-- The first plain binding of the list is its last binding, or nothing binds it. -/
def Settles (body : Module) : Prop := bindings "__all__" (behindPlain body) = []

instance (body : Module) : Decidable (Settles body) :=
  inferInstanceAs (Decidable (bindings "__all__" (behindPlain body) = []))

/-- A text is the key that an expression stands for in a module. -/
def Tells (body : Module) (expression : Expr) (key : String) : Prop :=
  keyIn? body (some expression) = some key

variable {entryPoints : EntryPoints} {body : Module} {symbol : String} {value : Expr}
  {statement : Stmt}

/-! ## Names by their code points -/

theorem symbol?_eq_some_iff {element : Expr} :
    symbol? element = some symbol ↔ points? element = some (symbol.toList.map Char.toNat) := by
  constructor
  · intro h
    unfold symbol? at h
    split at h
    · next points =>
      split at h
      · next hvalid =>
        obtain rfl := Option.some.inj h
        rw [String.toList_ofList, Compatibility.map_toNat_map_ofNat (by simpa using hvalid)]
        rfl
      · cases h
    · cases h
  · intro h
    unfold points? at h
    split at h
    · obtain rfl := Option.some.inj h
      have hvalid : (symbol.toList.map Char.toNat).all (fun point => point.isValidChar) = true := by
        simpa using fun char _ => char.valid
      rw [symbol?, if_pos hvalid, List.map_map]
      simp [Function.comp_def, Char.ofNat_toNat]
    · cases h

theorem mem_symbols_iff {elements : List Expr} {names : List (List Nat)}
    (h : elements.mapM points? = some names) :
    symbol ∈ elements.filterMap symbol? ↔ symbol.toList.map Char.toNat ∈ names := by
  induction elements generalizing names with
  | nil =>
    obtain rfl : [] = names := by simpa using h
    simp
  | cons element elements ih =>
    obtain ⟨points, hpoints, rest, hrest, rfl⟩ : ∃ points, points? element = some points ∧
        ∃ rest, elements.mapM points? = some rest ∧ points :: rest = names := by
      simpa [List.mapM_cons, Option.bind_eq_some_iff] using h
    have hhead : symbol? element = some symbol ↔ symbol.toList.map Char.toNat = points := by
      rw [symbol?_eq_some_iff, hpoints, Option.some_inj, eq_comm]
    rw [List.mem_cons, ← ih hrest, ← hhead]
    cases hsymbol : symbol? element <;> simp [hsymbol, eq_comm]

theorem isExported_iff (h : ∀ value, body.findSome? exportValue? = some value →
    (listed? value).isSome) :
    isExported symbol (exportedNames body) = true ↔ IsPublic (declared? body) symbol := by
  unfold exportedNames declared?
  cases hvalue : body.findSome? exportValue? with
  | none => simp [isExported, IsPublic]
  | some value =>
    obtain ⟨names, hnames⟩ := Option.isSome_iff_exists.mp (h value hvalue)
    cases value with
    | list elements | tuple elements =>
      simpa [isExported, IsPublic, hnames] using mem_symbols_iff hnames
    | _ => cases hnames

/-! ## The list at the end of the module -/

theorem assigned?_of_exportValue? (h : exportValue? statement = some value) :
    assigned? "__all__" statement = some value := by
  cases statement with
  | assign targets found => exact h
  | _ => cases h

theorem findSome?_exportValue?_eq_none (h : ∀ statement ∈ body, (exportValue? statement).isNone) :
    body.findSome? exportValue? = none :=
  List.findSome?_eq_none_iff.mpr fun statement hmem => Option.isNone_iff_eq_none.mp (h statement hmem)

theorem mem_bindings_of_exportValue? (h : body.findSome? exportValue? = some value) :
    value ∈ bindings "__all__" body := by
  obtain ⟨statement, hmem, hvalue⟩ := List.exists_of_findSome?_eq_some h
  exact List.mem_filterMap.mpr ⟨statement, hmem, assigned?_of_exportValue? hvalue⟩

/-- A module that nothing declares the list in, or cut at the plain binding that settles it. -/
theorem settles_cases (h : Settles body) :
    (body.findSome? exportValue? = none ∧ bindings "__all__" body = []) ∨
    ∃ before statement after value, body = before ++ statement :: after ∧
      before.findSome? exportValue? = none ∧ exportValue? statement = some value ∧
      bindings "__all__" after = [] := by
  unfold Settles behindPlain at h
  split at h
  · next hrest =>
    exact .inl ⟨findSome?_exportValue?_eq_none (List.dropWhile_eq_nil_iff.mp hrest), h⟩
  · next statement after hrest =>
    have hbefore := findSome?_exportValue?_eq_none (List.all_eq_true.mp (List.all_takeWhile (l := body)))
    have hstatement := List.head?_dropWhile_not (fun statement => (exportValue? statement).isNone) body
    rw [hrest, List.head?_cons] at hstatement
    obtain ⟨value, hvalue⟩ := Option.isSome_iff_exists.mp (Option.isNone_eq_false_iff.mp hstatement)
    exact .inr ⟨_, statement, after, value, by rw [← hrest, List.takeWhile_append_dropWhile],
      hbefore, hvalue, h⟩

/-- A list that is bound last by its first plain binding has the names of this binding. -/
theorem declared?_eq_final? (h : Settles body) : declared? body = final? body := by
  unfold declared? final?
  obtain ⟨hdeclared, hbindings⟩ | ⟨before, statement, after, value, rfl, hbefore, hvalue, hafter⟩ :=
    settles_cases h
  · rw [hdeclared, hbindings, List.getLast?_nil]
  · have hbindings : bindings "__all__" (before ++ statement :: after) =
        bindings "__all__" before ++ [value] := by
      rw [bindings, List.filterMap_append, List.filterMap_cons_some (assigned?_of_exportValue? hvalue)]
      exact congrArg (bindings "__all__" before ++ value :: ·) hafter
    rw [hbindings, List.getLast?_concat, List.findSome?_append, hbefore, Option.none_or,
      List.findSome?_cons, hvalue]

/-! ## What the scan reports -/

/-- The scan reports an item under its symbol if this is public by the first plain binding of the list.
That is how the list stands at the end of the module if no other binding of it follows, or if there
is none at all. -/
theorem scanSource?_declared {source : String} (entryPoints : EntryPoints)
    (hbody : parseModule? source.toList = some body)
    (hlisted : ∀ value ∈ bindings "__all__" body, (listed? value).isSome) :
    ∃ scan, scanSource? entryPoints source = some scan ∧
      Gathers (Site.Makes entryPoints (Tells body) (IsPublic (declared? body)))
        (body.flatMap sites) scan.registrations ∧
      (Settles body → declared? body = final? body) := by
  refine ⟨scanModule entryPoints body, by rw [scanSource?, hbody, Option.map_some], ?_,
    declared?_eq_final?⟩
  have hpublic (symbol : String) :
      IsPublic (declared? body) symbol ↔ isExported symbol (exportedNames body) = true :=
    (isExported_iff fun value hvalue => hlisted value (mem_bindings_of_exportValue? hvalue)).symm
  exact (gathers_registrations (fun _ _ _ _ _ _ => Iff.rfl) hpublic _).mpr rfl

/-- A module that declares one of the two symbols it binds to hooks. -/
def listing : String :=
  "__all__ = ['A']\nA = register_hook('a', [])\nB = register_hook('b', [])\n"

theorem listing_declared : ∃ body scan, parseModule? listing.toList = some body ∧
    scanSource? .usual listing = some scan ∧
    Gathers (Site.Makes .usual (Tells body) (IsPublic (declared? body))) (body.flatMap sites)
      scan.registrations ∧
    declared? body = final? body ∧
    scan.registrations = [⟨some "A", "a", .hook⟩, ⟨none, "b", .hook⟩] := by
  have hmodule : ∃ body ∈ parseModule? listing.toList,
      (∀ value ∈ bindings "__all__" body, (listed? value).isSome) ∧ Settles body ∧
      (scanModule .usual body).registrations = [⟨some "A", "a", .hook⟩, ⟨none, "b", .hook⟩] := by
    decide +kernel
  obtain ⟨body, hbody, hlisted, hsettles, hfound⟩ := hmodule
  obtain ⟨scan, hscan, hgathers, hfinal⟩ := scanSource?_declared .usual hbody hlisted
  obtain rfl : scanModule .usual body = scan := by
    simpa [scanSource?, Option.mem_def.mp hbody] using hscan
  exact ⟨body, _, hbody, hscan, hgathers, hfinal hsettles, hfound⟩

end Registrar.Registration
