import Registrar.Catalogue.Export
import Registrar.Proofs.Registration.Forms

/-! # What the scan finds

The scan of statements that register finds their registrations, in order, and numbering them as
exports keeps their keys and kinds.
-/

namespace Registrar

open Registration

/-- The key and the kind of a registration. -/
def Registration.entry (registration : Registration) : String × ItemKind :=
  (registration.key, registration.kind)

/-- The key and the kind of an export. -/
def Export.entry («export» : Export) : String × ItemKind := («export».key, «export».kind)

variable {key : String} {kind : ItemKind}

/-- A call that the scan finds is of a kind and names a key by a literal. -/
structure Registration.Call.Names (key : String) (kind : ItemKind) (call : Registration.Call) :
    Prop where
  kind : call.kind = kind
  literal : call.key.bind literal? = some key
  filled : key ≠ ""

theorem call?_of_ofExpr? {expression : Source.Expr} {entry : EntryCall}
    (h : EntryCall.ofExpr? expression = some entry) (hkind : entry.kind = kind)
    (hkeyed : entry.Keyed key) (symbol : Option String) :
    ∃ call, call? .usual symbol expression = some call ∧ call.Names key kind := by
  cases expression with
  | call line callee arguments keywords =>
    obtain ⟨found, hfound, rfl⟩ := Option.map_eq_some_iff.mp h
    refine ⟨⟨symbol, line, found, keyExpression? arguments keywords⟩, ?_, hkind, hkeyed.literal,
      hkeyed.filled⟩
    rw [call?, hfound]
    rfl
  | _ => cases h

theorem call?_of_isPlain {expression : Source.Expr} (h : IsPlain expression)
    (symbol : Option String) : call? .usual symbol expression = none := by
  rw [← Option.not_isSome_iff_eq_none, call?_isSome, h.ofExpr?_eq]
  decide

theorem Registers.valueCall? {value : Source.Expr} (h : Registers key kind value)
    (symbol : Option String) :
    ∃ call, Registration.valueCall? .usual symbol value = some call ∧ call.Names key kind := by
  cases h with
  | direct hentry hkind hkeyed =>
    obtain ⟨call, hcall, hnames⟩ := call?_of_ofExpr? hentry hkind hkeyed symbol
    cases value with
    | call line callee arguments keywords =>
      exact ⟨call, by rw [Registration.valueCall?, hcall, Option.some_or], hnames⟩
    | _ => cases hentry
  | @applied line callee arguments keywords entry hentry hkind hkeyed hopen =>
    obtain ⟨call, hcall, hnames⟩ := call?_of_ofExpr? hentry hkind hkeyed symbol
    have hother : call? .usual symbol (.call line callee arguments keywords) = none := by
      cases callee with
      | call => rfl
      | _ => cases hentry
    exact ⟨call, by rw [Registration.valueCall?, hother, hcall, Option.none_or], hnames⟩

theorem Decorates.filterMap {decorators : List Source.Expr} (h : Decorates key kind decorators)
    (symbol : Option String) :
    ∃ call, decorators.filterMap (call? .usual symbol) = [call] ∧ call.Names key kind := by
  induction h with
  | here hentry hkind hkeyed _ hplain =>
    obtain ⟨call, hcall, hnames⟩ := call?_of_ofExpr? hentry hkind hkeyed symbol
    refine ⟨call, ?_, hnames⟩
    rw [List.filterMap_cons_some hcall, List.filterMap_eq_nil_iff.mpr fun other hother =>
      call?_of_isPlain (hplain other hother) symbol]
  | under hplain _ ih =>
    obtain ⟨call, hcalls, hnames⟩ := ih
    exact ⟨call, by rw [List.filterMap_cons_none (call?_of_isPlain hplain symbol), hcalls], hnames⟩

/-- The scan finds one call in a statement that registers. -/
theorem Declares.calls {statement : Source.Stmt} (h : Declares key kind statement) :
    ∃ call, Registration.calls .usual statement = [call] ∧ call.Names key kind := by
  have hvalue {value : Source.Expr} (h : Registers key kind value) (symbol : Option String) :
      ∃ call, (Registration.valueCall? .usual symbol value).toList = [call] ∧
        call.Names key kind := by
    obtain ⟨call, hcall, hnames⟩ := h.valueCall? symbol
    exact ⟨call, by rw [hcall]; rfl, hnames⟩
  cases h with
  | assign targets hregisters =>
    obtain ⟨symbol, hcalls⟩ := calls_assign targets _
    rw [hcalls]
    exact hvalue hregisters symbol
  | annAssign target hint hregisters => exact hvalue hregisters _
  | evaluate hregisters => exact hvalue hregisters none
  | functionDef isAsync name parameters returns body hdecorators =>
    exact hdecorators.filterMap (some name)
  | classDef name bases keywords body hdecorators => exact hdecorators.filterMap (some name)

theorem Idle.calls {statement : Source.Stmt} (h : Idle statement) :
    Registration.calls .usual statement = [] := by
  cases statement with
  | functionDef | classDef =>
    exact List.filterMap_eq_nil_iff.mpr fun decorator hmem => call?_of_isPlain (h decorator hmem) _
  | _ => exact h

theorem Registration.Call.Names.resolveKey? {call : Registration.Call}
    (h : call.Names key kind) (constants : List (String × String)) :
    Registration.resolveKey? constants call.key = some key := by
  obtain ⟨expression, hexpression, hliteral⟩ := Option.bind_eq_some_iff.mp h.literal
  rw [hexpression]
  cases expression with
  | constant value =>
    change (literal? (.constant value)).bind nonEmpty? = some key
    rw [hliteral, Option.bind_some, nonEmpty?, if_neg (by simpa using h.filled)]
  | _ => cases hliteral

/-- The scan of a module finds what its statements register. -/
theorem Declared.scan {body : Source.Module} {declared : List (String × ItemKind)}
    (h : Declared body declared) :
    (scanModule .usual body).registrations.map Registration.entry = declared := by
  have hfound (constants : List (String × String)) (exported : Option (List String)) :
      ((body.flatMap (Registration.calls .usual)).filterMap fun call =>
        (Registration.resolveKey? constants call.key).map fun key =>
          (⟨call.symbol.filter (isExported · exported), key, call.kind⟩ : Registration)).map
            Registration.entry = declared := by
    induction h with
    | nil => rfl
    | idle hidle _ ih => rwa [List.flatMap_cons, hidle.calls, List.nil_append]
    | declares hdeclares _ ih =>
      obtain ⟨call, hcalls, hnames⟩ := hdeclares.calls
      rw [List.flatMap_cons, hcalls, List.singleton_append, List.filterMap_cons,
        hnames.resolveKey? constants, Option.map_some, List.map_cons, ih]
      exact congrArg (· :: _) (Prod.ext rfl hnames.kind)
  exact hfound (constants body) (exportedNames body)

/-- Numbering registrations as exports keeps their keys and kinds. -/
theorem entry_ofRegistrations (path : Path) (start : Nat) (registrations : List Registration) :
    (Export.ofRegistrations path start registrations).map Export.entry =
      registrations.map Registration.entry := by
  refine List.ext_getElem (by simp [Export.ofRegistrations]) fun place _ _ => ?_
  simp [Export.ofRegistrations, Export.entry, Registration.entry]

theorem entry_number (start : Nat) (files : List (Path × List Registration)) :
    ((FileExports.number start files).flatMap (·.exports)).map Export.entry =
      files.flatMap fun file => file.2.map Registration.entry := by
  induction files generalizing start with
  | nil => rfl
  | cons file files ih =>
    rw [FileExports.number, List.flatMap_cons, List.map_append, ih, entry_ofRegistrations,
      List.flatMap_cons]

theorem Declared.append {statements more : List Source.Stmt}
    {declared others : List (String × ItemKind)} (h : Declared statements declared)
    (hmore : Declared more others) :
    Declared (statements ++ more) (declared ++ others) := by
  induction h with
  | nil => exact hmore
  | idle hidle _ ih => exact .idle hidle ih
  | declares hdeclares _ ih => exact .declares hdeclares ih

/-- Modules one after another register what the scan of each of them finds. -/
theorem declared_flatten {modules : List Source.Module}
    (h : ∀ module ∈ modules, ∃ declared, Declared module declared) :
    Declared modules.flatten (modules.flatMap fun module =>
      (scanModule .usual module).registrations.map Registration.entry) := by
  induction modules with
  | nil => exact .nil
  | cons module modules ih =>
    obtain ⟨⟨declared, hdeclared⟩, hrest⟩ := List.forall_mem_cons.mp h
    rw [List.flatten_cons, List.flatMap_cons, hdeclared.scan]
    exact hdeclared.append (ih hrest)

end Registrar
