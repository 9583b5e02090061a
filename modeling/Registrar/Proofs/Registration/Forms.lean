import Registrar.Registration.Execution

/-! # The forms of a registration

Which statements register an item under a key, so that the scan can tell: a call of an entry point
that names its key by a literal, the application of the decorator it returns, and a definition with
one such decorator. All other statements call no entry point that the scan knows.
-/

namespace Registrar

open Registration

namespace EntryCall

/-- A call names a key by a string literal that is not empty. -/
structure Keyed (key : String) (entry : EntryCall) : Prop where
  literal : (keyExpression? entry.arguments entry.keywords).bind literal? = some key
  filled : key ≠ ""

/-- A call gives a key and dependencies, and leaves the implementation to the decorator. -/
structure Open (entry : EntryCall) : Prop where
  kind : entry.kind ≠ .config
  count : entry.arguments.length + entry.keywords.length = 2
  positions : ∀ argument ∈ entry.arguments, ∀ inner, argument ≠ .starred inner
  names : ∀ keyword ∈ entry.keywords, keyword.1.isSome

end EntryCall

/-- An expression calls no entry point, neither itself nor to apply the decorator it returns. -/
def IsPlain (expression : Source.Expr) : Prop := valueCall? .usual none expression = none

/-- An expression registers an item under a key: it calls an entry point, or applies the decorator
that one returns. -/
inductive Registers (key : String) (kind : ItemKind) : Source.Expr → Prop
  | direct {expression : Source.Expr} {entry : EntryCall} :
      EntryCall.ofExpr? expression = some entry → entry.kind = kind → entry.Keyed key →
      Registers key kind expression
  | applied {line : Nat} {callee : Source.Expr} {arguments : List Source.Expr}
      {keywords : List (Option String × Source.Expr)} {entry : EntryCall} :
      EntryCall.ofExpr? callee = some entry → entry.kind = kind → entry.Keyed key → entry.Open →
      Registers key kind (.call line callee arguments keywords)

/-- Exactly one of some decorators registers what they decorate. -/
inductive Decorates (key : String) (kind : ItemKind) : List Source.Expr → Prop
  | here {expression : Source.Expr} {rest : List Source.Expr} {entry : EntryCall} :
      EntryCall.ofExpr? expression = some entry → entry.kind = kind → entry.Keyed key →
      entry.Open → (∀ other ∈ rest, IsPlain other) → Decorates key kind (expression :: rest)
  | under {expression : Source.Expr} {rest : List Source.Expr} : IsPlain expression →
      Decorates key kind rest → Decorates key kind (expression :: rest)

/-- A statement registers an item under a key. -/
inductive Declares (key : String) (kind : ItemKind) : Source.Stmt → Prop
  | assign (targets : List Source.Expr) {value : Source.Expr} : Registers key kind value →
      Declares key kind (.assign targets value)
  | annAssign (target hint : Source.Expr) {value : Source.Expr} : Registers key kind value →
      Declares key kind (.annAssign target hint (some value))
  | evaluate {value : Source.Expr} : Registers key kind value →
      Declares key kind (.evaluate value)
  | functionDef (isAsync : Bool) (name : String) (parameters : Source.Parameters)
      {decorators : List Source.Expr} (returns : Option Source.Expr) (body : List Source.Stmt) :
      Decorates key kind decorators →
      Declares key kind (.functionDef isAsync name parameters decorators returns body)
  | classDef (name : String) (bases : List Source.Expr)
      (keywords : List (Option String × Source.Expr)) {decorators : List Source.Expr}
      (body : List Source.Stmt) : Decorates key kind decorators →
      Declares key kind (.classDef name bases keywords decorators body)

/-- A statement registers nothing. -/
def Idle : Source.Stmt → Prop
  | .functionDef _ _ _ decorators _ _ | .classDef _ _ _ decorators _ =>
    ∀ decorator ∈ decorators, IsPlain decorator
  | statement => calls .usual statement = []

/-- Statements register items under keys, in order, and else nothing. -/
inductive Declared : List Source.Stmt → List (String × ItemKind) → Prop
  | nil : Declared [] []
  | idle {statement : Source.Stmt} {rest : List Source.Stmt} {entries : List (String × ItemKind)} :
      Idle statement → Declared rest entries → Declared (statement :: rest) entries
  | declares {statement : Source.Stmt} {rest : List Source.Stmt} {key : String} {kind : ItemKind}
      {entries : List (String × ItemKind)} : Declares key kind statement → Declared rest entries →
      Declared (statement :: rest) ((key, kind) :: entries)

theorem call?_isSome (symbol : Option String) (expression : Source.Expr) :
    (call? .usual symbol expression).isSome = (EntryCall.ofExpr? expression).isSome := by
  cases expression with
  | call => simp [call?, EntryCall.ofExpr?]
  | _ => rfl

theorem valueCall?_isSome {line : Nat} {callee : Source.Expr} {arguments : List Source.Expr}
    {keywords : List (Option String × Source.Expr)} (symbol : Option String) :
    (valueCall? .usual symbol (.call line callee arguments keywords)).isSome =
      ((EntryCall.ofExpr? (.call line callee arguments keywords)).isSome ||
        (EntryCall.ofExpr? callee).isSome) := by
  rw [valueCall?, Option.isSome_or, call?_isSome, call?_isSome]

/-- A call is plain if neither it nor its callee calls an entry point. -/
theorem isPlain_call_iff {line : Nat} {callee : Source.Expr} {arguments : List Source.Expr}
    {keywords : List (Option String × Source.Expr)} :
    IsPlain (.call line callee arguments keywords) ↔
      EntryCall.ofExpr? (.call line callee arguments keywords) = none ∧
        EntryCall.ofExpr? callee = none := by
  rw [IsPlain, ← Option.not_isSome_iff_eq_none, valueCall?_isSome]
  simp

theorem IsPlain.ofExpr?_eq {expression : Source.Expr} (h : IsPlain expression) :
    EntryCall.ofExpr? expression = none := by
  cases expression with
  | call line callee arguments keywords => exact (isPlain_call_iff.mp h).1
  | _ => rfl

theorem isPlain_of_toList {symbol : Option String} {value : Source.Expr}
    (h : (valueCall? .usual symbol value).toList = []) : IsPlain value := by
  rw [Option.toList_eq_nil_iff, ← Option.not_isSome_iff_eq_none] at h
  cases value with
  | call line callee arguments keywords =>
    rw [valueCall?_isSome, ← valueCall?_isSome none] at h
    exact Option.not_isSome_iff_eq_none.mp h
  | _ => rfl

theorem calls_assign (targets : List Source.Expr) (value : Source.Expr) :
    ∃ symbol, calls .usual (.assign targets value) = (valueCall? .usual symbol value).toList := by
  cases targets with
  | nil => exact ⟨none, rfl⟩
  | cons target more =>
    cases target with
    | name id =>
      cases more with
      | nil => exact ⟨some id, rfl⟩
      | cons => exact ⟨none, rfl⟩
    | _ => exact ⟨none, rfl⟩

theorem Registers.valueCall?_isSome {key : String} {kind : ItemKind} {expression : Source.Expr}
    (h : Registers key kind expression) (symbol : Option String) :
    (valueCall? .usual symbol expression).isSome = true := by
  cases h with
  | direct hentry =>
    cases expression with
    | call line callee arguments keywords =>
      rw [Registrar.valueCall?_isSome, hentry]
      rfl
    | _ => cases hentry
  | applied hentry =>
    rw [Registrar.valueCall?_isSome, hentry, Option.isSome_some, Bool.or_true]

end Registrar
