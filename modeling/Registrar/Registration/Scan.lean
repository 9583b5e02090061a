import Registrar.Event
import Registrar.Source.Parser.Module

/-!
# Registrations in a module

The top-level statements of a module that register items: decorated definitions, and assignments or
expressions that call an entry point, directly or to apply its result to an implementation. The key
of a registration is a string literal or a name bound to one; a registration with another key is
skipped.
-/

namespace Registrar

open Source

/-- A registration found in a module. -/
structure Registration where
  /-- The exported symbol that is bound to the item, if there is one. -/
  name : Option String
  /-- The dependency key. -/
  key : String
  /-- The kind of the item. -/
  kind : ItemKind
  deriving DecidableEq

/-- The names of the registration entry points with the kinds they register; the last entry of a
name counts. -/
abbrev EntryPoints := List (String × ItemKind)

namespace EntryPoints

/-- The usual entry points. -/
def usual : EntryPoints :=
  [("register_component", .component), ("register_hook", .hook), ("register_function", .function),
    ("register_config", .config)]

/-- The kind a name registers. -/
def kind? (entryPoints : EntryPoints) (name : String) : Option ItemKind :=
  entryPoints.reverse.lookup name

end EntryPoints

/-- What the scan of a module found: its registrations, and the lines of skipped ones. -/
structure ModuleScan where
  registrations : List Registration
  skipped : List Nat

namespace Registration

/-- Code points as a string. Halves of surrogate pairs are joined; a lone one is replaced. -/
def textOfPoints : List Nat → String := fun points =>
  match Json.joinSurrogates points with
  | some text => String.ofList text
  | none => String.ofList (points.map fun point =>
      if 0xD800 ≤ point && point < 0xE000 then Char.ofNat 0xFFFD else Char.ofNat point)

/-- The text of a string literal. -/
def literal? : Expr → Option String
  | .constant (.text points) => some (textOfPoints points)
  | _ => none

/-- The name and text that a statement binds, if it binds one name to a string literal. -/
def constant? : Stmt → Option (String × String)
  | .assign [.name id] value => (literal? value).map (id, ·)
  | .annAssign (.name id) _ (some value) => (literal? value).map (id, ·)
  | _ => none

/-- The names a module binds to string literals, the latest binding first. -/
def constants (body : Module) : List (String × String) :=
  (body.filterMap constant?).reverse

/-- Whether a target is the list of exported names. -/
def isExportList : Expr → Bool
  | .name id => id == "__all__"
  | _ => false

/-- The value of a statement that assigns the list of exported names. -/
def exportValue? : Stmt → Option Expr
  | .assign targets value => if targets.any isExportList then some value else none
  | _ => none

/-- The symbol that a string literal names. Half of a surrogate pair stands in no symbol, so a literal
with one names none. -/
def symbol? : Expr → Option String
  | .constant (.text points) =>
    if points.all fun point => point.isValidChar then some (String.ofList (points.map Char.ofNat))
    else none
  | _ => none

/-- The names a module declares as exported: those in its first plain assignment of the list, if that
is a literal list or tuple. -/
def exportedNames (body : Module) : Option (List String) :=
  match body.findSome? exportValue? with
  | some (.list elements) | some (.tuple elements) => some (elements.filterMap symbol?)
  | _ => none

/-- Whether a symbol is exported: it is declared so, or nothing is declared and it does not start with
an underscore. -/
def isExported (symbol : String) : Option (List String) → Bool
  | some names => names.contains symbol
  | none => symbol.toList.head? != some '_'

/-- The kind that a call registers by the name it calls. -/
def calleeKind? (entryPoints : EntryPoints) : Expr → Option ItemKind
  | .name id => entryPoints.kind? id
  | .attribute _ attr => entryPoints.kind? attr
  | _ => none

/-- A call that is a registration. -/
structure Call where
  /-- The symbol bound to the item. -/
  symbol : Option String
  line : Nat
  kind : ItemKind
  /-- The expression of the key, if there is one. -/
  key : Option Expr

/-- The expression of a call's key: its first argument, else its keyword `name`. -/
def keyExpression? (arguments : List Expr) (keywords : List (Option String × Expr)) :
    Option Expr :=
  match arguments with
  | first :: _ => some first
  | [] => keywords.lookup (some "name")

/-- The registration an expression calls. -/
def call? (entryPoints : EntryPoints) (symbol : Option String) : Expr → Option Call
  | .call line callee arguments keywords =>
    (calleeKind? entryPoints callee).map fun kind =>
      ⟨symbol, line, kind, keyExpression? arguments keywords⟩
  | _ => none

/-- The registration that the value of a statement makes: the call itself, or the call whose result
it applies. -/
def valueCall? (entryPoints : EntryPoints) (symbol : Option String) (value : Expr) :
    Option Call :=
  match value with
  | .call _ callee _ _ =>
    (call? entryPoints symbol value).or (call? entryPoints symbol callee)
  | _ => none

/-- The registrations that a statement makes, in order. -/
def calls (entryPoints : EntryPoints) : Stmt → List Call
  | .functionDef _ name _ decorators _ _ | .classDef name _ _ decorators _ =>
    decorators.filterMap (call? entryPoints (some name))
  | .assign [.name id] value => (valueCall? entryPoints (some id) value).toList
  | .assign _ value => (valueCall? entryPoints none value).toList
  | .annAssign target _ (some value) =>
    let symbol := match target with
      | .name id => some id
      | _ => none
    (valueCall? entryPoints symbol value).toList
  | .evaluate value => (valueCall? entryPoints none value).toList
  | _ => []

/-- A text that is not empty. -/
def nonEmpty? (text : String) : Option String := if text == "" then none else some text

/-- The key that an expression stands for. -/
def resolveKey? (constants : List (String × String)) : Option Expr → Option String
  | some (.name id) => (constants.lookup id).bind nonEmpty?
  | some value => (literal? value).bind nonEmpty?
  | none => none

/-- Scan the statements of a module. -/
def scanModule (entryPoints : EntryPoints) (body : Module) : ModuleScan :=
  let constants := constants body
  let exported := exportedNames body
  let calls := body.flatMap (calls entryPoints)
  let registration? (call : Call) : Option Registration :=
    (resolveKey? constants call.key).map fun key =>
      ⟨call.symbol.filter (isExported · exported), key, call.kind⟩
  { registrations := calls.filterMap registration?
    skipped := (calls.filter fun call => (registration? call).isNone).map (·.line) }

/-- Scan the text of a module; a text that is no module has no scan. -/
def scanSource? (entryPoints : EntryPoints) (source : String) : Option ModuleScan :=
  (parseModule? source.toList).map (scanModule entryPoints)

end Registration

end Registrar
