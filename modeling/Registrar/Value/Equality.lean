import Registrar.Value.Key

/-!
# Equality and truth

Equality looks into objects, past views, and takes identical values for equal. Objects can contain
themselves; comparing two such objects may have no end.
-/

namespace Registrar

namespace Store

/-- The entries of a mapping, looking through views up to `depth`. -/
def entriesWithin (store : Store) : (depth : Nat) → Value → Option (List (Value × Value))
  | depth, value =>
    match store.object? value, depth with
    | some (.dict entries), _ | some (.config _ entries), _ | some (.dependencies entries), _ =>
      some entries
    | some (.view mapping), depth + 1 => store.entriesWithin depth mapping
    | _, _ => none

/-- The entries of a mapping, or none if the value is no mapping. A view is created after what it
shows. -/
def entries? (store : Store) (value : Value) : Option (List (Value × Value)) :=
  store.entriesWithin (store.size + 1) value

/-- Whether two lists agree in their lengths and in the elements at each place. -/
def agree (same : Value → Value → Option Bool) : List Value → List Value → Option Bool
  | [], [] => some true
  | a :: as, b :: bs => do
    if ← same a b then agree same as bs else some false
  | _, _ => some false

/-- Whether the entries of one mapping are among those of another. -/
def included (store : Store) (same : Value → Value → Option Bool)
    (others : List (Value × Value)) : List (Value × Value) → Option Bool
  | [] => some true
  | (key, value) :: rest =>
    match Entries.find? store.sameKey others key with
    | none => some false
    | some other => do
      if ← same value other then included store same others rest else some false

/-- Whether two values are equal, or none if that takes looking deeper than `depth`. -/
def equalWithin (store : Store) : (depth : Nat) → Value → Value → Option Bool
  | 0, _, _ => none
  | depth + 1, a, b =>
    if a = b then some true
    else match a, b with
    | .bool a, .int b | .int b, .bool a => some (b = if a then 1 else 0)
    | .object _, .object _ =>
      match store.entries? a, store.entries? b with
      | some entries, some others =>
        if entries.length = others.length then
          store.included (store.equalWithin depth) others entries
        else some false
      | none, none =>
        match store.object? a, store.object? b with
        | some (.list as), some (.list bs) | some (.tuple as), some (.tuple bs) =>
          if as.length = bs.length then agree (store.equalWithin depth) as bs else some false
        | some (.set a), some (.set b) => some (a.map store.key? == b.map store.key?)
        | _, _ => some false
      | _, _ => some false
    | _, _ => some false

/-- How deep a comparison looks. -/
def comparisonDepth (store : Store) : Nat := 2 * store.size + 1

/-- Whether two values are equal, or none if the comparison has no end. -/
def equal? (store : Store) (a b : Value) : Option Bool :=
  store.equalWithin store.comparisonDepth a b

/-- Whether a value counts as true: zero, nothing and everything empty do not. -/
def isTrue (store : Store) (value : Value) : Bool :=
  match value with
  | .null => false
  | .bool b => b
  | .int n => n != 0
  | .text s | .bytes s => !s.isEmpty
  | .kind _ => true
  | .object _ =>
    match store.entries? value with
    | some entries => !entries.isEmpty
    | none =>
      match store.object? value with
      | some (.list elements) | some (.tuple elements) => !elements.isEmpty
      | some (.set element) => element.isSome
      | _ => true

end Store

end Registrar
