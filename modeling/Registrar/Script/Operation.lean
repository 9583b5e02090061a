import Registrar.Container.Inspection
import Registrar.Signature.Binding

/-!
# Operations of scripts

The operations on values that terms name.
-/

namespace Registrar

namespace Store

/-- The place an index means in a sequence: negative ones count from the end. -/
def placeIn (length : Nat) (index : Int) : Option Nat :=
  let place := if index < 0 then index + length else index
  if 0 ≤ place ∧ place < length then some place.toNat else none

/-- The number a value is, booleans included. -/
def number? : Value → Option Int
  | .bool b => some (if b then 1 else 0)
  | .int n => some n
  | _ => none

/-- The elements of a sequence that has places. -/
def sequence? (store : Store) (value : Value) : Option (List Value) :=
  match value, store.object? value with
  | .text _, _ | .bytes _, _ | _, some (.list _) | _, some (.tuple _) => store.elements? value
  | _, _ => none

/-- The element of a mapping under a key, or of a sequence at a place. -/
def get (store : Store) (value key : Value) : Except Fault Value :=
  match store.entries? value with
  | some entries =>
    if (store.key? key).isNone then .error .mistyped
    else match Entries.find? store.sameKey entries key with
      | some value => .ok value
      | none => .error .missingKey
  | none =>
    match store.sequence? value, number? key with
    | some elements, some index =>
      match (placeIn elements.length index).bind (elements[·]?) with
      | some value => .ok value
      | none => .error .missingIndex
    | _, _ => .error .mistyped

/-- The element of a mapping under a key, or a fallback. -/
def getOr (store : Store) (value key fallback : Value) : Except Fault Value :=
  match store.entries? value with
  | some entries =>
    if (store.key? key).isNone then .error .mistyped
    else .ok ((Entries.find? store.sameKey entries key).getD fallback)
  | none => .error .missingOperation

/-- Whether one list of characters is somewhere in another. -/
def isWithin (part : List Char) : List Char → Bool
  | [] => part.isEmpty
  | c :: rest => part.isPrefixOf (c :: rest) || isWithin part rest

/-- Whether some element is equal to a value. -/
def hasElement (store : Store) (key : Value) : List Value → Except Fault Bool
  | [] => .ok false
  | element :: rest =>
    match store.equal? element key with
    | none => .error .tooDeep
    | some true => .ok true
    | some false => store.hasElement key rest

/-- Whether a collection has a key or an element. -/
def has (store : Store) (value key : Value) : Except Fault Bool :=
  match store.entries? value, value, store.object? value with
  | some entries, _, _ =>
    if (store.key? key).isNone then .error .mistyped
    else .ok (Entries.find? store.sameKey entries key).isSome
  | _, _, some (.set element) =>
    if (store.key? key).isNone then .error .mistyped
    else .ok (element.any (store.sameKey · key))
  | _, _, some (.list elements) | _, _, some (.tuple elements) => store.hasElement key elements
  | _, .text s, _ =>
    match key with
    | .text part => .ok (isWithin part.toList s.toList)
    | _ => .error .mistyped
  | _, .bytes octets, _ =>
    match key, number? key with
    | .bytes part, _ => .ok (isWithin part.toList octets.toList)
    | _, some n => .ok (octets.toList.any fun c => (c.toNat : Int) = n)
    | _, _ => .error .mistyped
  | _, _, _ => .error .mistyped

/-- What an object becomes when a value is put under a key or at a place. -/
def put (store : Store) (object : Option Object) (key value : Value) : Except Fault Object :=
  match object with
  | some (.dict entries) =>
    if (store.key? key).isNone then .error .mistyped
    else .ok (.dict (Entries.put store.sameKey entries key value))
  | some (.config name entries) =>
    if (store.key? key).isNone then .error .mistyped
    else .ok (.config name (Entries.put store.sameKey entries key value))
  | some (.list elements) =>
    match number? key with
    | none => .error .mistyped
    | some index =>
      match placeIn elements.length index with
      | none => .error .missingIndex
      | some place => .ok (.list (elements.set place value))
  | _ => .error .mistyped

end Store

namespace Run

/-- Texts in a row. -/
def concat (parts : List Value) : Run Value := do
  let texts ← need .mistyped (parts.mapM fun
    | .text s => some s
    | _ => none)
  return .text (String.join texts)

/-- The sum of two numbers, or two sequences of one kind in a row. -/
def add (left right : Value) : Run Value := do
  match left, right, ← object? left, ← object? right with
  | .text a, .text b, _, _ => return .text (a ++ b)
  | .bytes a, .bytes b, _, _ => return .bytes (a ++ b)
  | _, _, some (.list as), some (.list bs) => list (as ++ bs)
  | _, _, some (.tuple as), some (.tuple bs) => tuple (as ++ bs)
  | _, _, _, _ =>
    match Store.number? left, Store.number? right with
    | some a, some b => return .int (a + b)
    | _, _ => throw .mistyped

/-- Whether two values are equal. -/
def equal (left right : Value) : Run Value := do
  return .bool (← need .tooDeep ((← objects).equal? left right))

/-- The number of a value, in the order of first asking. -/
def identity (value : Value) : Run Value := do
  let numbered := (← get).numbered
  match numbered.findIdx? (· == value) with
  | some index => return .int index
  | none =>
    modify fun session => { session with numbered := session.numbered ++ [value] }
    return .int numbered.length

/-- Record a value. -/
def trace (value : Value) : Run Value := do
  modify fun session => { session with traced := session.traced ++ [value] }
  return value

/-- Keep a value under a name. -/
def keep (name : String) (value : Value) : Run Unit :=
  modify fun session => { session with kept := Entries.put (· == ·) session.kept name value }

/-- Entries with keys that can be keys, the last value of each. -/
def entriesOf (entries : List (Value × Value)) : Run (List (Value × Value)) := do
  let objects ← objects
  if entries.all fun entry => (objects.key? entry.1).isSome then
    return Entries.putAll objects.sameKey [] entries
  else throw .mistyped

/-- The named arguments of a call, whose names must be texts. -/
def namesOf (entries : List (Value × Value)) : Run (List (String × Value)) := do
  let entries ← entriesOf entries
  need .mistyped (entries.mapM fun (key, value) =>
    match key with
    | .text name => some (name, value)
    | _ => none)

/-- The item under a key, which must be able to be a key. -/
def item? (index : Nat) (name : Value) : Run (Option Value) := do
  if ((← objects).key? name).isNone then throw .mistyped
  match name with
  | .text name => return (← container index).item? name
  | _ => return none

/-- The argument of a parameter as a value. -/
def argument : Argument Value → Run Value
  | .one value => return value
  | .many values => tuple values
  | .entries entries => dict (entries.map fun (name, value) => (.text name, value))

end Run

end Registrar
