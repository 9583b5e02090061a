import Registrar.Value.Basic

/-!
# Keys

Mappings compare their keys by what the keys stand for: a boolean and the number equal to it are
one key, tuples are one key when their elements are, and other objects stand for themselves. Values
that can change stand for nothing and are no keys.
-/

namespace Registrar

/-- What a value stands for as a key. -/
inductive Key
  | null
  | number (n : Int)
  | text (s : String)
  | bytes (octets : String)
  | kind (kind : ItemKind)
  | tuple (elements : List Key)
  | object (reference : Nat)

namespace Key

mutual

/-- Whether two keys are one. -/
def same : Key → Key → Bool
  | .null, .null => true
  | .number m, .number n => m == n
  | .text s, .text t => s == t
  | .bytes s, .bytes t => s == t
  | .kind a, .kind b => a == b
  | .tuple as, .tuple bs => sameAll as bs
  | .object m, .object n => m == n
  | _, _ => false

/-- Whether two lists of keys are one. -/
def sameAll : List Key → List Key → Bool
  | [], [] => true
  | a :: as, b :: bs => a.same b && sameAll as bs
  | _, _ => false

end

instance : BEq Key := ⟨same⟩

mutual

theorem same_iff : ∀ a b : Key, a.same b = true ↔ a = b
  | .tuple as, .tuple bs => by simp [same, sameAll_iff as bs]
  | .null, b => by cases b <;> simp [same]
  | .number _, b => by cases b <;> simp [same]
  | .text _, b => by cases b <;> simp [same]
  | .bytes _, b => by cases b <;> simp [same]
  | .kind _, b => by cases b <;> simp [same]
  | .object _, b => by cases b <;> simp [same]
  | .tuple _, .null | .tuple _, .number _ | .tuple _, .text _ | .tuple _, .bytes _
  | .tuple _, .kind _ | .tuple _, .object _ => by simp [same]

theorem sameAll_iff : ∀ as bs : List Key, sameAll as bs = true ↔ as = bs
  | [], [] => by simp [sameAll]
  | [], _ :: _ | _ :: _, [] => by simp [sameAll]
  | a :: as, b :: bs => by simp [sameAll, same_iff a b, sameAll_iff as bs]

end

instance : LawfulBEq Key where
  eq_of_beq h := (same_iff _ _).mp h
  rfl := (same_iff _ _).mpr rfl

end Key

namespace Store

/-- The key of a value, looking into tuples up to `depth`. -/
def keyWithin (store : Store) : (depth : Nat) → Value → Option Key
  | _, .null => some .null
  | _, .bool b => some (.number (if b then 1 else 0))
  | _, .int n => some (.number n)
  | _, .text s => some (.text s)
  | _, .bytes octets => some (.bytes octets)
  | _, .kind kind => some (.kind kind)
  | depth, .object reference =>
    match store[reference]?, depth with
    | some (.tuple elements), depth + 1 =>
      (elements.mapM (store.keyWithin depth)).map Key.tuple
    | some (.callable _), _ | some (.function _), _ | some (.component _), _
    | some (.pending _), _ => some (.object reference)
    | _, _ => none

/-- The key of a value, or none if the value is no key. A tuple is created after its elements, so
that no nesting is deeper than the store is large. -/
def key? (store : Store) (value : Value) : Option Key := store.keyWithin (store.size + 1) value

/-- Whether two values are one key. -/
def sameKey (store : Store) (a b : Value) : Bool := store.key? a == store.key? b

end Store

namespace Entries

variable {κ ν : Type}

/-- The value under a key. -/
def find? (same : κ → κ → Bool) (entries : List (κ × ν)) (key : κ) : Option ν :=
  (entries.find? fun entry => same entry.1 key).map (·.2)

/-- The entries with a value under a key: in the place of the key's entry, or at the end. -/
def put (same : κ → κ → Bool) : List (κ × ν) → κ → ν → List (κ × ν)
  | [], key, value => [(key, value)]
  | entry :: rest, key, value =>
    if same entry.1 key then (entry.1, value) :: rest else entry :: put same rest key value

/-- The entries with all of others put, in order. -/
def putAll (same : κ → κ → Bool) (entries others : List (κ × ν)) : List (κ × ν) :=
  others.foldl (fun entries entry => put same entries entry.1 entry.2) entries

end Entries

end Registrar
