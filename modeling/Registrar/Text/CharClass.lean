/-!
# Sets of characters

A set of characters is kept as the increasing list of code points at which membership changes,
so that a standard's ranges fit in one list and membership is a parity.
-/

namespace Registrar

/-- A set of characters, given by the code points at which membership flips. -/
structure CharClass where
  /-- The flips in increasing order; membership starts out false. -/
  turns : List Nat

namespace CharClass

/-- Whether the number of flips up to a code point is odd. -/
def odd (point : Nat) : List Nat → Bool
  | [] => false
  | turn :: turns => if turn ≤ point then !odd point turns else false

/-- Membership of a character. -/
def contains (charClass : CharClass) (c : Char) : Bool :=
  odd c.toNat charClass.turns

end CharClass

/-- Characters of the first half of the eight-bit range, which every class treats by hand. -/
def isAscii (c : Char) : Bool := c.toNat < 128

end Registrar
