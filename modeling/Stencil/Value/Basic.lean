import Stencil.Calendar.Date
import Stencil.Number.Decimal

/-!
# Values

The values that variables hold, functions take and return, and chains pass along.
-/

namespace Stencil

open Stencil.Number (Double Decimal)
open Stencil.Calendar (Date)

attribute [local instance (high)] instPowNat

inductive Value where
  | null
  | bool (b : Bool)
  | int (n : Int)
  | float (x : Double)
  | text (s : Text)
  | list (items : List Value)
  | tuple (items : List Value)
  /-- Entries in the order of insertion, no two with the same key. -/
  | dict (entries : List (Value × Value))
  | bytes (octets : List UInt8)
  | decimal (d : Decimal)
  | date (d : Date)
  /-- Anything else that can be iterated over, such as a set, a range or a generator: its items in
  the order in which they come, its text, and whether it knows how many they are. -/
  | iterable (items : List Value) (shown : Text) (sized : Bool)
  deriving Repr

namespace Value

/-- Nothing, false, zero and empty values are not truthy; all others are. -/
def truthy : Value → Bool
  | null => false
  | bool b => b
  | int n => n != 0
  | float x => !x.isZero
  | text s => !s.isEmpty
  | list items => !items.isEmpty
  | tuple items => !items.isEmpty
  | dict entries => !entries.isEmpty
  | bytes octets => !octets.isEmpty
  | decimal d => !d.isZero
  | date _ => true
  | iterable items _ sized => !sized || !items.isEmpty

/-- Nothing and the empty text. -/
def isBlankOrNull : Value → Bool
  | null => true
  | text s => s.isEmpty
  | _ => false

/-- The items of a value that is iterated over for them: of all but text, bytes and dictionaries. -/
def items? : Value → Option (List Value)
  | list items => some items
  | tuple items => some items
  | iterable items _ _ => some items
  | _ => none

/-- The one form of a finite number as a sign, a coefficient that does not end in zero,
and a power of ten. -/
def exactNumber? : Value → Option (Bool × Nat × Int)
  | bool b => some (false, if b then 1 else 0, 0)
  | int n => some (n < 0, Decimal.trimZeros n.natAbs 0)
  | float (.finite s m e) =>
    match e with
    | .ofNat p => some (s, Decimal.trimZeros (m * 2 ^ p) 0)
    | .negSucc p => some (s, Decimal.trimZeros (m * 5 ^ (p + 1)) (-(p + 1)))
  | decimal (.finite s c e) => some (s, Decimal.trimZeros c e)
  | _ => none

/-- Zero has no sign. -/
def sameNumber (a b : Bool × Nat × Int) : Bool := a.2 == b.2 && (a.1 == b.1 || a.2.1 == 0)

/-- The sign of an infinite number. -/
def infinite? : Value → Option Bool
  | float (.infinite s) => some s
  | decimal (.infinite s) => some s
  | _ => none

mutual

/-- Whether two values are the same key: numbers by their value, whatever their kind,
the other hashable values by kind and content. -/
def sameKey : Value → Value → Bool
  | null, null => true
  | text s, text t => s == t
  | bytes s, bytes t => s == t
  | date d, date e => d == e
  | tuple xs, tuple ys => sameKeys xs ys
  | x, y =>
    match exactNumber? x, exactNumber? y with
    | some a, some b => sameNumber a b
    | none, none => (infinite? x).isSome && infinite? x == infinite? y
    | _, _ => false
termination_by structural x => x

def sameKeys : List Value → List Value → Bool
  | [], [] => true
  | x :: xs, y :: ys => sameKey x y && sameKeys xs ys
  | _, _ => false
termination_by structural x => x

end

def lookup? (key : Value) (entries : List (Value × Value)) : Option Value :=
  (entries.find? fun e => sameKey e.1 key).map (·.2)

/-- Sets the value of a key; a new key goes to the end, a known one keeps its place. -/
def insert (key value : Value) : List (Value × Value) → List (Value × Value)
  | [] => [(key, value)]
  | e :: rest => if sameKey e.1 key then (e.1, value) :: rest else e :: insert key value rest

/-- The dictionary of a list of entries; of equal keys the last value counts. -/
def dictOf (entries : List (Value × Value)) : Value :=
  dict (entries.foldl (fun acc e => insert e.1 e.2 acc) [])

end Value

end Stencil
