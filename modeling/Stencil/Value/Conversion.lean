import Stencil.Value.Basic

/-!
# Conversion of values to numbers

Numbers are cut to their whole part or brought to double precision; text and bytes
are read.
-/

namespace Stencil.Value

open Stencil.Number (Double readInt? readDouble?)

def orFault (fault : Fault) : Option α → Except Fault α
  | some a => .ok a
  | none => .error fault

/-- Bytes as characters; bytes beyond ASCII are part of no number. -/
def bytesText (octets : List UInt8) : Text :=
  octets.map fun b => if b < 128 then CodePoint.ofNat b.toNat else '?'

/-- The whole part of a double. -/
def truncateDouble : Double → Except Fault Int
  | .nan => .error .badValue
  | .infinite _ => .error .outOfRange
  | x => orFault .badValue x.truncate?

/-- The greatest whole number that is no greater than a double. -/
def floorDouble : Double → Except Fault Int
  | .nan => .error .badValue
  | .infinite _ => .error .outOfRange
  | .finite s m e =>
    let (num, den) := Double.magnitude m e
    .ok ((if s then -(num : Int) else num).fdiv den)

def toInt : Value → Except Fault Int
  | bool b => .ok (if b then 1 else 0)
  | int n => .ok n
  | float x => truncateDouble x
  | decimal d => d.truncate
  | text s => orFault .badValue (readInt? s)
  | bytes octets => orFault .badValue (readInt? (bytesText octets))
  | _ => .error .wrongType

def toDouble : Value → Except Fault Double
  | bool b => .ok (.ofRatio false (if b then 1 else 0) 1)
  | int n => orFault .outOfRange (Double.ofInt? n)
  | float x => .ok x
  | decimal d => d.toDouble
  | text s => orFault .badValue (readDouble? s)
  | bytes octets => orFault .badValue (readDouble? (bytesText octets))
  | _ => .error .wrongType

end Stencil.Value
