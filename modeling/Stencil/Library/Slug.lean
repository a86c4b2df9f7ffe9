import Stencil.Library.Basic
import Stencil.Text.Case
import Stencil.Text.Name

/-!
# Slugs

A slug is lower-cased text in which each run of other characters than ASCII letters
and digits is replaced by a separator; characters of the separator are then trimmed
at both ends. The separator is a replacement pattern, in which a backslash starts an
escape. Bytes are read as a pattern, too, but replace nothing.
-/

namespace Stencil.Library

open Stencil.Text (isLetter natOfDigits?)

def isSlugChar (c : CodePoint) : Bool := ('a' ≤ c && c ≤ 'z') || ('0' ≤ c && c ≤ '9')

namespace Pattern

/-- A part of a replacement: a character, or the text that is replaced. -/
inductive Part where
  | char (c : CodePoint)
  | replaced
  deriving DecidableEq, Repr

def isOctal (c : CodePoint) : Bool := '0' ≤ c && c ≤ '7'

def octalCode (digits : Text) : Nat := (natOfDigits? 8 digits).getD 0

/-- A group in angle brackets; the only group is number 0, the whole text replaced. No
group has a name. A backslash at the very end is seen before a name is looked up. The
number is the length of the reference. -/
def group (t : Text) : Except Fault (List Part × Nat) :=
  match t with
  | '<' :: rest =>
    let name := rest.takeWhile (· != .char '>')
    if name.isEmpty ∨ name.length = rest.length then .error .badPattern
    else if Text.isName name then
      .error (if rest.drop (name.length + 1) = [.char '\\'] then .badPattern else .badIndex)
    else if Number.readInt? name = some 0 then .ok ([.replaced], name.length + 2)
    else .error .badPattern
  | _ => .error .badPattern

def controlChar? (c : CodePoint) : Option CodePoint :=
  match c with
  | 'a' => some '\x07'
  | 'b' => some '\x08'
  | 'f' => some '\x0C'
  | 'n' => some '\n'
  | 'r' => some '\r'
  | 't' => some '\t'
  | 'v' => some '\x0B'
  | '\\' => some '\\'
  | _ => none

/-- What an escape stands for, and how many characters after the backslash belong to
it. Other digits than octal codes name groups that do not exist. -/
def escape : Text → Except Fault (List Part × Nat)
  | [] => .error .badPattern
  | c :: rest =>
    if c = 'g' then do
      let (parts, length) ← group rest
      return (parts, length + 1)
    else if c = '0' then
      let digits := (rest.take 2).takeWhile isOctal
      .ok ([.char (CodePoint.ofNat (octalCode digits % 256))], digits.length + 1)
    else if Text.isDigit c then
      let digits := (c :: rest).take 3
      if digits.length = 3 ∧ digits.all isOctal ∧ octalCode digits < 256 then
        .ok ([.char (CodePoint.ofNat (octalCode digits))], 3)
      else .error .badPattern
    else
      match controlChar? c with
      | some d => .ok ([.char d], 1)
      | none => if isLetter c then .error .badPattern else .ok ([.char '\\', .char c], 1)

/-- The parts of a pattern whose first `skip` characters have been read. -/
def readFrom (skip : Nat) : Text → Except Fault (List Part)
  | [] => .ok []
  | c :: rest =>
    match skip with
    | n + 1 => readFrom n rest
    | 0 =>
      if c = '\\' then do
        let (parts, length) ← escape rest
        return parts ++ (← readFrom length rest)
      else do return .char c :: (← readFrom 0 rest)

def read (t : Text) : Except Fault (List Part) := readFrom 0 t

def expand (parts : List Part) (run : Text) : Text :=
  parts.flatMap fun
    | .char c => [c]
    | .replaced => run

end Pattern

/-- The replacement of a run, given last character first; an empty run has none. -/
def closeRun (parts : List Pattern.Part) (run : Text) : Text :=
  if run.isEmpty then [] else Pattern.expand parts run.reverse

/-- Replaces the runs of characters that belong to no slug, `run` being the one before
the text. -/
def replaceRuns (parts : List Pattern.Part) (run : Text) : Text → Text
  | [] => closeRun parts run
  | c :: rest =>
    if isSlugChar c then closeRun parts run ++ c :: replaceRuns parts [] rest
    else replaceRuns parts (c :: run) rest

def slugText (t separator : Text) : Except Fault Text := do
  let parts ← Pattern.read separator
  return Text.trimBy separator.contains (replaceRuns parts [] (Text.lower t))

def slug : Function
  | [v] => do return .text (← slugText (← v.output) ['-'])
  | [v, separator] => do
    let t ← v.output
    match separator with
    | .text s => return .text (← slugText t s)
    | .bytes octets =>
      let _ ← Pattern.read (octets.map fun b => CodePoint.ofNat b.toNat)
      .error .wrongType
    | _ => .error .wrongType
  | _ => .error .wrongType

end Stencil.Library
