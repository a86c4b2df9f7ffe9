import Stencil.Text.Blank
import Stencil.Text.Digit
import Stencil.Text.CharacterName.Aliases
import Stencil.Text.CharacterName.From0000
import Stencil.Text.CharacterName.From1000
import Stencil.Text.CharacterName.From2000
import Stencil.Text.CharacterName.From2600
import Stencil.Text.CharacterName.FromA000
import Stencil.Text.CharacterName.From10000
import Stencil.Text.CharacterName.From16800
import Stencil.Text.CharacterName.From1F000

/-!
# Character names

The character that a Unicode name belongs to. Syllables and ideographs are named by
rule, all other characters by the tables; a second name does as well. Letters count
in either case, except in the names of syllables and unified ideographs.
-/

namespace Stencil.Text.CharacterName

/-- Words, each with the blank or hyphen that ends it. -/
def words : Text → List Text
  | [] => []
  | c :: rest =>
    match words rest with
    | [] => [[c]]
    | w :: ws => if c = ' ' ∨ c = '-' then [c] :: w :: ws else (c :: w) :: ws

/-- The names of a run, given the words of the name before, how many of them the
current name takes over, and the rest of it so far, last character first. -/
def unpack (before : List Text) (shared : Nat) (fresh : Text) : Text → List Text
  | [] => [(before.take shared ++ words fresh.reverse).flatten]
  | c :: rest =>
    if c.isLower then
      let name := before.take shared ++ words fresh.reverse
      name.flatten :: unpack name (c.toNat - 'a'.toNat) [] rest
    else unpack before shared (c :: fresh) rest

/-- The names of a run of code points; its first name takes over no words. -/
def namesOf (packed : List String) : List Text :=
  unpack [] 0 [] ((packed.flatMap String.text).drop 1)

def tables : List (List (Nat × List String)) :=
  [namesFrom0000, namesFrom1000, namesFrom2000, namesFrom2600, namesFromA000,
   namesFrom10000, namesFrom16800, namesFrom1F000]

def inRun? (name : Text) (run : Nat × List String) : Option Nat :=
  ((namesOf run.2).findIdx? (· == name)).map (run.1 + ·)

def inTables? (name : Text) : Option Nat :=
  tables.findSome? fun table => table.findSome? (inRun? name)

def inAliases? (name : Text) : Option Nat :=
  (aliases.find? fun a => a.2.text == name).map (·.1)

/-- Characters whose names end in their code points. -/
def codedRanges : List (String × List (Nat × Nat)) :=
  [("CJK COMPATIBILITY IDEOGRAPH-", [(0xF900, 0xFA6D), (0xFA70, 0xFAD9), (0x2F800, 0x2FA1D)]),
   ("KHITAN SMALL SCRIPT CHARACTER-", [(0x18B00, 0x18CD5)]),
   ("NUSHU CHARACTER-", [(0x1B170, 0x1B2FB)])]

def unifiedRanges : List (Nat × Nat) :=
  [(0x3400, 0x4DBF), (0x4E00, 0x9FFF), (0x20000, 0x2A6DF), (0x2A700, 0x2B738),
   (0x2B740, 0x2B81D), (0x2B820, 0x2CEA1), (0x2CEB0, 0x2EBE0), (0x30000, 0x3134A)]

def isIn (ranges : List (Nat × Nat)) (n : Nat) : Bool :=
  ranges.any fun r => r.1 ≤ n && n ≤ r.2

/-- A code in capital hexadecimal digits. -/
def readCode? (t : Text) : Option Nat :=
  if t.any CodePoint.isLower then none else natOfDigits? 16 t

/-- The code is written with four digits, or with five where it needs them. -/
def inCoded? (name : Text) : Option Nat :=
  codedRanges.findSome? fun (front, ranges) => do
    let digits ← front.text.isPrefixOf? name
    let code ← readCode? digits
    if isIn ranges code && digits.length = (if code < 0x10000 then 4 else 5) then some code
    else none

/-- Unified ideographs have a code of four or five digits. -/
def unified? (digits : Text) : Option Nat := do
  let code ← readCode? digits
  if (digits.length = 4 ∨ digits.length = 5) ∧ isIn unifiedRanges code then some code else none

/-- Variation selectors one to sixteen, and the others up to 256. -/
def selector? (name : Text) : Option Nat := do
  let digits ← "VS".text.isPrefixOf? name
  if digits.isEmpty ∨ digits.head? = some (.char '0') then none
  let n ← natOfDigits? 10 digits
  if n ≤ 16 then some (0xFE00 + (n - 1))
  else if n ≤ 256 then some (0xE0100 + (n - 17))
  else none

def leads : List String :=
  ["G", "GG", "N", "D", "DD", "R", "M", "B", "BB", "S", "SS", "", "J", "JJ", "C", "K", "T",
   "P", "H"]

def vowels : List String :=
  ["A", "AE", "YA", "YAE", "EO", "E", "YEO", "YE", "O", "WA", "WAE", "OE", "YO", "U", "WEO",
   "WE", "WI", "YU", "EU", "YI", "I"]

def tails : List String :=
  ["", "G", "GG", "GS", "N", "NJ", "NH", "D", "L", "LG", "LM", "LB", "LS", "LT", "LP", "LH",
   "M", "B", "BS", "S", "SS", "NG", "J", "C", "K", "T", "P", "H"]

/-- The place of the longest of the parts that a text starts with, and the rest. -/
def longest? (parts : List String) (t : Text) : Option (Nat × Text) :=
  parts.zipIdx.foldl (fun best (part, index) =>
    match part.text.isPrefixOf? t with
    | none => best
    | some rest =>
      match best with
      | some (_, other) => if rest.length < other.length then some (index, rest) else best
      | none => some (index, rest)) none

/-- A syllable has a lead, a vowel and a tail, each as long as it can be. -/
def syllable? (t : Text) : Option Nat := do
  let (lead, t) ← longest? leads t
  let (vowel, t) ← longest? vowels t
  let (tail, t) ← longest? tails t
  if t.isEmpty then some (0xAC00 + (lead * vowels.length + vowel) * tails.length + tail)
  else none

def code? (name : Text) : Option Nat :=
  match "HANGUL SYLLABLE ".text.isPrefixOf? name with
  | some syllable => syllable? syllable
  | none =>
    match "CJK UNIFIED IDEOGRAPH-".text.isPrefixOf? name with
    | some digits => unified? digits
    | none =>
      let name := name.map CodePoint.toUpper
      (inCoded? name).orElse fun _ =>
        (selector? name).orElse fun _ =>
          (inAliases? name).orElse fun _ => inTables? name

end CharacterName

/-- The character of a Unicode name. -/
def named? (name : Text) : Option CodePoint := (CharacterName.code? name).map CodePoint.ofNat

end Stencil.Text
