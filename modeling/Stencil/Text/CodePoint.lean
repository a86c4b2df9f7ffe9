/-!
# Code points

Text is a list of code points, so that scanners recurse on it. A code point is a
character or a surrogate: half of a pair that some encodings write for one character.
A text can hold a surrogate standing alone, but no encoding writes it.
-/

namespace Stencil

/-- The surrogates are numbered from the code `0xD800` on. -/
inductive CodePoint where
  | char (c : Char)
  | surrogate (n : Fin 0x800)
  deriving DecidableEq, Repr

abbrev Text := List CodePoint

namespace CodePoint

instance : Coe Char CodePoint := ⟨char⟩

instance : Inhabited CodePoint := ⟨'\x00'⟩

def toNat : CodePoint → Nat
  | char c => c.toNat
  | surrogate n => 0xD800 + n

/-- The code point of a code, and the code zero for what is none. -/
def ofNat (n : Nat) : CodePoint :=
  if h : 0xD800 ≤ n ∧ n < 0xE000 then surrogate ⟨n - 0xD800, by omega⟩ else char (Char.ofNat n)

instance : LT CodePoint := ⟨fun c d => c.toNat < d.toNat⟩

instance : LE CodePoint := ⟨fun c d => c.toNat ≤ d.toNat⟩

instance (c d : CodePoint) : Decidable (c < d) := inferInstanceAs (Decidable (c.toNat < d.toNat))

instance (c d : CodePoint) : Decidable (c ≤ d) := inferInstanceAs (Decidable (c.toNat ≤ d.toNat))

def isSurrogate : CodePoint → Bool
  | char _ => false
  | surrogate _ => true

/-- Letters of ASCII in lower case. -/
def toLower : CodePoint → CodePoint
  | char c => c.toLower
  | surrogate n => surrogate n

/-- Letters of ASCII in upper case. -/
def toUpper : CodePoint → CodePoint
  | char c => c.toUpper
  | surrogate n => surrogate n

def isLower : CodePoint → Bool
  | char c => c.isLower
  | surrogate _ => false

def isUpper : CodePoint → Bool
  | char c => c.isUpper
  | surrogate _ => false

theorem le_def {c d : CodePoint} : c ≤ d ↔ c.toNat ≤ d.toNat := Iff.rfl

@[simp]
theorem toNat_char (c : Char) : (char c).toNat = c.toNat := rfl

@[simp]
theorem toNat_surrogate (n : Fin 0x800) : (surrogate n).toNat = 0xD800 + n := rfl

@[simp]
theorem char_le_char {c d : Char} : char c ≤ char d ↔ c ≤ d := by
  rw [le_def, toNat_char, toNat_char, Char.le_def, UInt32.le_iff_toNat_le]
  rfl

theorem toNat_lt (c : CodePoint) : c.toNat < 0x110000 := by
  cases c with
  | char c =>
    have hvalid : c.toNat < 0xD800 ∨ 0xDFFF < c.toNat ∧ c.toNat < 0x110000 := c.valid
    rw [toNat_char]
    omega
  | surrogate n =>
    rw [toNat_surrogate]
    omega

theorem ofNat_toNat (c : CodePoint) : ofNat c.toNat = c := by
  cases c with
  | char c =>
    have hvalid : c.toNat < 0xD800 ∨ 0xDFFF < c.toNat ∧ c.toNat < 0x110000 := c.valid
    rw [toNat_char, ofNat, dif_neg (by omega), Char.ofNat_toNat]
  | surrogate n =>
    have hrange : 0xD800 ≤ (surrogate n).toNat ∧ (surrogate n).toNat < 0xE000 := by
      rw [toNat_surrogate]
      omega
    rw [ofNat, dif_pos hrange]
    simp only [toNat_surrogate, Nat.add_sub_cancel_left]

theorem eq_of_toNat_eq {c d : CodePoint} (h : c.toNat = d.toNat) : c = d := by
  rw [← ofNat_toNat c, h, ofNat_toNat]

instance : Trans (· < · : CodePoint → CodePoint → Prop) (· < ·) (· < ·) := ⟨Nat.lt_trans⟩

instance : Std.Asymm (· < · : CodePoint → CodePoint → Prop) := ⟨fun _ _ h => Nat.lt_asymm h⟩

instance : Std.Trichotomous (· < · : CodePoint → CodePoint → Prop) :=
  ⟨fun _ _ h h' => eq_of_toNat_eq (Nat.le_antisymm (Nat.not_lt.1 h') (Nat.not_lt.1 h))⟩

end CodePoint

end Stencil

@[simp]
def String.text (s : String) : Stencil.Text := s.toList.map .char
