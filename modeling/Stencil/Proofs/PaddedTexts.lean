import Stencil.Library.Strings
import Stencil.Proofs.Outcomes

/-!
# Padded texts

A text is padded by blocks of the padding repeated from its first character on, one on each side,
whose lengths are the missing characters. A block is cut out of as many repetitions as it has
characters, so padding is refused where the machine cannot make these repetitions, or cannot put
the blocks and the text together.
-/

namespace Stencil.Library

open Fault (ok_of_bind)

/-- A block of `n` characters of the padding, which starts again whenever it is over. -/
def IsPadding (p : Text) (n : Nat) (block : Text) : Prop :=
  block.length = n ∧ ∀ i < n, block[i]? = p[i % p.length]?

/-- Whether a machine can make the text of so many repetitions: its characters are counted by a
word, and there is room for it unless it is empty. -/
def Machine.CanRepeat (machine : Machine) (p : Text) (n : Nat) : Prop :=
  p.length * n ≤ lengthLimit ∧ (p.length * n = 0 ∨ machine.holds p n = true)

/-- Whether a machine can put one text before another. With an empty one nothing is to be made. -/
def Machine.CanJoin (machine : Machine) (s t : Text) : Prop :=
  s = [] ∨ t = [] ∨ s.length + t.length ≤ lengthLimit ∧ machine.holds (s ++ t) 1 = true

variable {machine : Machine} {p s : Text} {n : Nat}

/-! ## Blocks -/

/-- As many characters of the padding as it is repeated. -/
def block (p : Text) (n : Nat) : Text := (List.replicate n p).flatten.take n

theorem length_repetitions (p : Text) (n : Nat) :
    (List.replicate n p).flatten.length = n * p.length := by
  rw [List.length_flatten, List.map_replicate, List.sum_replicate_nat]

theorem getElem?_repetitions {i : Nat} (h : i < n * p.length) :
    (List.replicate n p).flatten[i]? = p[i % p.length]? := by
  induction n generalizing i with
  | zero => omega
  | succ n ih =>
    rw [Nat.succ_mul] at h
    rw [List.replicate_succ, List.flatten_cons]
    by_cases hfirst : i < p.length
    · rw [List.getElem?_append_left hfirst, Nat.mod_eq_of_lt hfirst]
    · rw [List.getElem?_append_right (Nat.not_lt.1 hfirst), ih (by omega),
        ← Nat.mod_eq_sub_mod (Nat.not_lt.1 hfirst)]

theorem isPadding_block (hp : p ≠ []) (n : Nat) : IsPadding p n (block p n) := by
  have hpos := List.length_pos_iff.2 hp
  have hlength : n ≤ n * p.length := Nat.le_mul_of_pos_right n hpos
  constructor
  · rw [block, List.length_take, length_repetitions, Nat.min_eq_left hlength]
  · intro i hi
    rw [block, List.getElem?_take_of_lt hi, getElem?_repetitions (Nat.lt_of_lt_of_le hi hlength)]

/-! ## What can be made -/

theorem checkLength_eq_ok_iff (tooLong : Fault) {room : Bool} {length : Nat} :
    checkLength tooLong room length = .ok () ↔
      length ≤ lengthLimit ∧ (length = 0 ∨ room = true) := by
  rw [checkLength]
  split
  · next hlong => exact ⟨nofun, fun h => absurd h.1 (Nat.not_le.2 hlong)⟩
  · next hshort =>
    split
    · next hroom => exact ⟨fun _ => ⟨Nat.not_lt.1 hshort, hroom⟩, fun _ => rfl⟩
    · next hnone => exact ⟨nofun, fun h => absurd h.2 hnone⟩

/-- A word is too short for a count only if it is too short for the characters as well. -/
theorem repeated_eq_ok_iff (hp : p ≠ []) {t : Text} :
    repeated machine p (n : Int) = .ok t ↔
      machine.CanRepeat p n ∧ t = (List.replicate n p).flatten := by
  have hcount : n ≤ p.length * n := Nat.le_mul_of_pos_left n (List.length_pos_iff.2 hp)
  have hitems : p.isEmpty = false := by simpa using hp
  by_cases hword : (n : Int) < -Number.wordBound ∨ Number.wordBound ≤ n
  · have hrefused : repeated machine p (n : Int) = .error .outOfRange := by
      rw [repeated, repeatCount, if_pos hword]
      rfl
    have hlong : ¬ machine.CanRepeat p n := by
      simp only [Machine.CanRepeat, lengthLimit, Number.wordBound] at hword ⊢
      omega
    rw [hrefused]
    exact ⟨nofun, fun h => absurd h.1 hlong⟩
  · have hcounted : repeated machine p (n : Int) = do
        checkLength .outOfRange (machine.holds p n) (p.length * n)
        return (List.replicate n p).flatten := by
      rw [repeated, repeatCount, if_neg hword, hitems]
      rfl
    rw [hcounted, Machine.CanRepeat, ← checkLength_eq_ok_iff .outOfRange]
    constructor
    · intro h
      obtain ⟨⟨⟩, hmade, h⟩ := ok_of_bind h
      exact ⟨hmade, (Except.ok.inj h).symm⟩
    · rintro ⟨hmade, rfl⟩
      rw [hmade]
      rfl

theorem padding_eq_ok_iff (hp : p ≠ []) {t : Text} :
    padding machine p n = .ok t ↔ machine.CanRepeat p n ∧ t = block p n := by
  rw [padding]
  constructor
  · intro h
    obtain ⟨repetitions, hrepeated, h⟩ := ok_of_bind h
    obtain ⟨hmade, rfl⟩ := (repeated_eq_ok_iff hp).1 hrepeated
    exact ⟨hmade, (Except.ok.inj h).symm⟩
  · rintro ⟨hmade, rfl⟩
    rw [(repeated_eq_ok_iff hp).2 ⟨hmade, rfl⟩]
    rfl

theorem concatenated_eq_ok_iff {t u : Text} :
    concatenated machine s t = .ok u ↔ machine.CanJoin s t ∧ u = s ++ t := by
  rw [concatenated, Machine.CanJoin]
  by_cases hempty : s = [] ∨ t = []
  · have hnothing : (!s.isEmpty && !t.isEmpty) = false := by rcases hempty with rfl | rfl <;> simp
    rw [hnothing]
    constructor
    · intro h
      exact ⟨hempty.elim .inl (.inr ∘ .inl), (Except.ok.inj h).symm⟩
    · rintro ⟨-, rfl⟩
      rfl
  · have hboth : (!s.isEmpty && !t.isEmpty) = true := by simpa using hempty
    have hlength : s.length + t.length ≠ 0 := by
      have hpos := List.length_pos_iff.2 (not_or.1 hempty).1
      omega
    rw [hboth, ← or_assoc, or_iff_right hempty,
      ← or_iff_right (b := machine.holds (s ++ t) 1 = true) hlength,
      ← checkLength_eq_ok_iff .outOfRange]
    constructor
    · intro h
      obtain ⟨⟨⟩, hmade, h⟩ := ok_of_bind h
      exact ⟨hmade, (Except.ok.inj h).symm⟩
    · rintro ⟨hmade, rfl⟩
      rw [if_pos rfl, hmade]
      rfl

/-! ## Padding on both sides -/

/-- Whether a machine can make the blocks of so many characters and put a text between them. -/
structure Machine.CanPad (machine : Machine) (p s : Text) (left right : Nat) : Prop where
  leftBlock : machine.CanRepeat p left
  rightBlock : machine.CanRepeat p right
  front : machine.CanJoin (block p left) s
  whole : machine.CanJoin (block p left ++ s) (block p right)

/-- Where nothing is missing nothing is to be made. -/
theorem Machine.canPad_zero (machine : Machine) (p s : Text) : machine.CanPad p s 0 0 where
  leftBlock := ⟨Nat.zero_le _, .inl rfl⟩
  rightBlock := ⟨Nat.zero_le _, .inl rfl⟩
  front := .inl rfl
  whole := .inr (.inl rfl)

theorem padText_eq_ok_iff (hp : p ≠ []) {sides : Nat × Nat} {t : Text} :
    padText machine s sides p = .ok t ↔
      machine.CanPad p s sides.1 sides.2 ∧ t = block p sides.1 ++ s ++ block p sides.2 := by
  rw [padText]
  constructor
  · intro h
    obtain ⟨left, hleft, h⟩ := ok_of_bind h
    obtain ⟨front, hfront, h⟩ := ok_of_bind h
    obtain ⟨right, hright, h⟩ := ok_of_bind h
    obtain ⟨hfirst, rfl⟩ := (padding_eq_ok_iff hp).1 hleft
    obtain ⟨hsecond, rfl⟩ := (padding_eq_ok_iff hp).1 hright
    obtain ⟨hjoined, rfl⟩ := concatenated_eq_ok_iff.1 hfront
    obtain ⟨hwhole, rfl⟩ := concatenated_eq_ok_iff.1 h
    exact ⟨⟨hfirst, hsecond, hjoined, hwhole⟩, rfl⟩
  · rintro ⟨⟨hfirst, hsecond, hjoined, hwhole⟩, rfl⟩
    rw [(padding_eq_ok_iff hp).2 ⟨hfirst, rfl⟩, (padding_eq_ok_iff hp).2 ⟨hsecond, rfl⟩]
    change (do concatenated machine (← concatenated machine (block p sides.1) s) _) = _
    rw [concatenated_eq_ok_iff.2 ⟨hjoined, rfl⟩]
    exact concatenated_eq_ok_iff.2 ⟨hwhole, rfl⟩

theorem exists_padSides (m : Nat) (side : Value) :
    ∃ k ≤ m, padSides m side = (k, m - k) ∧
      (side = .text "left".text → k = m) ∧ (side = .text "both".text → k = m / 2) ∧
      (side ≠ .text "left".text → side ≠ .text "both".text → k = 0) := by
  unfold padSides
  split
  · exact ⟨m, Nat.le_refl m, by rw [Nat.sub_self], fun _ => rfl, nofun, fun h => absurd rfl h⟩
  · exact ⟨m / 2, Nat.div_le_self m 2, rfl, nofun, fun _ => rfl, fun _ h => absurd rfl h⟩
  · next hleft hboth =>
    exact ⟨0, Nat.zero_le m, rfl, fun h => absurd h hleft, fun h => absurd h hboth, fun _ _ => rfl⟩

/-- A text that is long enough already has blocks of no characters around it. -/
theorem pad_eq {v : Value} (hv : v.output = .ok s) (hp : p ≠ []) (n : Int) (side : Value) :
    pad machine [v, .int n, .text p, side] = do
      return .text (← padText machine s (padSides (n - s.length).toNat side) p) := by
  have htruthy : (!(Value.text p).truthy) = false := by simpa [Value.truthy] using hp
  have hpad : pad machine [v, .int n, .text p, side] =
      if n ≤ s.length ∨ (!(Value.text p).truthy) = true then .ok (.text s)
      else do return .text (← padText machine s (padSides (n - s.length).toNat side) p) := by
    rw [pad, padValue, hv]
    rfl
  rw [hpad, htruthy]
  by_cases hlong : n ≤ s.length
  · obtain ⟨k, hk, hsides, -⟩ := exists_padSides 0 side
    obtain rfl : k = 0 := Nat.le_zero.1 hk
    have hnothing : padText machine s (0, 0) p = .ok s :=
      (padText_eq_ok_iff hp).2 ⟨machine.canPad_zero p s, by simp [block]⟩
    rw [if_pos (.inl hlong), Int.toNat_of_nonpos (by omega), hsides, hnothing]
    rfl
  · rw [if_neg (by simpa using hlong)]

/-- Padding is exact. The missing characters are put on the left, on the right, or half on each
side with the odd one on the right, each block starting with the first character of the padding.
There is a result for every length for which the machine can make the blocks and put them around
the text. -/
theorem pad_exact {v : Value} (hv : v.output = .ok s) (hp : p ≠ []) (n : Int) (side : Value) :
    ∃ m k : Nat, (m : Int) = max (n - s.length) 0 ∧ k ≤ m ∧
      (side = .text "left".text → k = m) ∧ (side = .text "both".text → k = m / 2) ∧
      (side ≠ .text "left".text → side ≠ .text "both".text → k = 0) ∧
      ((∃ r, pad machine [v, .int n, .text p, side] = .ok r) ↔ machine.CanPad p s k (m - k)) ∧
      ∀ r, pad machine [v, .int n, .text p, side] = .ok r →
        ∃ left right, r = .text (left ++ s ++ right) ∧
          ((left ++ s ++ right).length : Int) = max (s.length : Int) n ∧
          IsPadding p k left ∧ IsPadding p (m - k) right := by
  obtain ⟨k, hk, hsides, hleft, hboth, hother⟩ := exists_padSides (n - s.length).toNat side
  have hok : ∀ r, pad machine [v, .int n, .text p, side] = .ok r ↔
      machine.CanPad p s k ((n - s.length).toNat - k) ∧
        r = .text (block p k ++ s ++ block p ((n - s.length).toNat - k)) := by
    intro r
    rw [pad_eq hv hp, hsides]
    constructor
    · intro h
      obtain ⟨t, ht, h⟩ := ok_of_bind h
      obtain ⟨hmade, rfl⟩ := (padText_eq_ok_iff hp).1 ht
      exact ⟨hmade, (Except.ok.inj h).symm⟩
    · rintro ⟨hmade, rfl⟩
      rw [(padText_eq_ok_iff hp).2 ⟨hmade, rfl⟩]
      rfl
  refine ⟨_, k, Int.toNat_eq_max _, hk, hleft, hboth, hother, ?_, ?_⟩
  · exact ⟨fun ⟨r, h⟩ => ((hok r).1 h).1, fun hmade => ⟨_, (hok _).2 ⟨hmade, rfl⟩⟩⟩
  · intro r h
    have hfirst := isPadding_block hp k
    have hsecond := isPadding_block hp ((n - s.length).toNat - k)
    refine ⟨_, _, ((hok r).1 h).2, ?_, hfirst, hsecond⟩
    rw [List.length_append, List.length_append, hfirst.1, hsecond.1]
    omega

/-- An odd number of missing characters on both sides of a text, with a padding of several, where
there is room for a thousand characters. -/
theorem pad_both_sides :
    let machine : Machine := { Machine.ideal with holds := fun t n => t.length * n ≤ 1000 }
    let args : List Value :=
      [.text "ab".text, .int 11, .text "xyz".text, .text "both".text]
    (Value.text "ab".text).output = .ok "ab".text ∧ "xyz".text ≠ [] ∧
      pad machine args = .ok (.text "xyzxabxyzxy".text) ∧
      ∃ m k : Nat, (m : Int) = max (11 - ("ab".text.length : Int)) 0 ∧ k ≤ m ∧
        (Value.text "both".text = .text "left".text → k = m) ∧
        (Value.text "both".text = .text "both".text → k = m / 2) ∧
        (Value.text "both".text ≠ .text "left".text →
          Value.text "both".text ≠ .text "both".text → k = 0) ∧
        ((∃ r, pad machine args = .ok r) ↔
          machine.CanPad "xyz".text "ab".text k (m - k)) ∧
        ∀ r, pad machine args = .ok r →
          ∃ left right, r = .text (left ++ "ab".text ++ right) ∧
            ((left ++ "ab".text ++ right).length : Int) = max ("ab".text.length : Int) 11 ∧
            IsPadding "xyz".text k left ∧ IsPadding "xyz".text (m - k) right := by
  have hp : "xyz".text ≠ [] := by decide
  exact ⟨rfl, hp, rfl, pad_exact rfl hp 11 _⟩

/-- A length that leaves more characters missing than a word counts has no result, whatever there
is room for. -/
theorem pad_beyond_word :
    pad .ideal [.text ['a'], .int 9223372036854775809, .text [' '], .text "right".text] =
      .error .outOfRange := rfl

end Stencil.Library
