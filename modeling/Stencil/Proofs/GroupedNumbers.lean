import Stencil.Proofs.DecimalTexts
import Stencil.Proofs.RoundedDecimals

/-!
# Grouped numbers are exact

The text of a grouped number has a minus sign, groups of three digits and a fraction of the
places asked for, whatever separates them, and its digits are those of the number rounded to
the places, a half away from zero. Up to 27 digits there always is such a text. Beyond
1000026 places the rounding stays at that place and zeros follow.
-/

namespace Stencil.Library

open Stencil.Number
open Stencil.Text (isDigit decimalText natOfDigits?)

/-! ## The number of a value -/

/-- Decimals with an exponent out of range are not stored. -/
def IsStored : Decimal → Prop
  | .finite _ c e =>
    Decimal.storedLeastExponent ≤ e ∧ Decimal.leadingPower c e ≤ Decimal.storedPowerLimit
  | _ => True

/-- The number of a finite decimal. -/
def decimalValue? : Decimal → Option ℚ
  | .finite s c e => some ((if s then -1 else 1) * (c * 10 ^ e))
  | _ => none

/-- A whole number, a finite decimal or the text of one, with its number. -/
inductive Denotes : Value → ℚ → Prop
  | int (n : Int) : Denotes (.int n) n
  | decimal {d : Decimal} {q : ℚ} (hstored : IsStored d) (hvalue : decimalValue? d = some q) :
    Denotes (.decimal d) q
  | text {t : Text} {d : Decimal} {q : ℚ} (hread : Decimal.read? t = some d)
    (hvalue : decimalValue? d = some q) : Denotes (.text t) q

/-! ## Groups of digits -/

/-- Groups of three characters after a first one of one to three. -/
structure InThrees (groups : List Text) : Prop where
  first : ∃ group, groups.head? = some group ∧ 1 ≤ group.length ∧ group.length ≤ 3
  later : ∀ group ∈ groups.tail, group.length = 3

theorem InThrees.concat {groups : List Text} {group : Text} (h : InThrees groups)
    (hgroup : group.length = 3) : InThrees (groups ++ [group]) := by
  obtain ⟨first, hfirst, hlength⟩ := h.first
  obtain ⟨rest, rfl⟩ := List.head?_eq_some_iff.1 hfirst
  refine ⟨⟨first, rfl, hlength⟩, fun g hg => ?_⟩
  rw [List.cons_append, List.tail_cons] at hg
  rcases List.mem_append.1 hg with hrest | hlast
  · exact h.later g hrest
  · rw [List.mem_singleton.1 hlast, hgroup]

theorem flatten_groupsFromRight (t : Text) : (groupsFromRight t).reverse.flatten = t.reverse := by
  fun_induction groupsFromRight t with
  | case1 a b c d rest ih => simp [ih]
  | case2 t hshort => simp

theorem inThrees_groupsFromRight {t : Text} (hne : t ≠ []) :
    InThrees (groupsFromRight t).reverse := by
  fun_induction groupsFromRight t with
  | case1 a b c d rest ih =>
    rw [List.reverse_cons]
    exact (ih (List.cons_ne_nil d rest)).concat rfl
  | case2 t hshort =>
    have hlength : t.length ≤ 3 := by
      refine Nat.not_lt.1 fun hlong => ?_
      obtain ⟨a, b, c, d, rest, rfl⟩ : ∃ a b c d rest, t = a :: b :: c :: d :: rest := by
        match t, hlong with
        | a :: b :: c :: d :: rest, _ => exact ⟨a, b, c, d, rest, rfl⟩
      exact hshort a b c d rest rfl
    have hpos := List.length_pos_iff.2 hne
    refine ⟨⟨t.reverse, rfl, ?_, ?_⟩, fun g hg => by cases hg⟩
    · rw [List.length_reverse]
      exact hpos
    · rw [List.length_reverse]
      exact hlength

theorem flatten_groupsOf3 (digits : Text) : (groupsOf3 digits).flatten = digits := by
  rw [groupsOf3, flatten_groupsFromRight, List.reverse_reverse]

theorem inThrees_groupsOf3 {digits : Text} (hne : digits ≠ []) : InThrees (groupsOf3 digits) :=
  inThrees_groupsFromRight (by simpa using hne)

/-! ## Layout -/

/-- A number of units of `10 ^ -places` in text. -/
structure Layout (point separator : Text) (places : Nat) (units : Int)
    (groups : List Text) (fraction out : Text) : Prop where
  text : out = (if units < 0 then [.char '-'] else []) ++ Text.join separator groups ++
    (if places = 0 then [] else point ++ fraction)
  digits : ∀ x ∈ groups.flatten ++ fraction, isDigit x = true
  inThrees : InThrees groups
  leading : groups.flatten.head? = some (.char '0') → groups = [[.char '0']]
  length : fraction.length = places
  value : natOfDigits? 10 (groups.flatten ++ fraction) = some units.natAbs

theorem length_fractionDigits (places units : Nat) :
    (fractionDigits places units).length = places := by
  by_cases hplaces : places = 0
  · simp [fractionDigits, hplaces]
  · have hle : (decimalText (units % 10 ^ places)).length ≤ places :=
      (decimalLength_le_iff (by omega)).2 (Nat.mod_lt _ (Nat.pow_pos (by omega)))
    simp only [fractionDigits, if_neg hplaces, List.length_append, List.length_replicate]
    omega

theorem natOfDigits?_fractionDigits (places units : Nat) :
    natOfDigits? 10 (fractionDigits places units) = some (units % 10 ^ places) := by
  by_cases hplaces : places = 0
  · simp [fractionDigits, hplaces, natOfDigits?, Nat.mod_one]
  · rw [fractionDigits, if_neg hplaces, Text.natOfDigits?_zeros (by omega),
      Text.natOfDigits?_decimalText]

theorem layout_groupedText (negative : Bool) (places units : Nat) (point separator : Text) :
    Layout point separator places (if negative then -(units : Int) else units)
      (groupsOf3 (wholeDigits places units)) (fractionDigits places units)
      (groupedText negative places units point separator) where
  text := by
    have hsign : (negative && units != 0) = true ↔
        (if negative then -(units : Int) else units) < 0 := by
      cases negative <;> simp
    rw [groupedText]
    simp only [hsign]
  digits := fun x hx => by
    rw [flatten_groupsOf3] at hx
    rcases List.mem_append.1 hx with hwhole | hfraction
    · exact Text.isDigit_of_mem_decimalText hwhole
    · rw [fractionDigits] at hfraction
      split at hfraction
      · cases hfraction
      · rcases List.mem_append.1 hfraction with hzero | hdigit
        · rw [List.eq_of_mem_replicate hzero]
          decide
        · exact Text.isDigit_of_mem_decimalText hdigit
  inThrees := inThrees_groupsOf3 (Text.decimalText_ne_nil _)
  leading := fun hzero => by
    rw [flatten_groupsOf3, wholeDigits] at hzero
    rw [wholeDigits, Text.head?_decimalText hzero]
    rfl
  length := length_fractionDigits places units
  value := by
    rw [flatten_groupsOf3, wholeDigits, Text.natOfDigits?_append (Text.natOfDigits?_decimalText _)
      (natOfDigits?_fractionDigits places units), length_fractionDigits, Nat.div_add_mod']
    cases negative <;> simp

/-! ## Reading the number -/

theorem decimalValue?_ofInt (n : Int) :
    decimalValue? (.finite (decide (n < 0)) n.natAbs 0) = some (n : ℚ) := by
  have habs : ((n.natAbs : Nat) : ℚ) = |(n : ℚ)| := by rw [Nat.cast_natAbs, Int.cast_abs]
  by_cases hn : n < 0
  · have hneg : (n : ℚ) < 0 := by exact_mod_cast hn
    simp [decimalValue?, hn, habs, abs_of_neg hneg]
  · have hnonneg : (0 : ℚ) ≤ n := by exact_mod_cast not_lt.1 hn
    simp [decimalValue?, hn, habs, abs_of_nonneg hnonneg]

theorem text_whole (s : Bool) (c : Nat) :
    Decimal.text (.finite s c 0) = Double.signText s ++ decimalText c := by
  have hpos : 0 < (decimalText c).length := decimalLength_pos c
  have hpower : -6 ≤ Decimal.leadingPower c 0 := by
    have hlength : decimalLength c = (decimalText c).length := rfl
    rw [Decimal.leadingPower]
    omega
  have hpoint : Double.pointAt (decimalText c) (decimalText c).length = (decimalText c, []) := by
    rw [Double.pointAt, if_neg (by omega)]
    simp
  simp [Decimal.text, hpower, hpoint]

theorem intText?_eq_text {n : Int} (h : (decimalText n.natAbs).length ≤ digitLimit) :
    intText? n = some (Decimal.text (.finite (decide (n < 0)) n.natAbs 0)) := by
  rw [intText?, text_whole, if_neg (Nat.not_lt.2 h)]
  by_cases hn : n < 0 <;> simp [hn, Double.signText]

theorem toDecimal_of_asText {v : Value} {t : Text} {d : Decimal} (htext : v.asText = .ok t)
    (hread : Decimal.read? t = some d) : toDecimal v = .ok d := by
  simp [toDecimal, htext, hread, bind, Except.bind, pure, Except.pure]

theorem exists_finite {d : Decimal} {q : ℚ} (h : decimalValue? d = some q) :
    ∃ s c e, d = .finite s c e := by
  cases d with
  | finite s c e => exact ⟨s, c, e, rfl⟩
  | infinite s => cases h
  | nan s signaling payload => cases h

/-- A number is made the decimal that denotes it, unless it has too many digits for a text. -/
theorem toDecimal_of_denotes {v : Value} {q : ℚ} (h : Denotes v q) :
    (∃ s c e, toDecimal v = .ok (.finite s c e) ∧ decimalValue? (.finite s c e) = some q) ∨
      (toDecimal v = .error .badValue ∧ 10 ^ 27 ≤ |q|) := by
  cases h with
  | int n =>
    by_cases hlength : decimalLength n.natAbs ≤ digitLimit
    · have hpower : Decimal.leadingPower n.natAbs 0 ≤ Decimal.storedPowerLimit := by
        simp only [Decimal.leadingPower, Decimal.storedPowerLimit, digitLimit] at *
        omega
      have htext : (Value.int n).asText =
          .ok (Decimal.text (.finite (decide (n < 0)) n.natAbs 0)) := by
        simp [Value.asText, Value.quoted, Value.intText, intText?_eq_text hlength]
      exact .inl ⟨_, _, _, toDecimal_of_asText htext (Decimal.read?_text (by decide) hpower),
        decimalValue?_ofInt n⟩
    · have hnone : intText? n = none := if_pos (Nat.not_le.1 hlength)
      refine .inr ⟨by simp [toDecimal, Value.asText, Value.quoted, Value.intText, hnone, bind,
        Except.bind], ?_⟩
      have hgreat : 10 ^ 27 ≤ n.natAbs := Nat.not_lt.1 fun hless => by
        have hle := (decimalLength_le_iff (by omega)).2 hless
        simp only [digitLimit] at hlength
        omega
      rw [← Int.cast_abs, ← Nat.cast_natAbs]
      exact_mod_cast hgreat
  | @decimal d _ hstored hvalue =>
    obtain ⟨s, c, e, rfl⟩ := exists_finite hvalue
    exact .inl ⟨s, c, e, toDecimal_of_asText rfl (Decimal.read?_text hstored.1 hstored.2), hvalue⟩
  | @text t d _ hread hvalue =>
    obtain ⟨s, c, e, rfl⟩ := exists_finite hvalue
    exact .inl ⟨s, c, e, toDecimal_of_asText rfl hread, hvalue⟩

/-- The units that are printed: zeros follow the places that rounding works with. -/
def printedUnits (q : ℚ) (places : Nat) : Int :=
  roundAway (q * 10 ^ roundedPlaces places) * 10 ^ (places - roundedPlaces places)

theorem groupedValue_of_finite {v : Value} {s : Bool} {c : Nat} {e : Int}
    (h : toDecimal v = .ok (.finite s c e)) (places : Int) (point separator : Text) :
    groupedValue v (.int places) (.text point) (.text separator) =
      if placesLimit < places.toNat then .error .invalidDecimal
      else
        match roundToPlaces? (roundedPlaces places.toNat) c e with
        | none => .error .invalidDecimal
        | some units =>
          .ok (.text (groupedText s places.toNat
            (units * 10 ^ (places.toNat - roundedPlaces places.toNat)) point separator)) := by
  simp only [groupedValue, Value.toInt, h, bind, Except.bind, pure, Except.pure]
  by_cases hlimit : placesLimit < places.toNat
  · simp only [hlimit, if_true]
  · simp only [hlimit, if_false]
    cases roundToPlaces? (roundedPlaces places.toNat) c e with
    | none => rfl
    | some units => 
      by_cases hzero : places.toNat = 0
      · simp [hzero, groupedText]
      · simp [hzero, Value.asText]

/-- The units of a decimal are those of its number, with the sign of the number. -/
theorem signed_units {s : Bool} {c places units : Nat} {e : Int} {q : ℚ}
    (hvalue : decimalValue? (.finite s c e) = some q)
    (hunits : roundToPlaces? places c e = some units) :
    (if s then -(units : Int) else units) = roundAway (q * 10 ^ places) := by
  obtain rfl := Option.some.inj hvalue
  have hscaled : (c : ℚ) * 10 ^ e * 10 ^ places = c * 10 ^ (e + places) := by
    rw [zpow_add₀ (by norm_num), zpow_natCast, mul_assoc]
  have hround : roundAway ((c : ℚ) * 10 ^ (e + places)) = units := by
    rw [roundAway_of_nonneg (mul_zpow_nonneg c _), roundToPlaces?_eq hunits]
  cases s
  · simp [hscaled, hround]
  · simp [hscaled, roundAway_neg, hround]

theorem signed_mul (s : Bool) (units k : Nat) :
    (if s then -((units * k : Nat) : Int) else (units * k : Nat)) =
      (if s then -(units : Int) else units) * (k : Int) := by
  cases s <;> simp

theorem roundedPlaces_eq (places : Nat) : roundedPlaces places = min places 1000026 := rfl

theorem printedUnits_eq {q : ℚ} {places : Nat} (h : places ≤ 1000026) :
    printedUnits q places = roundAway (q * 10 ^ places) := by
  rw [printedUnits, roundedPlaces_eq, Nat.min_eq_left h, Nat.sub_self, Int.pow_zero, Int.mul_one]

theorem abs_decimalValue {s : Bool} {c : Nat} {e : Int} {q : ℚ}
    (h : decimalValue? (.finite s c e) = some q) : |q| = c * 10 ^ e := by
  obtain rfl := Option.some.inj h
  cases s <;> simp [abs_of_nonneg (mul_zpow_nonneg c e)]

/-- What is printed is the number rounded to the places, for any point and separator. -/
theorem layout_of_grouped {v : Value} {q : ℚ} (hv : Denotes v q) {places : Int}
    {point separator : Text} {result : Value}
    (h : grouped [v, .int places, .text point, .text separator] = .ok result) :
    ∃ out, result = .text out ∧ ∃ groups fraction,
      Layout point separator places.toNat (printedUnits q places.toNat) groups fraction out := by
  have hcall : groupedValue v (.int places) (.text point) (.text separator) = .ok result := h
  rcases toDecimal_of_denotes hv with ⟨s, c, e, hdecimal, hvalue⟩ | ⟨herror, -⟩
  · rw [groupedValue_of_finite hdecimal] at hcall
    split at hcall
    · cases hcall
    · split at hcall
      · cases hcall
      · next units hunits =>
        obtain rfl := Except.ok.inj hcall
        have hlayout := layout_groupedText s places.toNat
          (units * 10 ^ (places.toNat - roundedPlaces places.toNat)) point separator
        rw [signed_mul, signed_units hvalue hunits] at hlayout
        exact ⟨_, rfl, _, _, hlayout⟩
  · simp only [groupedValue, Value.toInt, herror, bind, Except.bind] at hcall
    split at hcall <;> cases hcall

theorem exists_grouped {v : Value} {q : ℚ} (hv : Denotes v q) {places : Int} (hplaces : places ≤ 27)
    (hsize : |q| < 10 ^ (27 - places.toNat)) (point separator : Text) :
    ∃ result, grouped [v, .int places, .text point, .text separator] = .ok result := by
  rcases toDecimal_of_denotes hv with ⟨s, c, e, hdecimal, hvalue⟩ | ⟨-, hgreat⟩
  · have hrounded : roundedPlaces places.toNat = places.toNat := by
      rw [roundedPlaces_eq]
      omega
    have hscaled : (c : ℚ) * 10 ^ (e + places.toNat) < 10 ^ 27 := calc
      (c : ℚ) * 10 ^ (e + places.toNat) = |q| * 10 ^ places.toNat := by
        rw [abs_decimalValue hvalue, zpow_add₀ (by norm_num), zpow_natCast, mul_assoc]
      _ < 10 ^ (27 - places.toNat) * 10 ^ places.toNat :=
        mul_lt_mul_of_pos_right hsize (pow_pos (by norm_num) _)
      _ = 10 ^ 27 := by rw [← pow_add, Nat.sub_add_cancel (by omega)]
    obtain ⟨units, hunits⟩ := exists_roundToPlaces? hscaled
    have hcall := groupedValue_of_finite hdecimal places point separator
    rw [if_neg (by simp only [placesLimit]; omega), hrounded, hunits] at hcall
    exact ⟨_, hcall⟩
  · have hle : (10 : ℚ) ^ (27 - places.toNat) ≤ 10 ^ 27 :=
      pow_le_pow_right₀ (by norm_num) (Nat.sub_le _ _)
    linarith

/-- A grouped number is exact. Whatever point and separator are given, the text has the layout
of the number rounded to the places asked for, up to 1000026 of them; further places are zeros.
There is a text when the number has at most 27 digits, the places included. -/
theorem grouped_exact {v : Value} {q : ℚ} (hv : Denotes v q) (places : Int)
    (point separator : Text) :
    (∀ result, grouped [v, .int places, .text point, .text separator] = .ok result →
      ∃ out, result = .text out ∧ ∃ groups fraction,
        Layout point separator places.toNat (printedUnits q places.toNat) groups fraction out) ∧
    (places ≤ 1000026 →
      RoundsAway (q * 10 ^ places.toNat) (printedUnits q places.toNat)) ∧
    (places ≤ 27 → |q| < 10 ^ (27 - places.toNat) →
      ∃ result, grouped [v, .int places, .text point, .text separator] = .ok result) := by
  refine ⟨fun _ h => layout_of_grouped hv h, fun h => ?_, fun h hsize =>
    exists_grouped hv h hsize point separator⟩
  rw [printedUnits_eq (by omega)]
  exact roundsAway_roundAway _

/-- A half is carried into a new group. -/
theorem grouped_carry :
    (2 : Int) ≤ 27 ∧
      grouped [.text "-999.995".text, .int 2, .text [','], .text ['.']] =
        .ok (.text "-1.000,00".text) ∧
      RoundsAway (-199999 / 2) (-100000) ∧
      ∃ groups fraction, Layout [','] ['.'] 2 (-100000) groups fraction "-1.000,00".text := by
  have hread : Decimal.read? "-999.995".text = some (.finite true 999995 (-3)) := by decide
  have hcall : grouped [.text "-999.995".text, .int 2, .text [','], .text ['.']] =
      .ok (.text "-1.000,00".text) := rfl
  obtain ⟨hlayout, hrounds, -⟩ := grouped_exact (.text hread rfl) 2 [','] ['.']
  obtain ⟨out, hout, hgroups⟩ := hlayout _ hcall
  obtain rfl := Value.text.inj hout
  have hscaled : (if true then -1 else 1) * (((999995 : Nat) : ℚ) * 10 ^ (-3 : Int)) *
      10 ^ (2 : Int).toNat = -199999 / 2 := by
    rw [show (2 : Int).toNat = 2 from rfl]
    norm_num
  have hunits : printedUnits ((if true then -1 else 1) * (((999995 : Nat) : ℚ) * 10 ^ (-3 : Int)))
      (2 : Int).toNat = -100000 := by
    rw [printedUnits_eq (by decide), hscaled]
    norm_num [roundAway, round_eq]
  have hnearest := hrounds (by decide)
  rw [hscaled, hunits] at hnearest
  rw [hunits] at hgroups
  exact ⟨by decide, hcall, hnearest, hgroups⟩

theorem join_nil (groups : List Text) : Text.join [] groups = groups.flatten := by
  induction groups with
  | nil => rfl
  | cons t rest ih =>
    cases rest with
    | nil => simp [Text.join]
    | cons u rest => simp [Text.join, ih]

/-- The digits of a layout can be read off it when point and separator have none. -/
theorem Layout.digits_eq {point separator out fraction : Text} {places : Nat} {units : Int}
    {groups : List Text} (h : Layout point separator places units groups fraction out)
    (hpoint : point.filter isDigit = []) (hseparator : separator.filter isDigit = []) :
    natOfDigits? 10 (out.filter isDigit) = some units.natAbs := by
  have hgroups : groups.map (List.filter isDigit) = groups := by
    rw [List.map_congr_left fun group hgroup => List.filter_eq_self.2 fun x hx =>
      h.digits x (List.mem_append_left _ (List.mem_flatten_of_mem hgroup hx)), List.map_id']
  have hfraction : fraction.filter isDigit = fraction :=
    List.filter_eq_self.2 fun x hx => h.digits x (List.mem_append_right _ hx)
  have htail : (if places = 0 then [] else point ++ fraction).filter isDigit = fraction := by
    by_cases hplaces : places = 0
    · have hnil : fraction = [] := List.length_eq_zero_iff.1 (h.length.trans hplaces)
      simp [hplaces, hnil]
    · simp [hplaces, hpoint, hfraction]
  have hsign : (if units < 0 then [.char '-'] else []).filter isDigit = [] := by
    split <;> decide
  rw [← h.value, h.text, List.filter_append, List.filter_append, hsign, htail, Text.filter_join,
    hseparator, hgroups, join_nil, List.nil_append]

theorem units_of_value (n k : Nat) :
    (if false then -1 else 1) * ((n : ℚ) * 10 ^ (-(k : Int))) * 10 ^ k = ((n : Int) : ℚ) := by
  rw [if_neg Bool.false_ne_true, one_mul, mul_assoc, zpow_neg, zpow_natCast,
    inv_mul_cancel₀ (pow_ne_zero _ (by norm_num)), mul_one, Int.cast_natCast]

/-- Six units of the place after the last one that is rounded are printed as ten. -/
theorem grouped_rounds_early :
    ∃ q out, Denotes (.text "6e-1000027".text) q ∧
      grouped [.text "6e-1000027".text, .int 1000027, .text ['.'], .text [',']] =
        .ok (.text out) ∧
      ¬∃ units groups fraction, RoundsAway (q * 10 ^ 1000027) units ∧
        Layout ['.'] [','] 1000027 units groups fraction out := by
  have hread : Decimal.read? "6e-1000027".text =
      some (.finite false 6 (-((1000027 : Nat) : Int))) := by decide
  have hrounded : roundToPlaces? (roundedPlaces (1000027 : Int).toNat) 6
      (-((1000027 : Nat) : Int)) = some 1 := by decide +kernel
  have hdecimal : toDecimal (.text "6e-1000027".text) =
      .ok (.finite false 6 (-((1000027 : Nat) : Int))) := toDecimal_of_asText rfl hread
  have hcall := groupedValue_of_finite hdecimal 1000027 ['.'] [',']
  rw [if_neg (by decide), hrounded] at hcall
  refine ⟨_, _, .text hread rfl, hcall, ?_⟩
  rintro ⟨units, groups, fraction, hrounds, hlayout⟩
  have hsix : units = 6 := by
    rw [units_of_value] at hrounds
    exact hrounds.eq_intCast
  have hread := hlayout.digits_eq rfl rfl
  have hten := (layout_groupedText false 1000027 (1 * 10 ^ (1000027 - roundedPlaces 1000027))
    ['.'] [',']).digits_eq rfl rfl
  have hunits : 1000027 - roundedPlaces 1000027 = 1 := rfl
  rw [hunits] at hten
  rw [hsix] at hread
  exact absurd (hread.symm.trans hten) (by decide)

end Stencil.Library
