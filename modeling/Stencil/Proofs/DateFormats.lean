import Stencil.Proofs.Outcomes
import Stencil.Proofs.WholeSeconds

/-!
# Date formats

A format is printed from left to right, one character or one escaped character at a time, so
formats that are put together print what they print apart, unless the cut goes between a
backslash and the character that it makes literal. A text with a backslash before each of its
characters is printed as it is.
-/

namespace Stencil

namespace Calendar

/-- Whether the scan of a format ends right behind a backslash that makes nothing literal: each
backslash is either made literal by the one before it or waits for the next character. -/
def endsEscaped (format : Text) : Bool :=
  format.foldl (fun escaped c => !escaped && c == .char '\\') false

/-- A text with a backslash before each of its characters. -/
def literally (t : Text) : Text := t.flatMap fun c => [.char '\\', c]

namespace Moment

theorem format_append {f : Text} (h : endsEscaped f = false) (m : Moment) (g : Text) :
    m.format (f ++ g) = m.format f ++ m.format g := by
  fun_induction m.format f with
  | case1 c rest ih =>
    -- the two characters leave the scan where it began
    rw [List.cons_append, List.cons_append, format, ih h, List.cons_append]
  | case2 c rest hescape ih =>
    have hplain : c ≠ '\\' := by
      rintro rfl
      cases rest with
      | nil => exact absurd h (by decide)
      | cons d later => exact hescape d later rfl rfl
    have hcut : (c == '\\') = false := beq_eq_false_iff_ne.2 hplain
    have hrest : endsEscaped rest = false := by
      simpa [endsEscaped, hcut] using h
    rw [List.cons_append, format, ih hrest, List.append_assoc]
    exact fun d later hc => absurd hc hplain
  | case3 => rfl

theorem format_literally (m : Moment) (t : Text) : m.format (literally t) = t := by
  induction t with
  | nil => rfl
  | cons c t ih =>
    have hcons : literally (c :: t) = .char '\\' :: c :: literally t := rfl
    rw [hcons, format, ih]

end Moment

end Calendar

namespace Library

open Calendar

variable {now : Moment} {args : List Value} {result : Value}

theorem date_text (now : Moment) (v : Value) (t : Text) :
    date now [.text t, v] = do
      let m ← momentOf now v
      return .text (m.format t) := rfl

/-- A date is returned for one format only if there is a moment, which every format prints. -/
theorem exists_moment_of_date {format : Text} (h : date now (.text format :: args) = .ok result) :
    ∃ m : Moment, ∀ t, date now (.text t :: args) = .ok (.text (m.format t)) := by
  match args, h with
  | [], _ => exact ⟨now, fun _ => rfl⟩
  | [v], h =>
    obtain ⟨m, hm, -⟩ := Fault.ok_of_bind h
    refine ⟨m, fun t => ?_⟩
    rw [date_text, hm]
    rfl

/-- At whatever moment a date is returned for, given or present, two formats one behind the other
print the one text behind the other, unless the first ends in the middle of an escape; and every
text has a format that prints it. -/
theorem date_joined {format : Text} (h : date now (.text format :: args) = .ok result) :
    (∀ f g, endsEscaped f = false → ∃ a b,
      date now (.text f :: args) = .ok (.text a) ∧ date now (.text g :: args) = .ok (.text b) ∧
        date now (.text (f ++ g) :: args) = .ok (.text (a ++ b))) ∧
      ∀ t, date now (.text (literally t) :: args) = .ok (.text t) := by
  obtain ⟨m, hdate⟩ := exists_moment_of_date h
  constructor
  · intro f g hf
    refine ⟨m.format f, m.format g, hdate f, hdate g, ?_⟩
    rw [hdate, m.format_append hf]
  · intro t
    rw [hdate, m.format_literally]

/-- The backslash at the end of the first format is itself made literal. -/
theorem date_joined_backslash :
    date ⟨0, 0⟩ [.text "Y".text, .int 1709647629] = .ok (.text "2024".text) ∧
      endsEscaped "\\Y\\\\".text = false ∧
      ∃ a b, date ⟨0, 0⟩ [.text "\\Y\\\\".text, .int 1709647629] = .ok (.text a) ∧
        date ⟨0, 0⟩ [.text "Y".text, .int 1709647629] = .ok (.text b) ∧
        date ⟨0, 0⟩ [.text ("\\Y\\\\".text ++ "Y".text), .int 1709647629] =
          .ok (.text (a ++ b)) := by
  have hcall : date ⟨0, 0⟩ [.text "Y".text, .int 1709647629] = .ok (.text "2024".text) := by
    rw [date_text, momentOf_int_iff.2 ⟨rfl, by decide, by decide⟩]
    rfl
  exact ⟨hcall, rfl, (date_joined hcall).1 _ _ rfl⟩

end Library

end Stencil
