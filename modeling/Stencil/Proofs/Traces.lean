import Stencil.Run

/-!
# Traces of runs

Runs bind one after the other: the trace of the second follows that of the first, and
an error ends the run. Calls and failures are read off the trace, so that they, too,
follow each other.
-/

namespace Stencil.Run

variable {α β γ : Type}

/-- Whether a result is a given value or a given error. -/
instance [DecidableEq α] (result : Except Error α) (a : α) : Decidable (result = .ok a) :=
  match result with
  | .ok b => decidable_of_iff (b = a) (by simp)
  | .error _ => isFalse (by simp)

instance (result : Except Error α) (e : Error) : Decidable (result = .error e) :=
  match result with
  | .ok _ => isFalse (by simp)
  | .error e' => decidable_of_iff (e' = e) (by simp)

instance (result : Except Error α) : Decidable (∃ a, result = .ok a) :=
  match result with
  | .ok a => isTrue ⟨a, rfl⟩
  | .error _ => isFalse (by simp)

/-- The calls in order, each with the callable and its arguments. -/
def calls (x : Run α) : List (Label × List Value) :=
  x.trace.filterMap fun
    | .called label args => some (label, args)
    | _ => none

/-- The error of the tag that failed first. -/
def firstFailure? (x : Run α) : Option Error := x.failures.head?.map (·.2)

theorem bind_of_ok {x : Run α} {a : α} (h : x.result = .ok a) (f : α → Run β) :
    x >>= f = ⟨(f a).result, x.trace ++ (f a).trace⟩ := by
  change Run.bind x f = _
  simp [Run.bind, h]

theorem bind_of_error {x : Run α} {e : Error} (h : x.result = .error e) (f : α → Run β) :
    x >>= f = ⟨.error e, x.trace⟩ := by
  change Run.bind x f = _
  simp [Run.bind, h]

/-- Runs that follow each other end well if each of them does. -/
theorem exists_of_bind_ok {x : Run α} {f : α → Run β} {b : β} (h : (x >>= f).result = .ok b) :
    ∃ a, x.result = .ok a ∧ (f a).result = .ok b := by
  cases hx : x.result with
  | ok a =>
    rw [bind_of_ok hx] at h
    exact ⟨a, rfl, h⟩
  | error e =>
    rw [bind_of_error hx] at h
    cases h

/-- Runs that follow each other fail where the first fails, or the second does behind it. -/
theorem bind_error_iff {x : Run α} {f : α → Run β} {error : Error} :
    (x >>= f).result = .error error ↔
      x.result = .error error ∨ ∃ a, x.result = .ok a ∧ (f a).result = .error error := by
  cases hx : x.result with
  | ok a => simp [bind_of_ok hx]
  | error e => simp [bind_of_error hx]

theorem recover_of_ok {x : Run α} {a : α} (h : x.result = .ok a) (source : Text) (default : α) :
    x.recover source default = x := by
  simp [recover, h]

theorem recover_of_error {x : Run α} {e : Error} (h : x.result = .error e) (source : Text)
    (default : α) : x.recover source default = ⟨.ok default, x.trace ++ [.failed source e]⟩ := by
  simp [recover, h]

theorem map_identity (x : Run α) : id <$> x = x := by
  change x >>= (Pure.pure ∘ id) = x
  cases h : x.result with
  | ok a =>
    rw [bind_of_ok h]
    cases x
    cases h
    simp [Pure.pure, Run.pure]
  | error e =>
    rw [bind_of_error h]
    cases x
    cases h
    rfl

theorem bind_associates (x : Run α) (f : α → Run β) (g : β → Run γ) :
    x >>= f >>= g = x >>= fun a => f a >>= g := by
  cases hx : x.result with
  | error e => rw [bind_of_error hx, bind_of_error hx, bind_of_error rfl]
  | ok a =>
    rw [bind_of_ok hx, bind_of_ok hx]
    cases hf : (f a).result with
    | error e => rw [bind_of_error rfl, bind_of_error hf]
    | ok b => rw [bind_of_ok rfl, bind_of_ok hf, List.append_assoc]

instance : LawfulMonad Run :=
  LawfulMonad.mk' Run map_identity (fun _ f => bind_of_ok rfl f) bind_associates

theorem calls_bind_of_ok {x : Run α} {a : α} (h : x.result = .ok a) (f : α → Run β) :
    (x >>= f).calls = x.calls ++ (f a).calls := by
  rw [bind_of_ok h]
  exact List.filterMap_append ..

theorem calls_bind_of_error {x : Run α} {e : Error} (h : x.result = .error e) (f : α → Run β) :
    (x >>= f).calls = x.calls := by
  rw [bind_of_error h]
  rfl

theorem calls_recover (x : Run α) (source : Text) (default : α) :
    (x.recover source default).calls = x.calls := by
  cases h : x.result with
  | ok a => rw [recover_of_ok h]
  | error e =>
    rw [recover_of_error h]
    exact (List.filterMap_append ..).trans (List.append_nil _)

theorem failures_append (r : Except Error α) (front back : List Event) :
    (⟨r, front ++ back⟩ : Run α).failures =
      (⟨r, front⟩ : Run α).failures ++ (⟨r, back⟩ : Run α).failures :=
  List.filterMap_append ..

end Stencil.Run
