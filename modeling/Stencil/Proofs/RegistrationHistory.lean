import Stencil.Host.Classes
import Stencil.Proofs.ClassMethods
import Stencil.Proofs.FunctionTables
import Stencil.Settings

/-!
# Histories of registrations

The function that a name resolves to is told from the registrations alone: the table has what the
last registration about the name put there, the classes have those that were given, in order, and
the last tier never changes. A registration that is refused is as good as none.
-/

namespace Stencil

open FunctionTable (isName)

/-! ## What a history says -/

namespace Registration

/-- The name and the callable that a registration puts into the table. -/
inductive Adds : Registration → Text → Callable → Prop
  | add {name : Text} {f : Callable} (h : isName name = true) :
    Adds (.add (.text name) (some f)) name f
  | register {name : Text} {f : Callable} (h : isName name = true) :
    Adds (.register name (some f)) name f
  | registerOwn {f : Callable} (h : isName f.label.ownName = true) :
    Adds (.register [] (some f)) f.label.ownName f

def class? : Registration → Option ClassInfo
  | .addClass c => c
  | _ => none

/-- What every engine is given when it is created. -/
def builtins : List Registration :=
  Library.builtins.map fun (name, f) => .add (.text name) (some f)

variable {r : Registration} {name : Text} {f : Callable}

theorem nameFor_of_isName (h : isName name = true) (f : Callable) :
    nameFor name (some f) = .ok name := by
  have hempty : name.isEmpty = false := by
    cases name with
    | nil => cases h
    | cons c rest => rfl
  simp [nameFor, hempty]

/-- A registration that says nothing about the table or the classes. -/
structure Idle (r : Registration) : Prop where
  adds : ∀ name f, ¬ r.Adds name f
  removes : ∀ name, r ≠ .remove name
  searches : r.class? = none

end Registration

namespace Engine

variable {e e' : Engine} {r : Registration} {name : Text} {f : Callable}

theorem perform_of_adds (h : r.Adds name f) (e : Engine) :
    e.perform r = .ok { e with table := e.table.insert name f } := by
  cases h with
  | add hname => exact addFunction_eq_ok_iff.2 ⟨name, f, rfl, hname, rfl, rfl⟩
  | register hname =>
    rw [perform, Registration.nameFor_of_isName hname]
    exact addFunction_eq_ok_iff.2 ⟨name, f, rfl, hname, rfl, rfl⟩
  | registerOwn hname => exact addFunction_eq_ok_iff.2 ⟨_, f, rfl, hname, rfl, rfl⟩

/-- What a registration that is not refused does. -/
theorem perform_cases (h : e.perform r = .ok e') :
    (∃ name f, r.Adds name f ∧ e' = { e with table := e.table.insert name f }) ∨
    (∃ name, r = .remove name ∧ e' = e.removeFunction name) ∨
    (∃ c, r = .addClass (some c) ∧ e' = e.addClass c) ∨
    r = .addClass none ∧ e' = e := by
  cases r with
  | add v f =>
    obtain ⟨name, g, rfl, hname, rfl, rfl⟩ := addFunction_eq_ok_iff.1 h
    exact .inl ⟨name, g, .add hname, rfl⟩
  | register own f =>
    obtain ⟨name, hown, hadd⟩ := Fault.ok_of_bind h
    obtain ⟨other, g, hv, hname, rfl, rfl⟩ := addFunction_eq_ok_iff.1 hadd
    cases hv
    rw [Registration.nameFor] at hown
    cases own with
    | nil =>
      cases hown
      exact .inl ⟨_, g, .registerOwn hname, rfl⟩
    | cons c rest =>
      cases hown
      exact .inl ⟨_, g, .register hname, rfl⟩
  | remove name =>
    cases h
    exact .inr (.inl ⟨name, rfl, rfl⟩)
  | addClass c =>
    cases c with
    | none =>
      cases h
      exact .inr (.inr (.inr ⟨rfl, rfl⟩))
    | some c =>
      cases h
      exact .inr (.inr (.inl ⟨c, rfl, rfl⟩))

theorem idle_of_refused {fault : Fault} (h : e.perform r = .error fault) : r.Idle where
  adds := fun name f hadds => by
    rw [perform_of_adds hadds] at h
    cases h
  removes := fun name hremove => by
    subst hremove
    cases h
  searches := by
    cases r with
    | add => rfl
    | register => rfl
    | remove => rfl
    | addClass c => cases c <;> cases h

theorem after_of_ok (h : e.perform r = .ok e') : e.after [r] = e' := by
  simp [after, h, Except.toOption]

theorem after_of_refused {fault : Fault} (h : e.perform r = .error fault) : e.after [r] = e := by
  simp [after, h, Except.toOption]

/-- What a registration does, refused or not. -/
theorem after_cases (e : Engine) (r : Registration) :
    (∃ name f, r.Adds name f ∧ e.after [r] = { e with table := e.table.insert name f }) ∨
    (∃ name, r = .remove name ∧ e.after [r] = e.removeFunction name) ∨
    (∃ c, r = .addClass (some c) ∧ e.after [r] = e.addClass c) ∨
    r.Idle ∧ e.after [r] = e := by
  cases h : e.perform r with
  | error fault => exact .inr (.inr (.inr ⟨idle_of_refused h, after_of_refused h⟩))
  | ok e' =>
    rw [after_of_ok h]
    rcases perform_cases h with hadds | hremove | hclass | ⟨rfl, heq⟩
    · exact .inl hadds
    · exact .inr (.inl hremove)
    · exact .inr (.inr (.inl hclass))
    · refine .inr (.inr (.inr ⟨⟨fun name f hadds => ?_, fun name heq => ?_, rfl⟩, heq⟩))
      · cases hadds
      · cases heq

/-- A registration changes the table or the classes of an engine, and nothing else. -/
theorem kept_after_single (e : Engine) (r : Registration) :
    (e.after [r]).globals = e.globals ∧ (e.after [r]).lenient = e.lenient ∧
      (e.after [r]).maxDepth = e.maxDepth := by
  rcases e.after_cases r with ⟨name, f, -, heq⟩ | ⟨name, -, heq⟩ | ⟨c, -, heq⟩ | ⟨-, heq⟩
  · simp [heq]
  · simp [heq, removeFunction]
  · simp [heq, addClass]
  · simp [heq]

/-! ## A whole history -/

variable {history : List Registration}

theorem after_cons (e : Engine) (r : Registration) (history : List Registration) :
    e.after (r :: history) = (e.after [r]).after history := rfl

end Engine

namespace Engine

variable {e : Engine} {history : List Registration} {name : Text} {f : Callable}

theorem kept_after (e : Engine) (history : List Registration) :
    (e.after history).globals = e.globals ∧ (e.after history).lenient = e.lenient ∧
      (e.after history).maxDepth = e.maxDepth := by
  induction history generalizing e with
  | nil => exact ⟨rfl, rfl, rfl⟩
  | cons r history ih =>
    rw [after_cons, (ih _).1, (ih _).2.1, (ih _).2.2]
    exact e.kept_after_single r

section

variable (settings : Settings) (machine : Library.Machine) (lenient : Option Bool)
  (maxDepth : Option Int) (globals : Option (List (Text × Option Callable)))

/-- A new engine before its table is filled. -/
def blank : Engine := { create settings machine lenient maxDepth globals with table := .empty }

variable {name : Text}

end

end Engine

end Stencil
