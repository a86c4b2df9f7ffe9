import Stencil.Registry.ClassTable

/-!
# Methods of classes

The methods that a class offers and those that a table of classes has, as their places in the
lineage and in the table: the first attribute of a name decides for a class, whatever it is, and
the first class that offers a method decides for the table, whatever reading the method gives.
-/

namespace Stencil

/-- The attribute of a name in the first of the classes that has the name. -/
def Lineage.First (lineage : Lineage) (name owner : Text) (a : Attribute) : Prop :=
  ∃ before attributes later, lineage = before ++ (owner, attributes) :: later ∧
    (∀ ancestor ∈ before, name ∉ ancestor.2.map (·.1)) ∧ attributes.lookup name = some a

/-- The class has a method: the first attribute of the name, in its lineage or else in the one of
its kind, is one. What the method gives is read through the class. -/
def ClassInfo.Offers (c : ClassInfo) (name : Text) (f : Option Callable) : Prop :=
  (∃ owner through, (c.lineage ++ c.kind).First name owner (.method through)) ∧ f = c.read? name

/-- What the method of the first class that offers one gives. -/
def FirstMethod (classes : List ClassInfo) (name : Text) (f : Option Callable) : Prop :=
  ∃ before c later, classes = before ++ c :: later ∧ c.Offers name f ∧
    ∀ other ∈ before, ∀ g, ¬ other.Offers name g

theorem Lineage.find?_eq_some_iff {lineage : Lineage} {name owner : Text} {a : Attribute} :
    lineage.find? name = some (owner, a) ↔ lineage.First name owner a := by
  have habsent : ∀ ancestor : Text × List (Text × Attribute),
      (ancestor.2.lookup name).map (ancestor.1, ·) = none ↔ name ∉ ancestor.2.map (·.1) := by
    intro ancestor
    rw [Option.map_eq_none_iff, List.lookup_eq_none_iff, List.mem_map]
    constructor
    · rintro h ⟨entry, hentry, rfl⟩
      simpa using h entry hentry
    · intro h entry hentry
      have hne : name ≠ entry.1 := by
        rintro rfl
        exact h ⟨entry, hentry, rfl⟩
      simpa using hne
  unfold find? First
  rw [List.findSome?_eq_some_iff]
  constructor
  · rintro ⟨before, ⟨first, attributes⟩, later, hlineage, hfound, hbefore⟩
    obtain ⟨b, hb, heq⟩ := Option.map_eq_some_iff.1 hfound
    cases heq
    exact ⟨before, attributes, later, hlineage,
      fun ancestor hmem => (habsent ancestor).1 (hbefore ancestor hmem), hb⟩
  · rintro ⟨before, attributes, later, hlineage, hbefore, hfound⟩
    refine ⟨before, (owner, attributes), later, hlineage, ?_, fun ancestor hmem => ?_⟩
    · exact Option.map_eq_some_iff.2 ⟨a, hfound, rfl⟩
    · exact (habsent ancestor).2 (hbefore ancestor hmem)

namespace ClassInfo

variable {c : ClassInfo} {name : Text}

theorem method?_eq_some_iff {f : Option Callable} : c.method? name = some f ↔ c.Offers name f := by
  unfold method? Offers attribute?
  simp only [← Lineage.find?_eq_some_iff]
  constructor
  · intro h
    split at h
    · next owner through hfirst =>
      exact ⟨⟨owner, through, hfirst⟩, (Option.some.inj h).symm⟩
    · cases h
  · rintro ⟨⟨owner, through, hfirst⟩, rfl⟩
    rw [hfirst]

end ClassInfo

theorem ClassTable.find?_eq_some_iff {t : ClassTable} {name : Text} {f : Callable} :
    t.find? name = some f ↔
      name.head? ≠ some (.char '_') ∧ FirstMethod t.classes name (some f) := by
  unfold find? FirstMethod
  split
  · next hprivate => simp [hprivate]
  · next hpublic =>
    rw [Option.join_eq_some_iff, List.findSome?_eq_some_iff]
    constructor
    · rintro ⟨before, c, later, hclasses, hmethod, hbefore⟩
      refine ⟨hpublic, before, c, later, hclasses, ClassInfo.method?_eq_some_iff.1 hmethod, ?_⟩
      intro other hmem g hoffer
      rw [← ClassInfo.method?_eq_some_iff, hbefore other hmem] at hoffer
      cases hoffer
    · rintro ⟨-, before, c, later, hclasses, hoffer, hbefore⟩
      refine ⟨before, c, later, hclasses, ClassInfo.method?_eq_some_iff.2 hoffer, ?_⟩
      intro other hmem
      refine Option.eq_none_iff_forall_ne_some.2 fun g hmethod => ?_
      exact hbefore other hmem g (ClassInfo.method?_eq_some_iff.1 hmethod)

end Stencil
