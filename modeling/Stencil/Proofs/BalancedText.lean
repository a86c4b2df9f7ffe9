import Stencil.Tag

/-!
# Balanced text

A text is balanced if no prefix closes more braces than it opens and the whole closes as
many. Two braces of a text match if the text between them is balanced; matched pairs are
nested or apart. The scanner's search for a closing brace finds exactly the matching one.
-/

namespace Stencil

namespace Text

/-- The characters from `start` up to `stop`. -/
def slice (t : Text) (start stop : Nat) : Text := (t.take stop).drop start

theorem slice_append_right (front back : Text) (start stop : Nat) :
    slice (front ++ back) (front.length + start) (front.length + stop) =
      slice back start stop := by
  unfold slice
  rw [List.take_length_add_append, List.drop_length_add_append]

theorem slice_of_append (front middle back : Text) :
    slice (front ++ (middle ++ back)) front.length (front.length + middle.length) = middle := by
  have h := slice_append_right front (middle ++ back) 0 middle.length
  rw [Nat.add_zero] at h
  rw [h]
  simp [slice]

/-- A slice splits at every position inside it. -/
theorem slice_split {t : Text} {start stop : Nat} (middle : Nat) (h : start ≤ middle)
    (h' : middle ≤ stop) : slice t start stop = slice t start middle ++ slice t middle stop := by
  unfold slice
  have hfront : (t.take middle).drop start = ((t.take stop).drop start).take (middle - start) := by
    rw [← List.drop_take, List.take_take, Nat.min_eq_left h']
  have hback : (t.take stop).drop middle = ((t.take stop).drop start).drop (middle - start) := by
    rw [List.drop_drop]
    congr 1
    omega
  rw [hfront, hback, List.take_append_drop]

theorem slice_cons {t : Text} {start stop : Nat} {c : CodePoint} (hc : t[start]? = some c)
    (h : start < stop) : slice t start stop = c :: slice t (start + 1) stop := by
  unfold slice
  rw [List.drop_eq_getElem?_toList_append, List.getElem?_take_of_lt h, hc]
  rfl

end Text

/-- A text that closes all the braces it opens and `depth` more, none of them too early. -/
structure Closes (depth : Nat) (t : Text) : Prop where
  prefixes : ∀ front, front <+: t → front.count (.char '}') ≤ front.count (.char '{') + depth
  total : t.count (.char '}') = t.count (.char '{') + depth

/-- No prefix has more closing than opening braces, and the text has as many of both. -/
structure Balanced (t : Text) : Prop where
  prefixes : ∀ front, front <+: t → front.count (.char '}') ≤ front.count (.char '{')
  total : t.count (.char '}') = t.count (.char '{')

theorem closes_zero {t : Text} : Closes 0 t ↔ Balanced t :=
  ⟨fun h => ⟨h.prefixes, h.total⟩, fun h => ⟨h.prefixes, h.total⟩⟩

namespace Closes

theorem nil {depth : Nat} : Closes depth [] ↔ depth = 0 := by
  constructor
  · intro h
    simpa using h.total.symm
  · rintro rfl
    exact ⟨fun front hfront => by simp [List.prefix_nil.1 hfront], rfl⟩

/-- One character more in front of a text moves the depth by what it opens or closes. -/
theorem cons {depth after : Nat} {c : CodePoint} {t : Text}
    (hc : [c].count (.char '{') + depth = [c].count (.char '}') + after) :
    Closes depth (c :: t) ↔ Closes after t := by
  have hcount : ∀ (brace : CodePoint) (s : Text),
      (c :: s).count brace = [c].count brace + s.count brace :=
    fun brace s => by rw [← List.count_append, List.singleton_append]
  constructor
  · rintro ⟨prefixes, total⟩
    refine ⟨fun front hfront => ?_, ?_⟩
    · have h := prefixes (c :: front) ((List.prefix_cons_inj c).2 hfront)
      have hclose := hcount '}' front
      have hopen := hcount '{' front
      omega
    · have hclose := hcount '}' t
      have hopen := hcount '{' t
      omega
  · rintro ⟨prefixes, total⟩
    refine ⟨fun front hfront => ?_, ?_⟩
    · rcases List.prefix_cons_iff.1 hfront with rfl | ⟨rest, rfl, hrest⟩
      · simp
      · have h := prefixes rest hrest
        have hclose := hcount '}' rest
        have hopen := hcount '{' rest
        omega
    · have hclose := hcount '}' t
      have hopen := hcount '{' t
      omega

theorem opening {depth : Nat} {t : Text} : Closes depth ('{' :: t) ↔ Closes (depth + 1) t :=
  cons (by simp; omega)

theorem closing {depth : Nat} {t : Text} : Closes (depth + 1) ('}' :: t) ↔ Closes depth t :=
  cons (by simp; omega)

theorem plain {depth : Nat} {c : CodePoint} {t : Text} (hopen : c ≠ '{') (hclose : c ≠ '}') :
    Closes depth (c :: t) ↔ Closes depth t :=
  cons (by simp [hopen, hclose])

theorem not_closing_first {t : Text} : ¬ Closes 0 ('}' :: t) := by
  rintro ⟨prefixes, -⟩
  have h := prefixes [.char '}'] (List.prefix_append [.char '}'] t)
  simp at h

theorem of_no_braces {t : Text} (hopen : .char '{' ∉ t) (hclose : .char '}' ∉ t) : Closes 0 t where
  prefixes := fun front hfront => by
    rw [List.count_eq_zero_of_not_mem fun h => hclose (hfront.subset h)]
    exact Nat.zero_le _
  total := by
    rw [List.count_eq_zero_of_not_mem hopen, List.count_eq_zero_of_not_mem hclose]

def isBrace (c : CodePoint) : Bool := c == '{' || c == '}'

/-- Only the braces of a text decide whether it is balanced. -/
theorem filter_iff {depth : Nat} {t : Text} :
    Closes depth (t.filter isBrace) ↔ Closes depth t := by
  induction t generalizing depth with
  | nil => rfl
  | cons c t ih =>
    by_cases hopen : c = '{'
    · subst hopen
      rw [List.filter_cons_of_pos rfl, opening, opening, ih]
    · by_cases hclose : c = '}'
      · subst hclose
        rw [List.filter_cons_of_pos rfl]
        cases depth with
        | zero => exact iff_of_false not_closing_first not_closing_first
        | succ depth => rw [closing, closing, ih]
      · have hplain : ¬ isBrace c = true := by simp [isBrace, hopen, hclose]
        rw [List.filter_cons_of_neg hplain, plain hopen hclose, ih]

end Closes

theorem Balanced.of_same_braces {s t : Text} (h : Balanced s)
    (hbraces : s.filter Closes.isBrace = t.filter Closes.isBrace) : Balanced t := by
  rw [← closes_zero, ← Closes.filter_iff, ← hbraces, Closes.filter_iff, closes_zero]
  exact h

namespace Tag

/-- The search past a character that is not the closing brace finds what the search in the
rest finds, with the character in front. -/
theorem body?_step {depth after : Nat} {c : CodePoint} {rest : Text}
    (ih : ∀ body, body? after rest = some body ↔
      Closes after body ∧ ∃ later, rest = body ++ .char '}' :: later)
    (hcloses : ∀ body, Closes depth (c :: body) ↔ Closes after body)
    (hinner : ¬ (c = '}' ∧ depth = 0)) (body : Text) :
    (body? after rest).map (c :: ·) = some body ↔
      Closes depth body ∧ ∃ later, c :: rest = body ++ .char '}' :: later := by
  rw [Option.map_eq_some_iff]
  constructor
  · rintro ⟨b, hfound, rfl⟩
    obtain ⟨hb, later, rfl⟩ := (ih b).1 hfound
    exact ⟨(hcloses b).2 hb, later, rfl⟩
  · rintro ⟨hbody, later, heq⟩
    cases body with
    | nil =>
      rw [List.nil_append, List.cons.injEq] at heq
      exact absurd ⟨heq.1, Closes.nil.1 hbody⟩ hinner
    | cons d b =>
      obtain ⟨rfl, hrest⟩ := List.cons.inj heq
      exact ⟨b, (ih b).2 ⟨(hcloses b).1 hbody, later, hrest⟩, rfl⟩

/-- The search for a closing brace stops at the brace before which all others close. -/
theorem body?_eq_some_iff {depth : Nat} {t body : Text} :
    body? depth t = some body ↔ Closes depth body ∧ ∃ after, t = body ++ .char '}' :: after := by
  induction t generalizing depth body with
  | nil => simp [body?]
  | cons c rest ih =>
    unfold body?
    split
    · next hopen =>
      subst hopen
      exact body?_step (fun _ => ih) (fun _ => Closes.opening) (by simp) body
    · split
      · next hclose =>
        subst hclose
        cases depth with
        | zero =>
          constructor
          · intro h
            cases h
            exact ⟨Closes.nil.2 rfl, rest, rfl⟩
          · rintro ⟨hbody, later, heq⟩
            cases body with
            | nil => rfl
            | cons d b =>
              obtain ⟨rfl, -⟩ := List.cons.inj heq
              exact absurd hbody Closes.not_closing_first
        | succ d => exact body?_step (fun _ => ih) (fun _ => Closes.closing) (by simp) body
      · next hopen hclose =>
        exact body?_step (fun _ => ih) (fun _ => Closes.plain hopen hclose)
          (fun h => hclose h.1) body

/-- Text is balanced if a brace after it is the one that the search stops at. -/
theorem body?_closed_iff {t : Text} : body? 0 (t ++ [.char '}']) = some t ↔ Balanced t := by
  rw [body?_eq_some_iff, closes_zero]
  constructor
  · intro h
    exact h.1
  · intro h
    exact ⟨h, [], rfl⟩

/-- The tag at the head of a text is the one that the text starts with. -/
theorem at?_eq_some_iff {t : Text} {tag : Tag} :
    at? t = some tag ↔ Balanced tag.body ∧ ∃ after, t = tag.source ++ after := by
  constructor
  · intro h
    unfold at? at h
    split at h
    · obtain ⟨body, hbody, rfl⟩ := Option.map_eq_some_iff.1 h
      obtain ⟨hcloses, after, rfl⟩ := body?_eq_some_iff.1 hbody
      exact ⟨closes_zero.1 hcloses, after, by simp [source]⟩
    · obtain ⟨body, hbody, rfl⟩ := Option.map_eq_some_iff.1 h
      obtain ⟨hcloses, after, rfl⟩ := body?_eq_some_iff.1 hbody
      exact ⟨closes_zero.1 hcloses, after, by simp [source]⟩
    · cases h
  · rintro ⟨hbalanced, after, rfl⟩
    obtain ⟨escaped, body⟩ := tag
    have hbody : body? 0 (body ++ .char '}' :: after) = some body :=
      body?_eq_some_iff.2 ⟨closes_zero.2 hbalanced, after, rfl⟩
    cases escaped <;> simp [source, at?, hbody]

end Tag

instance (t : Text) : Decidable (Balanced t) := decidable_of_iff _ Tag.body?_closed_iff

end Stencil
