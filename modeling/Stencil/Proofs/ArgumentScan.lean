import Stencil.Arguments

/-!
# Scans of an argument list

Where the splitter of an argument list stands: outside quotes, inside them, or behind a
backslash inside them. Only a comma outside quotes ends an item; a text without one goes into
the item it stands in, and what follows it is split from the place where it ends. Behind a
comma that ends an item the splitter starts anew.
-/

namespace Stencil.Arguments

/-- Where the splitter stands: the quote mark that is open, and whether a backslash inside it
came just before. -/
structure Place where
  quote : Option CodePoint
  escaped : Bool
  deriving DecidableEq, Repr

namespace Place

def outside : Place := ⟨none, false⟩

def after (p : Place) (c : CodePoint) : Place :=
  match p.quote with
  | some q =>
    if p.escaped then ⟨some q, false⟩
    else if c = '\\' then ⟨some q, true⟩
    else ⟨if c = q then none else some q, false⟩
  | none => ⟨if isMark c then some c else none, false⟩

def cuts (p : Place) (c : CodePoint) : Bool := p.quote.isNone && c == ','

theorem after_of_cuts {p : Place} {c : CodePoint} (h : p.cuts c = true) : p.after c = .outside := by
  rw [cuts, Bool.and_eq_true, Option.isNone_iff_eq_none, beq_iff_eq] at h
  obtain ⟨hquote, rfl⟩ := h
  rw [after, hquote]
  rfl

/-- A quotation is open that was open before, or that the character opens. -/
theorem quote_after (p : Place) (c : CodePoint) {q : CodePoint} (h : (p.after c).quote = some q) :
    p.quote = some q ∨ c = q ∧ isMark q = true := by
  obtain ⟨quote, escaped⟩ := p
  cases quote with
  | some r =>
    left
    unfold after at h
    grind
  | none =>
    by_cases hmark : isMark c = true
    · simp only [after, hmark, if_true, Option.some.injEq] at h
      subst h
      exact .inr ⟨rfl, hmark⟩
    · simp [after, hmark] at h

/-- Where the splitter stands behind a text that ends no item. -/
def run? (p : Place) : Text → Option Place
  | [] => some p
  | c :: rest => if p.cuts c then none else (p.after c).run? rest

/-- Text without backslashes and without the mark of the open quotes leaves them open. -/
theorem run?_of_plain {q : CodePoint} {t : Text} (h : ∀ c ∈ t, c ≠ q ∧ c ≠ '\\') :
    run? ⟨some q, false⟩ t = some ⟨some q, false⟩ := by
  induction t with
  | nil => rfl
  | cons c rest ih =>
    obtain ⟨hclose, hslash⟩ := h c (by simp)
    have hafter : (⟨some q, false⟩ : Place).after c = ⟨some q, false⟩ := by
      simp [after, hslash, hclose]
    have hcut : (⟨some q, false⟩ : Place).cuts c = false := rfl
    rw [run?, hcut, if_neg (by decide), hafter]
    exact ih fun d hd => h d (List.mem_cons_of_mem c hd)

end Place

/-- One step of the splitter. -/
theorem itemsFrom_cons (p : Place) (item : Text) (c : CodePoint) (rest : Text) :
    itemsFrom p.quote p.escaped item (c :: rest) =
      if p.cuts c then (itemsFrom none false [] rest).map (item.reverse :: ·)
      else itemsFrom (p.after c).quote (p.after c).escaped (c :: item) rest := by
  obtain ⟨quote, escaped⟩ := p
  cases quote with
  | some q =>
    cases escaped with
    | true => rfl
    | false => by_cases hslash : c = '\\' <;> simp [itemsFrom, Place.cuts, Place.after, hslash]
  | none =>
    by_cases hmark : isMark c = true
    · have hcomma : c ≠ ',' := by
        rintro rfl
        cases hmark
      simp [itemsFrom, Place.cuts, Place.after, hmark, hcomma]
    · have hmark : isMark c = false := by simpa using hmark
      by_cases hcomma : c = ','
      · subst hcomma
        rfl
      · simp [itemsFrom, Place.cuts, Place.after, hmark, hcomma]

/-- A text that ends no item goes into the item as it stands. -/
theorem itemsFrom_run {p q : Place} {t : Text} (h : p.run? t = some q) (item rest : Text) :
    itemsFrom p.quote p.escaped item (t ++ rest) =
      itemsFrom q.quote q.escaped (t.reverse ++ item) rest := by
  induction t generalizing p item with
  | nil =>
    cases h
    rfl
  | cons c t ih =>
    rw [Place.run?] at h
    split at h
    · cases h
    · next hcut =>
      rw [List.cons_append, itemsFrom_cons, if_neg hcut, ih h, List.reverse_cons,
        List.append_assoc, List.singleton_append]

theorem itemsFrom_ne_nil (p : Place) (item t : Text) :
    itemsFrom p.quote p.escaped item t ≠ some [] := by
  induction t generalizing p item with
  | nil =>
    rw [itemsFrom]
    split <;> simp
  | cons c t ih =>
    rw [itemsFrom_cons]
    split
    · intro h
      obtain ⟨items, -, h⟩ := Option.map_eq_some_iff.1 h
      cases h
    · exact ih _ _

/-- The first item is the text up to the first comma outside quotes, or all of the text. -/
theorem itemsFrom_first {p : Place} {item t first : Text} {rest : List Text}
    (h : itemsFrom p.quote p.escaped item t = some (first :: rest)) :
    ∃ front q, first = item.reverse ++ front ∧ p.run? front = some q ∧ q.quote = none ∧
      (t = front ∧ rest = [] ∨
        ∃ later, t = front ++ .char ',' :: later ∧ itemsFrom none false [] later = some rest) := by
  induction t generalizing p item with
  | nil =>
    rw [itemsFrom] at h
    split at h
    · cases h
    · next hopen =>
      cases h
      exact ⟨[], p, (List.append_nil _).symm, rfl, by simpa using hopen, .inl ⟨rfl, rfl⟩⟩
  | cons c t ih =>
    rw [itemsFrom_cons] at h
    split at h
    · next hcut =>
      obtain ⟨items, hitems, h⟩ := Option.map_eq_some_iff.1 h
      cases h
      rw [Place.cuts, Bool.and_eq_true, Option.isNone_iff_eq_none, beq_iff_eq] at hcut
      obtain ⟨hquote, rfl⟩ := hcut
      exact ⟨[], p, (List.append_nil _).symm, rfl, hquote, .inr ⟨t, rfl, hitems⟩⟩
    · next hcut =>
      obtain ⟨front, q, hfirst, hrun, hquote, hsplit⟩ := ih h
      refine ⟨c :: front, q, ?_, ?_, hquote, ?_⟩
      · rw [hfirst, List.reverse_cons, List.append_assoc, List.singleton_append]
      · rw [Place.run?, if_neg hcut, hrun]
      · rcases hsplit with ⟨rfl, hrest⟩ | ⟨later, rfl, hlater⟩
        · exact .inl ⟨rfl, hrest⟩
        · exact .inr ⟨later, rfl, hlater⟩

/-- The last item is all of the text, or stands behind a comma that ends another one. -/
theorem itemsFrom_last {t : Text} {items : List Text} (h : itemsFrom none false [] t = some items) :
    items = [t] ∨
      ∃ front init last, t = front ++ .char ',' :: last ∧ init ≠ [] ∧ items = init ++ [last] := by
  induction items generalizing t with
  | nil => exact absurd h (itemsFrom_ne_nil .outside [] t)
  | cons first rest ih =>
    obtain ⟨front, q, hfirst, -, -, hsplit⟩ := itemsFrom_first (p := .outside) h
    obtain rfl : first = front := hfirst
    rcases hsplit with ⟨rfl, rfl⟩ | ⟨later, rfl, hlater⟩
    · exact .inl rfl
    · right
      rcases ih hlater with rfl | ⟨middle, init, last, rfl, -, rfl⟩
      · exact ⟨first, [first], later, rfl, List.cons_ne_nil first [], rfl⟩
      · refine ⟨first ++ .char ',' :: middle, first :: init, last, ?_,
          List.cons_ne_nil first init, rfl⟩
        rw [List.append_assoc, List.cons_append]

/-- Behind a text that leaves no quotes open a comma starts the splitter anew. -/
theorem itemsFrom_append_comma {p : Place} {item t : Text} {items : List Text}
    (h : itemsFrom p.quote p.escaped item t = some items) (rest : Text) :
    itemsFrom p.quote p.escaped item (t ++ .char ',' :: rest) =
      (itemsFrom none false [] rest).map (items ++ ·) := by
  induction t generalizing p item items with
  | nil =>
    rw [itemsFrom] at h
    split at h
    · cases h
    · next hclosed =>
      cases h
      have hcut : p.cuts ',' = true := by simpa [Place.cuts] using hclosed
      rw [List.nil_append, itemsFrom_cons, if_pos hcut]
      rfl
  | cons c t ih =>
    rw [itemsFrom_cons] at h
    rw [List.cons_append, itemsFrom_cons]
    split at h
    · next hcut =>
      obtain ⟨later, hlater, h⟩ := Option.map_eq_some_iff.1 h
      cases h
      have hstep : itemsFrom none false [] (t ++ .char ',' :: rest) =
          (itemsFrom none false [] rest).map (later ++ ·) := ih (p := .outside) hlater
      rw [if_pos hcut, hstep, Option.map_map]
      rfl
    · next hcut =>
      rw [if_neg hcut, ih h]

end Stencil.Arguments
