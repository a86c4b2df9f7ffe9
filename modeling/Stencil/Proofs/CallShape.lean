import Mathlib.Data.List.Forall2
import Stencil.Proofs.ArgumentLists
import Stencil.Proofs.ArgumentScan
import Stencil.Proofs.ChainTags
import Stencil.Proofs.EvaluationSteps

/-!
# The shape of a call

The shape of a call is the number of its arguments and the place of the piped value among
them. Where variables stand in the quotes of its argument list, the template decides the
shape for all values that keep to their quotes and make no argument a placeholder. The
argument list is split after the values are put in, so other values may change it.
-/

namespace Stencil

open FunctionTable (isName)

/-- A character of an argument text, or a hole that the text of a variable fills. -/
inductive Cell where
  | char (c : CodePoint)
  | hole (name : Text)
  deriving DecidableEq, Repr

namespace Cell

def fill (σ : Text → Text) : Cell → Text
  | char c => [c]
  | hole name => σ name

/-- The cells of an argument text whose tags are variables and nothing else. -/
def ofPieces? : List Piece → Option (List Cell)
  | [] => some []
  | .plain c :: rest => (ofPieces? rest).map (.char c :: ·)
  | .escaped inner :: rest =>
    (ofPieces? rest).map ((.char '{' :: (inner ++ [.char '}'])).map .char ++ ·)
  | .tag _ (.from (.variable name) []) :: rest => (ofPieces? rest).map (.hole name :: ·)
  | .tag _ _ :: _ => none

end Cell

/-! ## Argument texts with holes -/

namespace Scope

variable {s : Scope} {depth : Nat}

/-- The text that the tag of a variable is rendered into, if it is. -/
def shown (s : Scope) (name : Text) : Text :=
  match s.valueOf? name with
  | none => []
  | some v =>
    match v.output with
    | .ok t => t
    | .error _ => []

/-- The tag of a variable prints its text, or fails where a lenient scope shows nothing. -/
theorem eval_variable (s : Scope) (depth : Nat) (name : Text) :
    (Chain.from (.variable name) []).eval s depth >>= printed = pure (s.shown name) ∨
    ∃ e, (Chain.from (.variable name) []).eval s depth >>= printed = .fail e ∧ s.shown name = [] := by
  have heval : (Chain.from (.variable name) []).eval s depth = (Head.variable name).eval s depth := by
    simp only [Chain.eval, runCalls, bind_pure]
  rw [heval, Head.eval, shown]
  cases s.valueOf? name with
  | none =>
    cases s.lenient with
    | true => exact .inl rfl
    | false => exact .inr ⟨_, rfl, rfl⟩
  | some v =>
    simp only [pure_bind, printed]
    cases v.output with
    | ok t => exact .inl rfl
    | error cause => exact .inr ⟨_, rfl, rfl⟩

/-- A run calls nothing, and gives the characters and the texts of cells if it gives anything. -/
structure Yields (s : Scope) (x : Run Text) (cells : List Cell) : Prop where
  calls : x.calls = []
  result : ∀ t, x.result = .ok t → t = cells.flatMap (Cell.fill s.shown)

theorem Yields.plain (s : Scope) (depth : Nat) (c : CodePoint) :
    s.Yields ((Piece.plain c).render s depth) [.char c] where
  calls := rfl
  result := by
    rintro t ⟨⟩
    rfl

theorem Yields.escaped (s : Scope) (depth : Nat) (inner : Text) :
    s.Yields ((Piece.escaped inner).render s depth)
      ((.char '{' :: (inner ++ [.char '}'])).map .char) where
  calls := rfl
  result := by
    rintro t ⟨⟩
    rw [List.flatMap_map]
    exact (List.flatMap_singleton' _).symm

/-- The tag of a variable calls nothing, and is rendered into the text of the variable if at all. -/
theorem Yields.variable (s : Scope) (depth : Nat) (source name : Text) :
    s.Yields ((Piece.tag source (.from (.variable name) [])).render s depth) [.hole name] where
  calls := by
    rw [render_tag, calls_settle]
    rcases s.eval_variable depth name with heval | ⟨e, heval, -⟩
    · rw [heval]
      rfl
    · rw [heval]
      rfl
  result := by
    intro t ht
    rw [List.flatMap_singleton]
    rw [render_tag] at ht
    rcases s.eval_variable depth name with heval | ⟨e, heval, hshown⟩
    · rw [heval, settle_of_ok rfl] at ht
      cases ht
      rfl
    · rw [heval, settle] at ht
      split at ht
      · rw [Run.recover_of_error rfl] at ht
        cases ht
        exact hshown.symm
      · cases ht

theorem Yields.cons {p : Piece} {rest : List Piece} {front later : List Cell}
    (hp : s.Yields (p.render s depth) front) (hrest : s.Yields (renderPieces s depth rest) later) :
    s.Yields (renderPieces s depth (p :: rest)) (front ++ later) where
  calls := by
    rw [renderPieces]
    cases hx : (p.render s depth).result with
    | error e => rw [Run.calls_bind_of_error hx, hp.calls]
    | ok x =>
      rw [Run.calls_bind_of_ok hx, hp.calls, List.nil_append]
      cases hy : (renderPieces s depth rest).result with
      | error e => rw [Run.calls_bind_of_error hy, hrest.calls]
      | ok y =>
        rw [Run.calls_bind_of_ok hy, hrest.calls]
        rfl
  result := by
    intro t ht
    rw [renderPieces] at ht
    obtain ⟨x, hx, ht⟩ := Run.exists_of_bind_ok ht
    obtain ⟨y, hy, ht⟩ := Run.exists_of_bind_ok ht
    cases ht
    rw [List.flatMap_append, ← hp.result x hx, ← hrest.result y hy]

/-- The cells of an argument text begin with those of its first piece. -/
theorem exists_yields {p : Piece} {rest : List Piece} {cells : List Cell}
    (h : Cell.ofPieces? (p :: rest) = some cells) (s : Scope) (depth : Nat) :
    ∃ front later, cells = front ++ later ∧ Cell.ofPieces? rest = some later ∧
      s.Yields (p.render s depth) front := by
  have hsplit : ∀ front : List Cell, (Cell.ofPieces? rest).map (front ++ ·) = some cells →
      ∃ later, cells = front ++ later ∧ Cell.ofPieces? rest = some later := by
    intro front hcells
    obtain ⟨later, hlater, rfl⟩ := Option.map_eq_some_iff.1 hcells
    exact ⟨later, rfl, hlater⟩
  unfold Cell.ofPieces? at h
  split at h
  · next heq => cases heq
  · next c _ heq =>
    cases heq
    obtain ⟨later, hcells, hlater⟩ := hsplit [.char c] h
    exact ⟨_, later, hcells, hlater, .plain s depth c⟩
  · next inner _ heq =>
    cases heq
    obtain ⟨later, hcells, hlater⟩ := hsplit ((.char '{' :: (inner ++ [.char '}'])).map .char) h
    exact ⟨_, later, hcells, hlater, .escaped s depth inner⟩
  · next source name _ heq =>
    cases heq
    obtain ⟨later, hcells, hlater⟩ := hsplit [.hole name] h
    exact ⟨_, later, hcells, hlater, .variable s depth source name⟩
  · cases h

/-- An argument text with variables in it calls nothing, and is rendered into its characters and
the texts of the variables if at all. -/
theorem yields_pieces (s : Scope) (depth : Nat) {ps : List Piece} {cells : List Cell}
    (h : Cell.ofPieces? ps = some cells) : s.Yields (renderPieces s depth ps) cells := by
  induction ps generalizing cells with
  | nil =>
    cases h
    refine ⟨rfl, ?_⟩
    rintro t ⟨⟩
    rfl
  | cons p rest ih =>
    obtain ⟨front, later, rfl, hlater, hp⟩ := exists_yields h s depth
    exact hp.cons (ih hlater)

end Scope

namespace Arguments

/-! ## Items with holes -/

/-- The holes of an argument text, each with the place of the splitter there; whatever fills a
hole, the splitter is expected to leave it inside the same quotes. -/
def holesFrom (p : Place) : List Cell → List (Place × Text)
  | [] => []
  | .char c :: rest => holesFrom (p.after c) rest
  | .hole name :: rest => (p, name) :: holesFrom ⟨p.quote, false⟩ rest

/-- The items of an argument text with its holes filled, each with whether a hole stands in it. -/
def filledFrom (σ : Text → Text) (p : Place) (nested : Bool) (item : Text) :
    List Cell → List (Bool × Text)
  | [] => [(nested, item.reverse)]
  | .char c :: rest =>
    if p.cuts c then (nested, item.reverse) :: filledFrom σ .outside false [] rest
    else filledFrom σ (p.after c) nested (c :: item) rest
  | .hole name :: rest => filledFrom σ ⟨p.quote, false⟩ true ((σ name).reverse ++ item) rest

/-- Every hole stands inside quotes. -/
def Quoted (cells : List Cell) : Prop := ∀ hole ∈ holesFrom .outside cells, hole.1.quote.isSome

/-- Every hole is filled with a text that ends no item and leaves the quotes of the hole open, and
no backslash. -/
def Kept (σ : Text → Text) (cells : List Cell) : Prop :=
  ∀ hole ∈ holesFrom .outside cells, hole.1.run? (σ hole.2) = some ⟨hole.1.quote, false⟩

instance (cells : List Cell) : Decidable (Quoted cells) :=
  inferInstanceAs (Decidable (∀ hole ∈ holesFrom .outside cells, hole.1.quote.isSome))

instance (σ : Text → Text) (cells : List Cell) : Decidable (Kept σ cells) :=
  inferInstanceAs (Decidable (∀ hole ∈ holesFrom .outside cells,
    hole.1.run? (σ hole.2) = some ⟨hole.1.quote, false⟩))

variable {σ τ : Text → Text} {p : Place} {cells : List Cell}

/-- Values without backslashes and without the mark of the quotes that they stand in are kept,
where no backslash stands before a hole. -/
theorem kept_of_plain (hquoted : Quoted cells)
    (hclear : ∀ hole ∈ holesFrom .outside cells, hole.1.escaped = false)
    (h : ∀ hole ∈ holesFrom .outside cells, ∀ c ∈ σ hole.2, hole.1.quote ≠ some c ∧ c ≠ '\\') :
    Kept σ cells := by
  intro hole hhole
  have hescaped := hclear hole hhole
  have hplain := h hole hhole
  obtain ⟨q, hq⟩ := Option.isSome_iff_exists.1 (hquoted hole hhole)
  obtain ⟨⟨quote, escaped⟩, name⟩ := hole
  subst hq hescaped
  exact Place.run?_of_plain fun c hc =>
    ⟨fun heq => (hplain c hc).1 (congrArg some heq.symm), (hplain c hc).2⟩

/-- The splitter finds the items of the filled text, unless a quotation stays open. -/
theorem itemsFrom_fill
    (hkept : ∀ hole ∈ holesFrom p cells, hole.1.run? (σ hole.2) = some ⟨hole.1.quote, false⟩)
    (nested : Bool) {item : Text} {items : List Text}
    (h : itemsFrom p.quote p.escaped item (cells.flatMap (Cell.fill σ)) = some items) :
    items = (filledFrom σ p nested item cells).map (·.2) := by
  induction cells generalizing p nested item items with
  | nil =>
    rw [List.flatMap_nil, itemsFrom] at h
    split at h
    · cases h
    · cases h
      rfl
  | cons cell rest ih =>
    rw [List.flatMap_cons] at h
    cases cell with
    | char c =>
      rw [Cell.fill, List.singleton_append, itemsFrom_cons] at h
      rw [holesFrom] at hkept
      rw [filledFrom]
      split at h
      · next hcut =>
        obtain ⟨later, hlater, rfl⟩ := Option.map_eq_some_iff.1 h
        rw [Place.after_of_cuts hcut] at hkept
        rw [if_pos hcut, List.map_cons, ← ih hkept false hlater]
      · next hcut =>
        rw [if_neg hcut]
        exact ih hkept nested h
    | hole name =>
      rw [holesFrom, List.forall_mem_cons] at hkept
      rw [Cell.fill, itemsFrom_run hkept.1] at h
      exact ih hkept.2 true h

/-! ## Two fills of one text -/

def Marked (t : Text) : Prop := ∃ c ∈ t, isMark c = true

theorem Marked.mono {t u : Text} (h : Marked t) (hsub : ∀ c ∈ t, c ∈ u) : Marked u := by
  obtain ⟨c, hc, hmark⟩ := h
  exact ⟨c, hsub c hc, hmark⟩

theorem isBlank_of_isMark {c : CodePoint} (h : isMark c = true) : Text.isBlank c = false := by
  rw [isMark, Bool.or_eq_true, beq_iff_eq, beq_iff_eq] at h
  rcases h with rfl | rfl <;> decide

/-- Blanks are no quote marks, so trimming leaves these. -/
theorem Marked.trim {t : Text} (h : Marked t) : Marked (Text.trim t) := by
  obtain ⟨c, hc, hmark⟩ := h
  obtain ⟨before, after, hbefore, hafter, heq⟩ := Text.exists_trim t
  have hnot : Text.isBlank c = false := isBlank_of_isMark hmark
  rw [heq, List.mem_append, List.mem_append] at hc
  rcases hc with hc | hc | hc
  · rw [hbefore c hc] at hnot
    cases hnot
  · exact ⟨c, hc, hmark⟩
  · rw [hafter c hc] at hnot
    cases hnot

theorem Marked.ne_nil {t : Text} (h : Marked t) : t ≠ [] := by
  rintro rfl
  obtain ⟨c, hc, -⟩ := h
  cases hc

/-- Items at one place of two fills: the same text when no hole stands in it, else a text with
a quote mark in each. -/
inductive Akin : Bool × Text → Bool × Text → Prop where
  | plain (t : Text) : Akin (false, t) (false, t)
  | nested {t u : Text} : Marked t → Marked u → Akin (true, t) (true, u)

namespace Akin

variable {x y : Bool × Text}

theorem map {f : Text → Text} (hf : ∀ t, Marked t → Marked (f t)) (h : Akin x y) :
    Akin (x.1, f x.2) (y.1, f y.2) := by
  cases h with
  | plain t => exact plain (f t)
  | nested ht hu => exact nested (hf _ ht) (hf _ hu)

theorem empty_iff (h : Akin x y) : x.2 = [] ↔ y.2 = [] := by
  cases h with
  | plain t => exact Iff.rfl
  | nested ht hu => exact iff_of_false ht.ne_nil hu.ne_nil

theorem getLast?_iff {xs ys : List (Bool × Text)} (h : List.Forall₂ Akin xs ys) :
    (xs.map (·.2)).getLast? = some [] ↔ (ys.map (·.2)).getLast? = some [] := by
  induction h with
  | nil => exact Iff.rfl
  | cons hxy hrest ih =>
    cases hrest with
    | nil => simpa using hxy.empty_iff
    | cons hnext hmore => simpa using ih

theorem dropLast {xs ys : List (Bool × Text)} (h : List.Forall₂ Akin xs ys) :
    List.Forall₂ Akin xs.dropLast ys.dropLast := by
  rw [List.dropLast_eq_take, List.dropLast_eq_take, h.length_eq]
  exact List.forall₂_take _ h

/-- The empty item after the last comma is dropped in both or in neither. -/
theorem dropTrailing {xs ys : List (Bool × Text)} (h : List.Forall₂ Akin xs ys) :
    ∃ xs' ys', List.Forall₂ Akin xs' ys' ∧ xs' ⊆ xs ∧ ys' ⊆ ys ∧
      Arguments.dropTrailing (xs.map (·.2)) = xs'.map (·.2) ∧
      Arguments.dropTrailing (ys.map (·.2)) = ys'.map (·.2) := by
  have hcond : (1 < (xs.map (·.2)).length ∧ (xs.map (·.2)).getLast? = some []) ↔
      (1 < (ys.map (·.2)).length ∧ (ys.map (·.2)).getLast? = some []) := by
    rw [getLast?_iff h, List.length_map, List.length_map, h.length_eq]
  unfold Arguments.dropTrailing
  by_cases hdrop : 1 < (ys.map (·.2)).length ∧ (ys.map (·.2)).getLast? = some []
  · refine ⟨xs.dropLast, ys.dropLast, dropLast h, List.dropLast_subset xs, List.dropLast_subset ys,
      ?_, ?_⟩
    · rw [if_pos (hcond.2 hdrop), List.map_dropLast]
    · rw [if_pos hdrop, List.map_dropLast]
  · refine ⟨xs, ys, h, List.Subset.refl xs, List.Subset.refl ys, ?_, ?_⟩
    · rw [if_neg (mt hcond.1 hdrop)]
    · rw [if_neg hdrop]

end Akin

/-- The mark of the open quotation is in the item. -/
def Place.Opened (p : Place) (item : Text) : Prop :=
  ∀ q, p.quote = some q → isMark q = true ∧ q ∈ item

theorem Place.Opened.after {item : Text} (h : p.Opened item) (c : CodePoint) :
    (p.after c).Opened (c :: item) := by
  intro q hq
  rcases p.quote_after c hq with hsame | ⟨rfl, hmark⟩
  · exact ⟨(h q hsame).1, List.mem_cons_of_mem c (h q hsame).2⟩
  · exact ⟨hmark, List.mem_cons_self⟩

/-- Two fills of one text have the same number of items, and those at one place are akin. -/
theorem akin_filledFrom (σ τ : Text → Text)
    (hquoted : ∀ hole ∈ holesFrom p cells, hole.1.quote.isSome) {nested : Bool}
    {item item' : Text} (hopen : p.Opened item) (hopen' : p.Opened item')
    (h : Akin (nested, item) (nested, item')) :
    List.Forall₂ Akin (filledFrom σ p nested item cells) (filledFrom τ p nested item' cells) := by
  have hreverse : ∀ t, Marked t → Marked t.reverse := fun t ht =>
    ht.mono fun c hc => List.mem_reverse.2 hc
  induction cells generalizing p nested item item' with
  | nil => exact .cons (h.map hreverse) .nil
  | cons cell rest ih =>
    cases cell with
    | char c =>
      rw [holesFrom] at hquoted
      rw [filledFrom, filledFrom]
      by_cases hcut : p.cuts c = true
      · rw [Place.after_of_cuts hcut] at hquoted
        have houtside : Place.outside.Opened [] := fun q hq => by cases hq
        rw [if_pos hcut, if_pos hcut]
        exact .cons (h.map hreverse) (ih hquoted houtside houtside (.plain []))
      · rw [if_neg hcut, if_neg hcut]
        exact ih hquoted (hopen.after c) (hopen'.after c)
          (h.map fun t ht => ht.mono fun d hd => List.mem_cons_of_mem c hd)
    | hole name =>
      rw [holesFrom, List.forall_mem_cons] at hquoted
      obtain ⟨q, hq⟩ := Option.isSome_iff_exists.1 hquoted.1
      have hafter : ∀ {t : Text} (text : Text), p.Opened t →
          Place.Opened ⟨p.quote, false⟩ (text.reverse ++ t) := fun text ht q hq =>
        ⟨(ht q hq).1, List.mem_append_right _ (ht q hq).2⟩
      have hmarked : Akin (true, (σ name).reverse ++ item) (true, (τ name).reverse ++ item') :=
        .nested ⟨q, (hafter (σ name) hopen q hq).2, (hopen q hq).1⟩
          ⟨q, (hafter (τ name) hopen' q hq).2, (hopen' q hq).1⟩
      exact ih hquoted.2 (hafter (σ name) hopen) (hafter (τ name) hopen') hmarked

/-- Two fills of one text are the same text, or there is a quote mark in each. -/
theorem fill_eq_or_marked (σ τ : Text → Text) (hquoted : Quoted cells) :
    cells.flatMap (Cell.fill σ) = cells.flatMap (Cell.fill τ) ∨
      Marked (cells.flatMap (Cell.fill σ)) ∧ Marked (cells.flatMap (Cell.fill τ)) := by
  induction cells with
  | nil => exact .inl rfl
  | cons cell rest ih =>
    cases cell with
    | char c =>
      rw [List.flatMap_cons, List.flatMap_cons]
      by_cases hmark : isMark c = true
      · exact .inr ⟨⟨c, List.mem_cons_self, hmark⟩, ⟨c, List.mem_cons_self, hmark⟩⟩
      · have hafter : Place.outside.after c = .outside := by
          simp [Place.after, Place.outside, hmark]
        rw [Quoted, holesFrom, hafter] at hquoted
        rcases ih hquoted with heq | ⟨hσ, hτ⟩
        · exact .inl (congrArg _ heq)
        · exact .inr ⟨hσ.mono fun d hd => List.mem_append_right _ hd,
            hτ.mono fun d hd => List.mem_append_right _ hd⟩
    | hole name =>
      rw [Quoted, holesFrom, List.forall_mem_cons] at hquoted
      cases hquoted.1

/-! ## The values of two fills -/

/-- The items, as they are read, in which a hole stands. -/
def nestedItems (σ : Text → Text) (cells : List Cell) : List Text :=
  ((filledFrom σ .outside false [] cells).filter (·.1)).map fun x => Text.trim x.2

/-- No item with a hole in it is read as a placeholder. -/
def Unmarked (function : Text) (σ : Text → Text) (cells : List Cell) : Prop :=
  ∀ item ∈ nestedItems σ cells, readItem function item ≠ .ok placeholder

/-- A filled text that is read is blank, or its items are read one by one. -/
theorem read_filled {function : Text} {values : List Value} (hkept : Kept σ cells)
    (h : read function (cells.flatMap (Cell.fill σ)) = .ok values) :
    (∀ c ∈ cells.flatMap (Cell.fill σ), Text.isBlank c = true) ∧ values = [] ∨
    (dropTrailing ((filledFrom σ .outside false [] cells).map fun x => Text.trim x.2)).mapM
      (readItem function) = .ok values := by
  obtain hblank | ⟨items, hitems, hvalues⟩ := read_cases h
  · exact .inl hblank
  · rw [itemsFrom_fill (p := .outside) hkept false hitems, List.map_map] at hvalues
    exact .inr hvalues

theorem Marked.not_blank {t : Text} (h : Marked t) : ¬ ∀ c ∈ t, Text.isBlank c = true := by
  obtain ⟨c, hc, hmark⟩ := h
  intro hblank
  have hnot := isBlank_of_isMark hmark
  rw [hblank c hc] at hnot
  cases hnot

/-- When one of two fills is blank, neither gives a value. -/
theorem read_blank_fill {function : Text} {values others : List Value}
    (hquoted : Quoted cells)
    (hvalues : read function (cells.flatMap (Cell.fill σ)) = .ok values)
    (hothers : read function (cells.flatMap (Cell.fill τ)) = .ok others)
    (hblank : (∀ c ∈ cells.flatMap (Cell.fill σ), Text.isBlank c = true) ∨
      ∀ c ∈ cells.flatMap (Cell.fill τ), Text.isBlank c = true) : values = [] ∧ others = [] := by
  rcases fill_eq_or_marked σ τ hquoted with heq | ⟨hmarkσ, hmarkτ⟩
  · rw [← heq, or_self] at hblank
    rw [← heq] at hothers
    rw [read_blanks hblank] at hvalues hothers
    cases hvalues
    cases hothers
    exact ⟨rfl, rfl⟩
  · exact (hblank.elim hmarkσ.not_blank hmarkτ.not_blank).elim

/-- Placeholders come from items without holes, when no other item is read as one. -/
theorem placeholders_of_akin {function : Text} {xs ys : List (Bool × Text)}
    {values others : List Value} (h : List.Forall₂ Akin xs ys)
    (hvalues : List.Forall₂ (fun x v => readItem function x.2 = .ok v) xs values)
    (hothers : List.Forall₂ (fun y w => readItem function y.2 = .ok w) ys others)
    (hxs : ∀ x ∈ xs, x.1 = true → readItem function x.2 ≠ .ok placeholder)
    (hys : ∀ y ∈ ys, y.1 = true → readItem function y.2 ≠ .ok placeholder) :
    List.Forall₂ (fun v w => v = placeholder ↔ w = placeholder) values others := by
  induction h generalizing values others with
  | nil =>
    cases hvalues
    cases hothers
    exact .nil
  | @cons x y xs ys hxy hrest ih =>
    rw [List.forall_mem_cons] at hxs hys
    cases hvalues with
    | @cons _ v _ values hv hvalues =>
      cases hothers with
      | @cons _ w _ others hw hothers =>
        refine .cons ?_ (ih hvalues hothers hxs.2 hys.2)
        cases hxy with
        | plain t =>
          cases hv.symm.trans hw
          exact Iff.rfl
        | nested ht hu =>
          refine iff_of_false ?_ ?_
          · rintro rfl
            exact hxs.1 rfl hv
          · rintro rfl
            exact hys.1 rfl hw

/-- Two fills that are read give the same number of values. Where no item with a hole in it is read
as a placeholder, the placeholders are at the same places. -/
theorem values_of_fills {function : Text} {values others : List Value}
    (hquoted : Quoted cells) (hσ : Kept σ cells) (hτ : Kept τ cells)
    (hvalues : read function (cells.flatMap (Cell.fill σ)) = .ok values)
    (hothers : read function (cells.flatMap (Cell.fill τ)) = .ok others) :
    values.length = others.length ∧
    (Unmarked function σ cells → Unmarked function τ cells →
      List.Forall₂ (fun v w => v = placeholder ↔ w = placeholder) values others) := by
  have hblank := read_blank_fill hquoted hvalues hothers
  rcases read_filled hσ hvalues with ⟨hleft, -⟩ | hleft
  · obtain ⟨rfl, rfl⟩ := hblank (.inl hleft)
    exact ⟨rfl, fun _ _ => .nil⟩
  rcases read_filled hτ hothers with ⟨hright, -⟩ | hright
  · obtain ⟨rfl, rfl⟩ := hblank (.inr hright)
    exact ⟨rfl, fun _ _ => .nil⟩
  have houtside : Place.outside.Opened [] := fun q hq => by cases hq
  have hakin := akin_filledFrom σ τ hquoted houtside houtside (.plain [])
  have htrimmed : List.Forall₂ Akin
      ((filledFrom σ .outside false [] cells).map fun x => (x.1, Text.trim x.2))
      ((filledFrom τ .outside false [] cells).map fun y => (y.1, Text.trim y.2)) := by
    rw [List.forall₂_map_left_iff, List.forall₂_map_right_iff]
    exact hakin.imp fun x y h => h.map fun t ht => ht.trim
  have hnested : ∀ υ : Text → Text,
      ∀ x ∈ (filledFrom υ .outside false [] cells).map fun x => (x.1, Text.trim x.2),
        x.1 = true → x.2 ∈ nestedItems υ cells := by
    intro υ x hx hflag
    obtain ⟨y, hy, rfl⟩ := List.mem_map.1 hx
    exact List.mem_map.2 ⟨y, List.mem_filter.2 ⟨hy, hflag⟩, rfl⟩
  obtain ⟨xs, ys, hxys, hxs, hys, hdropxs, hdropys⟩ := Akin.dropTrailing htrimmed
  rw [List.map_map] at hdropxs hdropys
  have hreadxs := forall₂_of_mapM (hdropxs ▸ hleft)
  have hreadys := forall₂_of_mapM (hdropys ▸ hright)
  rw [List.forall₂_map_left_iff] at hreadxs hreadys
  refine ⟨?_, fun hnotσ hnotτ => ?_⟩
  · rw [← hreadxs.length_eq, ← hreadys.length_eq, hxys.length_eq]
  · exact placeholders_of_akin hxys hreadxs hreadys
      (fun x hx hflag => hnotσ _ (hnested σ x (hxs hx) hflag))
      (fun y hy hflag => hnotτ _ (hnested τ y (hys hy) hflag))

/-! ## The place of the piped value -/

theorem replaceFirst?_of_ne {w : Value} (h : w ≠ placeholder) (v : Value) (rest : List Value) :
    replaceFirst? v (w :: rest) = (replaceFirst? v rest).map (w :: ·) := by
  rw [replaceFirst?]
  exact h

/-- The piped value stands at one place among all values whose placeholders are at the same
places. -/
theorem place_alike {values others : List Value}
    (h : List.Forall₂ (fun v w => v = placeholder ↔ w = placeholder) values others) :
    ∃ front back front' back' : List Value,
      front.length = front'.length ∧ back.length = back'.length ∧
      (∀ v, place v values = front ++ v :: back) ∧ ∀ v, place v others = front' ++ v :: back' := by
  have hreplaced : (∀ v, replaceFirst? v values = none ∧ replaceFirst? v others = none) ∨
      ∃ front back front' back' : List Value,
        front.length = front'.length ∧ back.length = back'.length ∧
        ∀ v, replaceFirst? v values = some (front ++ v :: back) ∧
          replaceFirst? v others = some (front' ++ v :: back') := by
    induction h with
    | nil => exact .inl fun v => ⟨rfl, rfl⟩
    | @cons x y values others hxy hrest ih =>
      by_cases hx : x = placeholder
      · have hy := hxy.1 hx
        subst hx hy
        exact .inr ⟨[], values, [], others, rfl, hrest.length_eq, fun v => ⟨rfl, rfl⟩⟩
      · have hy : y ≠ placeholder := mt hxy.2 hx
        rcases ih with hnone | ⟨front, back, front', back', hfront, hback, hsome⟩
        · refine .inl fun v => ?_
          rw [replaceFirst?_of_ne hx, replaceFirst?_of_ne hy, (hnone v).1, (hnone v).2]
          exact ⟨rfl, rfl⟩
        · refine .inr ⟨x :: front, back, y :: front', back', congrArg (· + 1) hfront, hback,
            fun v => ?_⟩
          rw [replaceFirst?_of_ne hx, replaceFirst?_of_ne hy, (hsome v).1, (hsome v).2]
          exact ⟨rfl, rfl⟩
  rcases hreplaced with hnone | ⟨front, back, front', back', hfront, hback, hsome⟩
  · refine ⟨[], values, [], others, rfl, h.length_eq, fun v => ?_, fun v => ?_⟩
    · rw [place, (hnone v).1]
      rfl
    · rw [place, (hnone v).2]
      rfl
  · refine ⟨front, back, front', back', hfront, hback, fun v => ?_, fun v => ?_⟩
    · rw [place, (hsome v).1]
      rfl
    · rw [place, (hsome v).2]
      rfl

end Arguments

/-! ## Calls -/

namespace Scope

variable {s : Scope} {depth : Nat} {source : Text} {token : Token} {cells : List Cell}

/-- The calls that a token of a chain makes, with the value that is piped into it, if one is. -/
def tokenCalls (s : Scope) (depth : Nat) (first : Bool) (source : Text) (piped : Option Value) :
    List (Label × List Value) :=
  ((Call.ofSource Template.ofText first source).run s depth piped).calls

/-- A call with argument text that is made finds its function and reads the rendered text. -/
theorem exists_of_calls_applied {name : Text} {ps : List Piece} {piped : Option Value}
    (hquiet : (renderPieces s (depth + 1) ps).calls = [])
    (h : ((Call.applied name ps).run s depth piped).calls ≠ []) :
    ∃ F t values, s.resolve? name = some F ∧ (renderPieces s (depth + 1) ps).result = .ok t ∧
      Arguments.read name t = .ok values ∧
      ∀ other, ((Call.applied name ps).run s depth other).calls =
        [(F.label, Arguments.given other values)] := by
  cases hF : s.resolve? name with
  | none =>
    rw [Call.run, find, hF] at h
    exact absurd rfl h
  | some F =>
    by_cases hdepth : s.maxDepth < (depth + 1 : Nat)
    · rw [Call.run, find_of_resolve hF, pure_bind, guardDepth, if_pos hdepth] at h
      exact absurd rfl h
    have hrun : ∀ other, (Call.applied name ps).run s depth other = (do
        let text ← renderPieces s (depth + 1) ps
        let values ← Run.ofExcept (Arguments.read name text)
        invoke name F other values) := by
      intro other
      rw [Call.run, find_of_resolve hF, pure_bind, guardDepth_of_le (Int.not_lt.1 hdepth),
        pure_bind]
    rw [hrun] at h
    cases hrender : (renderPieces s (depth + 1) ps).result with
    | error err =>
      rw [Run.calls_bind_of_error hrender] at h
      exact absurd hquiet h
    | ok t =>
      rw [Run.calls_bind_of_ok hrender, hquiet, List.nil_append] at h
      cases hread : Arguments.read name t with
      | error err =>
        rw [hread] at h
        exact absurd rfl h
      | ok values =>
        refine ⟨F, t, values, rfl, rfl, hread, fun other => ?_⟩
        rw [hrun, Run.calls_bind_of_ok hrender, hquiet, hread]
        rfl

/-- A token with variables in its argument text that makes a call reads the filled text. -/
theorem exists_of_tokenCalls (htoken : Token.read? source = some token)
    (hcells : Cell.ofPieces? (Template.ofText (token.args.getD [])) = some cells)
    {first : Bool} {piped : Option Value} (h : s.tokenCalls depth first source piped ≠ []) :
    ∃ F values, s.resolve? token.name = some F ∧
      Arguments.read token.name (cells.flatMap (Cell.fill s.shown)) = .ok values ∧
      ∀ other, s.tokenCalls depth first source other =
        [(F.label, Arguments.given other values)] := by
  have hof : ∀ call, Call.ofSource Template.ofText first source = call →
      ∀ other, s.tokenCalls depth first source other = (call.run s depth other).calls :=
    fun call hcall other => by rw [tokenCalls, hcall]
  cases hallowed : token.direct && !first with
  | true =>
    rw [hof (.malformed source) (by simp [Call.ofSource, htoken, hallowed]), Call.run] at h
    exact absurd rfl h
  | false =>
    cases hargs : token.args with
    | none =>
      have hbare := hof (.bare token.name) (by simp [Call.ofSource, htoken, hallowed, hargs])
      obtain rfl : cells = [] := by
        rw [hargs, Option.getD_none, Template.ofText_plain (by decide)] at hcells
        cases hcells
        rfl
      cases hF : s.resolve? token.name with
      | none =>
        rw [hbare, Call.run, find, hF] at h
        exact absurd rfl h
      | some F =>
        refine ⟨F, [], rfl, rfl, fun other => ?_⟩
        rw [hbare, run_bare hF, calls_invoke_given]
    | some args =>
      have happlied := hof (.applied token.name (Template.ofText args))
        (by simp [Call.ofSource, htoken, hallowed, hargs])
      rw [hargs, Option.getD_some] at hcells
      rw [happlied] at h
      obtain ⟨hquiet, hresult⟩ := s.yields_pieces (depth + 1) hcells
      obtain ⟨F, t, values, hF, ht, hread, hcalls⟩ := exists_of_calls_applied hquiet h
      rw [hresult t ht] at hread
      exact ⟨F, values, hF, hread, fun other => (happlied other).trans (hcalls other)⟩

end Scope

namespace Engine

open Arguments (Quoted Kept Unmarked)

/-- The shape of a call with variables in quotes does not depend on their values, as long as the
values keep to their quotes: it gets as many arguments with some values as with others. Where no
argument with a variable in it becomes a placeholder, a piped value stands at the same place. -/
theorem shape_of_call (e : Engine) {source : Text} {token : Token} {cells : List Cell}
    (htoken : Token.read? source = some token)
    (hcells : Cell.ofPieces? (Template.ofText (token.args.getD [])) = some cells)
    (hquoted : Quoted cells) {bindings others : List (Text × Value)} {lenient lenient' : Option Bool}
    (hkept : Kept (e.scope bindings lenient).shown cells)
    (hkept' : Kept (e.scope others lenient').shown cells) (depth : Nat) (first : Bool) :
    ((e.scope bindings lenient).tokenCalls depth first source none ≠ [] →
      (e.scope others lenient').tokenCalls depth first source none ≠ [] →
      ∃ label values values',
        (e.scope bindings lenient).tokenCalls depth first source none = [(label, values)] ∧
        (e.scope others lenient').tokenCalls depth first source none = [(label, values')] ∧
        values.length = values'.length) ∧
    (Unmarked token.name (e.scope bindings lenient).shown cells →
      Unmarked token.name (e.scope others lenient').shown cells → ∀ v w,
      (e.scope bindings lenient).tokenCalls depth first source (some v) ≠ [] →
      (e.scope others lenient').tokenCalls depth first source (some w) ≠ [] →
      ∃ label front back front' back', front.length = front'.length ∧ back.length = back'.length ∧
        (∀ v, (e.scope bindings lenient).tokenCalls depth first source (some v) =
          [(label, front ++ v :: back)]) ∧
        ∀ w, (e.scope others lenient').tokenCalls depth first source (some w) =
          [(label, front' ++ w :: back')]) := by
  refine ⟨fun hcalls hcalls' => ?_, fun hunmarked hunmarked' v w hcalls hcalls' => ?_⟩
  · obtain ⟨F, values, hF, hread, hall⟩ := Scope.exists_of_tokenCalls htoken hcells hcalls
    obtain ⟨F', values', hF', hread', hall'⟩ := Scope.exists_of_tokenCalls htoken hcells hcalls'
    cases hF.symm.trans hF'
    exact ⟨F.label, values, values', hall none, hall' none,
      (Arguments.values_of_fills hquoted hkept hkept' hread hread').1⟩
  · obtain ⟨F, values, hF, hread, hall⟩ := Scope.exists_of_tokenCalls htoken hcells hcalls
    obtain ⟨F', values', hF', hread', hall'⟩ := Scope.exists_of_tokenCalls htoken hcells hcalls'
    cases hF.symm.trans hF'
    have halike := (Arguments.values_of_fills hquoted hkept hkept' hread hread').2
      hunmarked hunmarked'
    obtain ⟨front, back, front', back', hfront, hback, hplace, hplace'⟩ :=
      Arguments.place_alike halike
    refine ⟨F.label, front, back, front', back', hfront, hback, fun v => ?_, fun w => ?_⟩
    · rw [hall, Arguments.given, hplace]
    · rw [hall', Arguments.given, hplace']

/-- A call with a variable in quotes and a place for the piped value. -/
def placedSource : Text := "f(\"\x7bx\x7d\", $)".text

def placedToken : Token := ⟨['f'], some "\"\x7bx\x7d\", $".text, false⟩

def placedCells : List Cell :=
  [.char '"', .hole ['x'], .char '"', .char ',', .char ' ', .char '$']

def textScope (t : Text) : Scope := gathering.scope [(['x'], .text t)] none

theorem unmarked_placedCells {t : Text} (hverbatim : Text.Verbatim t) (ht : t ≠ [.char '$'])
    (hitems : Arguments.nestedItems (textScope t).shown placedCells = [Text.inQuotes t]) :
    Unmarked ['f'] (textScope t).shown placedCells := by
  intro item hitem
  rw [hitems, List.mem_singleton] at hitem
  subst hitem
  rw [(Arguments.Item.verbatim hverbatim).read ['f']]
  intro heq
  cases heq
  exact ht rfl

/-- Commas and parentheses in the value of the variable leave the piped value where it is. -/
theorem shape_of_placed_call :
    (Token.read? placedSource = some placedToken ∧
      Cell.ofPieces? (Template.ofText (placedToken.args.getD [])) = some placedCells ∧
      Quoted placedCells ∧
      (Kept (textScope ['a']).shown placedCells ∧
        Kept (textScope "b', (c".text).shown placedCells) ∧
      (Unmarked ['f'] (textScope ['a']).shown placedCells ∧
        Unmarked ['f'] (textScope "b', (c".text).shown placedCells) ∧
      (textScope ['a']).tokenCalls 0 false placedSource (some (.int 1)) ≠ [] ∧
      (textScope "b', (c".text).tokenCalls 0 false placedSource (some (.int 2)) ≠ []) ∧
    ∃ label front back front' back', front.length = front'.length ∧ back.length = back'.length ∧
      (∀ v, (textScope ['a']).tokenCalls 0 false placedSource (some v) =
        [(label, front ++ v :: back)]) ∧
      ∀ w, (textScope "b', (c".text).tokenCalls 0 false placedSource (some w) =
        [(label, front' ++ w :: back')] := by
  have htoken : Token.read? placedSource = some placedToken := by decide +kernel
  have hcells : Cell.ofPieces? (Template.ofText (placedToken.args.getD [])) = some placedCells := by
    decide +kernel
  have hquoted : Quoted placedCells := by decide +kernel
  have hkept : Kept (textScope ['a']).shown placedCells := by decide +kernel
  have hkept' : Kept (textScope "b', (c".text).shown placedCells := by decide +kernel
  have hunmarked : Unmarked ['f'] (textScope ['a']).shown placedCells :=
    unmarked_placedCells (by decide) (by decide) (by decide +kernel)
  have hunmarked' : Unmarked ['f'] (textScope "b', (c".text).shown placedCells :=
    unmarked_placedCells (by decide) (by decide) (by decide +kernel)
  have hcalls : (textScope ['a']).tokenCalls 0 false placedSource (some (.int 1)) ≠ [] := by
    rw [← List.isEmpty_eq_false_iff]
    decide +kernel
  have hcalls' :
      (textScope "b', (c".text).tokenCalls 0 false placedSource (some (.int 2)) ≠ [] := by
    rw [← List.isEmpty_eq_false_iff]
    decide +kernel
  refine ⟨⟨htoken, hcells, hquoted, ⟨hkept, hkept'⟩, ⟨hunmarked, hunmarked'⟩, hcalls, hcalls'⟩, ?_⟩
  exact (shape_of_call gathering htoken hcells hquoted hkept hkept' 0 false).2 hunmarked hunmarked'
    (.int 1) (.int 2) hcalls hcalls'

/-- A value with a comma between quote marks becomes two arguments of a direct call, and a value
that is the marker of a place takes the piped value to its place. -/
theorem values_change_shape :
    (gathering.evaluate "@f(\"\x7bx\x7d\")".text
      [(['x'], .text ['a'])] none).calls.map (·.2.length) = [1] ∧
    (gathering.evaluate "@f(\"\x7bx\x7d\")".text
      [(['x'], .text "a\", \"b".text)] none).calls.map (·.2.length) = [2] ∧
    (gathering.evaluate "v.f(\"\x7bx\x7d\")".text
      [(['v'], .int 7), (['x'], .text ['a'])] none).calls.map (·.2.length) = [2] ∧
    (gathering.evaluate "v.f(\"\x7bx\x7d\")".text
      [(['v'], .int 7), (['x'], .text ['$'])] none).calls.map (·.2.length) = [1] := by
  decide +kernel

end Engine

end Stencil
