import Stencil.Chain
import Stencil.Text.Search

/-!
# Scans of a chain

Text that a scan of a chain passes over without cutting it. Such scans follow each other,
so a text that keeps its quotes and parentheses to itself stays in one piece wherever it
stands, and the dot after it cuts the chain.
-/

namespace Stencil

/-- Characters that a test tells apart are different. -/
theorem Text.ne_of_test {test : CodePoint → Bool} {c d : CodePoint} (h : test c = true)
    (h' : test d = false) : c ≠ d := by
  rintro rfl
  rw [h] at h'
  cases h'

namespace Chain

/-- The character before what follows a text. -/
theorem previous_cons (previous : Option CodePoint) (c : CodePoint) (t : Text) :
    (c :: t).getLast?.or previous = t.getLast?.or (some c) := by
  rw [List.getLast?_cons]
  cases t.getLast? <;> rfl

/-- The scanner reads the text from one position to another and cuts nothing; with each
position goes the character before it. -/
inductive Passes : Position → Option CodePoint → Text → Position → Option CodePoint → Prop where
  | done {p : Position} {previous : Option CodePoint} : Passes p previous [] p previous
  | read {p q : Position} {previous last : Option CodePoint} {c : CodePoint} {t : Text}
      (uncut : ¬ (c = '.' ∧ (p.after previous c).isOutside))
      (rest : Passes (p.after previous c) (some c) t q last) : Passes p previous (c :: t) q last

namespace Passes

variable {p q r : Position} {previous last final : Option CodePoint} {front t : Text}

theorem append (h : Passes p previous front q last) (h' : Passes q last t r final) :
    Passes p previous (front ++ t) r final := by
  induction h with
  | done => exact h'
  | read uncut _ ih => exact .read uncut (ih h')

theorem piecesFrom_append (h : Passes p previous t q last) (piece rest : Text) :
    piecesFrom p previous piece (t ++ rest) = piecesFrom q last (t.reverse ++ piece) rest := by
  induction h generalizing piece with
  | done => rfl
  | @read _ _ _ _ c t uncut _ ih =>
    rw [List.cons_append, piecesFrom]
    simp only [if_neg uncut]
    rw [ih, List.reverse_cons, List.append_assoc, List.singleton_append]

/-- Characters that leave the position as it is are passed over. -/
theorem of_stays (h : ∀ c ∈ t, ∀ before, p.after before c = p)
    (huncut : ∀ c ∈ t, ¬ (c = '.' ∧ p.isOutside)) :
    Passes p previous t p (t.getLast?.or previous) := by
  induction t generalizing previous with
  | nil => exact .done
  | cons c t ih =>
    have hstay : p.after previous c = p := h c (by simp) previous
    have hrest : Passes p (some c) t p (t.getLast?.or (some c)) :=
      ih (fun d hd => h d (by simp [hd])) fun d hd => huncut d (by simp [hd])
    rw [previous_cons]
    exact .read (hstay.symm ▸ huncut c (by simp)) (hstay.symm ▸ hrest)

end Passes

namespace Position

/-- No quote mark and no parenthesis. -/
def isNeutral (c : CodePoint) : Bool := !isMark c && c != '(' && c != ')'

theorem after_neutral {c : CodePoint} (h : isNeutral c = true) (p : Position)
    (previous : Option CodePoint) :
    p.after previous c = p := by
  simp only [isNeutral, Bool.and_eq_true, Bool.not_eq_true', bne_iff_ne] at h
  simp [after, quoteAfter, h]

theorem after_inside {c mark : CodePoint} (h : c ≠ mark) (depth : Int)
    (previous : Option CodePoint) :
    (⟨some mark, depth⟩ : Position).after previous c = ⟨some mark, depth⟩ := by
  have hquote : (⟨some mark, depth⟩ : Position).quoteAfter previous c = some mark := by
    simp [quoteAfter, h]
  simp [after, hquote]

theorem after_opening_mark {mark : CodePoint} (h : isMark mark = true) (depth : Int)
    {previous : Option CodePoint} (hprevious : previous ≠ some (.char '\\')) :
    (⟨none, depth⟩ : Position).after previous mark = ⟨some mark, depth⟩ := by
  simp [after, quoteAfter, h, hprevious]

theorem after_closing_mark {mark : CodePoint} (h : isMark mark = true) (depth : Int)
    {previous : Option CodePoint} (hprevious : previous ≠ some (.char '\\')) :
    (⟨some mark, depth⟩ : Position).after previous mark = ⟨none, depth⟩ := by
  have hparens : mark ≠ '(' ∧ mark ≠ ')' := ⟨Text.ne_of_test h rfl, Text.ne_of_test h rfl⟩
  simp [after, quoteAfter, h, hprevious, hparens]

theorem after_opening_parenthesis (depth : Int) (previous : Option CodePoint) :
    (⟨none, depth⟩ : Position).after previous '(' = ⟨none, depth + 1⟩ := by
  simp [after, quoteAfter, isMark]

theorem after_closing_parenthesis (depth : Int) (previous : Option CodePoint) :
    (⟨none, depth⟩ : Position).after previous ')' = ⟨none, depth - 1⟩ := by
  simp [after, quoteAfter, isMark]

end Position

/-- Text outside quotes that closes its own quotes and parentheses and is not cut. A
backslash before it would spoil its first quote mark, one at its end that of the next. -/
def Contained (depth : Int) (t : Text) : Prop :=
  ∀ previous, previous ≠ some (.char '\\') →
    ∃ last, last ≠ some (.char '\\') ∧ Passes ⟨none, depth⟩ previous t ⟨none, depth⟩ last

namespace Contained

variable {depth : Int} {front t : Text}

theorem nil : Contained depth [] := fun previous hprevious => ⟨previous, hprevious, .done⟩

theorem append (h : Contained depth front) (h' : Contained depth t) :
    Contained depth (front ++ t) := by
  intro previous hprevious
  obtain ⟨middle, hmiddle, hfront⟩ := h previous hprevious
  obtain ⟨last, hlast, hback⟩ := h' middle hmiddle
  exact ⟨last, hlast, hfront.append hback⟩

/-- Text without any of the characters that the scanner minds. -/
theorem of_neutral (h : ∀ c ∈ t, Position.isNeutral c = true) (hdot : .char '.' ∉ t)
    (hslash : .char '\\' ∉ t) : Contained depth t := by
  intro previous hprevious
  refine ⟨t.getLast?.or previous, ?_, .of_stays ?_ ?_⟩
  · cases hlast : t.getLast? with
    | none => simpa using hprevious
    | some c =>
      have hmem := List.mem_of_getLast? hlast
      rintro heq
      cases heq
      exact hslash hmem
  · exact fun c hc before => Position.after_neutral (h c hc) _ before
  · rintro c hc ⟨rfl, -⟩
    exact hdot hc

/-- Between quote marks everything may stand but the mark itself, and a backslash at the end. -/
theorem quoted {mark : CodePoint} (hmark : Position.isMark mark = true) (h : mark ∉ t)
    (hend : t.getLast? ≠ some (.char '\\')) : Contained depth (mark :: (t ++ [mark])) := by
  intro previous hprevious
  have hdot : mark ≠ '.' := Text.ne_of_test hmark rfl
  have hslash : mark ≠ '\\' := Text.ne_of_test hmark rfl
  have hne : ∀ c ∈ t, c ≠ mark := by
    rintro c hc rfl
    exact h hc
  have hopening := Position.after_opening_mark hmark depth hprevious
  have hinside : Passes ⟨some mark, depth⟩ (some mark) t ⟨some mark, depth⟩
      (t.getLast?.or (some mark)) :=
    .of_stays (fun c hc before => Position.after_inside (hne c hc) depth before)
      (by simp [Position.isOutside])
  have hbefore : t.getLast?.or (some mark) ≠ some (.char '\\') := by
    cases hlast : t.getLast? with
    | none => simpa using hslash
    | some c => simpa [hlast] using hend
  have hclosing := Position.after_closing_mark hmark depth hbefore
  have hback : Passes ⟨some mark, depth⟩ (t.getLast?.or (some mark)) [mark] ⟨none, depth⟩
      (some mark) := by
    refine .read (by simp [hdot]) ?_
    rw [hclosing]
    exact .done
  refine ⟨some mark, by simpa using hslash, .read (by simp [hdot]) ?_⟩
  rw [hopening]
  exact hinside.append hback

theorem parenthesized (h : Contained (depth + 1) t) :
    Contained depth ('(' :: (t ++ [.char ')'])) := by
  intro previous _
  have hopening := Position.after_opening_parenthesis depth previous
  obtain ⟨last, -, hinside⟩ := h (some '(') (by decide)
  have hclosing : (⟨none, depth + 1⟩ : Position).after last ')' = ⟨none, depth⟩ := by
    rw [Position.after_closing_parenthesis, Int.add_sub_cancel]
  have hback : Passes ⟨none, depth + 1⟩ last [')'] ⟨none, depth⟩ (some ')') := by
    refine .read (by simp) ?_
    rw [hclosing]
    exact .done
  refine ⟨some ')', by decide, .read (by simp) ?_⟩
  rw [hopening]
  exact hinside.append hback

theorem join {sep : Text} {pieces : List Text} (hsep : Contained depth sep)
    (h : ∀ t ∈ pieces, Contained depth t) : Contained depth (Text.join sep pieces) := by
  induction pieces with
  | nil => exact nil
  | cons t rest ih =>
    have ht : Contained depth t := h t (by simp)
    have hrest : Contained depth (Text.join sep rest) :=
      ih fun u hu => h u (List.mem_cons_of_mem t hu)
    cases rest with
    | nil => exact ht
    | cons u rest =>
      rw [Text.join]
      · exact (ht.append hsep).append hrest
      · simp

end Contained

/-- Only a backslash before a text changes how it is read. -/
theorem piecesFrom_previous (p : Position) {before before' : Option CodePoint}
    (h : before ≠ some (.char '\\')) (h' : before' ≠ some (.char '\\')) (piece t : Text) :
    piecesFrom p before piece t = piecesFrom p before' piece t := by
  cases t with
  | nil => rfl
  | cons c rest =>
    have hafter : p.after before c = p.after before' c := by
      simp [Position.after, Position.quoteAfter, h, h']
    rw [piecesFrom, piecesFrom, hafter]

/-! ## Where a scan ends -/

/-- The pieces that the dots of a text end. -/
def cutsFrom (p : Position) (previous : Option CodePoint) (piece : Text) : Text → List Text
  | [] => []
  | c :: rest =>
    let q := p.after previous c
    if c = '.' ∧ q.isOutside then piece.reverse :: cutsFrom q (some c) [] rest
    else cutsFrom q (some c) (c :: piece) rest

/-- The position at the end of a text, and the piece so far there, last character first. -/
def finish (p : Position) (previous : Option CodePoint) (piece : Text) : Text → Position × Text
  | [] => (p, piece)
  | c :: rest =>
    let q := p.after previous c
    if c = '.' ∧ q.isOutside then finish q (some c) [] rest
    else finish q (some c) (c :: piece) rest

/-- The scan of a text goes on in the text after it from where it ends. -/
theorem piecesFrom_append (p : Position) (previous : Option CodePoint) (piece front rest : Text) :
    piecesFrom p previous piece (front ++ rest) =
      cutsFrom p previous piece front ++
        piecesFrom (finish p previous piece front).1 (front.getLast?.or previous)
          (finish p previous piece front).2 rest := by
  induction front generalizing p previous piece with
  | nil => rfl
  | cons c front ih =>
    rw [List.cons_append, piecesFrom, cutsFrom, finish, previous_cons]
    by_cases hcut : c = '.' ∧ (p.after previous c).isOutside = true
    · simp only [if_pos hcut]
      rw [ih, List.cons_append]
    · simp only [if_neg hcut]
      exact ih _ _ _

theorem piecesFrom_eq (p : Position) (previous : Option CodePoint) (piece t : Text) :
    piecesFrom p previous piece t =
      cutsFrom p previous piece t ++
        if (finish p previous piece t).2.isEmpty then []
        else [(finish p previous piece t).2.reverse] := by
  have h := piecesFrom_append p previous piece t []
  rwa [List.append_nil] at h

/-- The scan of the text ends outside quotes and parentheses, and in a piece that is not empty. -/
structure Finished (t : Text) : Prop where
  outside : (finish .start none [] t).1.isOutside = true
  inPiece : (finish .start none [] t).2 ≠ []

theorem finished_iff {t : Text} :
    Finished t ↔
      (finish .start none [] t).1.isOutside = true ∧ (finish .start none [] t).2 ≠ [] :=
  ⟨fun h => ⟨h.outside, h.inPiece⟩, fun h => ⟨h.1, h.2⟩⟩

instance (t : Text) : Decidable (Finished t) := decidable_of_iff _ finished_iff.symm

theorem Position.eq_start {p : Position} (h : p.isOutside = true) : p = start := by
  obtain ⟨quote, depth⟩ := p
  simpa [isOutside, start] using h

/-- A dot outside quotes and parentheses ends the piece, and what follows is read as if
nothing stood before it. -/
theorem piecesFrom_dot {p : Position} (h : p.isOutside = true) (previous : Option CodePoint)
    (piece rest : Text) :
    piecesFrom p previous piece ('.' :: rest) =
      piece.reverse :: piecesFrom .start none [] rest := by
  obtain rfl := Position.eq_start h
  have hdot : Position.start.after previous '.' = .start :=
    Position.after_neutral (by decide) _ previous
  rw [piecesFrom, hdot, if_pos ⟨rfl, rfl⟩,
    piecesFrom_previous .start (by decide) (by decide : none ≠ some (CodePoint.char '\\'))]

namespace Finished

variable {front t : Text}

theorem split_eq (h : Finished t) :
    split t = (cutsFrom .start none [] t).map Text.trim ++
      [Text.trim (finish .start none [] t).2.reverse] := by
  have hpiece : (finish .start none [] t).2.isEmpty = false := by
    simpa using h.inPiece
  rw [split, piecesFrom_eq, hpiece, if_neg (by decide), List.map_append, List.map_singleton]

theorem split_ne_nil (h : Finished t) : split t ≠ [] := by
  rw [h.split_eq]
  simp

/-- The pieces of a finished text and of the text after the next dot, one after the other. -/
theorem split_append_dot (h : Finished front) (rest : Text) :
    split (front ++ .char '.' :: rest) = split front ++ split rest := by
  rw [h.split_eq, split, piecesFrom_append, piecesFrom_dot h.outside, List.map_append,
    List.map_cons, List.append_assoc, List.singleton_append]
  rfl

end Finished

/-! ## Texts in one piece -/

/-- A text that the scanner passes over and that ends where it starts, outside quotes and
parentheses. -/
def Whole (t : Text) : Prop := ∃ last, Passes .start none t .start last

theorem Contained.whole {t : Text} (h : Contained 0 t) : Whole t := by
  obtain ⟨last, -, hpass⟩ := h none (by simp)
  exact ⟨last, hpass⟩

theorem Passes.finish_eq {p q : Position} {previous last : Option CodePoint} {t : Text}
    (h : Passes p previous t q last) (piece : Text) :
    finish p previous piece t = (q, t.reverse ++ piece) := by
  induction h generalizing piece with
  | done => rfl
  | @read _ _ _ _ c t uncut _ ih =>
    rw [finish]
    simp only [if_neg uncut]
    rw [ih, List.reverse_cons, List.append_assoc, List.singleton_append]

/-- The scanner passes over a text in which it cuts nothing. -/
theorem passes_of_cutsFrom {p : Position} {previous : Option CodePoint} {piece t : Text}
    (h : cutsFrom p previous piece t = []) :
    Passes p previous t (finish p previous piece t).1 (t.getLast?.or previous) := by
  induction t generalizing p previous piece with
  | nil => exact .done
  | cons c t ih =>
    rw [cutsFrom] at h
    by_cases hcut : c = '.' ∧ (p.after previous c).isOutside = true
    · simp only [if_pos hcut] at h
      cases h
    · simp only [if_neg hcut] at h
      rw [previous_cons, finish]
      simp only [if_neg hcut]
      exact .read hcut (ih h)

theorem Passes.cutsFrom_eq {p q : Position} {previous last : Option CodePoint} {t : Text}
    (h : Passes p previous t q last) (piece : Text) : cutsFrom p previous piece t = [] := by
  induction h generalizing piece with
  | done => rfl
  | read uncut _ ih =>
    rw [cutsFrom]
    simp only [if_neg uncut]
    exact ih _

theorem whole_iff {t : Text} :
    Whole t ↔ cutsFrom .start none [] t = [] ∧ (finish .start none [] t).1 = .start := by
  constructor
  · rintro ⟨last, hpass⟩
    exact ⟨hpass.cutsFrom_eq [], by rw [hpass.finish_eq]⟩
  · rintro ⟨hcuts, hend⟩
    exact ⟨_, hend ▸ passes_of_cutsFrom hcuts⟩

instance (t : Text) : Decidable (Whole t) := decidable_of_iff _ whole_iff.symm

theorem Whole.finished {t : Text} (h : Whole t) (hne : t ≠ []) : Finished t := by
  obtain ⟨last, hpass⟩ := h
  have hend : finish .start none [] t = (.start, t.reverse ++ []) := hpass.finish_eq []
  refine ⟨?_, ?_⟩
  · rw [hend]
    rfl
  · simpa [hend] using hne

theorem split_whole {t : Text} (h : Whole t) (hne : t ≠ []) : split t = [Text.trim t] := by
  obtain ⟨last, hpass⟩ := h
  have hall := hpass.piecesFrom_append [] []
  rw [List.append_nil, List.append_nil] at hall
  rw [split, hall, piecesFrom]
  simp [hne]

/-- Whole texts with dots between them are the pieces of the chain they make. -/
theorem split_join {pieces : List Text} (h : ∀ t ∈ pieces, Whole t ∧ t ≠ []) :
    split (Text.join ['.'] pieces) = pieces.map Text.trim := by
  induction pieces with
  | nil => rfl
  | cons t rest ih =>
    obtain ⟨hwhole, hne⟩ := h t (by simp)
    cases rest with
    | nil => exact split_whole hwhole hne
    | cons u rest =>
      rw [Text.join, List.append_assoc, List.singleton_append,
        (hwhole.finished hne).split_append_dot, split_whole hwhole hne,
        ih fun s hs => h s (List.mem_cons_of_mem t hs)]
      · rfl
      · simp

end Chain

end Stencil
