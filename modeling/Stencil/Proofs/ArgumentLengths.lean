import Stencil.Proofs.TagLevels
import Stencil.Proofs.TokenTexts

/-!
# Lengths of argument texts

An argument text is shorter than the text that it stands in, by the braces of its tag, its own
parentheses, a name, and a mark or a dot. So argument lists stand inside each other no deeper than
a sixth of the length of a template, whatever the limit is, and a limit that reaches so far stops
nothing. What functions give and variables hold is put into argument texts but never looked through
for tags, so the bound is one of the template alone.
-/

namespace Stencil

open FunctionTable (isName_iff)

/-! ## One level -/

theorem Token.direct_of_read? {t : Text} {token : Token} (h : read? t = some token) :
    token.direct = (splitMark t).1 := by
  unfold read? at h
  split at h
  next direct body hbody =>
  simp only at h
  split at h
  · cases h
  · obtain ⟨args, -, rfl⟩ := Option.map_eq_some_iff.1 h
    rw [hbody]

/-- The mark of a direct call, a name and two parentheses are no part of the arguments. -/
theorem Call.length_argumentText?_le {first : Bool} {source args : Text}
    (h : Call.argumentText? first source = some args) :
    args.length + 3 + (if source.head? = some Token.directMark then 1 else 0) ≤ source.length := by
  obtain ⟨token, htoken, hargs⟩ := Option.bind_eq_some_iff.1 h
  have hargs : token.args = some args := by
    split at hargs
    · cases hargs
    · exact hargs
  have hname : 0 < token.name.length :=
    List.length_pos_iff.2 (isName_iff.1 (Token.isName_of_read? htoken)).1
  have hmark : (if source.head? = some Token.directMark then 1 else 0) ≤
      (if token.direct then [Token.directMark] else []).length := by
    rw [Token.direct_of_read? htoken]
    cases source with
    | nil => simp
    | cons c rest => by_cases hc : c = Token.directMark <;> simp [Token.splitMark, hc]
  have hsource : token.source.length ≤ source.length := by
    rcases Token.source_of_read? htoken with heq | heq <;> simp [heq]
  have hparts : token.source.length =
      (if token.direct then [Token.directMark] else []).length + token.name.length +
        (args.length + 2) := by
    rw [Token.source_eq, hargs, Token.argsText]
    simp only [List.length_append, List.length_cons, List.length_nil]
    omega
  omega

/-- A piece of a chain after the first has a dot in front. -/
theorem Chain.length_tail_piecesFrom {p : Position} {previous : Option CodePoint} {piece t s : Text}
    (h : s ∈ (piecesFrom p previous piece t).tail) : s.length + 1 ≤ piece.length + t.length := by
  induction t generalizing p previous piece with
  | nil =>
    unfold piecesFrom at h
    split at h <;> simp at h
  | cons c rest ih =>
    unfold piecesFrom at h
    simp only at h
    split at h
    · have hlater := length_piecesFrom_le h
      simp only [List.length_nil, List.length_cons] at *
      omega
    · have hlater := ih h
      simp only [List.length_cons] at *
      omega

theorem Chain.length_tail_split {t s : Text} (h : s ∈ (split t).tail) : s.length + 1 ≤ t.length := by
  rw [split, ← List.map_tail] at h
  obtain ⟨piece, hpiece, rfl⟩ := List.mem_map.1 h
  have hlength := length_tail_piecesFrom hpiece
  have htrim := Text.length_trim_le piece
  rw [List.length_nil, Nat.zero_add] at hlength
  omega

/-- An argument text stands behind the mark of a direct call or behind a dot. -/
theorem Chain.length_argumentTexts_le {t args : Text} (h : args ∈ argumentTexts t) :
    args.length + 4 ≤ t.length := by
  unfold argumentTexts at h
  cases hsplit : split t with
  | nil => simp [hsplit] at h
  | cons head rest =>
    rw [hsplit] at h
    rcases List.mem_append.1 h with hhead | hrest
    · split at hhead
      · next hmark =>
        have hlength := Call.length_argumentText?_le (Option.mem_toList.1 hhead)
        have hpiece := length_split_le (t := t) (s := head) (by simp [hsplit])
        rw [if_pos hmark] at hlength
        omega
      · cases hhead
    · obtain ⟨source, hsource, hargs⟩ := List.mem_filterMap.1 hrest
      have hlength := Call.length_argumentText?_le hargs
      have hpiece := length_tail_split (t := t) (s := source) (by simpa [hsplit] using hsource)
      omega

namespace Template

/-- The argument texts that stand in the tags of a text. Escaped tags are not evaluated, so theirs
do not count. -/
def argumentTexts (t : Text) : List Text :=
  (segments t).flatMap fun
    | .plain _ => []
    | .tag tag => if tag.escaped then [] else Chain.argumentTexts tag.inner

theorem mem_argumentTexts_iff {t args : Text} :
    args ∈ argumentTexts t ↔
      ∃ tag, .tag tag ∈ segments t ∧ tag.escaped = false ∧ args ∈ Chain.argumentTexts tag.inner := by
  rw [argumentTexts, List.mem_flatMap]
  constructor
  · rintro ⟨segment, hsegment, hargs⟩
    cases segment with
    | plain c => cases hargs
    | tag tag =>
      cases hescaped : tag.escaped with
      | true => simp [hescaped] at hargs
      | false => exact ⟨tag, hsegment, hescaped, by simpa [hescaped] using hargs⟩
  · rintro ⟨tag, htag, hescaped, hargs⟩
    exact ⟨.tag tag, htag, by simpa [hescaped] using hargs⟩

/-- Six characters around an argument text are no part of it. -/
theorem length_argumentTexts_le {t args : Text} (h : args ∈ argumentTexts t) :
    args.length + 6 ≤ t.length := by
  obtain ⟨tag, htag, -, hargs⟩ := mem_argumentTexts_iff.1 h
  have hbody := Segment.length_body_le (segments_eq t ▸ htag)
  have hinner := tag.length_inner_le
  have hchain := Chain.length_argumentTexts_le hargs
  omega

/-! ## All levels -/

/-- A text stands in another one so many argument lists deep. -/
inductive Nested : Nat → Text → Text → Prop
  | here (t : Text) : Nested 0 t t
  | inside {level : Nat} {inner args t : Text} (hargs : args ∈ argumentTexts t)
      (h : Nested level inner args) : Nested (level + 1) inner t

theorem Nested.length_le {level : Nat} {inner t : Text} (h : Nested level inner t) :
    inner.length + 6 * level ≤ t.length := by
  induction h with
  | here t => omega
  | inside hargs _ ih =>
    have hstep := length_argumentTexts_le hargs
    omega

/-- Six characters go with each argument list, so no more of them stand inside each other than the
length allows. -/
theorem nesting_le_length_div (t : Text) : nesting t ≤ t.length / 6 := by
  suffices ∀ n t, t.length ≤ n → nesting t ≤ t.length / 6 from this _ t (Nat.le_refl _)
  intro n
  induction n with
  | zero =>
    intro t ht
    refine nesting_le_iff.2 fun tag htag hescaped args hargs => ?_
    have hstep := length_argumentTexts_le (mem_argumentTexts_iff.2 ⟨tag, htag, hescaped, hargs⟩)
    omega
  | succ n ih =>
    intro t ht
    refine nesting_le_iff.2 fun tag htag hescaped args hargs => ?_
    have hstep := length_argumentTexts_le (mem_argumentTexts_iff.2 ⟨tag, htag, hescaped, hargs⟩)
    have hinner := ih args (by omega)
    omega

/-- The tree of a text down to a level, with other readings of the argument texts below it. -/
def ofTextDown (below : Text → Template) : Nat → Text → Template
  | 0, t => (segments t).map (Piece.ofSegment below)
  | level + 1, t => (segments t).map (Piece.ofSegment (ofTextDown below level))

end Template

/-! ## Readings of argument texts -/

theorem Call.ofSource_congr_argumentText? {f g : Text → Template} {first : Bool} {source : Text}
    (h : ∀ args, Call.argumentText? first source = some args → f args = g args) :
    Call.ofSource f first source = Call.ofSource g first source := by
  unfold Call.ofSource
  unfold Call.argumentText? at h
  cases htoken : Token.read? source with
  | none => rfl
  | some token =>
    by_cases hmisplaced : (token.direct && !first) = true
    · simp only [if_pos hmisplaced]
    · cases hargs : token.args with
      | none => simp only [if_neg hmisplaced, hargs]
      | some args =>
        have hread : f args = g args :=
          h args (by rw [htoken, Option.bind_some, if_neg hmisplaced, hargs])
        simp only [if_neg hmisplaced, hargs, hread]

theorem Chain.ofText_congr_argumentTexts {f g : Text → Template} {t : Text}
    (h : ∀ args ∈ argumentTexts t, f args = g args) : ofText f t = ofText g t := by
  unfold argumentTexts at h
  unfold ofText
  cases hsplit : split t with
  | nil => rfl
  | cons head rest =>
    simp only [hsplit, List.forall_mem_append] at h
    have hhead : Head.ofSource f head = Head.ofSource g head := by
      unfold Head.ofSource
      split
      · next hmark =>
        rw [Call.ofSource_congr_argumentText? fun args hargs => h.1 args (by simp [hmark, hargs])]
      · rfl
    have hrest : rest.map (Call.ofSource f false) = rest.map (Call.ofSource g false) :=
      List.map_congr_left fun source hsource => Call.ofSource_congr_argumentText? fun args hargs =>
        h.2 args (List.mem_filterMap.2 ⟨source, hsource, hargs⟩)
    simp only [hhead, hrest]

namespace Template

/-- The tree of a text depends on how its argument texts are read, and on no other readings. -/
theorem ofSegments_congr {f g : Text → Template} {t : Text}
    (h : ∀ args ∈ argumentTexts t, f args = g args) :
    (segments t).map (Piece.ofSegment f) = (segments t).map (Piece.ofSegment g) := by
  refine List.map_congr_left fun segment hsegment => ?_
  cases segment with
  | plain c => rfl
  | tag tag =>
    simp only [Piece.ofSegment]
    cases hescaped : tag.escaped with
    | true => rfl
    | false =>
      have hchain := Chain.ofText_congr_argumentTexts fun args hargs =>
        h args (mem_argumentTexts_iff.2 ⟨tag, hsegment, hescaped, hargs⟩)
      rw [hchain]

/-- No argument list stands below the level that the length of a text allows, so it does not matter
how those below are read. -/
theorem ofTextDown_eq {below : Text → Template} {level : Nat} {t : Text}
    (h : t.length / 6 ≤ level) : ofTextDown below level t = ofText t := by
  rw [ofText_eq]
  induction level generalizing t with
  | zero =>
    refine ofSegments_congr fun args hargs => ?_
    have hstep := length_argumentTexts_le hargs
    omega
  | succ level ih =>
    refine ofSegments_congr fun args hargs => ?_
    have hstep := length_argumentTexts_le hargs
    rw [ih (by omega), ofText_eq]

end Template

namespace Engine

/-- Rendering goes down no more levels than a sixth of the length of the template, under every
limit: an argument text is shorter by six characters than the text that it stands in, and what is
done with texts below that level makes no difference. A limit that reaches so far stops nothing and
is no different from any greater one. -/
theorem render_bounded_by_length (e : Engine) (t : Text) (bindings : List (Text × Value))
    (lenient : Option Bool) :
    (∀ level u args, Template.Nested level u t → args ∈ Template.argumentTexts u →
      args.length + 6 ≤ u.length ∧ level + 1 ≤ t.length / 6) ∧
    (∀ below, e.render t bindings lenient = (do
      (e.scope bindings lenient).guardDepth 0
      renderPieces (e.scope bindings lenient) 0 (Template.ofTextDown below (t.length / 6) t))) ∧
    ((t.length / 6 : Nat) ≤ e.maxDepth →
      (e.scope bindings lenient).Unguarded (e.render t bindings lenient) ∧
      ∀ limit, e.maxDepth ≤ limit →
        (e.withLimit limit).render t bindings lenient = e.render t bindings lenient) := by
  refine ⟨fun level u args hu hargs => ?_, fun below => ?_, fun hlimit => ?_⟩
  · have hstep := Template.length_argumentTexts_le hargs
    have houter := hu.length_le
    omega
  · rw [render, Scope.render_eq, Template.ofTextDown_eq (Nat.le_refl _)]
  · have hnesting := Template.nesting_le_length_div t
    have hallows : (e.scope bindings lenient).Allows 0 (Template.nesting t) := by
      change ((0 + Template.nesting t : Nat) : Int) ≤ e.maxDepth
      omega
    refine ⟨Scope.unguarded_render hallows, fun limit hle => ?_⟩
    have hdeeper : ((e.withLimit limit).scope bindings lenient).Allows 0 (Template.nesting t) := by
      change ((0 + Template.nesting t : Nat) : Int) ≤ limit
      omega
    have halike : Scope.Alike (e.scope bindings lenient)
        ((e.withLimit limit).scope bindings lenient) := ⟨rfl, rfl, rfl⟩
    exact (Scope.freely_render halike hallows hdeeper).same

/-- Two argument lists inside each other, with nothing in this text but what they need. -/
def tightTemplate : Text := "\x7b.f(\x7b.f()\x7d)\x7d".text

example : Template.nesting tightTemplate = tightTemplate.length / 6 := by decide +kernel

/-- A sixth of the length is the least limit that a tight template is rendered under: one less
stops its inner call. -/
theorem render_bounded_tight :
    ((tightTemplate.length / 6 : Nat) ≤ (gathering.withLimit 2).maxDepth ∧
      (gathering.withLimit 2).maxDepth ≤ 1000) ∧
    ((gathering.withLimit 2).scope [] none).Unguarded
      ((gathering.withLimit 2).render tightTemplate [] none) ∧
    ((gathering.withLimit 2).withLimit 1000).render tightTemplate [] none =
      (gathering.withLimit 2).render tightTemplate [] none ∧
    ((gathering.withLimit 1).render tightTemplate [] (some true)).failures =
      [("\x7b.f()\x7d".text, .nestingTooDeep 1)] := by
  have hlimit : (tightTemplate.length / 6 : Nat) ≤ (gathering.withLimit 2).maxDepth := by
    decide +kernel
  have hgreater : (gathering.withLimit 2).maxDepth ≤ 1000 := by decide
  obtain ⟨-, -, hbounded⟩ := render_bounded_by_length (gathering.withLimit 2) tightTemplate [] none
  obtain ⟨hunguarded, hsame⟩ := hbounded hlimit
  exact ⟨⟨hlimit, hgreater⟩, hunguarded, hsame 1000 hgreater, by decide +kernel⟩

end Engine

end Stencil
