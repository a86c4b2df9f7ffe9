import Stencil.Text.Blank

/-!
# Tags

A tag is a span from an opening brace to the brace that closes it; an exclamation
mark directly before it escapes it. A text is a sequence of segments, each a tag or a
single character outside the tags, and the sources of the segments make up the text.
-/

namespace Stencil

structure Tag where
  escaped : Bool
  body : Text
  deriving DecidableEq, Repr

namespace Tag

def source (t : Tag) : Text :=
  (if t.escaped then [.char '!'] else []) ++ .char '{' :: (t.body ++ [.char '}'])

def inner (t : Tag) : Text := Text.trim t.body

/-- The text up to the brace that closes `depth` inner braces and then this one. -/
def body? (depth : Nat) : Text → Option Text
  | [] => none
  | c :: rest =>
    if c = '{' then (body? (depth + 1) rest).map (c :: ·)
    else if c = '}' then
      match depth with
      | 0 => some []
      | d + 1 => (body? d rest).map (c :: ·)
    else (body? depth rest).map (c :: ·)

/-- The tag at the head of a text. -/
def at? : Text → Option Tag
  | '!' :: '{' :: rest => (body? 0 rest).map (⟨true, ·⟩)
  | '{' :: rest => (body? 0 rest).map (⟨false, ·⟩)
  | _ => none

/-- For each character whether it is an opening brace that is closed, and how many closing
braces the text has that close none of its own. -/
def marks : Text → List Bool × Nat
  | [] => ([], 0)
  | c :: rest =>
    let after := marks rest
    if c = '{' then (decide (0 < after.2) :: after.1, after.2 - 1)
    else if c = '}' then (false :: after.1, after.2 + 1)
    else (false :: after.1, after.2)

/-- The tag at the head of a text whose braces are marked. -/
def atMarked? : Text → List Bool → Option Tag
  | '!' :: '{' :: rest, _ :: true :: _ => (body? 0 rest).map (⟨true, ·⟩)
  | '{' :: rest, true :: _ => (body? 0 rest).map (⟨false, ·⟩)
  | _, _ => none

end Tag

inductive Segment where
  | plain (c : CodePoint)
  | tag (t : Tag)
  deriving DecidableEq, Repr

namespace Segment

def source : Segment → Text
  | plain c => [c]
  | tag t => t.source

/-- The segments of a text whose first `skip` characters belong to a tag before it. -/
def scan (skip : Nat) : Text → List Segment
  | [] => []
  | c :: rest =>
    match skip with
    | n + 1 => scan n rest
    | 0 =>
      match Tag.at? (c :: rest) with
      | some t => tag t :: scan (t.source.length - 1) rest
      | none => plain c :: scan 0 rest

/-- The scan of a text whose braces are marked, which never looks for a brace that is not there. -/
def scanMarked (skip : Nat) : Text → List Bool → List Segment
  | [], _ => []
  | c :: rest, marked =>
    match skip with
    | n + 1 => scanMarked n rest marked.tail
    | 0 =>
      match Tag.atMarked? (c :: rest) marked with
      | some t => tag t :: scanMarked (t.source.length - 1) rest marked.tail
      | none => plain c :: scanMarked 0 rest marked.tail

end Segment

def segments (t : Text) : List Segment := Segment.scanMarked 0 t (Tag.marks t).1

/-- A tag and where it stands; `stop` is the position after it. -/
structure TagSpan where
  tag : Tag
  start : Nat
  stop : Nat
  deriving DecidableEq, Repr

def spansFrom (position : Nat) : List Segment → List TagSpan
  | [] => []
  | .plain _ :: rest => spansFrom (position + 1) rest
  | .tag t :: rest =>
    let stop := position + t.source.length
    ⟨t, position, stop⟩ :: spansFrom stop rest

/-- The outermost tags in source order. -/
def findTags (t : Text) : List TagSpan := spansFrom 0 (segments t)

/-- A span is closed exactly if there are more loose closing braces than it has open ones inside. -/
theorem Tag.isSome_body? (depth : Nat) (t : Text) :
    (Tag.body? depth t).isSome = decide (depth < (Tag.marks t).2) := by
  induction t generalizing depth with
  | nil => simp [Tag.body?, Tag.marks]
  | cons c rest ih =>
    unfold Tag.body? Tag.marks
    split
    · simp only [Option.isSome_map, ih, decide_eq_decide]; omega
    · split
      · cases depth with
        | zero => simp
        | succ d => simp only [Option.isSome_map, ih, decide_eq_decide]; omega
      · simp only [Option.isSome_map, ih]

theorem Tag.atMarked?_marks (t : Text) : Tag.atMarked? t (Tag.marks t).1 = Tag.at? t := by
  have unclosed : ∀ rest, ¬ 0 < (Tag.marks rest).2 → Tag.body? 0 rest = none := by
    intro rest h
    rw [← Option.isNone_iff_eq_none, ← Option.not_isSome, Tag.isSome_body?]
    simpa using h
  unfold Tag.at?
  split
  · next rest =>
    by_cases h : 0 < (Tag.marks rest).2
    · simp [Tag.marks, Tag.atMarked?, h]
    · simp [Tag.marks, Tag.atMarked?, h, unclosed rest h]
  · next rest =>
    by_cases h : 0 < (Tag.marks rest).2
    · simp [Tag.marks, Tag.atMarked?, h]
    · simp [Tag.marks, Tag.atMarked?, h, unclosed rest h]
  · next escaped opening =>
    unfold Tag.atMarked?
    split
    · next rest _ _ _ => exact absurd rfl (escaped rest)
    · next rest _ _ => exact absurd rfl (opening rest)
    · rfl

theorem Tag.marks_tail (c : CodePoint) (t : Text) :
    (Tag.marks (c :: t)).1.tail = (Tag.marks t).1 := by
  rw [Tag.marks]
  split
  · rfl
  · split <;> rfl

/-- The marks change nothing in the segments. -/
theorem Segment.scanMarked_marks (skip : Nat) (t : Text) :
    Segment.scanMarked skip t (Tag.marks t).1 = Segment.scan skip t := by
  induction t generalizing skip with
  | nil => rfl
  | cons c rest ih =>
    cases skip with
    | zero => simp only [Segment.scanMarked, Segment.scan, Tag.atMarked?_marks, Tag.marks_tail, ih]
    | succ n => simp only [Segment.scanMarked, Segment.scan, Tag.marks_tail, ih]

theorem segments_eq (t : Text) : segments t = Segment.scan 0 t := Segment.scanMarked_marks 0 t

theorem Tag.length_body?_lt {depth : Nat} {t body : Text} (h : Tag.body? depth t = some body) :
    body.length < t.length := by
  induction t generalizing depth body with
  | nil => simp [Tag.body?] at h
  | cons c rest ih =>
    have step : ∀ d, (Tag.body? d rest).map (c :: ·) = some body →
        body.length < (c :: rest).length := by
      intro d hd
      obtain ⟨b, hb, rfl⟩ := Option.map_eq_some_iff.1 hd
      simpa using ih hb
    unfold Tag.body? at h
    split at h
    · exact step _ h
    · split at h
      · cases depth with
        | zero => simp at h; simp [h]
        | succ d => exact step d h
      · exact step _ h

theorem Tag.length_inner_le (t : Tag) : t.inner.length ≤ t.body.length :=
  Text.length_trim_le t.body

theorem Tag.length_at?_le {t : Text} {tag : Tag} (h : Tag.at? t = some tag) :
    tag.body.length + 2 ≤ t.length := by
  unfold Tag.at? at h
  split at h
  · obtain ⟨b, hb, rfl⟩ := Option.map_eq_some_iff.1 h
    have := Tag.length_body?_lt hb
    simp only [List.length_cons]; omega
  · obtain ⟨b, hb, rfl⟩ := Option.map_eq_some_iff.1 h
    have := Tag.length_body?_lt hb
    simp only [List.length_cons]; omega
  · simp at h

theorem Segment.length_body_le {skip : Nat} {t : Text} {tag : Tag}
    (h : .tag tag ∈ Segment.scan skip t) : tag.body.length + 2 ≤ t.length := by
  induction t generalizing skip with
  | nil => simp [Segment.scan] at h
  | cons c rest ih =>
    unfold Segment.scan at h
    split at h
    · exact Nat.le_succ_of_le (ih h)
    · split at h
      · next found hfound =>
        rcases List.mem_cons.1 h with heq | hmem
        · cases heq
          exact Tag.length_at?_le hfound
        · exact Nat.le_succ_of_le (ih hmem)
      · rcases List.mem_cons.1 h with heq | hmem
        · cases heq
        · exact Nat.le_succ_of_le (ih hmem)

end Stencil
