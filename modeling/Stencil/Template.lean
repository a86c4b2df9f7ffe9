import Stencil.Chain
import Stencil.Tag
import Stencil.Token

/-!
# Templates

The tree of a template: its characters and tags, the chain in each tag, and in each
call the template of its argument text. The tree depends on the text alone. Reading
it nests at most as deep as the text is long, since argument text is shorter than the
text that it stands in.
-/

namespace Stencil

mutual

inductive Piece where
  | plain (c : CodePoint)
  /-- An escaped tag, which prints its inner text between braces. -/
  | escaped (inner : Text)
  | tag (source : Text) (chain : Chain)

/-- A chain starts with a value and passes it through calls. -/
inductive Chain where
  | empty
  | from (head : Head) (calls : List Call)

inductive Head where
  | variable (name : Text)
  | direct (call : Call)

inductive Call where
  | bare (name : Text)
  | applied (name : Text) (args : List Piece)
  /-- A token that is none, or a direct call where only a piped one may stand. -/
  | malformed (source : Text)

end

abbrev Template := List Piece

/-- A call from its token. Only the first of a chain may be direct. -/
def Call.ofSource (nested : Text → Template) (first : Bool) (source : Text) : Call :=
  match Token.read? source with
  | none => .malformed source
  | some token =>
    if token.direct && !first then .malformed source
    else
      match token.args with
      | none => .bare token.name
      | some args => .applied token.name (nested args)

def Head.ofSource (nested : Text → Template) (source : Text) : Head :=
  if source.head? = some Token.directMark then .direct (Call.ofSource nested true source)
  else .variable source

def Chain.ofText (nested : Text → Template) (t : Text) : Chain :=
  match Chain.split t with
  | [] => .empty
  | head :: rest => .from (Head.ofSource nested head) (rest.map (Call.ofSource nested false))

def Piece.ofSegment (nested : Text → Template) : Segment → Piece
  | .plain c => .plain c
  | .tag t => if t.escaped then .escaped t.inner else .tag t.source (Chain.ofText nested t.inner)

namespace Template

/-- The tree of a text that nests less than `fuel` deep. -/
def ofTextWithin : Nat → Text → Template
  | 0, _ => []
  | fuel + 1, t => (segments t).map (Piece.ofSegment (ofTextWithin fuel))

def ofText (t : Text) : Template := ofTextWithin (t.length + 1) t

end Template

theorem Call.ofSource_congr {f g : Text → Template} {first : Bool} {source : Text}
    (h : ∀ args : Text, args.length < source.length → f args = g args) :
    Call.ofSource f first source = Call.ofSource g first source := by
  unfold Call.ofSource
  cases htoken : Token.read? source with
  | none => rfl
  | some token =>
    cases hargs : token.args with
    | none => simp [hargs]
    | some args =>
      have := Token.length_args_le htoken hargs
      simp [hargs, h args (by omega)]

theorem Chain.ofText_congr {f g : Text → Template} {t : Text}
    (h : ∀ args : Text, args.length < t.length → f args = g args) :
    Chain.ofText f t = Chain.ofText g t := by
  unfold Chain.ofText
  split
  · rfl
  · next head rest hsplit =>
    have hcall : ∀ s ∈ Chain.split t, ∀ first,
        Call.ofSource f first s = Call.ofSource g first s := fun s hs first =>
      Call.ofSource_congr fun args hargs =>
        h args (Nat.lt_of_lt_of_le hargs (Chain.length_split_le hs))
    rw [hsplit] at hcall
    have hhead : Head.ofSource f head = Head.ofSource g head := by
      unfold Head.ofSource
      rw [hcall head (by simp)]
    rw [hhead]
    congr 1
    exact List.map_congr_left fun s hs => hcall s (by simp [hs]) false

theorem Piece.ofSegment_congr {f g : Text → Template} {t : Text} {s : Segment}
    (hs : s ∈ segments t) (h : ∀ args : Text, args.length < t.length → f args = g args) :
    Piece.ofSegment f s = Piece.ofSegment g s := by
  cases s with
  | plain c => rfl
  | tag tag =>
    have hbody := Segment.length_body_le (segments_eq t ▸ hs)
    have hinner := tag.length_inner_le
    simp only [Piece.ofSegment]
    rw [Chain.ofText_congr fun args hargs => h args (by omega)]

/-- Fuel beyond the length of the text changes nothing. -/
theorem Template.ofTextWithin_eq {fuel : Nat} {t : Text} (h : t.length < fuel) :
    Template.ofTextWithin fuel t = Template.ofText t := by
  suffices ∀ n m t, t.length < n → t.length < m →
      Template.ofTextWithin n t = Template.ofTextWithin m t from
    this _ _ _ h (Nat.lt_succ_self _)
  intro n
  induction n with
  | zero => intro m t hn; omega
  | succ n ih =>
    intro m t hn hm
    cases m with
    | zero => omega
    | succ m =>
      exact List.map_congr_left fun s hs =>
        Piece.ofSegment_congr hs fun args hargs => ih m args (by omega) (by omega)

/-- The tree of a text is built from its segments, with the trees of argument texts. -/
theorem Template.ofText_eq (t : Text) :
    Template.ofText t = (segments t).map (Piece.ofSegment Template.ofText) :=
  List.map_congr_left fun _ hs =>
    Piece.ofSegment_congr hs fun _ hargs => Template.ofTextWithin_eq hargs

end Stencil
