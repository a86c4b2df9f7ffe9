import Stencil.Literal.Quotation

/-!
# Formatted text

Quoted text in which braces hold expressions, each with an optional conversion and an
optional format of its own. Doubled braces stand for themselves; formats hold no doubled
braces, and are nested at most once.
-/

namespace Stencil.Literal.Formatted

/-- The text before the first expression, and the rest, which is empty or starts with a
brace. Outside formats, doubled braces belong to the text. Braces around the name of a
character are part of the text, too; `inName` says that such a name is open. -/
def splitLiteral (raw top inName : Bool) : Text → Option (Text × Text)
  | [] => some ([], [])
  | c :: rest =>
    let keep (front : Text) (more : Option (Text × Text)) : Option (Text × Text) :=
      more.map fun (t, after) => (front ++ t, after)
    if inName then keep [c] (splitLiteral raw top (c != '\x7d') rest)
    else if c = '\\' ∧ !raw then
      match rest with
      | [] => some (['\\', '\\'], [])
      | 'N' :: '\x7b' :: after => keep ['\\', 'N', '\x7b'] (splitLiteral raw top true after)
      | d :: after =>
        if d = '\x7b' ∨ d = '\x7d' then keep ['\\', '\\'] (splitLiteral raw top false (d :: after))
        else keep ['\\', d] (splitLiteral raw top false after)
    else if c = '\x7b' ∨ c = '\x7d' then
      match rest with
      | d :: after =>
        if d = c ∧ top then keep [c] (splitLiteral raw top false after)
        else if c = '\x7d' ∧ top then none
        else some ([], c :: rest)
      | [] => if c = '\x7d' ∧ top then none else some ([], [c])
    else keep [c] (splitLiteral raw top false rest)

def isOpening (c : CodePoint) : Bool := c == '(' || c == '[' || c == '\x7b'

def isClosing (c : CodePoint) : Bool := c == ')' || c == ']' || c == '\x7d'

def closingOf (opening : CodePoint) : CodePoint :=
  if opening = '(' then ')' else if opening = '[' then ']' else '\x7d'

/-- What ends an expression outside brackets, or starts a comparison. -/
def isStop (c : CodePoint) : Bool :=
  c == '!' || c == ':' || c == '\x7d' || c == '=' || c == '<' || c == '>'

/-- An expression up to the mark that ends it, and the rest from that mark on. `quote` is
the open quotation, with whether its marks are tripled, and `brackets` are the open ones.
Backslashes and number signs are refused. -/
def splitExpression (quote : Option (CodePoint × Bool)) (brackets : Text) :
    Text → Option (Text × Text)
  | [] => none
  | c :: rest =>
    let keep (front : Text) (more : Option (Text × Text)) : Option (Text × Text) :=
      more.map fun (t, after) => (front ++ t, after)
    if c = '\\' then none
    else
      match quote with
      | some (q, true) =>
        match rest with
        | a :: b :: after =>
          if c = q ∧ a = q ∧ b = q then keep [c, a, b] (splitExpression none brackets after)
          else keep [c] (splitExpression quote brackets (a :: b :: after))
        | rest => keep [c] (splitExpression quote brackets rest)
      | some (q, false) =>
        keep [c] (splitExpression (if c = q then none else quote) brackets rest)
      | none =>
        if Quotation.isMark c then
          match rest with
          | a :: b :: after =>
            if a = c ∧ b = c then
              keep [c, a, b] (splitExpression (some (c, true)) brackets after)
            else keep [c] (splitExpression (some (c, false)) brackets (a :: b :: after))
          | rest => keep [c] (splitExpression (some (c, false)) brackets rest)
        else if isOpening c then keep [c] (splitExpression none (c :: brackets) rest)
        else if c = '#' then none
        else if brackets.isEmpty ∧ isStop c then
          match rest with
          | '=' :: after =>
            if c = ':' ∨ c = '\x7d' then some ([], c :: rest)
            else keep [c, '='] (splitExpression none brackets after)
          | rest =>
            if c = '<' ∨ c = '>' then keep [c] (splitExpression none brackets rest)
            else some ([], c :: rest)
        else if isClosing c then
          match brackets with
          | opening :: outer =>
            if closingOf opening = c then keep [c] (splitExpression none outer rest) else none
          | [] => none
        else keep [c] (splitExpression none brackets rest)

def isExpressionBlank (c : CodePoint) : Bool := c == ' ' || c == '\t' || c == '\n' || c == '\x0C'

/-- An equals sign after an expression shows its text; blanks may follow. -/
def dropEquals : Text → Text
  | '=' :: rest => rest.dropWhile fun c => c == ' ' || (9 ≤ c.toNat && c.toNat ≤ 13)
  | t => t

/-- A conversion is one of three letters. -/
def dropConversion? : Text → Option Text
  | '!' :: c :: rest => if c = 's' ∨ c = 'r' ∨ c = 'a' then some rest else none
  | ['!'] => none
  | t => some t

/-- Reads formatted text to its end, or at a deeper level to the brace that closes it,
and returns the rest; each level and each expression takes one unit of `fuel`. -/
def scan? (accepts : Text → Bool) (raw : Bool) (fuel level : Nat) (t : Text) : Option Text :=
  match fuel with
  | 0 => none
  | fuel + 1 => do
    let (literal, rest) ← splitLiteral raw (level = 0) false t
    if !raw ∧ (Quotation.unescape? literal).isNone then none
    match rest with
    | [] => if level = 0 then some [] else none
    | '\x7b' :: rest =>
      if 2 ≤ level then none
      let (expression, rest) ← splitExpression none [] rest
      if expression.all isExpressionBlank ∨ !accepts expression then none
      let rest ← dropConversion? (dropEquals rest)
      let rest ←
        match rest with
        | ':' :: format => scan? accepts raw fuel (level + 1) format
        | _ => some rest
      match rest with
      | '\x7d' :: rest => scan? accepts raw fuel level rest
      | _ => none
    | _ => some rest

/-- Whether a body is well formed, when `accepts` tells which expressions are. -/
def isWellFormed (accepts : Text → Bool) (raw : Bool) (body : Text) : Bool :=
  (scan? accepts raw (body.length + 1) 0 body).isSome

end Stencil.Literal.Formatted
