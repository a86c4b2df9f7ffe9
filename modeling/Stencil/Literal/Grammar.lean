import Stencil.Literal.Expression
import Stencil.Literal.Lexeme

/-!
# The grammar of expressions

Each rule reads an expression from the front of a list of lexemes and returns the rest.
The rules call each other through a `Recursion`, so that none of them is recursive by
itself; whoever supplies it bounds the depth. A loop within one rule is bounded by the
number of lexemes. From loose to tight, operators are: the conditional, `or`, `and`,
`not`, comparisons, `|`, `^`, `&`, shifts, sums, products, signs, powers.
-/

namespace Stencil.Literal

abbrev Parser (α : Type) := List Lexeme → Option (α × List Lexeme)

/-- The rules that other rules start over from. -/
inductive Rule where
  | expression
  | disjunction
  | inversion
  /-- Operands of comparisons. -/
  | bitwise
  | factor
  | primary
  deriving DecidableEq, Repr

structure Recursion where
  rule : Rule → Parser Expression
  /-- Whether the body of a formatted text is well formed, given whether it is raw. -/
  formatted : Bool → Text → Bool

namespace Grammar

def mark (s : String) : Lexeme := .mark s.text

def word (s : String) : Lexeme := .word s.text

def starts (l : Lexeme) (ls : List Lexeme) : Bool := ls.head? == some l

/-- Drops a lexeme that has to be there. -/
def expect? (l : Lexeme) (ls : List Lexeme) : Option (List Lexeme) :=
  if starts l ls then some (ls.drop 1) else none

def startsClause (ls : List Lexeme) : Bool := starts (word "for") ls || starts (word "async") ls

/-- Items with commas between them, and perhaps after the last, up to and with the
closing lexeme. -/
def itemsUntil (close : Lexeme) (item : Parser α) (fuel : Nat) : Parser (List α) := fun ls =>
  match fuel with
  | 0 => none
  | fuel + 1 =>
    if starts close ls then some ([], ls.drop 1)
    else do
      let (x, ls) ← item ls
      if starts (mark ",") ls then
        let (xs, ls) ← itemsUntil close item fuel (ls.drop 1)
        return (x :: xs, ls)
      else return ([x], ← expect? close ls)

section

variable (g : Recursion)

/-- An expression, or a name that is given one. -/
def named : Parser Expression
  | .name t :: .mark m :: ls =>
    if m = ":=".text then do
      let (_, ls) ← g.rule .expression ls
      return (.operation, ls)
    else g.rule .expression (.name t :: .mark m :: ls)
  | ls => g.rule .expression ls

def isNamed : List Lexeme → Bool
  | .name _ :: .mark m :: _ => m == ":=".text
  | _ => false

/-- An operand that stands for several items, after its asterisk. -/
def starredTail (ls : List Lexeme) : Option (Expression × List Lexeme) := do
  let (e, ls) ← g.rule .bitwise ls
  return (.starred e, ls)

def element (ls : List Lexeme) : Option (Expression × List Lexeme) :=
  if starts (mark "*") ls then starredTail g (ls.drop 1) else named g ls

/-- An element without a name. -/
def plainElement (ls : List Lexeme) : Option (Expression × List Lexeme) :=
  if starts (mark "*") ls then starredTail g (ls.drop 1) else g.rule .expression ls

/-- The targets of a clause, up to and with the word that ends them. -/
def targets (fuel : Nat) (ls : List Lexeme) : Option (List Lexeme) :=
  match fuel with
  | 0 => none
  | fuel + 1 => do
    let (e, ls) ← g.rule .primary (if starts (mark "*") ls then ls.drop 1 else ls)
    if !e.isTarget then none
    if starts (mark ",") ls then
      match expect? (word "in") (ls.drop 1) with
      | some ls => some ls
      | none => targets fuel (ls.drop 1)
    else expect? (word "in") ls

/-- The conditions of a clause. -/
def conditions (fuel : Nat) (ls : List Lexeme) : Option (List Lexeme) :=
  match fuel with
  | 0 => none
  | fuel + 1 =>
    if starts (word "if") ls then do
      let (_, ls) ← g.rule .disjunction (ls.drop 1)
      conditions fuel ls
    else some ls

/-- The clauses that draw the items of a collection from other ones. -/
def clauses (fuel : Nat) (ls : List Lexeme) : Option (List Lexeme) :=
  match fuel with
  | 0 => none
  | fuel + 1 =>
    if startsClause ls then do
      let ls ← expect? (word "for") (if starts (word "async") ls then ls.drop 1 else ls)
      let ls ← targets g ls.length ls
      let (_, ls) ← g.rule .disjunction ls
      let ls ← conditions g (ls.length + 1) ls
      clauses fuel ls
    else some ls

/-- Clauses up to and with the closing lexeme. -/
def clausesUntil (close : Lexeme) : Parser Expression := fun ls => do
  let ls ← clauses g (ls.length + 1) ls
  return (.operation, ← expect? close ls)

/-- What a `yield` hands over, in round brackets. -/
def yielded (ls : List Lexeme) : Option (Expression × List Lexeme) :=
  if starts (word "from") ls then do
    let (_, ls) ← g.rule .expression (ls.drop 1)
    return (.operation, ← expect? (mark ")") ls)
  else do
    let (_, ls) ← itemsUntil (mark ")") (plainElement g) (ls.length + 1) ls
    return (.operation, ls)

/-- The rest of an expression in brackets after its first item: `alone` is its meaning
without a comma, and `together` with one. Clauses follow no item that stands for several. -/
def bracketedTail (close : Lexeme) (alone : Expression → Option Expression)
    (together : List Expression → Expression) (e : Expression) (ls : List Lexeme) :
    Option (Expression × List Lexeme) :=
  if starts (mark ",") ls then do
    let (es, ls) ← itemsUntil close (element g) ls.length (ls.drop 1)
    return (together (e :: es), ls)
  else if startsClause ls then
    if e.isStarred then none else clausesUntil g close ls
  else do return (← alone e, ← expect? close ls)

def bracketed (close : Lexeme) (alone : Expression → Option Expression)
    (together : List Expression → Expression) (ls : List Lexeme) :
    Option (Expression × List Lexeme) := do
  let (e, ls) ← element g ls
  bracketedTail g close alone together e ls

/-- Brackets group one item, unless it stands for several. -/
def grouped (e : Expression) : Option Expression := if e.isStarred then none else some e

def round (ls : List Lexeme) : Option (Expression × List Lexeme) :=
  if starts (mark ")") ls then some (.tuple [], ls.drop 1)
  else if starts (word "yield") ls then yielded g (ls.drop 1)
  else bracketed g (mark ")") grouped .tuple ls

def square (ls : List Lexeme) : Option (Expression × List Lexeme) :=
  if starts (mark "]") ls then some (.list [], ls.drop 1)
  else bracketed g (mark "]") (fun e => some (.list [e])) .list ls

/-- An entry of a dictionary; entries of another dictionary denote nothing. -/
def entry : Parser (Expression × Expression) := fun ls =>
  if starts (mark "**") ls then do
    let (_, ls) ← g.rule .bitwise (ls.drop 1)
    return ((.operation, .operation), ls)
  else do
    let (key, ls) ← g.rule .expression ls
    let ls ← expect? (mark ":") ls
    let (value, ls) ← g.rule .expression ls
    return ((key, value), ls)

/-- The rest of a dictionary after its first entry. Clauses follow no other dictionary. -/
def entriesTail (unpacked : Bool) (e : Expression × Expression) (ls : List Lexeme) :
    Option (Expression × List Lexeme) :=
  if starts (mark ",") ls then do
    let (es, ls) ← itemsUntil (mark "\x7d") (entry g) ls.length (ls.drop 1)
    return (.dict (e :: es), ls)
  else if startsClause ls then
    if unpacked then none else clausesUntil g (mark "\x7d") ls
  else do return (.dict [e], ← expect? (mark "\x7d") ls)

def memberTail (e : Expression) (ls : List Lexeme) : Option (Expression × List Lexeme) :=
  bracketedTail g (mark "\x7d") (fun e => some (.set [e])) .set e ls

/-- A dictionary or a set, which the colon after its first item tells apart. -/
def curly (ls : List Lexeme) : Option (Expression × List Lexeme) :=
  if starts (mark "\x7d") ls then some (.dict [], ls.drop 1)
  else if starts (mark "**") ls then do
    let (e, ls) ← entry g ls
    entriesTail g true e ls
  else if starts (mark "*") ls ∨ isNamed ls then do
    let (e, ls) ← element g ls
    memberTail g e ls
  else do
    let (e, ls) ← g.rule .expression ls
    if starts (mark ":") ls then
      let (value, ls) ← g.rule .expression (ls.drop 1)
      entriesTail g false (e, value) ls
    else memberTail g e ls

/-- Which arguments may still come: all, those with a name or asterisk, or those with a
name or two asterisks. -/
inductive Phase where
  | free
  | labelled
  | unpacked
  deriving DecidableEq, Repr

/-- One argument of a call, and which ones may come after it. -/
def argument (phase : Phase) (ls : List Lexeme) : Option (Phase × List Lexeme) :=
  if starts (mark "*") ls then
    if phase = .unpacked then none
    else do return (phase, (← g.rule .expression (ls.drop 1)).2)
  else if starts (mark "**") ls then do
    return (.unpacked, (← g.rule .expression (ls.drop 1)).2)
  else if (ls matches .name _ :: .mark ['='] :: _) then do
    let (_, ls) ← g.rule .expression (ls.drop 2)
    return (if phase = .free then .labelled else phase, ls)
  else if phase = .free then do return (.free, (← named g ls).2)
  else none

def arguments (fuel : Nat) (phase : Phase) (ls : List Lexeme) : Option (List Lexeme) :=
  match fuel with
  | 0 => none
  | fuel + 1 =>
    if starts (mark ")") ls then some (ls.drop 1)
    else do
      let (phase, ls) ← argument g phase ls
      if starts (mark ",") ls then arguments fuel phase (ls.drop 1)
      else expect? (mark ")") ls

/-- Whether an argument has neither a name nor an asterisk. -/
def isPositional (ls : List Lexeme) : Bool :=
  !(starts (mark "*") ls || starts (mark "**") ls ||
    (ls matches .name _ :: .mark ['='] :: _))

/-- The arguments of a call after its opening bracket; clauses follow a lone one. -/
def callTail (callee : Expression) (ls : List Lexeme) : Option (Expression × List Lexeme) :=
  if starts (mark ")") ls then some (.call callee, ls.drop 1)
  else do
    let (phase, rest) ← argument g .free ls
    if startsClause rest ∧ isPositional ls then clausesUntil g (mark ")") rest
    else if starts (mark ",") rest then
      return (.operation, ← arguments g rest.length phase (rest.drop 1))
    else return (.operation, ← expect? (mark ")") rest)

/-- A bound of a slice, which may be missing. -/
def bound (ls : List Lexeme) : Option (List Lexeme) :=
  if starts (mark ":") ls ∨ starts (mark ",") ls ∨ starts (mark "]") ls then some ls
  else (g.rule .expression ls).map (·.2)

/-- The bounds of a slice after the first. -/
def laterBounds (ls : List Lexeme) : Option (Expression × List Lexeme) := do
  let ls ← bound g ls
  let ls ← if starts (mark ":") ls then bound g (ls.drop 1) else some ls
  return (.operation, ls)

def index : Parser Expression := fun ls =>
  if starts (mark "*") ls then g.rule .expression (ls.drop 1)
  else if starts (mark ":") ls then laterBounds g (ls.drop 1)
  else if isNamed ls then named g ls
  else do
    let (e, ls) ← g.rule .expression ls
    if starts (mark ":") ls then laterBounds g (ls.drop 1) else return (e, ls)

def indexTail (ls : List Lexeme) : Option (Expression × List Lexeme) :=
  if starts (mark "]") ls then none
  else do
    let (_, ls) ← itemsUntil (mark "]") (index g) (ls.length + 1) ls
    return (.place, ls)

/-- Adjacent quotations make one text; bytes and text do not mix. -/
def join? : Expression → Quotation → Option Expression
  | .constant (.text s), .text t => some (.constant (.text (s ++ t)))
  | .constant .bytes, .bytes => some (.constant .bytes)
  | .constant (.text _), .formatted raw body => if g.formatted raw body then some .operation else none
  | .operation, .formatted raw body => if g.formatted raw body then some .operation else none
  | .operation, .text _ => some .operation
  | _, _ => none

def quotations (joined : Expression) : List Lexeme → Option (Expression × List Lexeme)
  | .quotation q :: ls => do quotations (← join? g joined q) ls
  | ls => some (joined, ls)

def ofQuotation? : Quotation → Option Expression
  | .text s => some (.constant (.text s))
  | .bytes => some (.constant .bytes)
  | .formatted raw body => if g.formatted raw body then some .operation else none

def ofWord? (t : Text) : Option Expression :=
  if t = "True".text then some (.constant (.bool true))
  else if t = "False".text then some (.constant (.bool false))
  else if t = "None".text then some (.constant .null)
  else none

def atom : Parser Expression
  | .quotation q :: ls => do quotations g (← ofQuotation? g q) ls
  | .number n :: ls => some (.constant (.ofNumeral n), ls)
  | .name t :: ls => some (.name t, ls)
  | .word t :: ls => (ofWord? t).map (·, ls)
  | .mark m :: ls =>
    if m = [.char '('] then round g ls
    else if m = [.char '['] then square g ls
    else if m = [.char '\x7b'] then curly g ls
    else if m = "...".text then some (.constant .ellipsis, ls)
    else none
  | _ => none

/-- The attributes, calls and elements that follow an atom. -/
def trailers (fuel : Nat) (e : Expression) (ls : List Lexeme) : Option (Expression × List Lexeme) :=
  match fuel with
  | 0 => none
  | fuel + 1 =>
    match ls with
    | .mark m :: rest =>
      if m = [.char '.'] then
        match rest with
        | .name _ :: rest => trailers fuel .place rest
        | _ => none
      else if m = [.char '('] then do
        let (e, rest) ← callTail g e rest
        trailers fuel e rest
      else if m = [.char '['] then do
        let (e, rest) ← indexTail g rest
        trailers fuel e rest
      else some (e, ls)
    | _ => some (e, ls)

def primary : Parser Expression := fun ls => do
  let (e, ls) ← atom g ls
  trailers g (ls.length + 1) e ls

def power : Parser Expression := fun ls => do
  let (e, ls) ←
    if starts (word "await") ls then do
      let (_, ls) ← g.rule .primary (ls.drop 1)
      pure (.operation, ls)
    else primary g ls
  if starts (mark "**") ls then
    let (_, ls) ← g.rule .factor (ls.drop 1)
    return (.operation, ls)
  else return (e, ls)

def factor : Parser Expression := fun ls =>
  if starts (mark "-") ls then do
    let (e, ls) ← g.rule .factor (ls.drop 1)
    return (.signed true e, ls)
  else if starts (mark "+") ls then do
    let (e, ls) ← g.rule .factor (ls.drop 1)
    return (.signed false e, ls)
  else if starts (mark "~") ls then do
    let (_, ls) ← g.rule .factor (ls.drop 1)
    return (.operation, ls)
  else power g ls

end

/-- The operators and operands that follow a left operand. -/
def chainTail (operators : List Lexeme) (combine : Expression → Expression → Expression)
    (operand : Parser Expression) (fuel : Nat) (left : Expression) (ls : List Lexeme) :
    Option (Expression × List Lexeme) :=
  match fuel with
  | 0 => none
  | fuel + 1 =>
    if operators.any (starts · ls) then do
      let (right, ls) ← operand (ls.drop 1)
      chainTail operators combine operand fuel (combine left right) ls
    else some (left, ls)

/-- Operands with operators between them, the left ones joined first. -/
def chain (operators : List Lexeme) (combine : Expression → Expression → Expression)
    (operand : Parser Expression) : Parser Expression := fun ls => do
  let (left, ls) ← operand ls
  chainTail operators combine operand (ls.length + 1) left ls

def operations (operators : List Lexeme) (operand : Parser Expression) : Parser Expression :=
  chain operators (fun _ _ => .operation) operand

section

variable (g : Recursion)

def product : Parser Expression :=
  operations [mark "*", mark "/", mark "//", mark "%", mark "@"] (factor g)

def sum : Parser Expression := chain [mark "+", mark "-"] .sum (product g)

def bitwise : Parser Expression :=
  operations [mark "|"] (operations [mark "^"] (operations [mark "&"]
    (operations [mark "<<", mark ">>"] (sum g))))

/-- The rest after a comparison sign. -/
def dropComparison? (ls : List Lexeme) : Option (List Lexeme) :=
  if ["==", "!=", "<=", "<", ">=", ">"].any fun s => starts (mark s) ls then some (ls.drop 1)
  else if starts (word "in") ls then some (ls.drop 1)
  else if starts (word "is") ls then
    some (if starts (word "not") (ls.drop 1) then ls.drop 2 else ls.drop 1)
  else if starts (word "not") ls then expect? (word "in") (ls.drop 1)
  else none

def comparisons (fuel : Nat) (left : Expression) (ls : List Lexeme) :
    Option (Expression × List Lexeme) :=
  match fuel with
  | 0 => none
  | fuel + 1 =>
    match dropComparison? ls with
    | some ls => do
      let (_, ls) ← bitwise g ls
      comparisons fuel .operation ls
    | none => some (left, ls)

def inversion : Parser Expression := fun ls =>
  if starts (word "not") ls then do
    let (_, ls) ← g.rule .inversion (ls.drop 1)
    return (.operation, ls)
  else do
    let (e, ls) ← bitwise g ls
    comparisons g (ls.length + 1) e ls

def disjunction : Parser Expression :=
  operations [word "or"] (operations [word "and"] (inversion g))

/-- What the parameters before the current one allow. -/
structure Parameters where
  any : Bool
  /-- A parameter had a default. -/
  defaults : Bool
  /-- A slash has ended the parameters without names. -/
  slash : Bool
  /-- An asterisk has come. -/
  starred : Bool
  /-- An asterisk has just come alone, so that a parameter must follow. -/
  bare : Bool
  deriving DecidableEq, Repr

def Parameters.none : Parameters := ⟨false, false, false, false, false⟩

/-- One parameter, what it allows after itself, and whether it is the last. -/
def parameter (s : Parameters) : List Lexeme → Option (Parameters × Bool × List Lexeme)
  | .name _ :: ls =>
    if starts (mark "=") ls then do
      let (_, ls) ← g.rule .expression (ls.drop 1)
      return ({ s with any := true, defaults := true, bare := false }, false, ls)
    else if s.defaults ∧ !s.starred then Option.none
    else some ({ s with any := true, bare := false }, false, ls)
  | .mark m :: ls =>
    if m = [.char '/'] ∧ s.any ∧ !s.slash ∧ !s.starred then
      some ({ s with slash := true }, false, ls)
    else if m = [.char '*'] ∧ !s.starred then
      match ls with
      | .name _ :: ls => some ({ s with starred := true }, false, ls)
      | _ =>
        if starts (mark ",") ls then some ({ s with starred := true, bare := true }, false, ls)
        else Option.none
    else if m = "**".text ∧ !s.bare then
      match ls with
      | .name _ :: ls => some (s, true, ls)
      | _ => Option.none
    else Option.none
  | _ => Option.none

/-- Parameters up to and with the colon that ends them. -/
def parameters (fuel : Nat) (s : Parameters) (ls : List Lexeme) : Option (List Lexeme) :=
  match fuel with
  | 0 => none
  | fuel + 1 =>
    if starts (mark ":") ls then if s.bare then none else some (ls.drop 1)
    else do
      let (s, last, ls) ← parameter g s ls
      if starts (mark ",") ls then
        if last then expect? (mark ":") (ls.drop 1) else parameters fuel s (ls.drop 1)
      else expect? (mark ":") ls

def function (ls : List Lexeme) : Option (Expression × List Lexeme) := do
  let ls ← parameters g (ls.length + 1) .none ls
  let (_, ls) ← g.rule .expression ls
  return (.operation, ls)

def expression : Parser Expression := fun ls =>
  if starts (word "lambda") ls then function g (ls.drop 1)
  else do
    let (e, ls) ← disjunction g ls
    if starts (word "if") ls then
      let (_, ls) ← g.rule .disjunction (ls.drop 1)
      let ls ← expect? (word "else") ls
      let (_, ls) ← g.rule .expression ls
      return (.operation, ls)
    else return (e, ls)

def ofRule : Rule → Parser Expression
  | .expression => expression g
  | .disjunction => disjunction g
  | .inversion => inversion g
  | .bitwise => bitwise g
  | .factor => factor g
  | .primary => primary g

end

/-- The rules with at most `fuel` of them open inside each other. A rule starts over only
after a lexeme, so the number of lexemes is enough. -/
def apply (formatted : Bool → Text → Bool) (fuel : Nat) (r : Rule) : Parser Expression :=
  match fuel with
  | 0 => fun _ => none
  | fuel + 1 => ofRule ⟨apply formatted fuel, formatted⟩ r

end Grammar

end Stencil.Literal
