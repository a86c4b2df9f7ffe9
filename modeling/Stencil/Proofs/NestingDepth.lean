import Stencil.Proofs.ArgumentErrors
import Stencil.Proofs.EvaluationSteps
import Stencil.Proofs.FirstFailure

/-!
# The depth limit

The nesting of a template is how many argument lists stand inside each other in it. A scope
whose limit reaches that far evaluates the template as a scope without a limit would: the
guard stops nothing, at whatever depth the template stands. A lower limit may end a run, and
a strict run that it does not end is the same under a greater one.
-/

namespace Stencil

mutual

/-- How many argument lists stand inside each other in a piece. Escaped tags have none. -/
def Piece.nesting : Piece → Nat
  | .plain _ => 0
  | .escaped _ => 0
  | .tag _ chain => chain.nesting
termination_by structural p => p

def piecesNesting : List Piece → Nat
  | [] => 0
  | p :: rest => max p.nesting (piecesNesting rest)
termination_by structural ps => ps

def Chain.nesting : Chain → Nat
  | .empty => 0
  | .from head calls => max head.nesting (callsNesting calls)
termination_by structural c => c

def Head.nesting : Head → Nat
  | .variable _ => 0
  | .direct call => call.nesting
termination_by structural h => h

def callsNesting : List Call → Nat
  | [] => 0
  | call :: rest => max call.nesting (callsNesting rest)
termination_by structural cs => cs

def Call.nesting : Call → Nat
  | .malformed _ => 0
  | .bare _ => 0
  | .applied _ args => piecesNesting args + 1
termination_by structural c => c

end

/-- How many argument lists stand inside each other in a text. -/
def Template.nesting (t : Text) : Nat := piecesNesting (Template.ofText t)

/-! ## The nesting of a text -/

theorem piecesNesting_le_iff {ps : List Piece} {n : Nat} :
    piecesNesting ps ≤ n ↔ ∀ p ∈ ps, p.nesting ≤ n := by
  induction ps with
  | nil => simp [piecesNesting]
  | cons p rest ih => rw [piecesNesting, Nat.max_le, ih, List.forall_mem_cons]

theorem callsNesting_le_iff {cs : List Call} {n : Nat} :
    callsNesting cs ≤ n ↔ ∀ c ∈ cs, c.nesting ≤ n := by
  induction cs with
  | nil => simp [callsNesting]
  | cons c rest ih => rw [callsNesting, Nat.max_le, ih, List.forall_mem_cons]

/-- The argument text of a token that is called where it stands in its chain. Others are never
rendered, so they do not count. -/
def Call.argumentText? (first : Bool) (source : Text) : Option Text :=
  (Token.read? source).bind fun token => if token.direct && !first then none else token.args

/-- The argument texts of the calls in a chain. -/
def Chain.argumentTexts (t : Text) : List Text :=
  match Chain.split t with
  | [] => []
  | head :: rest =>
    (if head.head? = some Token.directMark then (Call.argumentText? true head).toList else []) ++
      rest.filterMap (Call.argumentText? false)

theorem Call.nesting_ofSource_le_iff {first : Bool} {source : Text} {n : Nat} :
    (Call.ofSource Template.ofText first source).nesting ≤ n ↔
      ∀ args, Call.argumentText? first source = some args → Template.nesting args + 1 ≤ n := by
  unfold Call.ofSource Call.argumentText?
  cases Token.read? source with
  | none => simp [Call.nesting]
  | some token =>
    by_cases hmisplaced : (token.direct && !first) = true
    · simp only [Option.bind_some, if_pos hmisplaced]
      simp [Call.nesting]
    · simp only [Option.bind_some, if_neg hmisplaced]
      cases token.args <;> simp [Call.nesting, Template.nesting]

theorem Chain.nesting_ofText_le_iff {t : Text} {n : Nat} :
    (Chain.ofText Template.ofText t).nesting ≤ n ↔
      ∀ args ∈ Chain.argumentTexts t, Template.nesting args + 1 ≤ n := by
  unfold Chain.ofText Chain.argumentTexts
  cases Chain.split t with
  | nil => simp [Chain.nesting]
  | cons head rest =>
    have hhead : (Head.ofSource Template.ofText head).nesting ≤ n ↔
        ∀ args ∈ (if head.head? = some Token.directMark then
          (Call.argumentText? true head).toList else []), Template.nesting args + 1 ≤ n := by
      unfold Head.ofSource
      split
      · simp [Head.nesting, Call.nesting_ofSource_le_iff]
      · simp [Head.nesting]
    simp only [Chain.nesting, Nat.max_le, hhead, callsNesting_le_iff, List.forall_mem_map,
      Call.nesting_ofSource_le_iff, List.forall_mem_append, List.mem_filterMap,
      forall_exists_index, and_imp]
    exact and_congr_right fun _ => ⟨fun h args c hc hargs => h c hc args hargs,
      fun h c hc args hargs => h args c hc hargs⟩

/-- The nesting is one more than that of the argument texts in the tags of a text. -/
theorem Template.nesting_le_iff {t : Text} {n : Nat} :
    Template.nesting t ≤ n ↔
      ∀ tag, .tag tag ∈ segments t → tag.escaped = false →
        ∀ args ∈ Chain.argumentTexts tag.inner, Template.nesting args + 1 ≤ n := by
  rw [Template.nesting, Template.ofText_eq, piecesNesting_le_iff, List.forall_mem_map]
  constructor
  · intro h tag htag hescaped
    have hpiece := h _ htag
    rw [Piece.ofSegment, hescaped, if_neg (by decide), Piece.nesting] at hpiece
    exact Chain.nesting_ofText_le_iff.1 hpiece
  · intro h segment hsegment
    cases segment with
    | plain c => exact Nat.zero_le n
    | tag tag =>
      cases hescaped : tag.escaped with
      | true => simp [Piece.ofSegment, hescaped, Piece.nesting]
      | false =>
        rw [Piece.ofSegment, hescaped, if_neg (by decide), Piece.nesting]
        exact Chain.nesting_ofText_le_iff.2 (h tag hsegment hescaped)

/-! ## Errors of the guard -/

/-- No argument list is refused for its depth. -/
theorem Arguments.read_ne_nestingTooDeep (function text : Text) (limit : Int) :
    read function text ≠ .error (.nestingTooDeep limit) := by
  intro h
  rcases read_error h with ⟨flaw, herror⟩ | ⟨-, herror⟩
  · cases herror
  · cases herror

namespace Scope

/-- Among the calls is one of a function that gave the error. -/
def Gave (s : Scope) (limit : Int) (calls : List (Label × List Value)) : Prop :=
  ∃ name F args, s.resolve? name = some F ∧ (F.label, args) ∈ calls ∧
    (F.run args = .error (.nestingTooDeep limit) ∨
      F.run args = .error (.textless (.nestingTooDeep limit)))

/-- The guard stopped nothing in the run: where the run ends in an error of too deep nesting
or records one, a function that it called gave the error. -/
structure Unguarded (s : Scope) {α : Type} (x : Run α) : Prop where
  raised : ∀ limit, x.result = .error (.nestingTooDeep limit) → s.Gave limit x.calls
  recorded : ∀ source limit, (source, .nestingTooDeep limit) ∈ x.failures → s.Gave limit x.calls

variable {s s' : Scope} {α β : Type}

theorem Gave.mono {limit : Int} {calls more : List (Label × List Value)}
    (h : s.Gave limit calls) (hsub : calls ⊆ more) : s.Gave limit more := by
  obtain ⟨name, F, args, hF, hmem, hrun⟩ := h
  exact ⟨name, F, args, hF, hsub hmem, hrun⟩

namespace Unguarded

theorem calm {x : Run α} (hresult : ∀ limit, x.result ≠ .error (.nestingTooDeep limit))
    (hfailures : x.failures = []) : s.Unguarded x where
  raised := fun limit h => absurd h (hresult limit)
  recorded := fun source limit h => by simp [hfailures] at h

theorem pure (a : α) : s.Unguarded (Pure.pure a) := .calm (fun limit h => by cases h) rfl

theorem bind {x : Run α} {f : α → Run β} (hx : s.Unguarded x)
    (hf : ∀ a, x.result = .ok a → s.Unguarded (f a)) : s.Unguarded (x >>= f) := by
  cases h : x.result with
  | error e =>
    have hcalls := Run.calls_bind_of_error h f
    refine ⟨fun limit hlimit => ?_, fun source limit hmem => ?_⟩
    · rw [Run.bind_of_error h] at hlimit
      cases hlimit
      rw [hcalls]
      exact hx.raised limit h
    · rw [Run.failures_bind_of_error h] at hmem
      rw [hcalls]
      exact hx.recorded source limit hmem
  | ok a =>
    have hcalls := Run.calls_bind_of_ok h f
    refine ⟨fun limit hlimit => ?_, fun source limit hmem => ?_⟩
    · rw [Run.bind_of_ok h] at hlimit
      rw [hcalls]
      exact ((hf a h).raised limit hlimit).mono (List.subset_append_right ..)
    · rw [Run.failures_bind_of_ok h] at hmem
      rw [hcalls]
      rcases List.mem_append.1 hmem with hfront | hback
      · exact (hx.recorded source limit hfront).mono (List.subset_append_left ..)
      · exact ((hf a h).recorded source limit hback).mono (List.subset_append_right ..)

theorem settle {x : Run Text} (hx : s.Unguarded x) (source : Text) :
    s.Unguarded (s.settle source x) := by
  unfold Scope.settle
  split
  · cases h : x.result with
    | ok t => rwa [Run.recover_of_ok h]
    | error e =>
      refine ⟨fun limit hlimit => ?_, fun other limit hmem => ?_⟩
      · rw [Run.recover_of_error h] at hlimit
        cases hlimit
      · rw [Run.calls_recover]
        rw [Run.failures_recover_of_error h] at hmem
        rcases List.mem_append.1 hmem with hearlier | hlast
        · exact hx.recorded other limit hearlier
        · have heq : (other, Error.nestingTooDeep limit) = (source, e) := List.mem_singleton.1 hlast
          rw [Prod.mk.injEq] at heq
          exact hx.raised limit (h.trans (congrArg Except.error heq.2.symm))
  · exact hx

theorem find (name : Text) : s.Unguarded (s.find name) := by
  refine .calm (fun limit => ?_) (failures_find s name)
  unfold Scope.find
  split
  · exact fun h => by cases h
  · exact fun h => by cases h

theorem printed (v : Value) : s.Unguarded (Scope.printed v) := by
  refine .calm (fun limit => ?_) (failures_printed v)
  unfold Scope.printed
  split
  · exact fun h => by cases h
  · exact fun h => by cases h

/-- What a function raises is the outcome of the call that the run makes. -/
theorem invoke {name : Text} {F : Callable} (hF : s.resolve? name = some F)
    (piped : Option Value) (args : List Value) : s.Unguarded (Scope.invoke name F piped args) where
  raised := fun limit h => by
    refine ⟨name, F, _, hF, List.mem_singleton.2 rfl, ?_⟩
    change underName name (F.run _) = .error (.nestingTooDeep limit) at h
    unfold underName at h
    split at h
    · cases h
    · next instead hrun =>
      cases h
      exact .inr hrun
    · exact .inl h
  recorded := fun source limit h => by simp [failures_invoke] at h

end Unguarded

/-- Scopes that differ in their limits alone. -/
structure Alike (s s' : Scope) : Prop where
  resolve : s'.resolve? = s.resolve?
  valueOf : s'.valueOf? = s.valueOf?
  lenient : s'.lenient = s.lenient

/-- The limit allows so many argument lists inside each other at the depth. -/
def Allows (s : Scope) (depth nesting : Nat) : Prop := ((depth + nesting : Nat) : Int) ≤ s.maxDepth

theorem Allows.mono {depth nesting less : Nat} (h : s.Allows depth nesting) (hle : less ≤ nesting) :
    s.Allows depth less := by
  unfold Allows at h ⊢
  omega

theorem Allows.succ {depth nesting : Nat} (h : s.Allows depth (nesting + 1)) :
    s.Allows (depth + 1) nesting := by
  unfold Allows at h ⊢
  omega

/-- Two runs are the same, and the guard stops nothing in them. -/
structure Freely (s : Scope) {α : Type} (x y : Run α) : Prop where
  same : y = x
  unguarded : s.Unguarded x

namespace Freely

theorem refl {x : Run α} (h : s.Unguarded x) : s.Freely x x := ⟨rfl, h⟩

theorem pure (a : α) : s.Freely (Pure.pure a) (Pure.pure a) := refl (.pure a)

theorem bind {x y : Run α} {f g : α → Run β} (h : s.Freely x y)
    (hf : ∀ a, x.result = .ok a → s.Freely (f a) (g a)) : s.Freely (x >>= f) (y >>= g) := by
  obtain ⟨rfl, hx⟩ := h
  refine ⟨?_, hx.bind fun a ha => (hf a ha).unguarded⟩
  cases h : y.result with
  | error e => rw [Run.bind_of_error h, Run.bind_of_error h]
  | ok a => rw [Run.bind_of_ok h, Run.bind_of_ok h, (hf a h).same]

theorem find (h : Alike s s') (name : Text) : s.Freely (s.find name) (s'.find name) :=
  ⟨by unfold Scope.find; rw [h.resolve], .find name⟩

theorem guard {depth nesting depth' nesting' : Nat} (h : s.Allows depth nesting)
    (h' : s'.Allows depth' nesting') : s.Freely (s.guardDepth depth) (s'.guardDepth depth') := by
  unfold Allows at h h'
  rw [guardDepth_of_le (by omega), guardDepth_of_le (by omega)]
  exact pure ()

mutual

theorem piece (h : Alike s s') {depth depth' : Nat} :
    ∀ p : Piece, s.Allows depth p.nesting → s'.Allows depth' p.nesting →
      s.Freely (p.render s depth) (p.render s' depth')
  | .plain c, _, _ => pure [c]
  | .escaped inner, _, _ => pure _
  | .tag source c, hp, hp' => by
    have hchain := (chain h c hp hp').bind (f := printed) fun v _ => refl (.printed v)
    rw [render_tag, render_tag, hchain.same]
    exact ⟨by unfold settle; rw [h.lenient], hchain.unguarded.settle source⟩
termination_by structural p => p

theorem pieces (h : Alike s s') {depth depth' : Nat} :
    ∀ ps : List Piece, s.Allows depth (piecesNesting ps) → s'.Allows depth' (piecesNesting ps) →
      s.Freely (renderPieces s depth ps) (renderPieces s' depth' ps)
  | [], _, _ => pure []
  | p :: rest, hps, hps' => by
    have hp := piece h p (hps.mono (Nat.le_max_left ..)) (hps'.mono (Nat.le_max_left ..))
    have hrest := pieces h rest (hps.mono (Nat.le_max_right ..)) (hps'.mono (Nat.le_max_right ..))
    exact hp.bind fun front _ => hrest.bind fun back _ => pure (front ++ back)
termination_by structural ps => ps

theorem chain (h : Alike s s') {depth depth' : Nat} :
    ∀ c : Chain, s.Allows depth c.nesting → s'.Allows depth' c.nesting →
      s.Freely (c.eval s depth) (c.eval s' depth')
  | .empty, _, _ => pure _
  | .from hd calls, hc, hc' => by
    have hhead := head h hd (hc.mono (Nat.le_max_left ..)) (hc'.mono (Nat.le_max_left ..))
    exact hhead.bind fun v _ =>
      callsFrom h v calls (hc.mono (Nat.le_max_right ..)) (hc'.mono (Nat.le_max_right ..))
termination_by structural c => c

theorem head (h : Alike s s') {depth depth' : Nat} :
    ∀ hd : Head, s.Allows depth hd.nesting → s'.Allows depth' hd.nesting →
      s.Freely (hd.eval s depth) (hd.eval s' depth')
  | .variable name, _, _ => by
    refine ⟨by simp only [Head.eval, h.valueOf, h.lenient], ?_⟩
    unfold Head.eval
    split
    · exact .pure _
    · split
      · exact .pure _
      · exact .calm (fun limit hlimit => by cases hlimit) rfl
  | .direct c, hhd, hhd' => call h none c hhd hhd'
termination_by structural hd => hd

theorem callsFrom (h : Alike s s') {depth depth' : Nat} (value : Value) :
    ∀ cs : List Call, s.Allows depth (callsNesting cs) → s'.Allows depth' (callsNesting cs) →
      s.Freely (runCalls s depth value cs) (runCalls s' depth' value cs)
  | [], _, _ => pure value
  | c :: rest, hcs, hcs' => by
    have hc := call h (some value) c (hcs.mono (Nat.le_max_left ..)) (hcs'.mono (Nat.le_max_left ..))
    exact hc.bind fun v _ =>
      callsFrom h v rest (hcs.mono (Nat.le_max_right ..)) (hcs'.mono (Nat.le_max_right ..))
termination_by structural cs => cs

theorem call (h : Alike s s') {depth depth' : Nat} (piped : Option Value) :
    ∀ c : Call, s.Allows depth c.nesting → s'.Allows depth' c.nesting →
      s.Freely (c.run s depth piped) (c.run s' depth' piped)
  | .malformed _, _, _ => refl (.calm (fun limit hlimit => by cases hlimit) rfl)
  | .bare name, _, _ => (find h name).bind fun f hf => refl (.invoke (resolve_of_find hf) piped [])
  | .applied name args, hc, hc' => by
    have hread : ∀ text, s.Unguarded (Run.ofExcept (Arguments.read name text)) := fun text =>
      .calm (Arguments.read_ne_nestingTooDeep name text) rfl
    refine (find h name).bind fun f hf => ?_
    refine (guard hc.succ hc'.succ).bind fun _ _ => ?_
    refine (pieces h args hc.succ hc'.succ).bind fun text _ => ?_
    exact (refl (hread text)).bind fun values _ => refl (.invoke (resolve_of_find hf) piped values)
termination_by structural c => c

end

end Freely

def withLimit (s : Scope) (limit : Int) : Scope := { s with maxDepth := limit }

/-- A strict run that ends well ends so under every greater limit. -/
theorem related_withLimit {s : Scope} (hstrict : s.lenient = false) {limit : Int}
    (hlimit : s.maxDepth ≤ limit) (names : List Text) :
    Related (fun _ x y => ∀ a, x.result = .ok a → y = x) names s (s.withLimit limit) where
  calm := fun _ _ _ => rfl
  bind := by
    intro α β x y f g hxy hfg b hb
    cases hx : x.result with
    | error e =>
      rw [Run.bind_of_error hx] at hb
      cases hb
    | ok a =>
      rw [Run.bind_of_ok hx] at hb
      rw [hxy a hx, Run.bind_of_ok hx, Run.bind_of_ok hx, hfg a b hb]
  find := fun _ _ _ => rfl
  guard := by
    intro depth a ha
    by_cases hdepth : s.maxDepth < depth
    · rw [guardDepth, if_pos hdepth] at ha
      cases ha
    · have hdeeper : (depth : Int) ≤ (s.withLimit limit).maxDepth :=
        Int.le_trans (Int.not_lt.1 hdepth) hlimit
      rw [guardDepth_of_le (Int.not_lt.1 hdepth), guardDepth_of_le hdeeper]
  head := fun _ _ _ _ _ => rfl
  settle := by
    intro source x y hxy
    have hpolicy : ∀ other : Scope, other.lenient = false → ∀ z, other.settle source z = z :=
      fun other hother z => by simp [settle, hother]
    rwa [hpolicy s hstrict, hpolicy (s.withLimit limit) hstrict]

end Scope

namespace Engine

def withLimit (e : Engine) (limit : Int) : Engine := { e with maxDepth := limit }

/-- Under the greater of two limits a strict render that the lesser one lets through is the same,
with the same calls. Limits that the nesting of the template does not exceed make no difference
at all, in either mode: no error of too deep nesting is raised or recorded but those that a
called function gave. -/
theorem render_withLimit (e : Engine) {limit : Int} (hlimit : e.maxDepth ≤ limit) (t : Text)
    (bindings : List (Text × Value)) :
    (∀ out, (e.render t bindings (some false)).result = .ok out →
      (e.withLimit limit).render t bindings (some false) = e.render t bindings (some false)) ∧
    ((Template.nesting t : Int) ≤ e.maxDepth → ∀ lenient,
      (e.withLimit limit).render t bindings lenient = e.render t bindings lenient ∧
      (e.scope bindings lenient).Unguarded (e.render t bindings lenient)) := by
  refine ⟨?_, fun hnesting lenient => ?_⟩
  · exact (Scope.related_withLimit (s := e.scope bindings (some false)) rfl hlimit
      (Template.heads t)).render (List.Subset.refl _)
  · have hallows : (e.scope bindings lenient).Allows 0 (Template.nesting t) := by
      unfold Scope.Allows
      rwa [Nat.zero_add]
    have hdeeper : ((e.withLimit limit).scope bindings lenient).Allows 0 (Template.nesting t) := by
      unfold Scope.Allows
      rw [Nat.zero_add]
      exact Int.le_trans hnesting hlimit
    have halike : Scope.Alike (e.scope bindings lenient)
        ((e.withLimit limit).scope bindings lenient) := ⟨rfl, rfl, rfl⟩
    have hrender := (Scope.Freely.guard hallows hdeeper).bind fun _ _ =>
      Scope.Freely.pieces halike (Template.ofText t) hallows hdeeper
    rw [render, render, Scope.render_eq, Scope.render_eq]
    exact ⟨hrender.same, hrender.unguarded⟩

/-- Two argument lists inside each other. -/
def nestedTemplate : Text := "\x7b@f(\"\x7b@f(\"\x7bx\x7d\")\x7d\")\x7d".text

/-- The least limit that lets the template through makes no difference to a greater one. -/
theorem render_withLimit_nested :
    ((gathering.withLimit 2).maxDepth ≤ 5 ∧
      ((gathering.withLimit 2).render nestedTemplate [(['x'], .int 1)] (some false)).result =
        .ok "[\"['1']\"]".text ∧
      (Template.nesting nestedTemplate : Int) ≤ (gathering.withLimit 2).maxDepth) ∧
    (((gathering.withLimit 2).withLimit 5).render nestedTemplate [(['x'], .int 1)]
      (some false)).result = .ok "[\"['1']\"]".text ∧
    (((gathering.withLimit 2).withLimit 5).render nestedTemplate [] none).result =
      .ok "[\"['']\"]".text := by
  have hlimit : (gathering.withLimit 2).maxDepth ≤ 5 := by decide
  have hstrict : ((gathering.withLimit 2).render nestedTemplate [(['x'], .int 1)]
      (some false)).result = .ok "[\"['1']\"]".text := by decide +kernel
  have hlenient : ((gathering.withLimit 2).render nestedTemplate [] none).result =
      .ok "[\"['']\"]".text := by decide +kernel
  have hnesting : (Template.nesting nestedTemplate : Int) ≤ (gathering.withLimit 2).maxDepth := by
    decide +kernel
  refine ⟨⟨hlimit, hstrict, hnesting⟩, ?_, ?_⟩
  · rw [(render_withLimit _ hlimit nestedTemplate [(['x'], .int 1)]).1 _ hstrict]
    exact hstrict
  · rw [((render_withLimit _ hlimit nestedTemplate []).2 hnesting none).1]
    exact hlenient

end Engine

end Stencil
