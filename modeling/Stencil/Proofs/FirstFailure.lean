import Stencil.Proofs.RelatedScopes

/-!
# The first failure

A strict render stops at the error that a lenient render of the same template records
first. Until then the two runs are the same: a failure inside an argument list is
recorded before the tag around it goes on, and reaches the strict caller as it is.
-/

namespace Stencil

namespace Run

variable {α β : Type}

theorem failures_bind_of_ok {x : Run α} {a : α} (h : x.result = .ok a) (f : α → Run β) :
    (x >>= f).failures = x.failures ++ (f a).failures := by
  rw [bind_of_ok h]
  exact failures_append ..

theorem failures_bind_of_error {x : Run α} {e : Error} (h : x.result = .error e)
    (f : α → Run β) : (x >>= f).failures = x.failures := by
  rw [bind_of_error h]
  rfl

theorem failures_recover_of_error {x : Run α} {e : Error} (h : x.result = .error e)
    (source : Text) (default : α) :
    (x.recover source default).failures = x.failures ++ [(source, e)] := by
  rw [recover_of_error h]
  exact failures_append ..

/-- Later failures do not change which one came first. -/
theorem firstFailure?_of_earlier {x : Run α} {y : Run β} {e : Error}
    (hfront : x.failures <+: y.failures) (h : x.firstFailure? = some e) :
    y.firstFailure? = some e := by
  obtain ⟨later, hlater⟩ := hfront
  unfold firstFailure? at h ⊢
  rw [← hlater]
  cases hx : x.failures with
  | nil => simp [hx] at h
  | cons failure rest => simpa [hx] using h

theorem prefix_failures_bind (x : Run α) (f : α → Run β) :
    x.failures <+: (x >>= f).failures := by
  cases h : x.result with
  | ok a =>
    rw [failures_bind_of_ok h]
    exact List.prefix_append ..
  | error e => exact ⟨[], by rw [List.append_nil, failures_bind_of_error h]⟩

theorem prefix_failures_recover (x : Run α) (source : Text) (default : α) :
    x.failures <+: (x.recover source default).failures := by
  cases h : x.result with
  | ok a => exact ⟨[], by rw [List.append_nil, recover_of_ok h]⟩
  | error e =>
    rw [failures_recover_of_error h]
    exact List.prefix_append ..

/-- How a strict run goes with the lenient one: it records nothing, and the lenient run
is either the same or records first the error that ended the strict one. -/
structure Foretells (strict lenient : Run α) : Prop where
  silent : strict.failures = []
  follows : lenient = strict ∨
    ∃ e, strict.result = .error e ∧ lenient.firstFailure? = some e

namespace Foretells

theorem refl {x : Run α} (h : x.failures = []) : Foretells x x := ⟨h, .inl rfl⟩

theorem bind {x y : Run α} {f g : α → Run β} (h : Foretells x y)
    (hf : ∀ a, Foretells (f a) (g a)) : Foretells (x >>= f) (y >>= g) := by
  cases hx : x.result with
  | error e =>
    refine ⟨(failures_bind_of_error hx f).trans h.silent, ?_⟩
    rcases h.follows with rfl | ⟨e', he', hfirst⟩
    · exact .inl (by rw [bind_of_error hx, bind_of_error hx])
    · cases hx.symm.trans he'
      refine .inr ⟨e, by rw [bind_of_error hx], ?_⟩
      exact firstFailure?_of_earlier (prefix_failures_bind y g) hfirst
  | ok a =>
    refine ⟨by rw [failures_bind_of_ok hx, h.silent, (hf a).silent, List.nil_append], ?_⟩
    rcases h.follows with rfl | ⟨e, he, -⟩
    · rcases (hf a).follows with hsame | ⟨e, he, hfirst⟩
      · exact .inl (by rw [bind_of_ok hx, bind_of_ok hx, hsame])
      · refine .inr ⟨e, by rw [bind_of_ok hx, he], ?_⟩
        unfold firstFailure? at hfirst ⊢
        rw [failures_bind_of_ok hx, h.silent, List.nil_append, hfirst]
    · cases hx.symm.trans he

/-- The lenient run goes on after a tag has failed; the strict one does not. -/
theorem recover {x y : Run α} (h : Foretells x y) (source : Text) (default : α) :
    Foretells x (y.recover source default) := by
  refine ⟨h.silent, ?_⟩
  rcases h.follows with rfl | ⟨e, he, hfirst⟩
  · cases hx : y.result with
    | ok a => exact .inl (recover_of_ok hx source default)
    | error e =>
      refine .inr ⟨e, rfl, ?_⟩
      unfold firstFailure?
      rw [failures_recover_of_error hx, h.silent]
      rfl
  · exact .inr ⟨e, he, firstFailure?_of_earlier (prefix_failures_recover y source default) hfirst⟩

end Foretells

end Run

namespace Scope

def strictly (s : Scope) : Scope := { s with lenient := false }

def leniently (s : Scope) : Scope := { s with lenient := true }

/-- Where all names are bound, the two policies part only at a failed tag. -/
theorem related_strictly_leniently (s : Scope) {names : List Text}
    (hbound : ∀ name ∈ names, (s.valueOf? name).isSome) :
    Related (fun _ => Run.Foretells) names s.strictly s.leniently where
  calm := Run.Foretells.refl
  bind := Run.Foretells.bind
  find := fun name => .refl (failures_find s.strictly name)
  guard := fun depth => .refl (failures_guardDepth s.strictly depth)
  head := by
    intro depth name hname
    obtain ⟨v, hv⟩ := Option.isSome_iff_exists.1 (hbound name hname)
    have hread : ∀ policy : Scope, policy.valueOf? = s.valueOf? →
        (Head.variable name).eval policy depth = pure v := by
      intro policy hpolicy
      simp [Head.eval, hpolicy, hv]
    rw [hread s.strictly rfl, hread s.leniently rfl]
    exact .refl rfl
  settle := fun source _ _ h => h.recover source []

/-- In a lenient scope no failure leaves a tag. -/
theorem renderPieces_ok {s : Scope} (hs : s.lenient = true) (depth : Nat) (ps : List Piece) :
    ∃ t, (renderPieces s depth ps).result = .ok t := by
  have one : ∀ p : Piece, ∃ t, (p.render s depth).result = .ok t := by
    intro p
    cases p with
    | plain c => exact ⟨_, rfl⟩
    | escaped inner => exact ⟨_, rfl⟩
    | tag source chain =>
      rw [render_tag, settle, if_pos hs]
      cases h : (chain.eval s depth >>= printed).result with
      | ok t => exact ⟨t, by rw [Run.recover_of_ok h, h]⟩
      | error e => exact ⟨[], by rw [Run.recover_of_error h]⟩
  induction ps with
  | nil => exact ⟨[], rfl⟩
  | cons p rest ih =>
    obtain ⟨front, hfront⟩ := one p
    obtain ⟨back, hback⟩ := ih
    refine ⟨front ++ back, ?_⟩
    rw [renderPieces, Run.bind_of_ok hfront, Run.bind_of_ok hback]
    rfl

theorem render_ok {s : Scope} (hs : s.lenient = true) (hdepth : 0 ≤ s.maxDepth) (t : Text) :
    ∃ out, (s.render t).result = .ok out := by
  rw [render_eq]
  have hguard : s.guardDepth 0 = pure () := by
    rw [guardDepth, if_neg (by omega)]
  rw [hguard, pure_bind]
  exact renderPieces_ok hs 0 _

end Scope

namespace Engine

/-- The strict and the lenient render of one template on one engine. -/
theorem foretells_render (e : Engine) {t : Text} {bindings : List (Text × Value)}
    (hbound : ∀ name ∈ Template.heads t, (bindings.lookup name).isSome) :
    Run.Foretells (e.render t bindings (some false)) (e.render t bindings (some true)) :=
  ((e.scope bindings none).related_strictly_leniently hbound).render (List.Subset.refl _)

/-- On an engine that renders at all, with every head bound, the strict render returns
exactly when the lenient one records no failure, and then both return the same text after
the same calls; it raises exactly the error that the lenient render records first. -/
theorem strict_render_iff_first_failure (e : Engine) (t : Text) (bindings : List (Text × Value))
    (hdepth : 0 ≤ e.maxDepth)
    (hbound : ∀ name ∈ Template.heads t, (bindings.lookup name).isSome) :
    ((∃ out, (e.render t bindings (some false)).result = .ok out) ↔
      (e.render t bindings (some true)).failures = []) ∧
    (∀ out, (e.render t bindings (some false)).result = .ok out →
      (e.render t bindings (some true)).result = .ok out ∧
      (e.render t bindings (some true)).calls = (e.render t bindings (some false)).calls) ∧
    (∀ error, (e.render t bindings (some false)).result = .error error ↔
      (e.render t bindings (some true)).firstFailure? = some error) := by
  obtain ⟨silent, follows⟩ := e.foretells_render hbound
  obtain ⟨text, htext⟩ := (e.scope bindings (some true)).render_ok rfl hdepth t
  change (e.render t bindings (some true)).result = .ok text at htext
  generalize e.render t bindings (some false) = strict at silent follows ⊢
  generalize e.render t bindings (some true) = lenient at follows htext ⊢
  rcases follows with rfl | ⟨first, herror, hfirst⟩
  · have hnone : lenient.firstFailure? = none := by simp [Run.firstFailure?, silent]
    refine ⟨by simp [silent, htext], fun out hout => ⟨hout, rfl⟩, fun error => ?_⟩
    simp [htext, hnone]
  · have hne : lenient.failures ≠ [] := by
      intro hnil
      simp [Run.firstFailure?, hnil] at hfirst
    refine ⟨by simp [herror, hne], fun out hout => by simp [herror] at hout, fun error => ?_⟩
    simp [herror, hfirst]

/-- A function that is missing two levels down, after a tag that renders; the variable of the
escaped tag is not bound. -/
def failingTemplate : Text :=
  "!\x7by\x7d \x7bx.f\x7d \x7b@f(1, \"\x7bx.g\x7d\").f\x7d".text

def failingEngine : Engine := .ofFunctions [(['f'], ⟨.builtin ['f'], fun _ => .ok .null⟩)] 1

theorem strict_render_of_nested_failure :
    (0 ≤ failingEngine.maxDepth ∧
      ∀ name ∈ Template.heads failingTemplate, ([([.char 'x'], Value.int 1)].lookup name).isSome) ∧
    (failingEngine.render failingTemplate [(['x'], .int 1)] (some false)).result =
      .error (.functionNotFound ['g']) := by
  have hdepth : 0 ≤ failingEngine.maxDepth := by decide
  have hbound : ∀ name ∈ Template.heads failingTemplate,
      ([([.char 'x'], Value.int 1)].lookup name).isSome := by decide +kernel
  have hfirst : (failingEngine.render failingTemplate [(['x'], .int 1)] (some true)).firstFailure? =
      some (.functionNotFound ['g']) := by decide +kernel
  obtain ⟨-, -, herror⟩ := strict_render_iff_first_failure failingEngine failingTemplate
    [(['x'], .int 1)] hdepth hbound
  exact ⟨⟨hdepth, hbound⟩, (herror _).2 hfirst⟩

end Engine

end Stencil
