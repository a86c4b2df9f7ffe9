import Stencil.Proofs.FirstFailure
import Stencil.Proofs.RegistrationHistory
import Stencil.Proofs.ReplacedTags

/-!
# Lenient renders

In a lenient scope every failure is caught at the tag in which it occurs, that of the depth guard
too where an argument list stands too deep. But the guard is asked once more, outside any tag,
before the text itself is rendered. A limit that is read from the environment lets every text pass
there. A negative limit that an engine was created with stops all texts, those without tags too.
-/

namespace Stencil

/-! ## Limits that are read -/

/-- Whatever the environment has, the limit that is read from it is not negative. -/
theorem Settings.readDepth_nonneg (t : Option Text) : 0 ≤ readDepth t := by
  unfold readDepth
  split
  · split
    · decide
    · omega
  · decide

/-! ## Failures in a lenient scope -/

namespace Scope

variable {s : Scope}

/-- A tag that fails in a lenient scope, at whatever depth and with whatever error, is rendered
empty and recorded behind all that was done in it. -/
theorem render_failed_tag (hs : s.lenient = true) {depth : Nat} {source : Text} {chain : Chain}
    {error : Error} (h : (chain.eval s depth >>= printed).result = .error error) :
    (Piece.tag source chain).render s depth =
      ⟨.ok [], (chain.eval s depth >>= printed).trace ++ [.failed source error]⟩ := by
  rw [render_tag, settle, if_pos hs, Run.recover_of_error h]

/-- A lenient render returns unless the guard stops the text itself. -/
theorem render_returns_iff (hs : s.lenient = true) (t : Text) :
    (∃ out, (s.render t).result = .ok out) ↔ 0 ≤ s.maxDepth := by
  constructor
  · rintro ⟨out, hout⟩
    exact (render_ok_iff.1 hout).1
  · intro hdepth
    exact render_ok hs hdepth t

end Scope

/-! ## Engines that render all texts -/

namespace Engine

section

variable (depth flag : Option Text) (machine : Library.Machine) (lenient : Option Bool)
  (limit : Option Int) (globals : Option (List (Text × Option Callable)))

/-- An engine has a negative limit only if it was given one. -/
theorem maxDepth_create_nonneg_iff :
    0 ≤ (create (.ofTexts depth flag) machine lenient limit globals).maxDepth ↔
      ∀ m, limit = some m → 0 ≤ m := by
  cases limit with
  | none =>
    have hread : 0 ≤ (create (.ofTexts depth flag) machine lenient none globals).maxDepth :=
      Settings.readDepth_nonneg depth
    simp [hread]
  | some m => simp [create]

/-- On an engine that was not created with a negative limit the lenient render of every text
returns, and gives the text with what each tag gives in its place. A tag that fails is rendered
empty and recorded, at every depth and with every error, and so every argument list is rendered.
Only with a negative limit a lenient render fails, and then no text is rendered at all. -/
theorem lenient_render_returns_iff (history : List Registration) (t : Text)
    (bindings : List (Text × Value)) (mode : Option Bool)
    (hmode : mode.getD (lenient.getD (!Settings.readFlag flag)) = true) :
    let e := (create (.ofTexts depth flag) machine lenient limit globals).after history
    let s := e.scope bindings mode
    ((∃ out, (e.render t bindings mode).result = .ok out) ↔ ∀ m, limit = some m → 0 ≤ m) ∧
    (∀ out, (e.render t bindings mode).result = .ok out → out = replaceTags s.textOf t) ∧
    (∀ m, limit = some m → m < 0 → e.render t bindings mode = .fail (.nestingTooDeep m)) ∧
    (∀ level source chain error,
      (chain.eval s level >>= Scope.printed).result = .error error →
        (Piece.tag source chain).render s level =
          ⟨.ok [], (chain.eval s level >>= Scope.printed).trace ++ [.failed source error]⟩) ∧
    (∀ level args, ∃ out, (renderPieces s level args).result = .ok out) := by
  intro e s
  obtain ⟨-, hpolicy, hdepth⟩ :=
    (create (.ofTexts depth flag) machine lenient limit globals).kept_after history
  have hlenient : s.lenient = true := by
    change mode.getD e.lenient = true
    rw [hpolicy]
    exact hmode
  refine ⟨?_, ?_, ?_, ?_, ?_⟩
  · rw [← maxDepth_create_nonneg_iff depth flag machine lenient limit globals, ← hdepth]
    exact Scope.render_returns_iff hlenient t
  · intro out hout
    exact (Scope.render_ok_iff.1 hout).2.2
  · intro m hm hneg
    have hlimit : s.maxDepth = m := by
      change e.maxDepth = m
      rw [hdepth, create, hm, Option.getD_some]
    rw [← hlimit] at hneg ⊢
    exact Scope.render_of_neg hneg t
  · intro level source chain error herror
    exact Scope.render_failed_tag hlenient herror
  · intro level args
    exact Scope.renderPieces_ok hlenient level args

end

/-- A text without tags, on an engine that allows no depth at all. -/
theorem plain_text_too_deep :
    ((create (.ofTexts none none) .ideal none (some (-1)) none).render "plain".text []
      (some true)).result = .error (.nestingTooDeep (-1)) := by decide +kernel

/-- A call with an argument list, a function that was removed, and a variable. -/
def failingTags : Text := "a\x7b@exists(1)\x7db\x7b@ok\x7d\x7bx\x7d".text

/-- The engine allows no argument list, and its own policy is the strict one. -/
theorem lenient_render_of_failing_tags :
    let e := (create (.ofTexts none (some "on".text)) .ideal none (some 0) none).after
      [.remove "ok".text]
    (some true).getD ((none : Option Bool).getD (!Settings.readFlag (some "on".text))) = true ∧
    (e.render failingTags [(['x'], .int 1)] (some true)).result = .ok "ab1".text ∧
    (e.render failingTags [(['x'], .int 1)] (some true)).failures =
      [("\x7b@exists(1)\x7d".text, .nestingTooDeep 0),
        ("\x7b@ok\x7d".text, .functionNotFound "ok".text)] := by
  intro e
  have hmode : (some true).getD
      ((none : Option Bool).getD (!Settings.readFlag (some "on".text))) = true := rfl
  obtain ⟨hreturns, htext, -⟩ := lenient_render_returns_iff none (some "on".text) .ideal none
    (some 0) none [.remove "ok".text] failingTags [(['x'], .int 1)] (some true) hmode
  obtain ⟨out, hout⟩ := hreturns.2 (by simp)
  have hwoven : replaceTags (e.scope [(['x'], .int 1)] (some true)).textOf failingTags =
      "ab1".text := by decide +kernel
  refine ⟨hmode, ?_, by decide +kernel⟩
  rw [← hwoven, ← htext out hout]
  exact hout

end Engine

end Stencil
