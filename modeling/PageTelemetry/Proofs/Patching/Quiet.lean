import PageTelemetry.Proofs.Rules

/-! Operations that neither register anything with a page nor take anything back. Where no listener does
more than that, hooks, listeners and sources outlast every dispatch. -/
namespace PageTelemetry

/-- Whether an operation leaves hooks, navigation listeners and sources alone. -/
def Act.isQuiet : Act → Bool
  | .push _ | .replace _ | .setHref _ | .back | .forward | .setTitle _ | .setWidth _ | .hide | .reveal
  | .unload | .finishLoading | .track _ | .onLoad _ _ _ => true
  | _ => false

/-- Only such operations are performed, and no tracker waits to begin. -/
def Rules.quiet : Rules where
  act a := a.isQuiet = true
  start _ _ := False
  place _ _ := True

lemma Rules.quiet_sound (n : ℕ) : Rules.quiet.Sound n :=
  ⟨by simp [Rules.quiet],by simp [Rules.quiet],by simp [Rules.quiet,Act.isQuiet]⟩

namespace World
variable {w w' w'' : World}

/-- The same hooks, navigation listeners and sources. -/
structure SameRegistrations (w w' : World) : Prop where
  hook : w'.page.hook = w.page.hook
  popState : w'.page.popState = w.page.popState
  lifecycle : w'.page.lifecycle = w.page.lifecycle
  lastListener : w'.page.lastListener = w.page.lastListener
  lastHook : w'.lastHook = w.lastHook
  sources : w'.sources = w.sources

lemma SameRegistrations.refl (w : World) : w.SameRegistrations w := ⟨rfl,rfl,rfl,rfl,rfl,rfl⟩

lemma SameRegistrations.trans (h : w.SameRegistrations w') (h' : w'.SameRegistrations w'') :
    w.SameRegistrations w'' :=
  ⟨h'.hook.trans h.hook,h'.popState.trans h.popState,h'.lifecycle.trans h.lifecycle,
    h'.lastListener.trans h.lastListener,h'.lastHook.trans h.lastHook,h'.sources.trans h.sources⟩

lemma SameRegistrations.hookActive (h : w.SameRegistrations w') (id : HookId) :
    w'.hookActive id = w.hookActive id := by
  rw [World.hookActive,h.sources]
  rfl

lemma Reported.sameRegistrations (h : w.Reported w') : w.SameRegistrations w' := by
  obtain ⟨_,_,_,-,rfl⟩ := h
  exact ⟨rfl,rfl,rfl,rfl,rfl,rfl⟩

lemma moveTo_sameRegistrations (w : World) (target : Option History) :
    w.SameRegistrations (w.moveTo target).2 := by
  cases target <;> exact ⟨rfl,rfl,rfl,rfl,rfl,rfl⟩

lemma act_sameRegistrations (w : World) {a : Act} (ha : a.isQuiet = true) :
    w.SameRegistrations (w.act a) := by
  cases a with
  | push | replace | setHref | setTitle | setWidth | reveal | unload => exact ⟨rfl,rfl,rfl,rfl,rfl,rfl⟩
  | back => exact w.moveTo_sameRegistrations _
  | forward => exact w.moveTo_sameRegistrations _
  | hide =>
    simp only [act,hide]
    split_ifs <;> exact ⟨rfl,rfl,rfl,rfl,rfl,rfl⟩
  | finishLoading =>
    simp only [act,finishLoading]
    split_ifs <;> exact ⟨rfl,rfl,rfl,rfl,rfl,rfl⟩
  | track name =>
    simp only [act,trackExposed]
    split
    · exact .refl w
    · exact (w.report_reported _ _).sameRegistrations
  | onLoad label ending acts =>
    simp only [act,onLoad]
    split_ifs <;> exact ⟨rfl,rfl,rfl,rfl,rfl,rfl⟩
  | discard | install | subscribe | restore | addPopState | addLifecycle | removePopState | removeLifecycle
  | wrapHook | removeHook => cases ha

lemma perform_sameRegistrations (w : World) {t : Task} (ht : Rules.quiet.AllowsTask t) :
    w.SameRegistrations (w.perform t) := by
  refine perform_invariant (.refl w) (fun _ _ hu hr => hu.trans hr.sameRegistrations) ?_ ?_ ?_
  · exact fun u tasks hu => ⟨hu.hook,hu.popState,hu.lifecycle,hu.lastListener,hu.lastHook,hu.sources⟩
  · rintro id source rfl
    exact ht.elim
  · rintro a rfl
    exact w.act_sameRegistrations ht.own

/-- Where everything is quiet a step leaves everything registered, and everything is quiet afterwards. -/
theorem quiet_step (h : w.Obeys Rules.quiet) :
    w.step.Obeys Rules.quiet ∧ w.SameRegistrations w.step := by
  refine ⟨h.step (Rules.quiet_sound _),?_⟩
  cases hagenda : w.agenda with
  | nil =>
    rw [step_of_agenda_nil hagenda]
    exact .refl w
  | cons t rest =>
    rw [step_of_agenda_cons hagenda]
    have ht := h.agenda t (by rw [hagenda]; exact List.mem_cons_self)
    have hrest : w.SameRegistrations { w with agenda := rest } := ⟨rfl,rfl,rfl,rfl,rfl,rfl⟩
    exact hrest.trans (perform_sameRegistrations _ ht)

/-- A dispatch in which everything is quiet, to its end. -/
theorem quiet_settles (h : w.Obeys Rules.quiet) (hw : w.Settles w') :
    w'.Obeys Rules.quiet ∧ w.SameRegistrations w' := by
  refine hw.invariant (P := fun u => u.Obeys Rules.quiet ∧ w.SameRegistrations u) ⟨h,.refl w⟩ ?_
  rintro u ⟨hu,hsame⟩
  obtain ⟨hstep,hkept⟩ := quiet_step hu
  exact ⟨hstep,hsame.trans hkept⟩

end World
end PageTelemetry
