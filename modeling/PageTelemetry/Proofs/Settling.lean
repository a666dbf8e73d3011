import PageTelemetry.Proofs.Reports

/-! Doing all that an operation caused. The bounded loop is the iteration of one step, which leaves a
settled world as it is; so any bound that is large enough gives the same world. -/
namespace PageTelemetry.World

lemma step_of_agenda_nil {w : World} (h : w.agenda = []) : w.step = w := by
  simp [step,h]

lemma step_of_agenda_cons {w : World} {t : Task} {rest : List Task} (h : w.agenda = t::rest) :
    w.step = { w with agenda := rest }.perform t := by
  simp [step,h]

lemma isSettled_iff (w : World) : w.isSettled = true ↔ w.agenda = [] := by
  simp [isSettled]

/-- The bound of the loop only says how often the step is taken. -/
theorem settle_eq_iterate (n : ℕ) (w : World) : settle n w = step^[n] w := by
  induction n generalizing w with
  | zero => rfl
  | succ n ih =>
    rw [settle,Function.iterate_succ_apply]
    split_ifs with h
    · have hs : w.step = w := step_of_agenda_nil (w.isSettled_iff.mp h)
      rw [hs,Function.iterate_fixed hs]
    · exact ih w.step

/-- A world that is settled after some steps is what every larger bound gives. -/
lemma settle_of_le {w : World} {k n : ℕ} (hk : (step^[k] w).agenda = []) (hle : k ≤ n) :
    settle n w = step^[k] w := by
  obtain ⟨j,rfl⟩ := Nat.exists_eq_add_of_le' hle
  rw [settle_eq_iterate,Function.iterate_add_apply,
    Function.iterate_fixed (step_of_agenda_nil hk)]

/-- What every step keeps, all of them keep. -/
lemma settle_invariant {P : World → Prop} {w : World} (hw : P w) (hstep : ∀ u, P u → P u.step) (n : ℕ) :
    P (w.settle n) := by
  rw [settle_eq_iterate]
  exact Function.Iterate.rec P hw hstep n

/-- Two worlds that take their steps side by side. -/
lemma settle_together {R : World → World → Prop} {w w' : World} (h : R w w')
    (hstep : ∀ u u', R u u' → R u.step u'.step) (n : ℕ) : R (w.settle n) (w'.settle n) := by
  rw [settle_eq_iterate,settle_eq_iterate]
  induction n generalizing w w' with
  | zero => exact h
  | succ n ih => exact ih (hstep w w' h)

/-- A world in which all that is to be done comes to an end, and the world in which it ends. -/
def Settles (w w' : World) : Prop := ∃ n, settle n w = w' ∧ w'.isSettled = true

lemma settles_iff_iterate (w w' : World) :
    w.Settles w' ↔ w'.agenda = [] ∧ ∃ n, step^[n] w = w' := by
  simp only [Settles,settle_eq_iterate,isSettled_iff]
  tauto

lemma Settles.agenda {w w' : World} (h : w.Settles w') : w'.agenda = [] :=
  ((settles_iff_iterate w w').mp h).1

lemma settles_of_agenda_nil {w : World} (h : w.agenda = []) : w.Settles w :=
  ⟨0,rfl,w.isSettled_iff.mpr h⟩

/-- The first step does not change where a world settles. -/
theorem settles_step_iff (w w' : World) : w.step.Settles w' ↔ w.Settles w' := by
  simp only [settles_iff_iterate]
  constructor
  · rintro ⟨h,n,hn⟩
    exact ⟨h,n+1,hn⟩
  · rintro ⟨h,n,hn⟩
    refine ⟨h,n,?_⟩
    rw [← Function.iterate_succ_apply,Function.iterate_succ_apply',hn]
    exact step_of_agenda_nil h

/-- What every step keeps holds at the end. -/
theorem Settles.invariant {P : World → Prop} {w w' : World} (h : w.Settles w') (hw : P w)
    (hstep : ∀ u, P u → P u.step) : P w' := by
  obtain ⟨n,rfl,-⟩ := h
  exact settle_invariant hw hstep n

/-! A lone observer is told after two tasks, a lone listener after one. -/

variable {w : World}

lemma settle_idle {n : ℕ} (h : w.agenda = []) : settle n w = w := settle_of_le (k := 0) h (Nat.zero_le n)

lemma signal_idle (h : w.agenda = []) (hd : Handler) (s : Signal) : (w.signal hd s).agenda = [] := by
  obtain ⟨_,_,_,-,e⟩ := w.signal_reported hd s
  rw [e]
  exact h

lemma settle_signal (h : w.agenda = []) (hd : Handler) (s : Signal) :
    (w.enqueue [.signal hd s]).settle patience = w.signal hd s := by
  have hstep : step^[1] (w.enqueue [.signal hd s]) = w.signal hd s := by
    change { w with agenda := w.agenda }.signal hd s = _
    rfl
  rw [settle_of_le (k := 1) (by rw [hstep]; exact signal_idle h hd s) (by decide),hstep]

/-- The handler of a hook is told if a source still has the hook installed. -/
lemma settle_relay {id : HookId} {hd : Handler} (h : w.agenda = [])
    (hhook : w.page.hook = some (.observer id hd none)) (kind : NavigationKind) :
    (w.enqueue (hookTasks w.page kind)).settle patience =
      if w.hookActive id then w.signal hd (.navigate kind) else w := by
  have htasks : hookTasks w.page kind = [.hook (.observer id hd none) kind] := by simp [hookTasks,hhook]
  have hstep : step^[2] (w.enqueue (hookTasks w.page kind)) =
      if w.hookActive id then w.signal hd (.navigate kind) else w := by
    rw [htasks]
    rfl
  have hidle : (if w.hookActive id then w.signal hd (.navigate kind) else w).agenda = [] := by
    split_ifs
    · exact signal_idle h hd _
    · exact h
  rw [settle_of_le (k := 2) (by rw [hstep]; exact hidle) (by decide),hstep]

end PageTelemetry.World
