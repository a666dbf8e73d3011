import PageTelemetry.Proofs.Agenda
import PageTelemetry.Proofs.Ownership

/-! What a restored source still tells. Its hook is silent at once and its listeners are gone; only a dispatch
that took the listeners before may still have a signal for its handler. -/
namespace PageTelemetry.World
variable {h : Handler} {s : SourceId} {sig : Signal} {w₀ w w' : World}

/-- No source has a handler installed. -/
def Unsubscribed (h : Handler) (w : World) : Prop := ∀ s i, w.interception? s = some i → i.handler? ≠ some h

/-- A handler that no source has installed listens to nothing. -/
lemma Owned.not_listens (hw : w.Owned) (hfree : w.Unsubscribed h) : ¬w.Listens h := by
  rintro (⟨id,hmem⟩ | ⟨id,hmem⟩)
  · obtain ⟨s,i,hi,-,hhandler⟩ := hw.obeys.popState _ hmem
    exact hfree s i hi hhandler
  · obtain ⟨s,i,hi,-,hhandler⟩ := hw.obeys.lifecycle _ hmem
    exact hfree s i hi hhandler

/-- Its hooks are silent too, so the next task calls it only with a signal that waits for it. -/
lemma Owned.nextCall_pending (hw : w.Owned) (hfree : w.Unsubscribed h) (hcall : w.nextCall? = some (h,sig)) :
    ∃ rest, pending h w.agenda = sig::rest := by
  unfold nextCall? at hcall
  split at hcall
  · rename_i hd t rest hagenda
    obtain ⟨rfl,rfl⟩ := Prod.mk.inj (Option.some.inj hcall)
    refine ⟨pending hd rest,?_⟩
    rw [hagenda,← List.singleton_append,pending_append]
    simp [pending]
  · rename_i id hd kind rest hagenda
    split_ifs at hcall with hid
    obtain ⟨rfl,-⟩ := Prod.mk.inj (Option.some.inj hcall)
    obtain ⟨s,i,hi,hik⟩ := (w.hookActive_iff id).mp hid
    have hrelay := hw.obeys.agenda (.relay id hd kind) (by rw [hagenda]; exact List.mem_cons_self)
    exact absurd (hrelay.2 s i hi hik) (hfree s i hi)
  · cases hcall

/-- What waits for a handler only gets less while no source has it installed. -/
theorem Owned.pending_suffix (hw : w.Owned) (hfree : w.Unsubscribed h)
    (hrun : Runs (fun _ => True) (Unsubscribed h) w w') : pending h w'.agenda <:+ pending h w.agenda := by
  have hkept := hrun.invariant
    (P := fun u => u.Owned ∧ u.Unsubscribed h ∧ pending h u.agenda <:+ pending h w.agenda)
    ⟨hw,hfree,List.suffix_rfl⟩ ?_
  · exact hkept.2.2
  rintro u u' ⟨hu,hufree,hsuffix⟩ hlast hfree'
  refine ⟨hu.happens hlast,hfree',?_⟩
  obtain ⟨new,old,he,hold,hnew⟩ := happens_pending hlast h
  cases new with
  | nil =>
    rw [he]
    exact hold.trans hsuffix
  | cons a new => exact absurd (hnew a List.mem_cons_self).1 (hu.not_listens hufree)

/-- Only events for listeners ever wait for a handler. -/
lemma Reachable.pending_events (hw : w.Reachable) (h : Handler) : ∀ sig ∈ pending h w.agenda, IsEvent sig := by
  obtain ⟨w₀,h₀,hrun⟩ := hw
  refine hrun.invariant (P := fun u => ∀ sig ∈ pending h u.agenda, IsEvent sig) ?_ ?_
  · simp [h₀.agenda,pending]
  · intro u u' hu hlast _ sig hsig
    obtain ⟨new,old,he,hold,hnew⟩ := happens_pending hlast h
    rw [he] at hsig
    rcases List.mem_append.mp hsig with hsig | hsig
    · exact (hnew sig hsig).2
    · exact hu sig (hold.mem hsig)

/-- A source is restored while it still has the subscription of a handler. Whatever happens from then on, also
within the dispatch that is under way, the handler is not called through a hook any more, nor for any later
event, until some source has it installed again: it can only be told what listeners for popstate and lifecycle
events were about to tell it. -/
theorem restored_handler_calls (hreach : w₀.Reachable) (hs : w₀.sourceKind? s = some (.history none))
    (hrun : Runs (fun _ => True) (fun _ => True) (w₀.subscribe s h).2 w)
    (hmatch : w.interception? s = (w₀.subscribe s h).2.interception? s)
    (hsole : ∀ t i, t ≠ s → w.interception? t = some i → i.handler? ≠ some h) :
    (w.restore s).1 = true ∧ ∀ w', Runs (fun _ => True) (Unsubscribed h) (w.restore s).2 w' →
      ∀ sig, w'.nextCall? = some (h,sig) →
        IsEvent sig ∧ ∃ rest, pending h w'.agenda = sig::rest ∧ sig::rest <:+ pending h w.agenda := by
  have hi : w.interception? s = some (w₀.intercept h) := by
    rw [hmatch,subscribe_free hs,interception?_intercepted hs,if_pos rfl]
  have hw : w.Reachable := by
    obtain ⟨w₁,h₁,hrun₁⟩ := hreach
    have hsubscribed : Runs (fun _ => True) (fun _ => True) w₀ (w₀.subscribe s h).2 :=
      .single ⟨.act w₀ (a := .subscribe s h) trivial,trivial⟩
    exact ⟨w₁,h₁,(hrun₁.trans hsubscribed).trans hrun⟩
  have howned : (w.restore s).2.Owned := hw.owned.restore s
  have hagenda := w.restore_agenda s
  rw [restore_installed hi] at howned hagenda ⊢
  -- Restoring takes the only subscription of the handler away.
  have hfree : (w.restored s (w₀.intercept h)).Unsubscribed h := by
    intro t i ht
    rw [interception?_restored hi] at ht
    split_ifs at ht with hts
    exact hsole t i hts ht
  refine ⟨rfl,fun w' hrun' sig hcall => ?_⟩
  have howned' : w'.Owned := hrun'.invariant howned fun _ _ hu hlast _ => hu.happens hlast
  obtain ⟨rest,hrest⟩ := howned'.nextCall_pending (hrun'.stays hfree) hcall
  have hsuffix := howned.pending_suffix hfree hrun'
  rw [hrest,hagenda] at hsuffix
  exact ⟨hw.pending_events h sig (hsuffix.mem List.mem_cons_self),rest,hrest,hsuffix⟩

/-- Two sources of one page. -/
def twin : World where
  page := { history := .ofHref "https://a.io/", ready := .complete }
  sources := [{ kind := .history none },{ kind := .history none }]

lemma twin_fresh : twin.Fresh := by
  refine ⟨rfl,rfl,rfl,rfl,rfl,?_⟩
  rintro (_ | _ | s) <;> rfl

/-- Outside of a dispatch nothing waits, so the handler is not called until it is installed again. -/
theorem restored_handler_calls_twin : ((twin.subscribe 0 (.log "h")).2.restore 0).1 = true ∧
    ∀ w', Runs (fun _ => True) (Unsubscribed (.log "h")) ((twin.subscribe 0 (.log "h")).2.restore 0).2 w' →
      ∀ sig, w'.nextCall? ≠ some (.log "h",sig) := by
  have hreach : twin.Reachable := ⟨twin,twin_fresh,.refl⟩
  have hsole : ∀ t i, t ≠ 0 → (twin.subscribe 0 (.log "h")).2.interception? t = some i →
      i.handler? ≠ some (.log "h") := by
    rintro (_ | _ | t) i ht hi
    · exact absurd rfl ht
    · cases hi
    · cases hi
  obtain ⟨hrestored,hcalls⟩ := restored_handler_calls hreach rfl .refl rfl hsole
  refine ⟨hrestored,fun w' hrun sig hcall => ?_⟩
  obtain ⟨-,rest,-,hsuffix⟩ := hcalls w' hrun sig hcall
  exact absurd (List.suffix_nil.mp hsuffix) (List.cons_ne_nil _ _)

/-- Two sources have one handler. -/
def sharing : World := ((twin.subscribe 0 (.log "h")).2.subscribe 1 (.log "h")).2

/- A handler that is another source's too is still called for that one. -/
example : (sharing.restore 0).1 = true ∧ (sharing.restore 0).2.unload.nextCall? = some (.log "h",.unload) := ⟨rfl,rfl⟩

/-- A page with listeners that restore a source when the visitor goes back, and when the page is left. -/
def selfRestoring : World where
  page :=
    { history := ⟨["https://a.io/","https://a.io/b"],1⟩, ready := .complete
      popState := [(1,.listener ⟨"r","",[.restore 0]⟩)], lifecycle := [(2,.listener ⟨"r","",[.restore 0]⟩)]
      lastListener := 2 }
  sources := [{ kind := .history none }]

/-- The visitor has gone back, and the listener is about to restore the source. -/
def restoring : World := (selfRestoring.subscribe 0 (.log "h")).2.back.2.step

/-- The page is left, and the listener is about to restore the source. -/
def parting : World := (selfRestoring.subscribe 0 (.log "h")).2.unload.step

/-- A handler is called for the event that is under way although a listener has restored its source before it was its
turn. -/
theorem restored_handler_called :
    (restoring.agenda = [.act (.restore 0),.signal (.log "h") (.navigate .pop)] ∧ (restoring.restore 0).1 = true ∧
      restoring.step.nextCall? = some (.log "h",.navigate .pop) ∧
      restoring.step.step.events = restoring.events ++ [.signalled "h" (.navigate .pop)]) ∧
    parting.agenda = [.act (.restore 0),.signal (.log "h") .unload] ∧ (parting.restore 0).1 = true ∧
      parting.step.nextCall? = some (.log "h",.unload) ∧
      parting.step.step.events = parting.events ++ [.signalled "h" .unload] := by
  refine ⟨⟨?_,?_,?_,?_⟩,?_,?_,?_,?_⟩ <;> rfl

end PageTelemetry.World
