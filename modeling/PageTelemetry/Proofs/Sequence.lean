import PageTelemetry.Proofs.Settling

/-! An agenda is done in sequence: what stands at its end neither changes nor is changed by what is done
before its turn, provided that it keeps no tracker and no source alive. -/
namespace PageTelemetry.World

/-- Tasks none of which begins the reports of a tracker, and so keeps it. -/
def Keepless (r : List Task) : Prop := ∀ id source, Task.start id source ∉ r

/-- A world in which there is more to do at the end. -/
def followedBy (w : World) (r : List Task) : World := { w with agenda := w.agenda ++ r }

lemma enqueue_followedBy (w : World) (r tasks : List Task) :
    (w.followedBy r).enqueue tasks = (w.enqueue tasks).followedBy r := by
  simp [enqueue,followedBy,List.append_assoc]

variable {w : World} {r : List Task}

lemma Keepless.any_keepsSource (hr : Keepless r) (id : SourceId) :
    r.any (Task.keepsSource · id) = false := by
  rw [List.any_eq_false]
  rintro (_ | _ | _ | _ | ⟨t,s⟩ | _) ht
  case start => exact absurd ht (hr t s)
  all_goals simp [Task.keepsSource]

lemma Keepless.any_keepsTracker (hr : Keepless r) (id : TrackerId) :
    r.any (Task.keepsTracker · id) = false := by
  rw [List.any_eq_false]
  rintro (_ | _ | _ | _ | ⟨t,s⟩ | _) ht
  case start => exact absurd ht (hr t s)
  all_goals simp [Task.keepsTracker]

lemma sourceKept_followedBy (hr : Keepless r) (id : SourceId) :
    (w.followedBy r).sourceKept id = w.sourceKept id := by
  simp only [sourceKept,followedBy,List.any_append,hr.any_keepsSource,Bool.or_false]

lemma pageKept_followedBy (hr : Keepless r) : (w.followedBy r).pageKept = w.pageKept := by
  simp only [pageKept,sourceKept_followedBy hr]
  rfl

lemma trackerKept_followedBy (hr : Keepless r) (id : TrackerId) :
    (w.followedBy r).trackerKept id = w.trackerKept id := by
  simp only [trackerKept,pageKept_followedBy hr]
  simp only [followedBy,List.any_append,hr.any_keepsTracker,Bool.or_false]

lemma ambient_followedBy (hr : Keepless r) : (w.followedBy r).ambient = w.ambient := by
  simp only [ambient,pageKept_followedBy hr]
  rfl

lemma report_followedBy (hr : Keepless r) (id : TrackerId)
    (f : Tracker → Payload.Ambient → Int → Option Payload × Tracker) :
    ((w.followedBy r).report id f).2 = (w.report id f).2.followedBy r := by
  simp only [report,ambient_followedBy hr]
  simp only [followedBy]
  cases w.trackers[id]? with
  | none => rfl
  | some i =>
    dsimp only
    rcases (f i.tracker w.ambient w.clock.now).1 with _ | p
    · rfl
    · simp only [deliver]
      cases w.outlets[i.outlet]? with
      | none => rfl
      | some o =>
        dsimp only
        split_ifs <;> rfl

lemma signal_followedBy (hr : Keepless r) (h : Handler) (s : Signal) :
    (w.followedBy r).signal h s = (w.signal h s).followedBy r := by
  cases h with
  | log label => rfl
  | tracker id =>
    simp only [signal,trackerKept_followedBy hr]
    split_ifs
    · exact report_followedBy hr id _
    · rfl

lemma subscribe_followedBy (w : World) (r : List Task) (id : SourceId) (h : Handler) :
    ((w.followedBy r).subscribe id h).2 = (w.subscribe id h).2.followedBy r := by
  simp only [subscribe,followedBy]
  split <;> rfl

lemma restore_followedBy (w : World) (r : List Task) (id : SourceId) :
    ((w.followedBy r).restore id).2 = (w.restore id).2.followedBy r := by
  simp only [restore,followedBy]
  split <;> rfl

lemma start_followedBy (hr : Keepless r) (id : TrackerId) (source : Option SourceId) :
    (w.followedBy r).start id source = (w.start id source).followedBy r := by
  have hview : ((w.followedBy r).trackPageView id).2 = (w.trackPageView id).2.followedBy r :=
    report_followedBy hr id _
  simp only [start,hview]
  cases source with
  | some s => exact subscribe_followedBy _ r s _
  | none =>
    simp only [pageKept_followedBy hr]
    split_ifs
    · exact subscribe_followedBy ((w.trackPageView id).2.addSource (.history none) false).2 r _ _
    · rfl

lemma install_followedBy (hr : Keepless r) (c : Config) (source : Option SourceId) (outlet : OutletId) :
    ((w.followedBy r).install c source outlet).2 = (w.install c source outlet).2.followedBy r := by
  have hpage : (w.followedBy r).page = w.page := rfl
  simp only [install,hpage]
  split_ifs with hoff
  · rfl
  · cases w.page.global? Page.namespaceName with
    | some id => rfl
    | none =>
      cases c.resolve with
      | error e => rfl
      | ok st =>
        have hstart := start_followedBy hr w.trackers.length source
          (w := (w.addTracker st outlet).2.modifyPage (·.expose Page.namespaceName w.trackers.length))
        by_cases hready : w.page.ready = .complete
        · simp only [addTracker,modifyPage,Page.expose,followedBy,hready,if_true] at hstart ⊢
          exact hstart
        · simp only [addTracker,modifyPage,Page.expose,followedBy,hready,if_false]

lemma moveTo_followedBy (w : World) (r : List Task) (h : Option History) :
    ((w.followedBy r).moveTo h).2 = (w.moveTo h).2.followedBy r := by
  cases h with
  | none => rfl
  | some h =>
    exact enqueue_followedBy (w.modifyPage fun p => { p with history := h }) r (w.page.popState.map popStateTask)

lemma hide_followedBy (w : World) (r : List Task) : (w.followedBy r).hide = w.hide.followedBy r := by
  simp only [hide]
  split_ifs with hv hv'
  · exact enqueue_followedBy (w.modifyPage fun p => { p with visibility := .hidden }) r _
  · exact absurd hv hv'
  · exact absurd ‹w.page.visibility = .visible› hv
  · rfl

/-- An operation does not see what is left for later. -/
theorem act_followedBy (hr : Keepless r) (a : Act) : (w.followedBy r).act a = (w.act a).followedBy r := by
  cases a with
  | push url =>
    exact enqueue_followedBy (w.modifyPage fun p => { p with history := p.history.push (p.resolve url) }) r _
  | replace url =>
    exact enqueue_followedBy (w.modifyPage fun p => { p with history := p.history.replace (p.resolve url) }) r _
  | back => exact moveTo_followedBy w r w.page.history.back?
  | forward => exact moveTo_followedBy w r w.page.history.forward?
  | hide => exact hide_followedBy w r
  | unload => exact enqueue_followedBy w r _
  | finishLoading =>
    simp only [act,finishLoading]
    by_cases hready : w.page.ready = .complete
    · rw [if_pos hready,if_pos (by exact hready)]
    · rw [if_neg hready,if_neg (by exact hready)]
      exact enqueue_followedBy (w.modifyPage fun p => { p with ready := .complete, onLoad := [] }) r _
  | track name =>
    have hpage : (w.followedBy r).page = w.page := rfl
    simp only [act,trackExposed,hpage]
    cases w.page.global? Page.namespaceName with
    | none => rfl
    | some id => exact report_followedBy hr id _
  | install c source outlet => exact install_followedBy hr c source outlet
  | subscribe source h => exact subscribe_followedBy w r source h
  | restore source => exact restore_followedBy w r source
  | onLoad label ending acts =>
    simp only [act,onLoad]
    by_cases hready : w.page.ready = .complete
    · rw [if_pos hready,if_pos (by exact hready)]
      exact enqueue_followedBy w r _
    · rw [if_neg hready,if_neg (by exact hready)]
      rfl
  | setHref | setTitle | setWidth | reveal | discard | addPopState | addLifecycle | removePopState
  | removeLifecycle | wrapHook | removeHook => rfl

lemma call_followedBy (hr : Keepless r) (l : Listener) (o : Occasion) :
    (w.followedBy r).call l o = (w.call l o).followedBy r := by
  have hreacts : (w.followedBy r).reacts l = w.reacts l := by
    simp only [reacts,pageKept_followedBy hr]
    rfl
  have hnote : (w.followedBy r).note (.heard l.label o (w.followedBy r).ambient.href) =
      (w.note (.heard l.label o w.ambient.href)).followedBy r := by
    rw [ambient_followedBy hr]
    rfl
  simp only [call,hnote]
  change (if (w.followedBy r).reacts l then _ else _) = (if w.reacts l then _ else _ : World).followedBy r
  rw [hreacts]
  split_ifs
  · exact enqueue_followedBy ..
  · rfl

/-- A task does not see what is left for later. -/
theorem perform_followedBy (hr : Keepless r) (t : Task) :
    (w.followedBy r).perform t = (w.perform t).followedBy r := by
  cases t with
  | hook h kind => cases h <;> exact enqueue_followedBy ..
  | relay id h kind =>
    have hactive : (w.followedBy r).hookActive id = w.hookActive id := rfl
    simp only [perform,hactive]
    split_ifs
    · exact signal_followedBy hr h _
    · rfl
  | call l o => exact call_followedBy hr l o
  | signal h s => exact signal_followedBy hr h s
  | start id source => exact start_followedBy hr id source
  | act a => exact act_followedBy hr a

lemma step_followedBy (hr : Keepless r) (h : w.agenda ≠ []) :
    (w.followedBy r).step = w.step.followedBy r := by
  obtain ⟨t,rest,ht⟩ := List.exists_cons_of_ne_nil h
  have hagenda : (w.followedBy r).agenda = t::(rest ++ r) := by simp [followedBy,ht]
  rw [step_of_agenda_cons ht,step_of_agenda_cons hagenda]
  exact perform_followedBy (w := { w with agenda := rest }) hr t

/-- A world settles with more to do at the end if it settles without it and then does the rest. -/
theorem settles_followedBy_iff (hr : Keepless r) (w W : World) :
    (w.followedBy r).Settles W ↔ ∃ w', w.Settles w' ∧ (w'.followedBy r).Settles W := by
  constructor
  · intro h
    obtain ⟨hW,n,hn⟩ := (settles_iff_iterate _ _).mp h
    induction n generalizing w with
    | zero =>
      have hempty : w.agenda = [] := by
        have : (w.followedBy r).agenda = [] := by rw [show w.followedBy r = W from hn,hW]
        exact (List.append_eq_nil_iff.mp this).1
      exact ⟨w,settles_of_agenda_nil hempty,h⟩
    | succ n ih =>
      by_cases hempty : w.agenda = []
      · exact ⟨w,settles_of_agenda_nil hempty,h⟩
      · have hstep := step_followedBy hr hempty
        obtain ⟨w',hw',hrest⟩ := ih w.step (by rw [← hstep,settles_step_iff]; exact h)
          (by rw [← hstep]; exact hn)
        exact ⟨w',(settles_step_iff w w').mp hw',hrest⟩
  · rintro ⟨w',hw',hrest⟩
    obtain ⟨-,n,rfl⟩ := (settles_iff_iterate _ _).mp hw'
    clear hw'
    induction n generalizing w with
    | zero => exact hrest
    | succ n ih =>
      by_cases hempty : w.agenda = []
      · have hfix : step^[n+1] w = w := Function.iterate_fixed (step_of_agenda_nil hempty) _
        rwa [hfix] at hrest
      · rw [← settles_step_iff,step_followedBy hr hempty]
        exact ih w.step hrest

/-- Tasks in front of an agenda are done before it. -/
theorem settles_enqueue_append_iff {A B : List Task} (hr : Keepless (B ++ w.agenda)) (W : World) :
    (w.enqueue (A ++ B)).Settles W ↔
      ∃ u, { w with agenda := A }.Settles u ∧ { u with agenda := B ++ w.agenda }.Settles W := by
  have hw : w.enqueue (A ++ B) = { w with agenda := A }.followedBy (B ++ w.agenda) := by
    simp [enqueue,followedBy]
  rw [hw,settles_followedBy_iff hr]
  constructor
  · rintro ⟨u,hu,hrest⟩
    refine ⟨u,hu,?_⟩
    rwa [followedBy,hu.agenda,List.nil_append] at hrest
  · rintro ⟨u,hu,hrest⟩
    refine ⟨u,hu,?_⟩
    rwa [followedBy,hu.agenda,List.nil_append]

/-- Tasks that come to the same once those before them are done can stand for one another. -/
theorem settles_enqueue_congr {A B B' : List Task} {W : World} (hr : Keepless (B ++ w.agenda))
    (hr' : Keepless (B' ++ w.agenda))
    (h : ∀ u, { w with agenda := A }.Settles u →
      ({ u with agenda := B ++ w.agenda }.Settles W ↔ { u with agenda := B' ++ w.agenda }.Settles W)) :
    (w.enqueue (A ++ B)).Settles W ↔ (w.enqueue (A ++ B')).Settles W := by
  rw [settles_enqueue_append_iff hr,settles_enqueue_append_iff hr']
  constructor
  · rintro ⟨u,hu,hrest⟩
    exact ⟨u,hu,(h u hu).mp hrest⟩
  · rintro ⟨u,hu,hrest⟩
    exact ⟨u,hu,(h u hu).mpr hrest⟩

end PageTelemetry.World
