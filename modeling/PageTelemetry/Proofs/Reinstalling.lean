import PageTelemetry.Proofs.Discarding
import PageTelemetry.Proofs.Journal
import PageTelemetry.Proofs.Tenancy

/-! Installing again after a discard. What a page has lost it gets anew: the tracker that is installed next is the
only one that the page, or the source that it was given, tells of navigation. But a source that has a subscriber
keeps it, whatever has become of the page. -/
namespace PageTelemetry.World
open Page Tracker
variable {w₀ w w' u : World} {t : TrackerId} {st : Settings} {outlet : OutletId} {c : Config}
  {source : Option SourceId}

/-- Nothing has been left on the page. -/
structure Bare (w : World) : Prop where
  idle : w.agenda = []
  unobserved : w.page.Unobserved
  globals : w.page.globals = []

lemma Bare.restored (h : w.Bare) (s : SourceId) (i : Interception) : (w.restored s i).Bare := by
  obtain ⟨hhook,hpop,hlife⟩ := h.unobserved
  have hpage : (w.restored s i).page = w.restoredPage i := rfl
  refine ⟨h.idle,⟨?_,?_,?_⟩,?_⟩
  all_goals simp [hpage,restoredPage,replaceHookIf,removePopState,removeLifecycle,hhook,hpop,hlife,h.globals]

/-- Nothing comes back onto the page when sources are restored, or with the clock, trackers and new sources. -/
lemma Bare.happens (h : w.Bare) (hw : Happens (fun a => ∃ s, a = .restore s) w w') : w'.Bare := by
  cases hw with
  | step => rwa [step_of_agenda_nil h.idle]
  | act ha =>
    obtain ⟨s,rfl⟩ := ha
    change (w.restore s).2.Bare
    cases hi : w.interception? s with
    | none => rwa [restore_free hi]
    | some i => rw [restore_installed hi]; exact h.restored s i
  | report hr =>
    obtain ⟨_,_,_,-,rfl⟩ := hr
    exact ⟨h.idle,h.unobserved,h.globals⟩
  | keep => exact ⟨h.idle,h.unobserved,h.globals⟩
  | hold => exact ⟨h.idle,h.unobserved,h.globals⟩
  | addTracker => exact ⟨h.idle,h.unobserved,h.globals⟩
  | addSource => exact ⟨h.idle,h.unobserved,h.globals⟩

lemma discard_bare (hidle : w.agenda = []) : (w.run .discard).Bare := by
  rw [run,settle_idle (by exact hidle)]
  exact ⟨hidle,⟨rfl,rfl,rfl⟩,rfl⟩

/-- Where the signals come from that a source tells. -/
inductive Channel
  /-- From the page. -/
  | history
  /-- From whoever drives the source. -/
  | memory (s : SourceId)

/-- What a source opens to a new subscriber; nothing if it refuses, as one does that has a subscriber. Without a
source the history of the page is observed. -/
def channel? (w : World) : Option SourceId → Option Channel
  | none => some .history
  | some s =>
    match w.sourceKind? s with
    | some (.history none) => some .history
    | some (.memory none) => some (.memory s)
    | _ => none

/-- A tracker with its settings and its outlet is the one that is exposed on a page with a complete document. -/
structure Occupies (t : TrackerId) (st : Settings) (outlet : OutletId) (w : World) : Prop where
  idle : w.agenda = []
  held : w.pageHeld = true
  complete : w.page.ready = .complete
  tenant : w.page.tenant? = some t
  tracker : ∃ i, w.trackers[t]? = some i ∧ i.tracker.settings = st ∧ i.outlet = outlet

/-- A tracker is the only one that a channel tells what happens. -/
inductive Told (t : TrackerId) (w : World) : Channel → Prop
  | history {hook pop life : ℕ} (hhook : w.page.hook = some (.observer hook (.tracker t) none))
    (hactive : w.hookActive hook = true) (hpop : w.page.popState = [(pop,.handler (.tracker t))])
    (hlife : w.page.lifecycle = [(life,.handler (.tracker t))]) : Told t w .history
  | memory {s : SourceId} (hu : w.page.Unobserved)
    (hs : w.sourceKind? s = some (.memory (some (.tracker t)))) : Told t w (.memory s)

/-! What happens to such a page. -/

lemma Occupies.kept (h : w.Occupies t st outlet) : w.trackerKept t = true := by
  have hpage : w.pageKept = true := by simp [pageKept,h.held]
  obtain ⟨pre,post,hglobals,-⟩ := List.lookup_eq_some_iff.mp h.tenant
  simp [trackerKept,hpage,hglobals]

lemma Occupies.signal (h : w.Occupies t st outlet) (s : Signal) :
    w.signal (.tracker t) s = (w.ask t (.signal s)).2 := signal_tracker h.kept s

/-- Another page in place of one, with the same tracker on it. -/
lemma Occupies.modifyPage (h : w.Occupies t st outlet) {f : Page → Page} (hready : (f w.page).ready = w.page.ready)
    (hglobals : (f w.page).globals = w.page.globals) : (w.modifyPage f).Occupies t st outlet := by
  refine ⟨h.idle,h.held,hready.trans h.complete,?_,h.tracker⟩
  change (f w.page).globals.lookup namespaceName = some t
  rw [hglobals]
  exact h.tenant

lemma Told.modifyPage {ch : Channel} (h : w.Told t ch) {f : Page → Page} (hhook : (f w.page).hook = w.page.hook)
    (hpop : (f w.page).popState = w.page.popState) (hlife : (f w.page).lifecycle = w.page.lifecycle) :
    (w.modifyPage f).Told t ch := by
  cases h with
  | history h₁ h₂ h₃ h₄ => exact .history (hhook.trans h₁) h₂ (hpop.trans h₃) (hlife.trans h₄)
  | memory hu hs => exact .memory ⟨hhook.trans hu.hook,hpop.trans hu.popState,hlife.trans hu.lifecycle⟩ hs

lemma answer_settings (c : Call) (tracker : Tracker) (a : Payload.Ambient) (now : ℤ) :
    (c.answer tracker a now).2.settings = tracker.settings := by
  cases c with
  | track overrides => exact tracker.note_settings now _
  | pageView => exact trackPageView_truthful.settings ..
  | leave => exact trackLeave_truthful.settings ..
  | signal s => exact (handle_truthful s).settings ..

/-- What a tracker is asked for changes neither its settings nor its place. -/
lemma Occupies.ask (h : w.Occupies t st outlet) (id : TrackerId) (call : Call) :
    (w.ask id call).2.Occupies t st outlet := by
  obtain ⟨i,hi,hst,hout⟩ := h.tracker
  have htracker : ∃ j, (w.ask id call).2.trackers[t]? = some j ∧ j.tracker.settings = st ∧ j.outlet = outlet := by
    by_cases hid : id = t
    · subst hid
      exact ⟨_,ask_tracker hi call,(answer_settings ..).trans hst,hout⟩
    · refine ⟨i,?_,hst,hout⟩
      rw [ask_eq_report]
      cases hj : w.trackers[id]? with
      | none => simpa [report,hj] using hi
      | some j => rw [report_trackers hj,List.getElem?_set_ne hid,hi]
  obtain ⟨_,_,_,-,e⟩ := w.report_reported id call.answer
  rw [ask_eq_report,e] at htracker ⊢
  exact ⟨h.idle,h.held,h.complete,h.tenant,htracker⟩

lemma Told.ask {ch : Channel} (h : w.Told t ch) (id : TrackerId) (call : Call) : (w.ask id call).2.Told t ch := by
  obtain ⟨_,_,_,-,e⟩ := w.report_reported id call.answer
  rw [ask_eq_report,e]
  cases h with
  | history h₁ h₂ h₃ h₄ => exact .history h₁ h₂ h₃ h₄
  | memory hu hs => exact .memory hu hs

/-- What the tracker hears of an event on the page. -/
def hear (t : TrackerId) (w : World) (s : Signal) : Channel → World
  | .history => (w.ask t (.signal s)).2
  | .memory _ => w

variable {ch : Channel}

lemma settle_hook (h : w.Occupies t st outlet) (ht : w.Told t ch) (kind : NavigationKind) :
    (w.enqueue (hookTasks w.page kind)).settle patience = w.hear t (.navigate kind) ch := by
  cases ht with
  | history hhook hactive _ _ => rw [settle_relay h.idle hhook,if_pos hactive,h.signal]; rfl
  | memory hu _ =>
    have htasks : hookTasks w.page kind = [] := by simp [hookTasks,hu.hook]
    rw [htasks,settle_idle (by exact h.idle)]
    rfl

lemma settle_popState (h : w.Occupies t st outlet) (ht : w.Told t ch) :
    (w.enqueue (w.page.popState.map popStateTask)).settle patience = w.hear t (.navigate .pop) ch := by
  cases ht with
  | @history _ pop _ _ _ hpop _ =>
    rw [hpop]
    change (w.enqueue [.signal (.tracker t) (.navigate .pop)]).settle patience = _
    rw [settle_signal h.idle,h.signal]
    rfl
  | memory hu _ => rw [hu.popState,List.map_nil,settle_idle (by exact h.idle)]; rfl

lemma settle_dispatch (h : w.Occupies t st outlet) (ht : w.Told t ch) (e : LifecycleEvent) :
    (w.dispatch e).settle patience = w.hear t e.signal ch := by
  rw [dispatch]
  cases ht with
  | history _ _ _ hlife =>
    rw [hlife]
    change (w.enqueue [.signal (.tracker t) e.signal]).settle patience = _
    rw [settle_signal h.idle,h.signal]
    rfl
  | memory hu _ => rw [hu.lifecycle,List.map_nil,settle_idle (by exact h.idle)]; rfl

/-- How a tracker stands on its page, and that its channel tells it. -/
structure Watches (t : TrackerId) (st : Settings) (outlet : OutletId) (ch : Channel) (w : World) : Prop where
  occupies : w.Occupies t st outlet
  told : w.Told t ch

lemma Watches.hear (h : w.Watches t st outlet ch) (s : Signal) : (w.hear t s ch).Watches t st outlet ch := by
  cases ch with
  | history => exact ⟨h.occupies.ask t _,h.told.ask t _⟩
  | memory => exact h

/-- Another location, title or visibility. -/
lemma Watches.modifyPage (h : w.Watches t st outlet ch) {f : Page → Page} (hready : (f w.page).ready = w.page.ready)
    (hglobals : (f w.page).globals = w.page.globals) (hhook : (f w.page).hook = w.page.hook)
    (hpop : (f w.page).popState = w.page.popState) (hlife : (f w.page).lifecycle = w.page.lifecycle) :
    (w.modifyPage f).Watches t st outlet ch :=
  ⟨h.occupies.modifyPage hready hglobals,h.told.modifyPage hhook hpop hlife⟩

lemma Watches.moved (h : w.Watches t st outlet ch) (f : Page → History) :
    (w.modifyPage fun p => { p with history := f p }).Watches t st outlet ch := h.modifyPage rfl rfl rfl rfl rfl

/-- A tracker that watches a page goes on with it, whatever an embedder does short of a discard. -/
theorem Watches.run (h : w.Watches t st outlet ch) {a : Act} (ha : a.isEmbedding = true) (hne : a ≠ .discard) :
    (w.run a).Watches t st outlet ch := by
  have hstill {u : World} (hu : u.Watches t st outlet ch) : (u.settle patience).Watches t st outlet ch := by
    rw [settle_idle hu.occupies.idle]
    exact hu
  have hhook {u : World} (hu : u.Watches t st outlet ch) (kind : NavigationKind) :
      ((u.enqueue (hookTasks u.page kind)).settle patience).Watches t st outlet ch := by
    rw [settle_hook hu.occupies hu.told]
    exact hu.hear _
  have hmoveTo (target : Option History) : ((w.moveTo target).2.settle patience).Watches t st outlet ch := by
    cases target with
    | none => exact hstill h
    | some target =>
      have hmoved := h.moved fun _ => target
      change (((w.modifyPage fun p => { p with history := target }).enqueue _).settle patience).Watches t st outlet ch
      rw [settle_popState hmoved.occupies hmoved.told]
      exact hmoved.hear _
  have hevent {u : World} (hu : u.Watches t st outlet ch) (e : LifecycleEvent) :
      ((u.dispatch e).settle patience).Watches t st outlet ch := by
    rw [settle_dispatch hu.occupies hu.told]
    exact hu.hear _
  cases a with
  | push url => exact hhook (h.moved fun p => p.history.push (p.resolve url)) .push
  | replace url => exact hhook (h.moved fun p => p.history.replace (p.resolve url)) .replace
  | setHref url => exact hstill (h.moved fun p => p.history.replace (p.resolve url))
  | back => exact hmoveTo _
  | forward => exact hmoveTo _
  | setTitle title => exact hstill (h.modifyPage (f := fun p => { p with title := title }) rfl rfl rfl rfl rfl)
  | setWidth width => exact hstill (h.modifyPage (f := fun p => { p with width := width }) rfl rfl rfl rfl rfl)
  | reveal => exact hstill (h.modifyPage (f := fun p => { p with visibility := .visible }) rfl rfl rfl rfl rfl)
  | hide =>
    have hhidden : (w.modifyPage fun p => { p with visibility := .hidden }).Watches t st outlet ch :=
      h.modifyPage rfl rfl rfl rfl rfl
    simp only [World.run,act,hide]
    split_ifs
    · exact hevent hhidden .hidden
    · exact hstill hhidden
  | unload => exact hevent h .unload
  | finishLoading =>
    simp only [World.run,act,finishLoading,h.occupies.complete,if_true]
    exact hstill h
  | discard => exact absurd rfl hne
  | track name =>
    have htenant : w.page.global? namespaceName = some t := h.occupies.tenant
    simp only [World.run,act,trackExposed,htenant]
    exact hstill ⟨h.occupies.ask t (.track _),h.told.ask t (.track _)⟩
  | install c source outlet =>
    rcases w.install_cases c source outlet with e | ⟨hnone,-⟩
    · simp only [World.run,act,e]
      exact hstill h
    · rw [show w.page.global? namespaceName = some t from h.occupies.tenant] at hnone
      cases hnone
  | subscribe | restore | onLoad | addPopState | addLifecycle | removePopState | removeLifecycle | wrapHook
  | removeHook => cases ha

/-- What may happen until the page is discarded: the embedder operates on it, drives a source, asks any tracker for
a report, or changes clock, APIs and outlets. -/
inductive Proceeds : World → World → Prop
  | operate (w : World) {a : Act} (ha : a.isEmbedding = true) (hne : a ≠ .discard) : Proceeds w (w.run a)
  | emit (w : World) (s : SourceId) (sg : Signal) : Proceeds w (w.emit s sg)
  | ask (w : World) (id : TrackerId) (call : Call) : Proceeds w (w.ask id call).2
  | keep (w : World) (clock : ManualClock) (handles : List TrackerId) (outlets : List Outlet) :
    Proceeds w { w with clock := clock, handles := handles, outlets := outlets }

lemma Watches.signal (h : w.Watches t st outlet ch) (hd : Handler) (s : Signal) :
    (w.signal hd s).Watches t st outlet ch := by
  cases hd with
  | tracker id =>
    simp only [World.signal]
    split_ifs
    · exact ⟨h.occupies.ask id (.signal s),h.told.ask id (.signal s)⟩
    · exact h
  | log label =>
    obtain ⟨⟨h₁,h₂,h₃,h₄,h₅⟩,htold⟩ := h
    refine ⟨⟨h₁,h₂,h₃,h₄,h₅⟩,?_⟩
    cases htold with
    | history k₁ k₂ k₃ k₄ => exact .history k₁ k₂ k₃ k₄
    | memory hu hs => exact .memory hu hs

theorem Watches.proceeds (h : w.Watches t st outlet ch) (hw : Proceeds w w') : w'.Watches t st outlet ch := by
  cases hw with
  | operate ha hne => exact h.run ha hne
  | emit s sg =>
    simp only [World.emit]
    split
    · exact h.signal _ sg
    · exact h
  | ask id call => exact ⟨h.occupies.ask id call,h.told.ask id call⟩
  | keep =>
    obtain ⟨⟨h₁,h₂,h₃,h₄,h₅⟩,htold⟩ := h
    refine ⟨⟨h₁,h₂,h₃,h₄,h₅⟩,?_⟩
    cases htold with
    | history k₁ k₂ k₃ k₄ => exact .history k₁ k₂ k₃ k₄
    | memory hu hs => exact .memory hu hs

/-- By induction on what happens. -/
theorem Watches.run_proceeds (h : w.Watches t st outlet ch) (hrun : Relation.ReflTransGen Proceeds w w') :
    w'.Watches t st outlet ch := by
  induction hrun with
  | refl => exact h
  | tail _ hlast ih => exact ih.proceeds hlast

/-! Navigation. -/

/-- A navigation that a channel tells of: the world in which the location is the new one and nobody has been told,
and the world in which all is done. -/
inductive Navigates (w : World) : Channel → World → World → Prop
  | push (url : String) : Navigates w .history
    (w.modifyPage fun p => { p with history := p.history.push (p.resolve url) }) (w.run (.push url))
  | replace (url : String) : Navigates w .history
    (w.modifyPage fun p => { p with history := p.history.replace (p.resolve url) }) (w.run (.replace url))
  | back {target : History} (h : w.page.history.back? = some target) : Navigates w .history
    (w.modifyPage fun p => { p with history := target }) (w.run .back)
  | forward {target : History} (h : w.page.history.forward? = some target) : Navigates w .history
    (w.modifyPage fun p => { p with history := target }) (w.run .forward)
  | emit (s : SourceId) (kind : NavigationKind) : Navigates w (.memory s) w (w.emit s (.navigate kind))

/-- A navigation asks the tracker that watches the page, and nobody else. -/
theorem Watches.navigates (h : w.Watches t st outlet ch) (hw : w.Navigates ch u w') :
    u.Watches t st outlet ch ∧ ∃ kind, w' = (u.ask t (.signal (.navigate kind))).2 := by
  have hmoveTo {target : History} (hh : w.Watches t st outlet .history) :
      (w.moveTo (some target)).2.settle patience =
        ((w.modifyPage fun p => { p with history := target }).ask t (.signal (.navigate .pop))).2 := by
    have hmoved := hh.moved fun _ => target
    exact settle_popState hmoved.occupies hmoved.told
  cases hw with
  | push url =>
    have hmoved := h.moved fun p => p.history.push (p.resolve url)
    exact ⟨hmoved,.push,settle_hook hmoved.occupies hmoved.told .push⟩
  | replace url =>
    have hmoved := h.moved fun p => p.history.replace (p.resolve url)
    exact ⟨hmoved,.replace,settle_hook hmoved.occupies hmoved.told .replace⟩
  | @back target hback =>
    refine ⟨h.moved fun _ => target,.pop,?_⟩
    rw [← hmoveTo h,← hback]
    rfl
  | @forward target hforward =>
    refine ⟨h.moved fun _ => target,.pop,?_⟩
    rw [← hmoveTo h,← hforward]
    rfl
  | emit s kind =>
    cases h.told with
    | memory hu hs =>
      refine ⟨h,kind,?_⟩
      rw [← h.occupies.signal]
      unfold sourceKind? at hs
      simp only [World.emit,hs]

/-- A tracker reports a page view of the location to its outlet, and takes note of it. -/
def Views (t : TrackerId) (st : Settings) (outlet : OutletId) (w w' : World) : Prop :=
  ∃ i p, w.trackers[t]? = some i ∧ p.name = "" ∧ p.duration = 0 ∧ p.path = Location.path w.page.href st.includeQuery ∧
    w'.trackers[t]? = some { i with tracker := i.tracker.note w.clock.now p } ∧ ∀ out, w.outlets[outlet]? = some out →
      w'.sent = w.sent ++ if out.accepts then [w.delivery t outlet (Request.ofPayload st p)] else []

/-- A tracker that is told of a navigation reports another path than its last one. -/
lemma Occupies.views (h : w.Occupies t st outlet) (hcurrent : ¬w.Current t) (kind : NavigationKind) :
    w.Views t st outlet (w.ask t (.signal (.navigate kind))).2 := by
  obtain ⟨i,hi,rfl,rfl⟩ := h.tracker
  have hkept : w.pageKept = true := by simp [pageKept,h.held]
  have hlast : i.tracker.lastPath ≠ some (i.tracker.pathAt w.ambient.href) := by
    rw [ambient_kept hkept]
    exact fun hlast => hcurrent ⟨i,hi,hlast⟩
  have hanswer : (Call.signal (.navigate kind)).answer i.tracker w.ambient w.clock.now =
      (some (i.tracker.track w.ambient w.clock.now none).1,(i.tracker.track w.ambient w.clock.now none).2) :=
    if_neg hlast
  have hp := (ask_answer hi (.signal (.navigate kind))).trans (congrArg Prod.fst hanswer)
  obtain ⟨hname,hduration,-⟩ := answer_viewed (c := .signal (.navigate kind)) rfl (congrArg Prod.fst hanswer)
  refine ⟨i,_,hi,hname,hduration,?_,?_,fun out hout => ask_sent hi hp hout⟩
  · have hpath := trackPageView_truthful.path _ _ _ _ (congrArg Prod.fst hanswer)
    rw [ambient_kept hkept] at hpath ⊢
    exact hpath
  · rw [ask_tracker hi,hanswer]
    rfl

/-! The installation. -/

/-- On a page with a tracker that has looked at it, the channel that its source opens tells that tracker. -/
lemma Occupies.observe (h : w.Occupies t st outlet) (hu : w.page.Unobserved) {s : SourceId}
    (hch : w.channel? (some s) = some ch) : (w.subscribe s (.tracker t)).2.Watches t st outlet ch := by
  simp only [channel?] at hch
  split at hch
  · rename_i hs
    obtain rfl := Option.some.inj hch
    rw [subscribe_free hs]
    refine ⟨⟨h.idle,h.held,h.complete,h.tenant,h.tracker⟩,
      @Told.history t _ (w.lastHook+1) (w.page.lastListener+1) (w.page.lastListener+2) ?_ ?_ ?_ ?_⟩
    · exact congrArg (fun k => some (Hook.observer (w.lastHook+1) (.tracker t) k)) hu.hook
    · refine (hookActive_iff ..).mpr ⟨s,w.intercept (.tracker t),?_,rfl⟩
      rw [interception?_intercepted hs,if_pos rfl]
    · exact congrArg (· ++ [(w.page.lastListener+1,Callback.handler (.tracker t))]) hu.popState
    · exact congrArg (· ++ [(w.page.lastListener+2,Callback.handler (.tracker t))]) hu.lifecycle
  · rename_i hs
    obtain rfl := Option.some.inj hch
    rw [subscribe_memory hs]
    refine ⟨⟨h.idle,h.held,h.complete,h.tenant,h.tracker⟩,.memory hu ?_⟩
    rw [sourceKind?_setSource,if_pos rfl,hs]
    rfl
  · cases hch

/-- A source that opens no channel stays as it is, and so does the page. -/
lemma subscribe_refused {s : SourceId} (hch : w.channel? (some s) = none) (hd : Handler) :
    (w.subscribe s hd).2 = w := by
  rcases w.subscribe_cases s hd with ⟨hs,-⟩ | ⟨hs,-⟩ | e
  · simp [channel?,hs] at hch
  · simp [channel?,hs] at hch
  · rw [e]

lemma subscribe_current (h : w.Current t) (s : SourceId) (hd : Handler) : (w.subscribe s hd).2.Current t := by
  rcases w.subscribe_cases s hd with ⟨-,e⟩ | ⟨-,e⟩ | e <;> rw [e] <;> exact h

/-- A tracker on a page that nobody observes looks at it, and is told by the channel that its source opens. If it
opens none, that is all. -/
lemma Occupies.start (h : w.Occupies t st outlet) (hu : w.page.Unobserved) (source : Option SourceId) :
    (w.start t source).Current t ∧
    (∀ ch, w.channel? source = some ch → (w.start t source).Watches t st outlet ch) ∧
    (w.channel? source = none → w.start t source = (w.trackPageView t).2) := by
  obtain ⟨i,hi,-⟩ := h.tracker
  have hcurrent : (w.trackPageView t).2.Current t := trackPageView_current (by simp [pageKept,h.held]) hi
  have hviewed : (w.trackPageView t).2.Occupies t st outlet := h.ask t .pageView
  have hpage : (w.trackPageView t).2.page = w.page := w.report_page t
  obtain ⟨_,_,_,-,e⟩ := w.report_reported t Tracker.trackPageView
  cases source with
  | some s =>
    have hch : (w.trackPageView t).2.channel? (some s) = w.channel? (some s) := by
      rw [trackPageView,e]
      rfl
    refine ⟨subscribe_current hcurrent s _,fun ch hopen => ?_,fun hrefused => ?_⟩
    · exact hviewed.observe (hpage ▸ hu) (hch.trans hopen)
    · exact subscribe_refused (hch.trans hrefused) _
  | none =>
    have hkept : (w.trackPageView t).2.pageKept = true := by simp [pageKept,hviewed.held]
    set v := (w.trackPageView t).2
    have hstart : w.start t none =
        ((v.addSource (.history none) false).2.subscribe v.sources.length (.tracker t)).2 := if_pos hkept
    have hch : (v.addSource (.history none) false).2.channel? (some v.sources.length) = some .history := by
      simp [channel?,sourceKind?,addSource]
    have hadded : (v.addSource (.history none) false).2.Occupies t st outlet :=
      ⟨hviewed.idle,hviewed.held,hviewed.complete,hviewed.tenant,hviewed.tracker⟩
    rw [hstart]
    refine ⟨subscribe_current (w := (v.addSource (.history none) false).2) hcurrent _ _,?_,by simp [channel?]⟩
    rintro ch ⟨⟩
    exact hadded.observe (hpage ▸ hu) hch

lemma Bare.enroll (h : w.Bare) (hheld : w.pageHeld = true) (hready : w.page.ready = .complete) :
    (w.enroll st outlet).Occupies w.trackers.length st outlet := by
  refine ⟨h.idle,hheld,hready,tenant?_expose w.page _,⟨.ofSettings st,outlet⟩,?_,rfl,rfl⟩
  change (w.trackers ++ [⟨.ofSettings st,outlet⟩])[w.trackers.length]? = _
  simp

/-- An installation on a page without a tracker is a page view of the new one, and then the start of its source. -/
lemma Bare.install (h : w.Bare) (hready : w.page.ready = .complete) (henabled : c.enabled = true)
    (hst : c.resolve = .ok st) : w.install c source outlet =
      (some w.trackers.length,(w.enroll st outlet).start w.trackers.length source) := by
  have hfree : w.page.global? namespaceName = none := by rw [global?,h.globals]; rfl
  have hready' : ((w.addTracker st outlet).2.modifyPage (·.expose namespaceName w.trackers.length)).page.ready =
      .complete := hready
  simp only [World.install,henabled,hfree,hst]
  rw [if_neg (by simp),if_pos (by exact hready')]
  rfl

/-- A page was discarded, and since then, maybe, sources were restored or made, or what else does not touch the page.
Whatever the page and its sources have been through, a tracker that is installed then on the complete document is a
new one, and has looked at the page. Until the next discard, any navigation that the source in use tells of and that
leads away from the last path of that tracker has it report a page view. But a source that has a subscriber keeps
it, and then nothing observes the page. -/
theorem reinstalled_views (hidle : w₀.agenda = [])
    (hsince : Runs (fun a => ∃ s, a = .restore s) (fun _ => True) (w₀.run .discard) w) (hheld : w.pageHeld = true)
    (hready : w.page.ready = .complete) (henabled : c.enabled = true) (hst : c.resolve = .ok st)
    (source : Option SourceId) (outlet : OutletId) :
    (w.install c source outlet).1 = some w.trackers.length ∧
    (w.install c source outlet).2.Current w.trackers.length ∧
    (∀ ch, w.channel? source = some ch → ∀ v u v',
      Relation.ReflTransGen Proceeds (w.install c source outlet).2 v → v.Navigates ch u v' →
        ¬u.Current w.trackers.length → v'.agenda = [] ∧ u.Views w.trackers.length st outlet v') ∧
    (w.channel? source = none → (w.install c source outlet).2.sources = w.sources ∧
      (w.install c source outlet).2.page.Unobserved) := by
  have hbare : w.Bare := hsince.invariant (discard_bare hidle) fun _ _ hu hlast _ => hu.happens hlast
  rw [hbare.install hready henabled hst]
  set t := w.trackers.length
  have hnew : (w.enroll st outlet).Occupies t st outlet := hbare.enroll hheld hready
  have hunobserved : (w.enroll st outlet).page.Unobserved :=
    ⟨hbare.unobserved.hook,hbare.unobserved.popState,hbare.unobserved.lifecycle⟩
  obtain ⟨hcurrent,hwatches,hrefused⟩ := hnew.start hunobserved source
  refine ⟨rfl,hcurrent,fun ch hch v u v' hrun hnav haway => ?_,fun hch => ?_⟩
  · obtain ⟨hu,kind,rfl⟩ := ((hwatches ch hch).run_proceeds hrun).navigates hnav
    exact ⟨(hu.occupies.ask t _).idle,hu.occupies.views haway kind⟩
  · rw [hrefused hch]
    obtain ⟨_,_,_,-,e⟩ := (w.enroll st outlet).report_reported t Tracker.trackPageView
    rw [trackPageView,e]
    exact ⟨rfl,hunobserved⟩

/-- The configuration of a site. -/
def siteConfig : Config := { siteKey := some "k", apiUrl := some "https://a.io" }

/-- A page with a source that a tracker was given, before the page was discarded. -/
def forsaken (kind : SourceKind) : World :=
  (({ unvisited .complete with sources := [{ kind := kind }] } : World).act (.install siteConfig (some 0) 0)).run
    .discard

/-- Once the source is restored, the next tracker that is given it reports a navigation. -/
theorem reinstalled_views_restored : ∃ v, v = (((forsaken (.history none)).act (.restore 0)).install siteConfig
    (some 0) 0).2 ∧ v.trackers.length = 2 ∧ ∃ d, (v.run (.push "/c")).sent = v.sent ++ [d] ∧ d.tracker = 1 := by
  have hidle : (({ unvisited .complete with sources := [{ kind := .history none }] } : World).act
      (.install siteConfig (some 0) 0)).agenda = [] := rfl
  have hrestored : Runs (fun a => ∃ s, a = .restore s) (fun _ => True) (forsaken (.history none))
      ((forsaken (.history none)).act (.restore 0)) := .single ⟨.act _ ⟨0,rfl⟩,trivial⟩
  have hst : siteConfig.resolve = .ok ⟨"k","https://a.io",false,false,.auto,false⟩ := by decide +kernel
  obtain ⟨-,-,hviews,-⟩ := reinstalled_views hidle hrestored rfl rfl rfl hst (some 0) 0
  set v := (((forsaken (.history none)).act (.restore 0)).install siteConfig (some 0) 0).2
  have haway : ¬(v.modifyPage fun p => { p with history := p.history.push (p.resolve "/c") }).Current 1 := by
    rintro ⟨i,hi,hlast⟩
    have hnew : ((v.trackers[1]?.map fun i => i.tracker.lastPath == some (i.tracker.pathAt
        (v.modifyPage fun p => { p with history := p.history.push (p.resolve "/c") }).page.href)) = some false) := by
      decide +kernel
    rw [show v.trackers[1]? = some i from hi,Option.map_some,hlast] at hnew
    simp at hnew
  obtain ⟨-,i,p,-,-,-,-,-,hsent⟩ := hviews .history rfl v _ _ .refl (.push "/c") haway
  exact ⟨v,rfl,by decide +kernel,_,hsent { transport := .recording } (by decide +kernel),rfl⟩

/-- A source that observed the page, or one that is driven by hand, keeps its subscriber when the page is discarded.
The next tracker that is given it is a new one and never hears of a navigation. -/
theorem reused_source_silent :
    let v := (forsaken (.history none)).install siteConfig (some 0) 0
    let m := (forsaken (.memory none)).install siteConfig (some 0) 0
    (v.1 = some 1 ∧ v.2.page.href = "https://a.io/b" ∧ (v.2.run (.push "/c")).page.href = "https://a.io/c" ∧
      ((v.2.run (.push "/c")).trackers[1]?.bind fun i => i.tracker.lastPath) = some "/b" ∧
      (v.2.run (.push "/c")).sent = v.2.sent) ∧
    (m.1 = some 1 ∧ m.2.page.href = "https://a.io/b" ∧ (m.2.run (.push "/c")).page.href = "https://a.io/c" ∧
      ((m.2.run (.push "/c")).emit 0 (.navigate .push)).sent = m.2.sent) := by
  decide +kernel

end PageTelemetry.World
