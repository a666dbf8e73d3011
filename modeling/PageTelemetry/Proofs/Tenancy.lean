import PageTelemetry.Proofs.Agenda
import PageTelemetry.Proofs.Ownership
import PageTelemetry.Proofs.Sending

/-! The tenant of a page. As long as an embedder leaves nothing on a page but trackers that observe it by default,
all that stands on the page is that of the tracker which is exposed there, and stands there once. So whatever the
order in which trackers are installed, begin and are discarded, an operation on the page is told to no more than one
tracker, and no more than once. -/
namespace PageTelemetry

/-- Whether an operation leaves nothing on the page but a tracker that observes it by default. -/
def Act.isEmbedding : Act → Bool
  | .install _ source _ => source.isNone
  | .push _ | .replace _ | .setHref _ | .back | .forward | .setTitle _ | .setWidth _ | .hide | .reveal | .unload
  | .finishLoading | .discard | .track _ => true
  | .subscribe _ _ | .restore _ | .onLoad _ _ _ | .addPopState _ _ _ | .addLifecycle _ _ _ | .removePopState _
  | .removeLifecycle _ | .wrapHook _ _ _ _ _ | .removeHook => false

/-- Whether an operation can change which tracker is exposed. -/
def Act.isMove : Act → Bool
  | .install _ _ _ | .discard => true
  | _ => false

namespace Page

/-- The tracker that is exposed on a page. -/
def tenant? (p : Page) : Option TrackerId := p.global? namespaceName

/-- Nobody observes the page. -/
structure Unobserved (p : Page) : Prop where
  hook : p.hook = none
  popState : p.popState = []
  lifecycle : p.lifecycle = []

/-- Nobody but the tenant observes the page, and the tenant does so once. -/
structure Hosts (tenant : Option TrackerId) (p : Page) : Prop where
  hook : p.hook = none ∨ ∃ t ∈ tenant, ∃ id, p.hook = some (.observer id (.tracker t) none)
  popState : p.popState = [] ∨ ∃ t ∈ tenant, ∃ id, p.popState = [(id,.handler (.tracker t))]
  lifecycle : p.lifecycle = [] ∨ ∃ t ∈ tenant, ∃ id, p.lifecycle = [(id,.handler (.tracker t))]

/-- How a page stands with its tenant, which begins once the document is complete, if it has not begun. -/
structure Tenancy (p : Page) : Prop where
  hosts : p.Hosts p.tenant?
  onLoad : p.onLoad = [] ∨ p.Unobserved ∧ ∃ t ∈ p.tenant?, p.onLoad = [.start t none]

variable {p p' : Page} {tenant : Option TrackerId}

lemma Unobserved.hosts (h : p.Unobserved) : p.Hosts tenant := ⟨.inl h.hook,.inl h.popState,.inl h.lifecycle⟩

/-- Without a tenant there is nobody to observe the page. -/
lemma Hosts.unobserved (h : p.Hosts none) : p.Unobserved :=
  ⟨h.hook.resolve_right (by simp),h.popState.resolve_right (by simp),h.lifecycle.resolve_right (by simp)⟩

lemma Tenancy.of_same (h : p.Tenancy) (hhook : p'.hook = p.hook) (hpop : p'.popState = p.popState)
    (hlife : p'.lifecycle = p.lifecycle) (hload : p'.onLoad = p.onLoad) (hglobals : p'.globals = p.globals) :
    p'.Tenancy := by
  have htenant : p'.tenant? = p.tenant? := by rw [tenant?,global?,hglobals]; rfl
  refine ⟨⟨?_,?_,?_⟩,?_⟩
  · rw [hhook,htenant]
    exact h.hosts.hook
  · rw [hpop,htenant]
    exact h.hosts.popState
  · rw [hlife,htenant]
    exact h.hosts.lifecycle
  · rw [hload,htenant]
    refine h.onLoad.imp_right (And.imp_left fun hu => ?_)
    exact ⟨hhook.trans hu.hook,hpop.trans hu.popState,hlife.trans hu.lifecycle⟩

lemma tenant?_expose (p : Page) (t : TrackerId) : (p.expose namespaceName t).tenant? = some t := by
  simp [tenant?,global?,expose]

end Page

namespace World
open Page
variable {w₀ w w' u : World} {t : TrackerId} {tenant : Option TrackerId} {a : Act}

/-- What was to be told on a page is told: the page is the same, and the tenant has sent at most once. -/
structure Heard (tenant : Option TrackerId) (w w' : World) : Prop where
  idle : w'.agenda = []
  page : w'.page = w.page
  sends : w.Sends tenant.toList w'

lemma heard_idle (hidle : w.agenda = []) : Heard tenant w w := ⟨hidle,rfl,.of_same rfl⟩

lemma heard_signal (hidle : w.agenda = []) (s : Signal) : Heard (some t) w (w.signal (.tracker t) s) := by
  refine ⟨signal_idle hidle _ s,?_,w.signal_sends (.tracker t) s⟩
  obtain ⟨_,_,_,-,e⟩ := w.signal_reported (.tracker t) s
  rw [e]

lemma heard_hook (h : w.page.Hosts tenant) (hidle : w.agenda = []) (kind : NavigationKind) :
    Heard tenant w ((w.enqueue (hookTasks w.page kind)).settle patience) := by
  rcases h.hook with hhook | ⟨t,rfl,id,hhook⟩
  · have htasks : hookTasks w.page kind = [] := by simp [hookTasks,hhook]
    rw [htasks,settle_idle (by exact hidle)]
    exact heard_idle hidle
  · rw [settle_relay hidle hhook]
    split_ifs
    · exact heard_signal hidle _
    · exact heard_idle hidle

lemma heard_popState (h : w.page.Hosts tenant) (hidle : w.agenda = []) :
    Heard tenant w ((w.enqueue (w.page.popState.map popStateTask)).settle patience) := by
  rcases h.popState with hpop | ⟨t,rfl,id,hpop⟩
  · rw [hpop,List.map_nil,settle_idle (by exact hidle)]
    exact heard_idle hidle
  · rw [hpop]
    change Heard _ w ((w.enqueue [.signal (.tracker t) (.navigate .pop)]).settle patience)
    rw [settle_signal hidle]
    exact heard_signal hidle _

lemma heard_dispatch (h : w.page.Hosts tenant) (hidle : w.agenda = []) (e : LifecycleEvent) :
    Heard tenant w ((w.dispatch e).settle patience) := by
  rw [dispatch]
  rcases h.lifecycle with hlife | ⟨t,rfl,id,hlife⟩
  · rw [hlife,List.map_nil,settle_idle (by exact hidle)]
    exact heard_idle hidle
  · rw [hlife]
    change Heard _ w ((w.enqueue [.signal (.tracker t) e.signal]).settle patience)
    rw [settle_signal hidle]
    exact heard_signal hidle _

/-- All that an operation caused is done, and only the tenant that the page has then has sent, at most once. -/
structure Attended (w w' : World) : Prop where
  idle : w'.agenda = []
  tenancy : w'.page.Tenancy
  sends : w.Sends w'.page.tenant?.toList w'

lemma Heard.attended (h : Heard u.page.tenant? u w') (hu : u.page.Tenancy) (hsent : u.sent = w.sent) :
    w.Attended w' := by
  refine ⟨h.idle,by rw [h.page]; exact hu,?_⟩
  rw [h.page,Sends,← hsent]
  exact h.sends

/-- A tenant that begins observes the page from then on, if the page is still kept. -/
lemma start_attended (hidle : w.agenda = []) (hu : w.page.Unobserved) (hload : w.page.onLoad = [])
    (ht : t ∈ w.page.tenant?) : w.Attended (w.start t none) ∧ (w.start t none).page.tenant? = w.page.tenant? := by
  have hsends := w.start_sends t none
  have hagenda := (start_agenda w t none).trans hidle
  have hpage : (w.trackPageView t).2.page = w.page := w.report_page t
  have htoList : [t] = w.page.tenant?.toList := by rw [Option.mem_def.mp ht]; rfl
  by_cases hkept : (w.trackPageView t).2.pageKept = true
  · have hstart := start_default hkept
    have htenant : (w.start t none).page.tenant? = w.page.tenant? := by
      rw [hstart,← hpage]
      rfl
    refine ⟨⟨hagenda,⟨⟨?_,?_,?_⟩,.inl ?_⟩,?_⟩,htenant⟩
    · rw [htenant,hstart]
      refine .inr ⟨t,ht,(w.trackPageView t).2.lastHook+1,?_⟩
      simp [interceptedPage,intercept,hpage,hu.hook]
    · rw [htenant,hstart]
      refine .inr ⟨t,ht,w.page.lastListener+1,?_⟩
      simp [interceptedPage,hpage,hu.popState]
    · rw [htenant,hstart]
      refine .inr ⟨t,ht,w.page.lastListener+2,?_⟩
      simp [interceptedPage,hpage,hu.lifecycle]
    · rw [hstart]
      simp [interceptedPage,hpage,hload]
    · rw [htenant,← htoList]
      exact hsends
  · have hstart : w.start t none = (w.trackPageView t).2 := by simp [start,hkept]
    have hsame : (w.start t none).page = w.page := by rw [hstart,hpage]
    refine ⟨⟨hagenda,?_,?_⟩,by rw [hsame]⟩
    · rw [hsame]
      exact ⟨hu.hosts,.inl hload⟩
    · rw [hsame,← htoList]
      exact hsends

lemma Attended.of_still (h : w.page.Tenancy) (hidle : w.agenda = []) : w.Attended w := ⟨hidle,h,.of_same rfl⟩

/-- A tracker is installed on a page without a tenant only, and there it is the only one. -/
lemma install_attended (h : w.page.Tenancy) (hidle : w.agenda = []) (c : Config) (outlet : OutletId) :
    w.Attended (w.install c none outlet).2 := by
  rcases w.install_cases c none outlet with e | ⟨htenant,st,e | e⟩
  · rw [e]
    exact .of_still h hidle
  all_goals
    rw [e]
    have hhosts : w.page.Hosts none := by rw [← htenant]; exact h.hosts
    have hload : w.page.onLoad = [] := by
      refine h.onLoad.resolve_right ?_
      rintro ⟨-,t,ht,-⟩
      rw [tenant?,htenant] at ht
      cases ht
    have hnew : (w.enroll st outlet).page.tenant? = some w.trackers.length := tenant?_expose w.page _
    have hu : (w.enroll st outlet).page.Unobserved :=
      ⟨hhosts.unobserved.hook,hhosts.unobserved.popState,hhosts.unobserved.lifecycle⟩
  · obtain ⟨hstart,-⟩ := start_attended (w := w.enroll st outlet) hidle hu hload hnew
    exact ⟨hstart.idle,hstart.tenancy,hstart.sends⟩
  · have hwaiting : ((w.enroll st outlet).await w.trackers.length none).page.Unobserved :=
      ⟨hu.hook,hu.popState,hu.lifecycle⟩
    refine ⟨hidle,⟨hwaiting.hosts,.inr ⟨hwaiting,_,hnew,?_⟩⟩,.of_same rfl⟩
    change w.page.onLoad ++ _ = _
    rw [hload]
    rfl

lemma settle_start (hidle : w.agenda = []) (t : TrackerId) (source : Option SourceId) :
    (w.enqueue [.start t source]).settle patience = w.start t source := by
  have hstep : step^[1] (w.enqueue [.start t source]) = w.start t source := by
    change { w with agenda := w.agenda }.start t source = _
    rfl
  rw [settle_of_le (k := 1) (by rw [hstep,start_agenda]; exact hidle) (by decide),hstep]

/-- When the document is complete the tenant that waits for it begins. -/
lemma finishLoading_attended (h : w.page.Tenancy) (hidle : w.agenda = []) :
    w.Attended (w.finishLoading.settle patience) ∧
      (w.finishLoading.settle patience).page.tenant? = w.page.tenant? := by
  simp only [finishLoading]
  split_ifs
  · rw [settle_idle hidle]
    exact ⟨.of_still h hidle,rfl⟩
  · rcases h.onLoad with hload | ⟨hu,t,ht,hload⟩
    · rw [hload,List.map_nil,settle_idle (by exact hidle)]
      exact ⟨⟨hidle,⟨⟨h.hosts.hook,h.hosts.popState,h.hosts.lifecycle⟩,.inl rfl⟩,.of_same rfl⟩,rfl⟩
    · rw [hload]
      have hcomplete : (w.modifyPage fun p => { p with ready := .complete, onLoad := [] }).page.Unobserved :=
        ⟨hu.hook,hu.popState,hu.lifecycle⟩
      obtain ⟨hstart,htenant⟩ := start_attended
        (w := w.modifyPage fun p => { p with ready := .complete, onLoad := [] }) hidle hcomplete rfl ht
      rw [List.map_singleton,loadTask,settle_start (by exact hidle)]
      exact ⟨⟨hstart.idle,hstart.tenancy,hstart.sends⟩,htenant⟩

/-- Whatever an embedder does on a page with a tenant is told to the tenant only. -/
theorem run_attended (h : w.page.Tenancy) (hidle : w.agenda = []) (ha : a.isEmbedding = true) :
    w.Attended (w.run a) ∧ (a.isMove = false → (w.run a).page.tenant? = w.page.tenant?) := by
  have htold {u w' : World} (hheard : Heard u.page.tenant? u w') (hu : u.page.Tenancy) (hsent : u.sent = w.sent)
      (hsame : u.page.tenant? = w.page.tenant?) :
      w.Attended w' ∧ (a.isMove = false → w'.page.tenant? = w.page.tenant?) :=
    ⟨hheard.attended hu hsent,fun _ => by rw [hheard.page,hsame]⟩
  have hstill {u : World} (hu : u.page.Tenancy) (hidle : u.agenda = []) (hsent : u.sent = w.sent)
      (hsame : u.page.tenant? = w.page.tenant?) : w.Attended (u.settle patience) ∧
        (a.isMove = false → (u.settle patience).page.tenant? = w.page.tenant?) :=
    htold (by rw [settle_idle hidle]; exact heard_idle hidle) hu hsent hsame
  have hmoved (f : Page → History) : (w.modifyPage fun p => { p with history := f p }).page.Tenancy :=
    h.of_same rfl rfl rfl rfl rfl
  have hmoveTo (target : Option History) : w.Attended ((w.moveTo target).2.settle patience) ∧
      (a.isMove = false → ((w.moveTo target).2.settle patience).page.tenant? = w.page.tenant?) := by
    cases target with
    | none => exact hstill h hidle rfl rfl
    | some target => exact htold (heard_popState (hmoved fun _ => target).hosts hidle) (hmoved _) rfl rfl
  cases a with
  | push url =>
    exact htold (heard_hook (hmoved fun p => p.history.push (p.resolve url)).hosts hidle .push) (hmoved _) rfl rfl
  | replace url =>
    exact htold (heard_hook (hmoved fun p => p.history.replace (p.resolve url)).hosts hidle .replace) (hmoved _)
      rfl rfl
  | setHref url => exact hstill (hmoved _) hidle rfl rfl
  | back => exact hmoveTo _
  | forward => exact hmoveTo _
  | setTitle | setWidth | reveal => exact hstill (h.of_same rfl rfl rfl rfl rfl) hidle rfl rfl
  | hide =>
    have hhidden : (w.modifyPage fun p => { p with visibility := .hidden }).page.Tenancy :=
      h.of_same rfl rfl rfl rfl rfl
    simp only [run,act,hide]
    split_ifs
    · exact htold (heard_dispatch hhidden.hosts hidle .hidden) hhidden rfl rfl
    · exact hstill hhidden hidle rfl rfl
  | unload => exact htold (heard_dispatch h.hosts hidle .unload) h rfl rfl
  | finishLoading =>
    obtain ⟨hattended,htenant⟩ := finishLoading_attended h hidle
    exact ⟨hattended,fun _ => htenant⟩
  | discard =>
    have hdiscarded : w.Attended w.discard := ⟨hidle,⟨Unobserved.hosts ⟨rfl,rfl,rfl⟩,.inl rfl⟩,.of_same rfl⟩
    rw [run,settle_idle (by exact hidle)]
    exact ⟨hdiscarded,by simp [Act.isMove]⟩
  | track name =>
    have hheard : Heard w.page.tenant? w (w.trackExposed name) := by
      unfold trackExposed tenant?
      cases w.page.global? namespaceName with
      | none => exact heard_idle hidle
      | some id => exact ⟨(w.report_reported id _).agenda.trans hidle,w.report_page id,w.report_sends id _⟩
    refine htold (u := w) ?_ h rfl rfl
    rw [run,settle_idle (by exact hheard.idle)]
    exact hheard
  | install c source outlet =>
    obtain rfl : source = none := by simpa [Act.isEmbedding] using ha
    have hinstall := install_attended h hidle c outlet
    rw [run,settle_idle (by exact hinstall.idle)]
    exact ⟨hinstall,by simp [Act.isMove]⟩
  | subscribe | restore | onLoad | addPopState | addLifecycle | removePopState | removeLifecycle | wrapHook
  | removeHook => cases ha

/-- What an embedder has done on a page from outside of its listeners, and what else may have happened to the
clock, to what is kept and to the trackers. -/
inductive Embedded (w₀ : World) : World → Prop
  | start : Embedded w₀ w₀
  | operate {w : World} (h : Embedded w₀ w) {a : Act} (ha : a.isEmbedding = true) : Embedded w₀ (w.run a)
  | apart {w w' : World} (h : Embedded w₀ w) (hpage : w'.page = w.page) (hagenda : w'.agenda = w.agenda) :
    Embedded w₀ w'

/-- By induction on what has happened, each operation of which `run_attended` covers. -/
theorem Embedded.tenancy (h₀ : w₀.Fresh) (h : w₀.Embedded w) : w.agenda = [] ∧ w.page.Tenancy := by
  induction h with
  | start => exact ⟨h₀.agenda,Unobserved.hosts ⟨h₀.hook,h₀.popState,h₀.lifecycle⟩,.inl h₀.onLoad⟩
  | operate _ ha ih =>
    obtain ⟨hattended,-⟩ := run_attended ih.2 ih.1 ha
    exact ⟨hattended.idle,hattended.tenancy⟩
  | apart _ hpage hagenda ih => exact ⟨hagenda.trans ih.1,hpage ▸ ih.2⟩

lemma Sends.of_tenant (h : w.Sends tenant.toList w') : w'.sent = w.sent ∨
    ∃ d, w'.sent = w.sent ++ [d] ∧ tenant = some d.tracker := by
  cases tenant with
  | none => exact .inl h.none
  | some t =>
    refine h.once.imp_right ?_
    rintro ⟨d,hsent,rfl⟩
    exact ⟨d,hsent,rfl⟩

/-- Whatever trackers have been installed on a page and discarded from it, an operation on it comes to its end
with at most one request. The tracker that sends it is exposed on the page, and was so before the operation
unless this one installed it. -/
theorem embedded_run_sends (h₀ : w₀.Fresh) (h : w₀.Embedded w) (ha : a.isEmbedding = true) :
    (w.run a).agenda = [] ∧ ((w.run a).sent = w.sent ∨
      ∃ d, (w.run a).sent = w.sent ++ [d] ∧ (w.run a).page.tenant? = some d.tracker ∧
        (w.page.tenant? = some d.tracker ∨ ∃ c outlet, a = .install c none outlet)) := by
  obtain ⟨hidle,htenancy⟩ := h.tenancy h₀
  obtain ⟨hattended,hsame⟩ := run_attended htenancy hidle ha
  refine ⟨hattended.idle,hattended.sends.of_tenant.imp_right ?_⟩
  rintro ⟨d,hsent,htenant⟩
  refine ⟨d,hsent,htenant,?_⟩
  cases a with
  | install c source outlet =>
    obtain rfl : source = none := by simpa [Act.isEmbedding] using ha
    exact .inr ⟨c,outlet,rfl⟩
  | discard =>
    rw [run,settle_idle (by exact hidle)] at htenant
    cases htenant
  | _ => exact .inl ((hsame rfl).symm.trans htenant)

/-- A page that is still being loaded, with a recorder. -/
def vacant : World where
  page := { history := .ofHref "https://a.io/" }
  outlets := [{ transport := .recording }]

/-- A tracker was installed there and discarded before the document was complete, and another one took its
place. -/
def relet : World :=
  let install := Act.install { siteKey := some "k", apiUrl := some "https://a.io" } none 0
  ((((vacant.run install).run .discard).run install).run .finishLoading)

/-- Only the second tracker is told of a navigation, although the embedder still keeps both. -/
theorem embedded_run_sends_relet : ∃ w d, vacant.Embedded w ∧ w.handles = [0,1] ∧ w.trackers.length = 2 ∧
    (w.run (.push "/b")).sent = w.sent ++ [d] ∧ d.tracker = 1 := by
  have hnew : vacant.Fresh := ⟨rfl,rfl,rfl,rfl,rfl,fun _ => rfl⟩
  have hrelet : vacant.Embedded relet :=
    (((Embedded.start.operate rfl).operate rfl).operate rfl).operate rfl
  have hkept : vacant.Embedded { relet with handles := [0,1] } := hrelet.apart rfl rfl
  have htenant : relet.page.tenant? = some 1 := by decide +kernel
  obtain ⟨-,hnone | ⟨d,hsent,-,hd | ⟨c,outlet,hinstall⟩⟩⟩ :=
    embedded_run_sends hnew hkept (a := .push "/b") rfl
  · exact absurd (congrArg List.length hnone) (by decide +kernel)
  · exact ⟨_,d,hkept,rfl,by decide +kernel,hsent,Option.some.inj (hd.symm.trans htenant)⟩
  · cases hinstall

end World
end PageTelemetry
