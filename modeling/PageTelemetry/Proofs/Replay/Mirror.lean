import PageTelemetry.Proofs.History
import PageTelemetry.Proofs.Replay.Matching
import PageTelemetry.Proofs.Reports
import PageTelemetry.Proofs.Settling
import PageTelemetry.Replay

/-! A world with one tracker mirrors a flat visit: each of its reports is one of the visit, and an
operation on its page settles as the step of the visit says. -/
namespace PageTelemetry
open Replay

namespace World

/-- The only tracker has its hook and its listeners on the page. -/
def Observing (w : World) : Prop :=
  w.page.ready = .complete ∧
    (∃ id, w.page.hook = some (.observer id (.tracker 0) none) ∧ w.hookActive id = true) ∧
    (∃ id, w.page.popState = [(id,.handler (.tracker 0))]) ∧
    ∃ id, w.page.lifecycle = [(id,.handler (.tracker 0))]

/-- The only tracker waits for the document, and nobody else listens. -/
def Waiting (w : World) : Prop :=
  w.page.ready = .loading ∧ w.page.hook = none ∧ w.page.popState = [] ∧ w.page.lifecycle = [] ∧
    w.page.onLoad = [.start 0 none]

/-- What was sent for payloads of a visit, whose tracker is exposed all the time. -/
def deliveries (v : Visit) (ps : List Payload) : List Delivery :=
  ps.map fun p => ⟨0,0,Request.ofPayload v.settings p,some 0⟩

@[simp] lemma deliveries_nil (v : Visit) : deliveries v [] = [] := rfl

/-- The outlet of a dry run. -/
def dryOutlet : Outlet := { transport := .recording, hasRuntime := false }

/-- The page and the tracker of a world are those of a visit. -/
structure Shows (v : Visit) (w : World) (f : Flat) : Prop where
  history : w.page.history = .ofZipper f.behind f.current f.ahead
  referrer : w.page.referrer = v.referrer
  title : w.page.title = f.title
  width : w.page.width = v.width
  visibility : w.page.visibility = if f.visible then .visible else .hidden
  held : w.pageHeld = true
  outlets : w.outlets = [dryOutlet]
  exposed : w.page.global? Page.namespaceName = some 0
  tracker : ∃ t, w.trackers = [⟨t,0⟩] ∧ f.Matches v w.clock.now t

variable {v : Visit} {w : World} {f g : Flat}

lemma Shows.pageKept (h : w.Shows v f) : w.pageKept = true := by simp [World.pageKept,h.held]

lemma Shows.href (h : w.Shows v f) : w.page.href = f.current := by
  rw [Page.href,h.history,History.href_ofZipper]

lemma Shows.ambient (h : w.Shows v f) : w.ambient = f.ambient v := by
  simp [World.ambient,h.pageKept,Page.ambient,h.href,h.referrer,h.title,h.width,Flat.ambient]

end World

/-- A visit that stands at the same place and time. -/
structure Replay.Flat.SamePage (f g : Flat) : Prop where
  behind : g.behind = f.behind
  current : g.current = f.current
  ahead : g.ahead = f.ahead
  title : g.title = f.title
  visible : g.visible = f.visible
  loaded : g.loaded = f.loaded

namespace Replay.Flat

lemma view_samePage (v : Visit) (f : Flat) : f.SamePage (f.view v).2 := by
  unfold view
  split_ifs <;> exact ⟨rfl,rfl,rfl,rfl,rfl,rfl⟩

lemma leave_samePage (v : Visit) (f : Flat) : f.SamePage (f.leave v).2 := by
  unfold leave
  split
  · exact ⟨rfl,rfl,rfl,rfl,rfl,rfl⟩
  · dsimp only
    split_ifs <;> exact ⟨rfl,rfl,rfl,rfl,rfl,rfl⟩

lemma track_samePage (v : Visit) (f : Flat) (name : Option String) (properties : Option Json) :
    f.SamePage (f.track v name properties).2 := by
  unfold track
  split_ifs <;> exact ⟨rfl,rfl,rfl,rfl,rfl,rfl⟩

end Replay.Flat

namespace World
variable {v : Visit} {w : World} {f : Flat}

/-- A report of the tracker against a report of the visit. -/
theorem Shows.report (h : w.Shows v f) {r : Tracker → Payload.Ambient → Int → Option Payload × Tracker}
    {g : List Payload × Flat} (hsame : f.SamePage g.2)
    (hr : ∀ t, f.Matches v w.clock.now t →
      (r t (f.ambient v) w.clock.now).1.toList = g.1 ∧
        g.2.Matches v w.clock.now (r t (f.ambient v) w.clock.now).2) :
    (w.report 0 r).2.Shows v g.2 ∧ (w.report 0 r).2.sent = w.sent ++ deliveries v g.1 := by
  obtain ⟨t,ht,hm⟩ := h.tracker
  obtain ⟨hps,hm'⟩ := hr t hm
  rw [report_sole ht h.outlets rfl,h.ambient]
  constructor
  · exact ⟨by rw [hsame.behind,hsame.current,hsame.ahead]; exact h.history,h.referrer,
      by rw [hsame.title]; exact h.title,h.width,by rw [hsame.visible]; exact h.visibility,h.held,h.outlets,
      h.exposed,_,rfl,hm'⟩
  · simp only [hps,hm.settings,delivery,h.exposed]
    rfl

/-- Nothing but reports, in a world in which the tracker is at its post. -/
lemma Reported.observing {w' : World} (h : w.Reported w') (ho : w.Observing) : w'.Observing := by
  obtain ⟨_,_,_,-,rfl⟩ := h
  exact ho

/-- A world that mirrors a visit: it is settled, the embedder keeps the tracker, and the tracker is where the
visit says. -/
structure Mirrors (v : Visit) (w : World) (f : Flat) : Prop where
  page : w.Shows v f
  idle : w.agenda = []
  handles : w.handles = [0]
  post : if f.loaded then w.Observing else w.Waiting

/-- After an operation the world mirrors the visit again, and what was sent are the reports of the visit. -/
structure Follows (v : Visit) (w w' : World) (g : List Payload × Flat) : Prop where
  mirrors : w'.Mirrors v g.2
  sent : w'.sent = w.sent ++ deliveries v g.1
  clock : w'.clock = w.clock

/-- A visit in which nothing happens. -/
lemma Mirrors.refl (h : w.Mirrors v f) : Follows v w w ([],f) := ⟨h,by simp,rfl⟩

/-- What follows from a world that differs in neither the clock nor the outbox. -/
lemma Follows.of_eq {w₁ w' : World} {g : List Payload × Flat} (h : Follows v w₁ w' g)
    (hs : w₁.sent = w.sent) (hc : w₁.clock = w.clock) : Follows v w w' g :=
  ⟨h.mirrors,by rw [← hs]; exact h.sent,by rw [← hc]; exact h.clock⟩

/-- A settled world whose tracker observes, once the tracker has heard a signal. -/
lemma Shows.signal (h : w.Shows v f) (hidle : w.agenda = []) (hh : w.handles = [0]) (ho : w.Observing)
    (hl : f.loaded = true) (s : Signal) {g : List Payload × Flat} (hsame : f.SamePage g.2)
    (hr : ∀ t, f.Matches v w.clock.now t →
      (t.handle (f.ambient v) w.clock.now s).1.toList = g.1 ∧
        g.2.Matches v w.clock.now (t.handle (f.ambient v) w.clock.now s).2) :
    Follows v w (w.signal (.tracker 0) s) g := by
  have hk : w.trackerKept 0 = true := by simp [trackerKept,hh]
  obtain ⟨hs,hsent⟩ := h.report (r := fun t a now => t.handle a now s) hsame hr
  have hrep := w.report_reported 0 fun t a now => t.handle a now s
  rw [signal_tracker hk]
  obtain ⟨_,_,_,-,e⟩ := id hrep
  refine ⟨⟨hs,by rw [e]; exact hidle,by rw [e]; exact hh,?_⟩,hsent,by rw [e]⟩
  rw [hsame.loaded,hl]
  exact hrep.observing ho

/-! How operations settle. -/

/-- What the hook of the page is told after the location changed. -/
lemma Mirrors.relay (h : w.Mirrors v f) (kind : NavigationKind) :
    Follows v w ((w.enqueue (hookTasks w.page kind)).settle patience) (f.observed (Flat.view v)) := by
  have hpost := h.post
  unfold Flat.observed
  split_ifs at hpost ⊢ with hl
  · obtain ⟨-,⟨id,hhook,hactive⟩,-⟩ := id hpost
    rw [settle_relay h.idle hhook,if_pos hactive]
    exact h.page.signal h.idle h.handles hpost hl _ (f.view_samePage v) fun t hm => hm.trackPageView
  · have htasks : hookTasks w.page kind = [] := by simp [hookTasks,hpost.2.1]
    rw [htasks,settle_idle (by exact h.idle)]
    exact h.refl

/-- What the listeners for popstate are told. -/
lemma Mirrors.pop (h : w.Mirrors v f) :
    Follows v w ((w.enqueue (w.page.popState.map popStateTask)).settle patience)
      (f.observed (Flat.view v)) := by
  have hpost := h.post
  unfold Flat.observed
  split_ifs at hpost ⊢ with hl
  · obtain ⟨-,-,⟨id,hpop⟩,-⟩ := id hpost
    rw [hpop]
    change Follows v w ((w.enqueue [.signal (.tracker 0) (.navigate .pop)]).settle patience) _
    rw [settle_signal h.idle]
    exact h.page.signal h.idle h.handles hpost hl _ (f.view_samePage v) fun t hm => hm.trackPageView
  · rw [hpost.2.2.1,List.map_nil,settle_idle (by exact h.idle)]
    exact h.refl

/-- What the listeners for the end of a visit are told. -/
lemma Mirrors.dispatch (h : w.Mirrors v f) (e : LifecycleEvent) :
    Follows v w ((w.dispatch e).settle patience) (f.observed (Flat.leave v)) := by
  have hpost := h.post
  unfold Flat.observed World.dispatch
  split_ifs at hpost ⊢ with hl
  · obtain ⟨-,-,-,⟨id,hlife⟩⟩ := id hpost
    rw [hlife]
    change Follows v w ((w.enqueue [.signal (.tracker 0) e.signal]).settle patience) _
    rw [settle_signal h.idle]
    refine h.page.signal h.idle h.handles hpost hl _ (f.leave_samePage v) fun t hm => ?_
    cases e <;> exact hm.trackLeave
  · rw [hpost.2.2.2.1,List.map_nil,settle_idle (by exact h.idle)]
    exact h.refl

/-! Changes of the page that tell nobody. -/

lemma Mirrors.relocate (h : w.Mirrors v f) (behind : List String) (current : String) (ahead : List String) :
    (w.modifyPage fun p => { p with history := .ofZipper behind current ahead }).Mirrors v
      { f with behind := behind, current := current, ahead := ahead } := by
  obtain ⟨t,ht,hm⟩ := h.page.tracker
  exact ⟨⟨rfl,h.page.referrer,h.page.title,h.page.width,h.page.visibility,h.page.held,h.page.outlets,
    h.page.exposed,t,ht,⟨hm.settings,hm.lastPath,hm.leaving,hm.start⟩⟩,h.idle,h.handles,h.post⟩

lemma Mirrors.retitle (h : w.Mirrors v f) (title : String) :
    (w.modifyPage fun p => { p with title := title }).Mirrors v { f with title := title } := by
  obtain ⟨t,ht,hm⟩ := h.page.tracker
  exact ⟨⟨h.page.history,h.page.referrer,rfl,h.page.width,h.page.visibility,h.page.held,h.page.outlets,
    h.page.exposed,t,ht,⟨hm.settings,hm.lastPath,hm.leaving,hm.start⟩⟩,h.idle,h.handles,h.post⟩

lemma Mirrors.setVisible (h : w.Mirrors v f) (visible : Bool) :
    (w.modifyPage fun p => { p with visibility := if visible then .visible else .hidden }).Mirrors v
      { f with visible := visible } := by
  obtain ⟨t,ht,hm⟩ := h.page.tracker
  exact ⟨⟨h.page.history,h.page.referrer,h.page.title,h.page.width,rfl,h.page.held,h.page.outlets,
    h.page.exposed,t,ht,⟨hm.settings,hm.lastPath,hm.leaving,hm.start⟩⟩,h.idle,h.handles,h.post⟩

end World
end PageTelemetry
