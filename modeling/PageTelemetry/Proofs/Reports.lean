import Mathlib.Tactic
import PageTelemetry.World.Step

/-! What a report changes: the trackers, what was sent and the log. The page, the sources and all that is
still to be done stay as they are. -/
namespace PageTelemetry.World

/-- One world after reports in another, with the same number of trackers. -/
def Reported (w w' : World) : Prop :=
  ∃ trackers sent events, trackers.length = w.trackers.length ∧
    w' = { w with trackers := trackers, sent := sent, events := events }

lemma Reported.refl (w : World) : w.Reported w := ⟨w.trackers,w.sent,w.events,rfl,rfl⟩

lemma deliver_reported (w : World) (id : TrackerId) (i : Installation) (p : Payload) :
    w.Reported (w.deliver id i p) := by
  unfold deliver
  split
  · exact .refl w
  · split
    · exact ⟨_,_,_,rfl,rfl⟩
    · exact .refl w

lemma report_reported (w : World) (id : TrackerId)
    (f : Tracker → Payload.Ambient → Int → Option Payload × Tracker) : w.Reported (w.report id f).2 := by
  unfold report
  split
  · exact .refl w
  · rename_i i _
    dsimp only
    split
    · exact ⟨_,_,_,List.length_set ..,rfl⟩
    · rename_i p _
      obtain ⟨_,_,_,hl,h⟩ := deliver_reported
        { w with trackers := w.trackers.set id { i with tracker := (f i.tracker w.ambient w.clock.now).2 } } id i p
      exact ⟨_,_,_,hl.trans (List.length_set ..),h⟩

lemma signal_reported (w : World) (h : Handler) (s : Signal) : w.Reported (w.signal h s) := by
  cases h with
  | tracker id =>
    simp only [signal]
    split
    · exact report_reported ..
    · exact .refl w
  | log label => exact ⟨_,_,_,rfl,rfl⟩

/-- A tracker that is the only one, with an outlet that takes everything. -/
lemma report_sole {w : World} {t : Tracker} {o : Outlet} (ht : w.trackers = [⟨t,0⟩])
    (ho : w.outlets = [o]) (hopen : o.accepts = true)
    (f : Tracker → Payload.Ambient → Int → Option Payload × Tracker) :
    (w.report 0 f).2 = { w with
      trackers := [⟨(f t w.ambient w.clock.now).2,0⟩]
      sent := w.sent ++
        (f t w.ambient w.clock.now).1.toList.map fun p => w.delivery 0 0 (Request.ofPayload t.settings p) } := by
  rcases hp : f t w.ambient w.clock.now with ⟨_ | p,t'⟩
  · simp [report,ht,hp]
  · simp [report,ht,hp,deliver,delivery,ho,hopen]

/-- A tracker that is kept hears a signal as soon as it is its turn. -/
lemma signal_tracker {w : World} {id : TrackerId} (h : w.trackerKept id = true) (s : Signal) :
    w.signal (.tracker id) s = (w.report id fun t a now => t.handle a now s).2 := by
  simp [signal,h,handle]

/-! What reports keep. -/

section Invariant
variable {P : World → Prop} {w : World}

/-- What new sources and subscriptions keep as well is kept when a tracker begins. -/
theorem start_invariant {t : TrackerId} (hview : P (w.trackPageView t).2)
    (hadd : ∀ u, P u → P (u.addSource (.history none) false).2)
    (hsubscribe : ∀ u s, P u → P (u.subscribe s (.tracker t)).2) (source : Option SourceId) :
    P (w.start t source) := by
  cases source with
  | some s => exact hsubscribe _ s hview
  | none =>
    simp only [start]
    split_ifs
    · exact hsubscribe _ _ (hadd _ hview)
    · exact hview

/-- What more tasks on the agenda keep as well is kept by every task that neither begins a tracker nor operates
on the page. -/
theorem perform_invariant (hw : P w) (hreport : ∀ u u', P u → u.Reported u' → P u')
    (henqueue : ∀ u tasks, P u → P (u.enqueue tasks)) {task : Task}
    (hstart : ∀ t source, task = .start t source → P (w.start t source))
    (hact : ∀ a, task = .act a → P (w.act a)) : P (w.perform task) := by
  cases task with
  | hook k kind => cases k <;> exact henqueue _ _ hw
  | relay id h kind =>
    simp only [perform]
    split_ifs
    · exact hreport _ _ hw (w.signal_reported h _)
    · exact hw
  | call l o =>
    have hnoted : P (w.note (.heard l.label o w.ambient.href)) := hreport _ _ hw ⟨_,_,_,rfl,rfl⟩
    simp only [perform,call]
    split_ifs
    · exact henqueue _ _ hnoted
    · exact hnoted
  | signal h s => exact hreport _ _ hw (w.signal_reported h s)
  | start t source => exact hstart t source rfl
  | act a => exact hact a rfl

end Invariant

end PageTelemetry.World
