import PageTelemetry.Proofs.Reports

/-! Which path a tracker reports. What it does by itself, and an event that is given only a name, reports the path
of the location at that moment, and the tracker never takes note of another. -/
namespace PageTelemetry

namespace Tracker
variable {f : Tracker → Payload.Ambient → Int → Option Payload × Tracker}

/-- What a tracker takes for the path of a location. -/
def pathAt (t : Tracker) (href : String) : String := Location.path href t.settings.includeQuery

/-- A report that knows no path but that of the location. -/
structure Truthful (f : Tracker → Payload.Ambient → Int → Option Payload × Tracker) : Prop where
  settings : ∀ t a now, (f t a now).2.settings = t.settings
  lastPath : ∀ t a now, (f t a now).2.lastPath = t.lastPath ∨ (f t a now).2.lastPath = some (t.pathAt a.href)
  path : ∀ t a now, ∀ p ∈ (f t a now).1, p.path = t.pathAt a.href

lemma note_settings (t : Tracker) (now : ℤ) (p : Payload) : (t.note now p).settings = t.settings := by
  unfold note
  split_ifs <;> rfl

lemma note_lastPath (t : Tracker) (now : ℤ) (p : Payload) :
    (t.note now p).lastPath = t.lastPath ∨ (t.note now p).lastPath = some p.path := by
  unfold note
  split_ifs
  · exact .inr rfl
  · exact .inl rfl
  · exact .inl rfl

/-- Without a path among the overrides a payload has that of the page. -/
lemma build_path (siteKey : String) (includeQuery : Bool) (a : Payload.Ambient) (overrides : Option Json)
    (h : Payload.textField? ((overrides.bind Json.members?).getD []) "path" = none) :
    (Payload.build siteKey includeQuery a overrides).path = Location.path a.href includeQuery := by
  simp [Payload.build,Payload.buildWith,h]

lemma track_truthful {overrides : Option Json}
    (h : Payload.textField? ((overrides.bind Json.members?).getD []) "path" = none) :
    Truthful fun t a now => (some (t.track a now overrides).1,(t.track a now overrides).2) := by
  refine ⟨fun t a now => t.note_settings now _,fun t a now => ?_,?_⟩
  · have hnote := t.note_lastPath now (Payload.build t.settings.siteKey t.settings.includeQuery a overrides)
    rw [build_path _ _ a _ h] at hnote
    exact hnote
  · rintro t a now _ ⟨⟩
    exact build_path _ _ a _ h

/-- An event that is given only a name. -/
lemma event_path (name : String) : Payload.textField?
    (((some (callOverrides (some name) none)).bind Json.members?).getD []) "path" = none := by
  simp [callOverrides,Json.members?,Json.Members.ofList,Json.Members.insert,Payload.textField?,
    Json.Members.get?]

lemma trackPageView_lastPath (t : Tracker) (a : Payload.Ambient) (now : ℤ) :
    (t.trackPageView a now).2.lastPath = some (t.pathAt a.href) := by
  unfold trackPageView
  split_ifs with h
  · exact h
  · simp [track,note,Payload.build,Payload.buildWith,Payload.textField?,Payload.countField?,pathAt,
      Json.Members.get?]

lemma trackPageView_truthful : Truthful trackPageView := by
  refine ⟨fun t a now => ?_,fun t a now => .inr (t.trackPageView_lastPath a now),fun t a now p hp => ?_⟩
  · unfold trackPageView
    split_ifs
    · rfl
    · exact t.note_settings now _
  · unfold trackPageView at hp
    split_ifs at hp
    · cases hp
    · cases hp
      exact build_path _ _ a none rfl

lemma trackLeave_truthful : Truthful trackLeave := by
  refine ⟨fun t a now => ?_,fun t a now => .inl ?_,fun t a now p hp => ?_⟩
  · unfold trackLeave
    split_ifs
    · rfl
    · split <;> rfl
  · unfold trackLeave
    split_ifs
    · rfl
    · split <;> rfl
  · unfold trackLeave at hp
    split_ifs at hp
    · cases hp
    · split at hp
      · cases hp
      · cases hp
        exact build_path t.settings.siteKey _ a none rfl

lemma handle_truthful (s : Signal) : Truthful fun t a now => t.handle a now s := by
  cases s with
  | navigate kind => exact trackPageView_truthful
  | hidden => exact trackLeave_truthful
  | unload => exact trackLeave_truthful

end Tracker

namespace World
variable {w w' w'' : World} {t : TrackerId} {f : Tracker → Payload.Ambient → Int → Option Payload × Tracker}

/-- The last path of a tracker is that of the location. -/
def Current (t : TrackerId) (w : World) : Prop :=
  ∃ i, w.trackers[t]? = some i ∧ i.tracker.lastPath = some (i.tracker.pathAt w.page.href)

/-- From one world to another, every request that is sent gives the path of the location. -/
def Truthful (w w' : World) : Prop :=
  ∃ new, w'.sent = w.sent ++ new ∧ ∀ d ∈ new, ∃ i p, w.trackers[d.tracker]? = some i ∧
    d.request = Request.ofPayload i.tracker.settings p ∧ p.path = i.tracker.pathAt w.page.href

/-- A tracker whose last path was that of the location still has it, too. -/
structure Honest (w w' : World) : Prop where
  sent : w.Truthful w'
  current : ∀ t, w.Current t → w'.Current t

lemma Truthful.of_same (hsent : w'.sent = w.sent) : w.Truthful w' :=
  ⟨[],by rw [hsent,List.append_nil],by simp⟩

lemma Current.of_same (h : w.Current t) (htrackers : w'.trackers = w.trackers) (hhref : w'.page.href = w.page.href) :
    w'.Current t := by
  unfold Current
  rw [htrackers,hhref]
  exact h

lemma Honest.of_same (hsent : w'.sent = w.sent) (htrackers : w'.trackers = w.trackers)
    (hhref : w'.page.href = w.page.href) : Honest w w' :=
  ⟨.of_same hsent,fun _ h => h.of_same htrackers hhref⟩

lemma Honest.refl (w : World) : Honest w w := .of_same rfl rfl rfl

lemma Honest.frame (h : Honest w w') (hsent : w''.sent = w'.sent) (htrackers : w''.trackers = w'.trackers)
    (hhref : w''.page.href = w'.page.href) : Honest w w'' :=
  ⟨by rw [Truthful,hsent]; exact h.sent,fun t ht => (h.current t ht).of_same htrackers hhref⟩

lemma deliver_trackers (w : World) (id : TrackerId) (i : Installation) (p : Payload) :
    (w.deliver id i p).trackers = w.trackers := by
  unfold deliver
  split
  · rfl
  · split_ifs <;> rfl

lemma deliver_sent (w : World) (id : TrackerId) (i : Installation) (p : Payload) :
    (w.deliver id i p).sent = w.sent ∨
      (w.deliver id i p).sent = w.sent ++ [w.delivery id i.outlet (Request.ofPayload i.tracker.settings p)] := by
  unfold deliver
  split
  · exact .inl rfl
  · split_ifs
    · exact .inr rfl
    · exact .inl rfl

lemma report_trackers {i : Installation} (hi : w.trackers[t]? = some i) :
    (w.report t f).2.trackers = w.trackers.set t { i with tracker := (f i.tracker w.ambient w.clock.now).2 } := by
  simp only [report,hi]
  split
  · rfl
  · exact deliver_trackers ..

lemma report_sent {i : Installation} (hi : w.trackers[t]? = some i) : (w.report t f).2.sent = w.sent ∨
    ∃ p ∈ (f i.tracker w.ambient w.clock.now).1,
      (w.report t f).2.sent = w.sent ++ [w.delivery t i.outlet (Request.ofPayload i.tracker.settings p)] := by
  simp only [report,hi]
  cases hp : (f i.tracker w.ambient w.clock.now).1 with
  | none => exact .inl rfl
  | some p =>
    rcases deliver_sent { w with trackers := w.trackers.set t { i with
      tracker := (f i.tracker w.ambient w.clock.now).2 } } t i p with h | h
    · exact .inl h
    · exact .inr ⟨p,rfl,h⟩

lemma report_page (w : World) (t : TrackerId) : (w.report t f).2.page = w.page := by
  obtain ⟨_,_,_,-,h⟩ := w.report_reported t f
  rw [h]

lemma ambient_kept (h : w.pageKept = true) : w.ambient = w.page.ambient := by
  simp [ambient,h]

/-- A tracker that has looked at the page knows where it is. -/
lemma trackPageView_current {i : Installation} (hkept : w.pageKept = true) (hi : w.trackers[t]? = some i) :
    (w.trackPageView t).2.Current t := by
  have htrackers := report_trackers (f := Tracker.trackPageView) hi
  have hpage : (w.trackPageView t).2.page = w.page := w.report_page t
  have hlt : t < w.trackers.length := (List.getElem?_eq_some_iff.mp hi).1
  refine ⟨{ i with tracker := (i.tracker.trackPageView w.ambient w.clock.now).2 },?_,?_⟩
  · rw [trackPageView,htrackers]
    simp [hlt]
  · rw [hpage,Tracker.trackPageView_lastPath,ambient_kept hkept,Tracker.pathAt,Tracker.pathAt,
      Tracker.trackPageView_truthful.settings]
    rfl

/-- A truthful report on a page that is kept. -/
theorem report_honest (hf : Tracker.Truthful f) (hkept : w.pageKept = true) (t : TrackerId) :
    Honest w (w.report t f).2 := by
  cases hi : w.trackers[t]? with
  | none =>
    have he : (w.report t f).2 = w := by simp [report,hi]
    rw [he]
    exact .refl w
  | some i =>
    refine ⟨?_,fun id hid => ?_⟩
    · rcases report_sent (f := f) hi with hsent | ⟨p,hp,hsent⟩
      · exact .of_same hsent
      · refine ⟨_,hsent,fun d hd => ?_⟩
        obtain rfl := List.mem_singleton.mp hd
        have hpath := hf.path _ _ _ p hp
        rw [ambient_kept hkept] at hpath
        exact ⟨i,p,hi,rfl,hpath⟩
    · obtain ⟨j,hj,hlast⟩ := hid
      unfold Current
      rw [report_trackers hi,report_page]
      by_cases hne : t = id
      · subst hne
        obtain rfl := Option.some.inj (hi.symm.trans hj)
        have hlt : t < w.trackers.length := (List.getElem?_eq_some_iff.mp hi).1
        refine ⟨{ i with tracker := (f i.tracker w.ambient w.clock.now).2 },by simp [hlt],?_⟩
        rw [Tracker.pathAt,hf.settings]
        rcases hf.lastPath i.tracker w.ambient w.clock.now with h | h
        · exact h.trans hlast
        · rw [ambient_kept hkept] at h
          rw [ambient_kept hkept,h]
          rfl
      · exact ⟨j,by rw [List.getElem?_set_ne hne]; exact hj,hlast⟩

end World
end PageTelemetry
