import PageTelemetry.Proofs.Dwell
import PageTelemetry.Proofs.Replay.Flat

/-! A tracker on a page reports what the flat visit reports. The clocks of the two need not agree: a visit
counts from zero, and a clock that is moved by more than it can show falls behind. -/
namespace PageTelemetry.Replay

/-- Two times on a page that no leave tells apart. -/
def SameDwell (x y : ℤ) : Prop := x = y ∨ 3600000 ≤ x ∧ 3600000 ≤ y

namespace Flat

def ambient (v : Visit) (f : Flat) : Payload.Ambient := ⟨f.current,v.referrer,f.title,v.width⟩

/-- The start that a tracker remembers, against that of the visit. -/
def SameStart (f : Flat) (now : ℤ) : Option ℤ → Option ℕ → Prop
  | none,none => True
  | some a,some b => b ≤ f.elapsed ∧ SameDwell (now-a) ((f.elapsed : ℤ)-b)
  | _,_ => False

/-- A tracker at a time stands where the visit stands. -/
structure Matches (v : Visit) (f : Flat) (now : ℤ) (t : Tracker) : Prop where
  settings : t.settings = v.settings
  lastPath : t.lastPath = f.lastPath
  leaving : (t.phase == .leaving) = f.leaving
  start : f.SameStart now t.dwell.start f.pageStart

variable {v : Visit} {f : Flat} {now : ℤ} {t : Tracker}

lemma build_none (v : Visit) (f : Flat) :
    Payload.build v.settings.siteKey v.settings.includeQuery (f.ambient v) none = f.viewPayload v := by
  simp [Payload.build,Payload.buildWith,Payload.textField?,Payload.width?,Payload.countField?,
    Json.Members.get?,viewPayload,path,ambient,Payload.propertiesText]

lemma buildLeave_eq (v : Visit) (f : Flat) (seconds : ℕ) :
    Payload.buildLeave v.settings.siteKey v.settings.includeQuery (f.ambient v) seconds =
      f.leavePayload v seconds := by
  rw [Payload.buildLeave,build_none]
  rfl

/-- A call sets the name and the properties, and nothing else. -/
lemma build_callOverrides (v : Visit) (f : Flat) (name : Option String) (properties : Option Json) :
    Payload.build v.settings.siteKey v.settings.includeQuery (f.ambient v)
      (some (Tracker.callOverrides name properties)) = f.trackPayload v name properties := by
  have horder : Json.Members.precedes "properties" "name" = false := by decide
  cases name <;> cases properties <;>
    simp [Payload.build,Payload.buildWith,Payload.textField?,Payload.width?,Payload.countField?,
      Tracker.callOverrides,Json.members?,Json.string?,Json.Members.ofList,Json.Members.insert,
      Json.Members.get?,trackPayload,viewPayload,path,ambient,Payload.propertiesText,horder]

lemma sameStart_now (f : Flat) (now : ℤ) : f.SameStart now (some now) (some f.elapsed) :=
  ⟨le_rfl,.inl (by omega)⟩

/-- A page view is reported by both or by neither. -/
theorem Matches.trackPageView (h : f.Matches v now t) :
    (t.trackPageView (f.ambient v) now).1.toList = (f.view v).1 ∧
      (f.view v).2.Matches v now (t.trackPageView (f.ambient v) now).2 := by
  have hp : Location.path (f.ambient v).href t.settings.includeQuery = f.path v := by
    rw [h.settings]
    rfl
  unfold Tracker.trackPageView Flat.view
  rw [hp,h.lastPath]
  split_ifs with hs
  · exact ⟨rfl,h⟩
  · simp only [Tracker.track,h.settings,build_none,Option.toList_some,true_and]
    simp only [Tracker.note,viewPayload,if_true]
    exact ⟨h.settings,rfl,rfl,f.sameStart_now now⟩

/-- The seconds of a leave are those of the visit. -/
lemma SameStart.leaveDuration {a b} (h : f.SameStart now (some a) (some b)) :
    (⟨some a⟩ : DwellClock).leaveDuration now =
      if 0 < (f.elapsed-b+500)/1000 ∧ (f.elapsed-b+500)/1000 < 3600 then some ((f.elapsed-b+500)/1000)
      else none := by
  obtain ⟨hb,hd⟩ := h
  rw [DwellClock.leaveDuration_started]
  unfold SameDwell at hd
  by_cases hin : 0 < (f.elapsed-b+500)/1000 ∧ (f.elapsed-b+500)/1000 < 3600
  · rw [if_pos hin,if_pos (by omega)]
    congr 1
    omega
  · rw [if_neg hin,if_neg (by omega)]

lemma leave_of_start {b : ℕ} (h : f.pageStart = some b) :
    f.leave v = if 0 < (f.elapsed-b+500)/1000 ∧ (f.elapsed-b+500)/1000 < 3600 ∧
        ¬(v.settings.dedupeLeave ∧ f.leaving) then
      ([f.leavePayload v ((f.elapsed-b+500)/1000)],{ f with leaving := true }) else ([],f) := by
  simp only [leave,h]

lemma trackLeave_of_none (a : Payload.Ambient) (h : t.dwell.leaveDuration now = none) :
    t.trackLeave a now = (none,t) := by
  simp only [Tracker.trackLeave,h,ite_self]

lemma trackLeave_of_deduped (a : Payload.Ambient)
    (h : t.settings.dedupeLeave && t.phase == .leaving) : t.trackLeave a now = (none,t) := by
  simp only [Tracker.trackLeave,h,if_true]

lemma trackLeave_of_some (a : Payload.Ambient) {seconds : ℕ}
    (hd : ¬(t.settings.dedupeLeave && t.phase == .leaving))
    (h : t.dwell.leaveDuration now = some seconds) :
    t.trackLeave a now =
      (some (Payload.buildLeave t.settings.siteKey t.settings.includeQuery a seconds),
        { t with phase := .leaving }) := by
  rw [Tracker.trackLeave,if_neg hd,h]

/-- A leave is reported by both or by neither. -/
theorem Matches.trackLeave (h : f.Matches v now t) :
    (t.trackLeave (f.ambient v) now).1.toList = (f.leave v).1 ∧
      (f.leave v).2.Matches v now (t.trackLeave (f.ambient v) now).2 := by
  have hstart := h.start
  rcases hs : t.dwell.start with _ | a <;> rcases hb : f.pageStart with _ | b <;>
    rw [hs,hb] at hstart <;> simp only [SameStart] at hstart
  · rw [trackLeave_of_none _ (by simp only [DwellClock.leaveDuration,hs]),leave,hb]
    exact ⟨rfl,h⟩
  · have hdur := SameStart.leaveDuration hstart
    rw [show (⟨some a⟩ : DwellClock) = t.dwell by rw [← hs]] at hdur
    rw [leave_of_start hb]
    by_cases hin : 0 < (f.elapsed-b+500)/1000 ∧ (f.elapsed-b+500)/1000 < 3600
    · rw [if_pos hin] at hdur
      by_cases hd : t.settings.dedupeLeave && t.phase == .leaving
      · rw [trackLeave_of_deduped _ hd]
        rw [h.settings,h.leaving,Bool.and_eq_true] at hd
        rw [if_neg (fun hc => hc.2.2 hd)]
        exact ⟨rfl,h⟩
      · rw [trackLeave_of_some _ hd hdur]
        rw [h.settings,h.leaving,Bool.and_eq_true] at hd
        rw [if_pos ⟨hin.1,hin.2,hd⟩]
        refine ⟨by rw [h.settings,buildLeave_eq]; rfl,h.settings,h.lastPath,rfl,?_⟩
        simp only [hs,hb,SameStart]
        exact hstart
    · rw [if_neg hin] at hdur
      rw [trackLeave_of_none _ hdur,if_neg (fun hc => hin ⟨hc.1,hc.2.1⟩)]
      exact ⟨rfl,h⟩

/-- What is tracked by a call is always reported. -/
theorem Matches.track (h : f.Matches v now t) (name : Option String) (properties : Option Json) :
    [(t.track (f.ambient v) now (some (Tracker.callOverrides name properties))).1] =
        (f.track v name properties).1 ∧
      (f.track v name properties).2.Matches v now
        (t.track (f.ambient v) now (some (Tracker.callOverrides name properties))).2 := by
  simp only [Tracker.track,h.settings,build_callOverrides,Flat.track,true_and]
  simp only [Tracker.note,trackPayload,viewPayload,if_true]
  by_cases hn : name.getD "" = ""
  · simp only [hn,if_true]
    exact ⟨h.settings,rfl,rfl,f.sameStart_now now⟩
  · simp only [hn,if_false]
    exact ⟨h.settings,h.lastPath,h.leaving,f.sameStart_now now⟩

/-- Time that passes on both. -/
lemma SameStart.advance {a : Option ℤ} {b : Option ℕ} (h : f.SameStart now a b) {now' : ℤ} {ms : ℕ}
    (hd : now'-now = ms ∨ 3600000 ≤ now'-now ∧ 3600000 ≤ ms) (g : Flat)
    (hg : g.elapsed = f.elapsed+ms) : g.SameStart now' a b := by
  cases a <;> cases b <;> simp only [SameStart,SameDwell] at h ⊢
  omega

end Flat
end PageTelemetry.Replay
