import PageTelemetry.Proofs.Durations
import PageTelemetry.Proofs.Replay.Flat
import PageTelemetry.Proofs.Rules

/-! The timeline of a replay: time passes, and requests are sent. Whatever stands on the page, the tracker of a replay
remembers the moment of its last page view or event; so what it reads off the clock when the page is left is the time
that has passed on the timeline since then, as far as a clock of 64 bits can tell. -/
namespace PageTelemetry

/-- The seconds on the page that a request carries. -/
def Request.duration? (r : Request) : Option ℤ := World.numberOf r "duration"

namespace Replay

/-- What is to be seen of a replay. -/
inductive Happening
  | passed (ms : ℕ)
  | sent (r : Request)

def Happening.request? : Happening → Option Request
  | .passed _ => none
  | .sent r => some r

/-- What the milliseconds since the last page view or event become with one more happening, where `move` says how far
a clock is moved for a time that passes. -/
def Happening.follow (move : ℕ → ℕ) (since : ℕ) : Happening → ℕ
  | .passed ms => since+move ms
  | .sent r => if r.duration?.isSome then since else 0

/-- The milliseconds since the last page view or event of a timeline. -/
def sinceView (move : ℕ → ℕ) (hs : List Happening) : ℕ := hs.foldl (Happening.follow move) 0

/-- How far a clock is moved at once. -/
def clamped (ms : ℕ) : ℕ := min ms 0x7fffffffffffffff

/-- The readings of a clock. -/
def IsReading (i : ℤ) : Prop := -0x8000000000000000 ≤ i ∧ i < 0x8000000000000000

/-- A leave that reports what has passed on a timeline: the seconds are the nearest to it, if it is taken as far as the
clock can tell. -/
structure Reports (hs : List Happening) (d : ℤ) : Prop where
  range : 0 < d ∧ d < 3600
  shown : 1000*d-500 ≤ (sinceView clamped hs % 0x10000000000000000 : ℕ) ∧
    (sinceView clamped hs % 0x10000000000000000 : ℕ) < 1000*d+500
  exact : sinceView id hs < 0x10000000000000000 → 1000*d-500 ≤ sinceView id hs ∧ sinceView id hs < 1000*d+500

variable {hs : List Happening}

lemma sinceView_concat (move : ℕ → ℕ) (hs : List Happening) (h : Happening) :
    sinceView move (hs ++ [h]) = h.follow move (sinceView move hs) := by
  rw [sinceView,List.foldl_append]
  rfl

/-- Clamping takes away, but nothing of a time that a clock can show. -/
lemma sinceView_clamped (hs : List Happening) : sinceView clamped hs ≤ sinceView id hs ∧
    (sinceView clamped hs < 0x7fffffffffffffff → sinceView clamped hs = sinceView id hs) := by
  induction hs using List.reverseRecOn with
  | nil => exact ⟨le_rfl,fun _ => rfl⟩
  | append_singleton hs h ih =>
    rw [sinceView_concat,sinceView_concat]
    cases h with
    | passed ms =>
      simp only [Happening.follow,clamped,id_eq]
      omega
    | sent r =>
      simp only [Happening.follow]
      split_ifs
      · exact ih
      · exact ⟨le_rfl,fun _ => rfl⟩

lemma isReading_wrapInt64 (i : ℤ) : IsReading (wrapInt64 i) := by
  simp only [IsReading,wrapInt64,Int.bmod]
  omega

/-- What a clock of a page view, at a time, has moved by since it was started is what has passed on a timeline. -/
def KeepsTime (hs : List Happening) (now : ℤ) (c : DwellClock) : Prop :=
  ∀ start, c.start = some start → IsReading start ∧ now = wrapInt64 (start+sinceView clamped hs)

lemma KeepsTime.reports {c : DwellClock} {now : ℤ} {d : ℕ} (hc : KeepsTime hs now c)
    (h : c.leaveDuration now = some d) : Reports hs d := by
  obtain ⟨_ | start⟩ := c
  · cases h
  · obtain ⟨hpos,hlimit,hlow,hhigh⟩ := DwellClock.leaveDuration_eq_some_iff.mp h
    obtain ⟨hstart,hnow⟩ := hc start rfl
    obtain ⟨hle,hsame⟩ := sinceView_clamped hs
    have hmod : ((sinceView clamped hs % 0x10000000000000000 : ℕ) : ℤ) = now-start := by
      simp only [IsReading] at hstart
      simp only [wrapInt64,Int.bmod] at hnow
      omega
    refine ⟨by omega,by omega,fun hexact => ?_⟩
    rw [← hsame (by omega)]
    omega

end Replay

/-! What a tracker answers, and when. -/

namespace Tracker
open Payload
variable {t : Tracker} {a : Ambient} {now : ℤ} {c : Call} {p : Payload}

/-- A call that sets no duration. -/
def Call.IsUndated : Call → Prop
  | .track overrides => countField? (overriding overrides) "duration" = none
  | .pageView | .leave | .signal _ => True

lemma callOverrides_undated (name : Option String) (properties : Option Json) :
    (Call.track (some (callOverrides name properties))).IsUndated := by
  have horder : Json.Members.precedes "properties" "name" = false := by decide
  cases name <;> cases properties <;>
    simp [Call.IsUndated,overriding,countField?,callOverrides,Json.members?,Json.Members.ofList,Json.Members.insert,
      Json.Members.get?,horder]

/-- A payload restarts the clock of its tracker, or it has the duration that this clock shows. -/
def Times (t t' : Tracker) (now : ℤ) (p : Payload) : Prop :=
  p.duration = 0 ∧ t'.dwell.start = some now ∨
    p.name = "" ∧ t.dwell.leaveDuration now = some p.duration ∧ t'.dwell = t.dwell

lemma note_times (hp : p.duration = 0) : t.Times (t.note now p) now p := by
  refine .inl ⟨hp,?_⟩
  simp only [note,hp,if_true]
  split_ifs <;> rfl

lemma trackPageView_times (h : (t.trackPageView a now).1 = some p) : t.Times (t.trackPageView a now).2 now p := by
  unfold trackPageView at h ⊢
  split_ifs at h ⊢
  obtain rfl := Option.some.inj h
  exact note_times rfl

lemma trackLeave_times (h : (t.trackLeave a now).1 = some p) : t.Times (t.trackLeave a now).2 now p := by
  unfold trackLeave at h ⊢
  split_ifs at h ⊢
  cases hd : t.dwell.leaveDuration now with
  | none => rw [hd] at h; cases h
  | some seconds =>
    rw [hd] at h
    obtain rfl := Option.some.inj h
    exact .inr ⟨rfl,hd,rfl⟩

lemma answer_times (hc : c.IsUndated) (h : (c.answer t a now).1 = some p) : t.Times (c.answer t a now).2 now p := by
  cases c with
  | track overrides =>
    obtain rfl := Option.some.inj h
    refine note_times ?_
    by_contra hduration
    have hset := (build_duration hduration).2
    rw [hc] at hset
    cases hset
  | pageView => exact trackPageView_times h
  | leave => exact trackLeave_times h
  | signal sg =>
    cases sg with
    | navigate kind => exact trackPageView_times h
    | hidden => exact trackLeave_times h
    | unload => exact trackLeave_times h

end Tracker

namespace Request
variable {p : Payload} (s : Settings)

lemma duration?_ofPayload (hp : p.InRange) : (ofPayload s p).duration? =
    ((Json.Members.get? "duration" p.fields).bind Json.int?) := by
  have hread : (ofPayload s p).bodyJson = .object p.fields := by
    rw [bodyJson,ofPayload,Payload.parse?_body hp]
    rfl
  rw [duration?,World.numberOf,hread]
  rfl

lemma duration?_of_zero (hp : p.InRange) (hzero : p.duration = 0) : (ofPayload s p).duration? = none := by
  rw [duration?_ofPayload s hp,Json.Members.get?_eq_none fun v hv => (Payload.mem_fields.mp hv).of_duration.2.1 hzero]
  rfl

lemma duration?_of_pos (hp : p.InRange) (hname : p.name = "") (hpos : 0 < p.duration) :
    (ofPayload s p).duration? = some (p.duration : ℤ) := by
  have hne : p.duration ≠ 0 := by omega
  rw [duration?_ofPayload s hp,Payload.fields,Payload.endpoint_collect hname]
  simp [hne,Json.Members.get?,Json.int?]

end Request

/-! Timelines that only tell the truth about leaves. -/

namespace Replay
variable {hs : List Happening} {h : Happening} {t t' : Tracker} {now : ℤ} {p : Payload}

/-- Every leave of a timeline reports what has passed until then. -/
def Faithful (hs : List Happening) : Prop :=
  ∀ pre r post d, hs = pre ++ .sent r::post → r.duration? = some d → Reports pre d

lemma faithful_nil : Faithful [] := fun _ _ _ _ he => by simp at he

lemma Faithful.concat (hhs : Faithful hs) (hlast : ∀ r d, h = .sent r → r.duration? = some d → Reports hs d) :
    Faithful (hs ++ [h]) := by
  intro pre r post d he hd
  rcases List.eq_nil_or_concat' post with rfl | ⟨post,last,rfl⟩
  · obtain ⟨rfl,hr⟩ := List.append_inj' he rfl
    exact hlast r d (List.singleton_inj.mp hr) hd
  · rw [← List.cons_append,← List.append_assoc] at he
    exact hhs pre r post d (List.append_inj' he rfl).1 hd

/-- A clock keeps time over a payload that is sent, whether that restarts it or not. -/
lemma KeepsTime.sent (hc : KeepsTime hs now t.dwell) (hnow : IsReading now) (hp : p.InRange)
    (htimes : t.Times t' now p) (s : Settings) : KeepsTime (hs ++ [.sent (.ofPayload s p)]) now t'.dwell := by
  intro start hstart
  rw [sinceView_concat]
  rcases htimes with ⟨hzero,hrestart⟩ | ⟨hname,hleave,hdwell⟩
  · obtain rfl := Option.some.inj (hrestart.symm.trans hstart)
    have hself := wrapInt64_eq_self hnow.1 hnow.2
    simp only [Happening.follow,Request.duration?_of_zero s hp hzero,Option.isSome_none,Bool.false_eq_true,if_false]
    exact ⟨hnow,by simpa using hself.symm⟩
  · have hpos := (DwellClock.leaveDuration_bounds hleave).1
    rw [hdwell] at hstart
    simp only [Happening.follow,Request.duration?_of_pos s hp hname hpos,Option.isSome_some,if_true]
    exact hc start hstart

/-- What is sent with a duration is the report of a leave. -/
lemma KeepsTime.reports_sent (hc : KeepsTime hs now t.dwell) (hp : p.InRange) (htimes : t.Times t' now p)
    {s : Settings} {d : ℤ} (hd : (Request.ofPayload s p).duration? = some d) : Reports hs d := by
  rcases htimes with ⟨hzero,-⟩ | ⟨hname,hleave,-⟩
  · rw [Request.duration?_of_zero s hp hzero] at hd
    cases hd
  · rw [Request.duration?_of_pos s hp hname (DwellClock.leaveDuration_bounds hleave).1] at hd
    obtain rfl := Option.some.inj hd
    exact hc.reports hleave

end Replay

namespace World
open Replay Tracker
variable {w w' : World} {out : Outlet} {hs : List Happening} {now : ℤ}

/-- Two worlds that differ in nothing that counts when a tracker is called, but for the page, which has the same
width. -/
structure SameBooks (w w' : World) : Prop where
  trackers : w'.trackers = w.trackers
  outlets : w'.outlets = w.outlets
  sent : w'.sent = w.sent
  clock : w'.clock = w.clock
  width : w'.page.width = w.page.width

/-- A world with one tracker, at a time, of which a timeline tells all: the requests that its outlet has taken, and, if
it takes any, how far the clock has moved since that of the tracker was started. -/
structure Accounts (out : Outlet) (hs : List Happening) (now : ℤ) (w : World) : Prop where
  outlets : w.outlets = [out]
  width : w.page.width < 0x100000000
  clock : w.clock = ⟨now⟩
  reading : IsReading now
  requests : (w.traffic 0).requests = hs.filterMap Happening.request?
  tracker : ∃ t, w.trackers = [⟨t,0⟩] ∧ (out.accepts = true → KeepsTime hs now t.dwell)
  faithful : Faithful hs

lemma Accounts.frame (h : w.Accounts out hs now) (hsame : w.SameBooks w') : w'.Accounts out hs now := by
  obtain ⟨t,ht,hkeeps⟩ := h.tracker
  refine ⟨hsame.outlets.trans h.outlets,hsame.width ▸ h.width,hsame.clock.trans h.clock,h.reading,?_,
    ⟨t,hsame.trackers.trans ht,hkeeps⟩,h.faithful⟩
  rw [← h.requests,traffic,traffic,hsame.sent]

lemma requests_append {new : List Delivery} (hsent : w'.sent = w.sent ++ new) (hnew : ∀ d ∈ new, d.outlet = 0) :
    (w'.traffic 0).requests = (w.traffic 0).requests ++ new.map Delivery.request := by
  have hall : new.filter (·.outlet == 0) = new := List.filter_eq_self.mpr fun d hd => by simp [hnew d hd]
  rw [traffic,traffic,hsent,List.filter_append,hall,List.map_append]

/-- What is taken of a call comes next on the timeline. -/
theorem Accounts.ask (h : w.Accounts out hs now) {c : Call} (hc : c.IsUndated) :
    ∃ new : List Request, (w.ask 0 c).2.Accounts out (hs ++ new.map .sent) now := by
  obtain ⟨t,ht,hkeeps⟩ := h.tracker
  have hi : w.trackers[0]? = some ⟨t,0⟩ := by rw [ht]; rfl
  cases hp : (w.ask 0 c).1 with
  | none => exact ⟨[],by rw [ask_eq_self hi hp]; simpa using h⟩
  | some p =>
    have hanswer := hp
    rw [ask_answer hi,h.clock] at hanswer
    have hrange : p.InRange := (answer_made hanswer).inRange (ambient_width h.width)
    have hout : w.outlets[0]? = some out := by rw [h.outlets]; rfl
    have hsent := ask_sent hi hp hout
    have htrackers : (w.ask 0 c).2.trackers = [⟨(c.answer t w.ambient now).2,0⟩] := by
      rw [ask_eq_report,report_trackers hi,ht,h.clock]
      rfl
    obtain ⟨_,_,_,-,e⟩ := w.report_reported 0 c.answer
    rw [← ask_eq_report] at e
    have houtlets : (w.ask 0 c).2.outlets = [out] := by rw [e]; exact h.outlets
    have hwidth : (w.ask 0 c).2.page.width < 0x100000000 := by rw [e]; exact h.width
    have hclock : (w.ask 0 c).2.clock = ⟨now⟩ := by rw [e]; exact h.clock
    by_cases haccepts : out.accepts = true
    · rw [if_pos haccepts] at hsent
      have hrequests := requests_append hsent (by simp [delivery])
      refine ⟨[.ofPayload t.settings p],houtlets,hwidth,hclock,h.reading,?_,⟨_,htrackers,fun _ => ?_⟩,
        h.faithful.concat fun r d hr hd => ?_⟩
      · rw [hrequests,h.requests,List.filterMap_append]
        rfl
      · exact (hkeeps haccepts).sent h.reading hrange (answer_times hc hanswer) t.settings
      · obtain rfl := Happening.sent.inj hr
        exact (hkeeps haccepts).reports_sent hrange (answer_times hc hanswer) hd
    · rw [if_neg haccepts] at hsent
      have hrequests := requests_append hsent (by simp)
      refine ⟨[],houtlets,hwidth,hclock,h.reading,?_,⟨_,htrackers,fun ho => absurd ho haccepts⟩,?_⟩
      · rw [hrequests,h.requests]
        simp
      · simpa using h.faithful

end World

end PageTelemetry
