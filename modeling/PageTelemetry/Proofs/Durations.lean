import PageTelemetry.Proofs.Bodies
import PageTelemetry.Proofs.Dwell
import PageTelemetry.Proofs.Journal
import PageTelemetry.Proofs.Json.Members

/-! Which bodies carry a duration. A tracker measures one for a leave alone, and it lies between a second and an hour;
any other was set by the caller, as the duration of an object without a name. -/
namespace PageTelemetry

lemma DwellClock.leaveDuration_bounds {c : DwellClock} {now : ℤ} {seconds : ℕ}
    (h : c.leaveDuration now = some seconds) : 1 ≤ seconds ∧ seconds ≤ 3599 := by
  obtain ⟨_ | start⟩ := c
  · cases h
  · rw [leaveDuration_started] at h
    split_ifs at h with hrange
    obtain rfl := Option.some.inj h
    omega

namespace Payload
variable {siteKey : String} {includeQuery : Bool} {a : Ambient} {overrides : Option Json} {fields : Json.Members}

lemma count?_lt {v : Json} {n : ℕ} (h : count? v = some n) : n < 0x10000000000000000 := by
  unfold count? at h
  split at h
  · rename_i hnat
    obtain rfl := Option.some.inj h
    unfold Json.nat64? at hnat
    split at hnat
    · split_ifs at hnat
      obtain rfl := Option.some.inj hnat
      omega
    · cases hnat
  · split at h
    · cases h
    · split_ifs at h
      obtain ⟨i,-,rfl⟩ := Option.map_eq_some_iff.mp h
      omega

lemma countField?_lt {name : String} {n : ℕ} (h : countField? fields name = some n) : n < 0x10000000000000000 := by
  obtain ⟨v,-,hv⟩ := Option.bind_eq_some_iff.mp h
  exact count?_lt hv

lemma width?_lt {n : ℕ} (h : width? fields = some n) : n < 0x100000000 := by
  unfold width? at h
  split at h
  · split_ifs at h with hlt
    obtain rfl := Option.some.inj h
    exact hlt
  · cases h

/-- The fields that overrides set. -/
def overriding (overrides : Option Json) : Json.Members := (overrides.bind Json.members?).getD []

/-- What is built has a duration only if that is set and no name is. -/
lemma build_duration (h : (build siteKey includeQuery a overrides).duration ≠ 0) :
    ((textField? (overriding overrides) "name").getD "" = "") ∧
      countField? (overriding overrides) "duration" = some (build siteKey includeQuery a overrides).duration := by
  change (if _ = "" then _ else 0) ≠ 0 at h
  change _ ∧ _ = some (if _ = "" then _ else 0)
  split_ifs at h ⊢ with hname
  · refine ⟨hname,?_⟩
    cases hcount : countField? ((overrides.bind Json.members?).getD []) "duration" with
    | none => exact absurd (by rw [hcount]; rfl) h
    | some n => exact hcount
  · exact absurd rfl h

lemma build_inRange (ha : a.width < 0x100000000) : (build siteKey includeQuery a overrides).InRange := by
  constructor
  · change ((width? (overriding overrides)).getD a.width) < _
    cases hw : width? (overriding overrides) with
    | none => exact ha
    | some n => exact width?_lt hw
  · by_cases hd : (build siteKey includeQuery a overrides).duration = 0
    · omega
    · exact countField?_lt (build_duration hd).2

/-- An event has no duration, whatever is set. -/
lemma build_event (h : (build siteKey includeQuery a overrides).name ≠ "") :
    (build siteKey includeQuery a overrides).duration = 0 := if_neg h

end Payload

namespace Tracker
open Payload
variable {t t' : Tracker} {a : Ambient} {now : ℤ} {c : Call} {p : Payload}

/-- A payload is that of the page on leaving it, or that of the page with what a caller set over it; nobody sets
anything over a page view that is due to the path. -/
inductive Made (t : Tracker) (a : Ambient) : Call → Payload → Prop
  | left {c : Call} {seconds : ℕ} (hc : c.origin = .left) (hrange : 1 ≤ seconds ∧ seconds ≤ 3599) :
    Made t a c (buildLeave t.settings.siteKey t.settings.includeQuery a seconds)
  | viewed {c : Call} (hc : c.origin = .viewed) :
    Made t a c (build t.settings.siteKey t.settings.includeQuery a none)
  | asked (overrides : Option Json) :
    Made t a (.track overrides) (build t.settings.siteKey t.settings.includeQuery a overrides)

lemma trackLeave_made (hc : c.origin = .left) (h : (t.trackLeave a now).1 = some p) : t.Made a c p := by
  unfold trackLeave at h
  split_ifs at h
  split at h
  · cases h
  · rename_i seconds hseconds
    obtain rfl := Option.some.inj h
    exact .left hc (DwellClock.leaveDuration_bounds hseconds)

lemma trackPageView_made (hc : c.origin = .viewed) (h : (t.trackPageView a now).1 = some p) : t.Made a c p := by
  unfold trackPageView at h
  split_ifs at h
  obtain rfl := Option.some.inj h
  exact .viewed hc

lemma answer_made (h : (c.answer t a now).1 = some p) : t.Made a c p := by
  cases c with
  | track overrides =>
    obtain rfl := Option.some.inj h
    exact .asked overrides
  | pageView => exact trackPageView_made rfl h
  | leave => exact trackLeave_made rfl h
  | signal sg =>
    cases sg with
    | navigate kind => exact trackPageView_made rfl h
    | hidden => exact trackLeave_made rfl h
    | unload => exact trackLeave_made rfl h

lemma Made.inRange (h : t.Made a c p) (ha : a.width < 0x100000000) : p.InRange := by
  cases h with
  | @left _ seconds _ hrange =>
    have hduration : seconds < 0x10000000000000000 := by omega
    have hpage : (build t.settings.siteKey t.settings.includeQuery a none).InRange := build_inRange ha
    exact ⟨hpage.width,hduration⟩
  | viewed => exact build_inRange ha
  | asked overrides => exact build_inRange ha

/-- A duration in a body is one that was measured, and then there is no title, or one that a caller set. -/
lemma Made.duration {v : Json} (h : t.Made a c p) (hv : p.HasField "duration" v) :
    p.endpoint = .collect ∧ v = .int p.duration ∧
      ((c.origin = .left ∧ (1 ≤ p.duration ∧ p.duration ≤ 3599) ∧ p.title = "") ∨
        ∃ overrides, c = .track overrides ∧ (textField? (overriding overrides) "name").getD "" = "" ∧
          countField? (overriding overrides) "duration" = some p.duration) := by
  obtain ⟨hname,hduration,rfl⟩ := hv.of_duration
  refine ⟨endpoint_collect hname,rfl,?_⟩
  cases h with
  | left hc hrange => exact .inl ⟨hc,hrange,rfl⟩
  | viewed => exact absurd rfl hduration
  | asked overrides => exact .inr ⟨overrides,rfl,build_duration hduration⟩

/-- What goes where events go has a name and no duration. -/
lemma Made.event (h : t.Made a c p) (hp : p.endpoint = .event) : p.name ≠ "" ∧ p.duration = 0 := by
  have hname : p.name ≠ "" := by
    intro hname
    rw [endpoint_collect hname] at hp
    cases hp
  refine ⟨hname,?_⟩
  cases h with
  | left | viewed => exact absurd rfl hname
  | asked => exact build_event hname

end Tracker

namespace World
open Tracker Payload Json
variable {w₀ w : World} {t : TrackerId} {s : Settings} {o : OutletId} {log : List Entry}

lemma ambient_width (hwidth : w.page.width < 0x100000000) : w.ambient.width < 0x100000000 := by
  unfold ambient
  split_ifs
  · exact hwidth
  · decide

/-- A call with an answer sends nothing but that. -/
lemma ask_new {i : Installation} (hi : w.trackers[t]? = some i) {c : Call} {p : Payload} (h : (w.ask t c).1 = some p) :
    ∃ new, (w.ask t c).2.sent = w.sent ++ new ∧
      ∀ d ∈ new, d = w.delivery t i.outlet (Request.ofPayload i.tracker.settings p) := by
  rw [ask_answer hi] at h
  rw [ask_eq_report]
  rcases report_sent (f := c.answer) hi with hsent | ⟨q,hq,hsent⟩
  · exact ⟨[],by rw [hsent,List.append_nil],fun _ hd => absurd hd List.not_mem_nil⟩
  · obtain rfl := Option.some.inj (h.symm.trans hq)
    exact ⟨_,hsent,fun d hd => List.mem_singleton.mp hd⟩

/-- In every run of a tracker, whatever a call sends is the payload that it answers with. A body that reads back with a
duration goes where page views go. It is that of a leave, with a duration of at least a second and less than an hour and
without a title, or the caller set that duration, without a name; what goes where events go has a name and no
duration. -/
theorem sent_durations (h₀ : w₀.trackers[t]? = some ⟨.ofSettings s,o⟩) (h : w₀.Journal t log w)
    (hwidth : w.page.width < 0x100000000) (c : Call) : ∃ new, (w.ask t c).2.sent = w.sent ++ new ∧ ∀ d ∈ new,
      ∃ p ms, (w.ask t c).1 = some p ∧ d = w.delivery t o (Request.ofPayload s p) ∧
        Json.parse? d.request.body = some (.object ms) ∧
        (∀ v, Members.get? "duration" ms = some v → p.endpoint = .collect ∧ v = .int p.duration ∧
          ((c.origin = .left ∧ (1 ≤ p.duration ∧ p.duration ≤ 3599) ∧ Members.get? "title" ms = none) ∨
            ∃ overrides, c = .track overrides ∧ (textField? (overriding overrides) "name").getD "" = "" ∧
              countField? (overriding overrides) "duration" = some p.duration)) ∧
        (p.endpoint = .event → p.name ≠ "" ∧ p.duration = 0) := by
  have htracker := h.tracker h₀
  cases hp : (w.ask t c).1 with
  | none => exact ⟨[],by rw [ask_eq_self htracker hp,List.append_nil],fun _ hd => absurd hd List.not_mem_nil⟩
  | some p =>
    have hmade : (ofJournal s log).Made w.ambient c p := answer_made (ask_answer htracker c ▸ hp)
    have hread := parse?_body (hmade.inRange (ambient_width hwidth))
    obtain ⟨new,hnew,hall⟩ := ask_new htracker hp
    refine ⟨new,hnew,fun d hd => ⟨p,p.fields,rfl,hall d hd,?_,fun v hv => ?_,hmade.event⟩⟩
    · rw [hall d hd]
      exact hread
    · obtain ⟨hcollect,hv,hleft | hasked⟩ := hmade.duration (mem_fields.mp (Json.Members.mem_of_get? hv))
      · obtain ⟨hc,hrange,htitle⟩ := hleft
        exact ⟨hcollect,hv,.inl ⟨hc,hrange,Members.get?_eq_none fun v hv => (mem_fields.mp hv).of_title.1 htitle⟩⟩
      · exact ⟨hcollect,hv,.inr hasked⟩

/-- A number and a text of a body, if it has them. -/
def numberOf (r : Request) (name : String) : Option ℤ := (r.bodyJson.get? name).bind Json.int?

def textOf (r : Request) (name : String) : Option String := (r.bodyJson.get? name).bind Json.string?

/-- A page with a title. -/
def titled : World := attended.modifyPage fun p => { p with title := "Home" }

lemma titled_journal : attended.Journal 0 [] titled := Journal.start.onPage _

/-- Somebody has looked at it for five seconds. -/
def lookedAt : World := { (titled.ask 0 .pageView).2 with clock := ⟨5000⟩ }

theorem sent_durations_lookedAt : (∃ log, attended.Journal 0 log lookedAt) ∧
    (lookedAt.sent.map fun d => (numberOf d.request "duration",textOf d.request "title")) = [(none,some "Home")] ∧
    ∃ new, (lookedAt.ask 0 (.signal .hidden)).2.sent = lookedAt.sent ++ new ∧
      (new.map fun d => numberOf d.request "duration") = [some 5] ∧
      ∀ d ∈ new, ∃ ms, Json.parse? d.request.body = some (.object ms) ∧ Members.get? "title" ms = none := by
  have hlog := (titled_journal.call .pageView).wait 5000
  obtain ⟨new,hnew,hall⟩ := sent_durations (w := lookedAt) rfl hlog (by decide +kernel) (.signal .hidden)
  have hdurations : (new.map fun d => numberOf d.request "duration") = [some 5] := by
    have hbefore : (lookedAt.sent.map fun d => numberOf d.request "duration") = [none] := by decide +kernel
    have hafter : ((lookedAt.ask 0 (.signal .hidden)).2.sent.map fun d => numberOf d.request "duration") =
        [none,some 5] := by decide +kernel
    rw [hnew,List.map_append,hbefore] at hafter
    exact (List.cons.inj hafter).2
  refine ⟨⟨_,hlog⟩,by decide +kernel,new,hnew,hdurations,fun d hd => ?_⟩
  obtain ⟨p,ms,-,-,hread,hduration,-⟩ := hall d hd
  have hnumber : numberOf d.request "duration" = some 5 :=
    List.mem_singleton.mp (hdurations ▸ List.mem_map_of_mem hd)
  simp only [numberOf,Request.bodyJson,hread,Option.getD_some] at hnumber
  obtain ⟨v,hv,-⟩ := Option.bind_eq_some_iff.mp hnumber
  obtain ⟨-,-,⟨-,-,htitle⟩ | ⟨_,hc,-⟩⟩ := hduration v hv
  · exact ⟨ms,hread,htitle⟩
  · cases hc

/-- A caller sets a duration of more than an hour, and the title is sent along with it. -/
theorem sent_durations_set : attended.Journal 0 [] titled ∧
    ((titled.ask 0 (.track (some (inputOverrides (.object [("duration",.int 5000)]))))).2.sent.map fun d =>
      (d.request.url,numberOf d.request "duration",textOf d.request "title")) =
        [("https://a.io/api/collect?site_key=k",some 5000,some "Home")] :=
  ⟨titled_journal,by decide +kernel⟩

end World
end PageTelemetry
