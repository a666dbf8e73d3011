import PageTelemetry.Proofs.Paths

/-! The journal of a tracker: the payloads that it has produced, with how and when. All that a tracker keeps of
its session can be read off its journal, whatever has become of the page and of the clock meanwhile; so two page
views in a row that nobody asked for never have one path, and leaves that are told once per page view have a page
view between them. -/
namespace PageTelemetry

namespace Tracker

/-- What a tracker can be asked for. -/
inductive Call
  | track (overrides : Option Json)
  | pageView
  | leave
  | signal (s : Signal)

/-- How a payload came about. -/
inductive Origin
  /-- Somebody asked for it. -/
  | asked
  /-- A page view because of the path. -/
  | viewed
  /-- The time on a page that is left. -/
  | left
  deriving DecidableEq

namespace Call

def origin : Call → Origin
  | .track _ => .asked
  | .pageView | .signal (.navigate _) => .viewed
  | .leave | .signal .hidden | .signal .unload => .left

def answer : Call → Tracker → Payload.Ambient → Int → Option Payload × Tracker
  | .track overrides => fun t a now => (some (t.track a now overrides).1,(t.track a now overrides).2)
  | .pageView => trackPageView
  | .leave => trackLeave
  | .signal s => fun t a now => t.handle a now s

end Call

/-- A payload in a journal. -/
structure Entry where
  origin : Origin
  payload : Payload
  /-- What the clock read. -/
  time : Int

/-- What a call adds to the journal. -/
def Call.entries (c : Call) (now : Int) (p : Option Payload) : List Entry :=
  p.toList.map fun p => ⟨c.origin,p,now⟩

namespace Entry

def isLeave (e : Entry) : Bool := e.origin == .left

/-- A page view or an event without a duration. -/
def restarts (e : Entry) : Bool := !e.isLeave && e.payload.duration == 0

def isView (e : Entry) : Bool := e.restarts && e.payload.name == ""

end Entry

/-- The last page view of a journal. -/
def lastView? (log : List Entry) : Option Entry := (log.filter Entry.isView).getLast?

/-- Where a journal says that the current page view stands: its last page view or leave decides. -/
def standing (log : List Entry) : Phase :=
  match (log.filter fun e => e.isView || e.isLeave).getLast? with
  | none => .idle
  | some e => if e.isLeave then .leaving else .installed

/-- The tracker that a journal tells of. -/
def ofJournal (s : Settings) (log : List Entry) : Tracker where
  settings := s
  lastPath := (lastView? log).map fun e => e.payload.path
  dwell := ⟨(log.filter Entry.restarts).getLast?.map Entry.time⟩
  phase := standing log

variable {s : Settings} {log : List Entry} {a : Payload.Ambient} {now : ℤ}

/-- A tracker takes note of a payload as its journal does. -/
lemma note_ofJournal {origin : Origin} (h : origin ≠ .left) (p : Payload) :
    (ofJournal s log).note now p = ofJournal s (log ++ [⟨origin,p,now⟩]) := by
  have hleave : (⟨origin,p,now⟩ : Entry).isLeave = false := by simpa [Entry.isLeave] using h
  by_cases hduration : p.duration = 0
  · by_cases hname : p.name = "" <;>
      simp [note,ofJournal,lastView?,standing,Entry.isView,Entry.restarts,hleave,hduration,hname,DwellClock.reset]
  · simp [note,ofJournal,lastView?,standing,Entry.isView,Entry.restarts,hleave,hduration]

lemma leave_ofJournal (p : Payload) :
    { ofJournal s log with phase := .leaving } = ofJournal s (log ++ [⟨.left,p,now⟩]) := by
  simp [ofJournal,lastView?,standing,Entry.isView,Entry.restarts,Entry.isLeave]

lemma trackPageView_ofJournal : ((ofJournal s log).trackPageView a now).2 =
    ofJournal s (log ++ Call.pageView.entries now ((ofJournal s log).trackPageView a now).1) := by
  unfold trackPageView
  split_ifs
  · simp [Call.entries]
  · exact note_ofJournal (by decide : Origin.viewed ≠ .left) ((ofJournal s log).track a now none).1

lemma trackLeave_ofJournal : ((ofJournal s log).trackLeave a now).2 =
    ofJournal s (log ++ Call.leave.entries now ((ofJournal s log).trackLeave a now).1) := by
  unfold trackLeave
  split_ifs
  · simp [Call.entries]
  · split
    · simp [Call.entries]
    · exact leave_ofJournal _

/-- After every call a tracker is what the journal with that call tells. -/
theorem answer_ofJournal (c : Call) : (c.answer (ofJournal s log) a now).2 =
    ofJournal s (log ++ c.entries now (c.answer (ofJournal s log) a now).1) := by
  cases c with
  | track overrides => exact note_ofJournal (by decide : Origin.asked ≠ .left) _
  | pageView => exact trackPageView_ofJournal
  | leave => exact trackLeave_ofJournal
  | signal sg =>
    cases sg with
    | navigate kind => exact trackPageView_ofJournal
    | hidden => exact trackLeave_ofJournal
    | unload => exact trackLeave_ofJournal

lemma trackPageView_eq_self {t : Tracker} (h : (t.trackPageView a now).1 = none) :
    (t.trackPageView a now).2 = t := by
  unfold trackPageView at h ⊢
  split_ifs at h ⊢
  rfl

lemma trackLeave_eq_self {t : Tracker} (h : (t.trackLeave a now).1 = none) : (t.trackLeave a now).2 = t := by
  unfold trackLeave at h ⊢
  split_ifs at h ⊢
  · rfl
  · split at h
    · rfl
    · cases h

/-- A call without an answer leaves the tracker as it is. -/
theorem answer_eq_self {t : Tracker} {c : Call} (h : (c.answer t a now).1 = none) : (c.answer t a now).2 = t := by
  cases c with
  | track overrides => cases h
  | pageView => exact trackPageView_eq_self h
  | leave => exact trackLeave_eq_self h
  | signal sg =>
    cases sg with
    | navigate kind => exact trackPageView_eq_self h
    | hidden => exact trackLeave_eq_self h
    | unload => exact trackLeave_eq_self h

/-- A page view that nobody asked for has another path than the last one. -/
lemma answer_viewed {t : Tracker} {c : Call} {p : Payload} (hc : c.origin = .viewed)
    (h : (c.answer t a now).1 = some p) : p.name = "" ∧ p.duration = 0 ∧ t.lastPath ≠ some p.path := by
  have hview (hp : (t.trackPageView a now).1 = some p) :
      p.name = "" ∧ p.duration = 0 ∧ t.lastPath ≠ some p.path := by
    have hpath := trackPageView_truthful.path t a now p hp
    unfold trackPageView at hp
    split_ifs at hp with hlast
    obtain rfl := Option.some.inj hp
    rw [hpath]
    exact ⟨rfl,rfl,hlast⟩
  cases c with
  | track overrides => cases hc
  | pageView => exact hview h
  | leave => cases hc
  | signal sg =>
    cases sg with
    | navigate kind => exact hview h
    | hidden => cases hc
    | unload => cases hc

/-- A tracker that tells leaves once per page view does not tell one twice. -/
lemma answer_left {t : Tracker} {c : Call} {p : Payload} (hc : c.origin = .left)
    (h : (c.answer t a now).1 = some p) : t.settings.dedupeLeave = true → t.phase ≠ .leaving := by
  have hleave (hp : (t.trackLeave a now).1 = some p) : t.settings.dedupeLeave = true → t.phase ≠ .leaving := by
    intro hdedupe hphase
    simp [trackLeave,hdedupe,hphase] at hp
  cases c with
  | track overrides => cases hc
  | pageView => cases hc
  | leave => exact hleave h
  | signal sg =>
    cases sg with
    | navigate kind => cases hc
    | hidden => exact hleave h
    | unload => exact hleave h

/-- After a leave without a page view the journal tells of a page that is left. -/
lemma standing_of_leave {pre mid : List Entry} {e : Entry} (he : e.isLeave = true)
    (hmid : ∀ v ∈ mid, v.isView = false) : standing (pre ++ e::mid) = .leaving := by
  have hlast : ∃ d, ((pre ++ e::mid).filter fun e => e.isView || e.isLeave).getLast? = some d ∧
      d.isLeave = true := by
    rw [List.filter_append,List.filter_cons_of_pos (by simp [he]),List.getLast?_append]
    cases hd : (mid.filter fun e => e.isView || e.isLeave).getLast? with
    | none => exact ⟨e,by simp [List.getLast?_cons,hd],he⟩
    | some d =>
      have hmem := List.mem_filter.mp (List.mem_of_getLast? hd)
      refine ⟨d,by simp [List.getLast?_cons,hd],?_⟩
      simpa [hmid d hmem.1] using hmem.2
  obtain ⟨d,hd,hleave⟩ := hlast
  simp only [standing,hd,hleave,if_true]

end Tracker

namespace World
open Tracker
variable {w₀ w w' : World} {t : TrackerId} {s : Settings} {o : OutletId} {log : List Entry}

def ask (w : World) (t : TrackerId) : Call → Option Payload × World
  | .track overrides => w.track t overrides
  | .pageView => w.trackPageView t
  | .leave => w.trackLeave t
  | .signal s => w.report t fun tracker a now => tracker.handle a now s

lemma ask_eq_report (w : World) (t : TrackerId) (c : Call) : w.ask t c = w.report t c.answer := by
  cases c <;> rfl

/-- A tracker's journal over a run: it is called, its outlet is closed, and anything else may happen to the page,
the clock and the rest of the world. -/
inductive Journal (t : TrackerId) (w₀ : World) : List Entry → World → Prop
  | start : Journal t w₀ [] w₀
  | call {log : List Entry} {w : World} (h : Journal t w₀ log w) (c : Call) :
    Journal t w₀ (log ++ c.entries w.clock.now (w.ask t c).1) (w.ask t c).2
  | close {log : List Entry} {w : World} (h : Journal t w₀ log w) : Journal t w₀ log (w.shutdown t)
  | change {log : List Entry} {w w' : World} (h : Journal t w₀ log w)
    (hsame : w'.trackers[t]? = w.trackers[t]?) : Journal t w₀ log w'

lemma Journal.wait (h : w₀.Journal t log w) (now : ℤ) : w₀.Journal t log { w with clock := ⟨now⟩ } := h.change rfl

lemma Journal.onPage (h : w₀.Journal t log w) (f : Page → Page) : w₀.Journal t log (w.modifyPage f) := h.change rfl

variable {i : Installation} {c : Call}

lemma ask_answer (hi : w.trackers[t]? = some i) (c : Call) :
    (w.ask t c).1 = (c.answer i.tracker w.ambient w.clock.now).1 := by
  simp only [ask_eq_report,report,hi]
  cases (c.answer i.tracker w.ambient w.clock.now).1 <;> rfl

lemma ask_tracker (hi : w.trackers[t]? = some i) (c : Call) : (w.ask t c).2.trackers[t]? =
    some { i with tracker := (c.answer i.tracker w.ambient w.clock.now).2 } := by
  have hlt : t < w.trackers.length := (List.getElem?_eq_some_iff.mp hi).1
  rw [ask_eq_report,report_trackers hi,List.getElem?_set_self hlt]

/-- A call without an answer leaves the whole world as it is. -/
lemma ask_eq_self (hi : w.trackers[t]? = some i) (h : (w.ask t c).1 = none) : (w.ask t c).2 = w := by
  rw [ask_answer hi] at h
  obtain ⟨hlt,hget⟩ := List.getElem?_eq_some_iff.mp hi
  have hset : w.trackers.set t i = w.trackers := by rw [← hget,List.set_getElem_self]
  simp only [ask_eq_report,report,hi,h,answer_eq_self h,hset]

/-- A payload is handed to the outlet of the tracker, as one request. -/
lemma ask_sent (hi : w.trackers[t]? = some i) {p : Payload} (h : (w.ask t c).1 = some p) {out : Outlet}
    (hout : w.outlets[i.outlet]? = some out) : (w.ask t c).2.sent =
      w.sent ++ if out.accepts then [w.delivery t i.outlet (Request.ofPayload i.tracker.settings p)] else [] := by
  rw [ask_answer hi] at h
  simp only [ask_eq_report,report,hi,h,deliver,hout]
  split_ifs
  · rfl
  · exact (List.append_nil _).symm

/-- Over every run a tracker is what its journal tells, by induction on the run. -/
theorem Journal.tracker (h₀ : w₀.trackers[t]? = some ⟨.ofSettings s,o⟩) (h : w₀.Journal t log w) :
    w.trackers[t]? = some ⟨.ofJournal s log,o⟩ := by
  induction h with
  | start => exact h₀
  | call _ c ih => rw [ask_tracker ih,ask_answer ih,← answer_ofJournal]
  | close _ ih => rw [shutdown,ih]; exact ih
  | change _ hsame ih => exact hsame.trans ih

/-- A run of a tracker from its beginning, with calls of every kind, closings and whatever else may happen. Path,
start and phase are those that the journal tells of; a call with an answer hands the outlet exactly one request,
with the body of the payload to the endpoint of the payload, which a recorder keeps whether it is closed or not;
and a call without an answer leaves everything as it is. -/
theorem journal_state (h₀ : w₀.trackers[t]? = some ⟨.ofSettings s,o⟩) (h : w₀.Journal t log w) :
    w.trackers[t]? = some ⟨.ofJournal s log,o⟩ ∧ ∀ c : Call,
      ((w.ask t c).1 = none → (w.ask t c).2 = w) ∧
      ∀ p, (w.ask t c).1 = some p → ∀ out, w.outlets[o]? = some out →
        (w.ask t c).2.sent = w.sent ++ (if out.accepts then [w.delivery t o (Request.ofPayload s p)] else []) ∧
        (out.transport = .recording → ((w.ask t c).2.traffic o).recorded =
          (w.traffic o).recorded ++ [Request.ofPayload s p]) := by
  have htracker := h.tracker h₀
  refine ⟨htracker,fun c => ⟨ask_eq_self htracker,fun p hp out hout => ?_⟩⟩
  have hsent := ask_sent htracker hp hout
  refine ⟨hsent,fun hrecording => ?_⟩
  have houtlets : (w.ask t c).2.outlets = w.outlets := by
    obtain ⟨_,_,_,-,e⟩ := w.report_reported t c.answer
    rw [ask_eq_report,e]
  have haccepts : out.accepts = true := by rw [Outlet.accepts,hrecording]
  rw [if_pos haccepts] at hsent
  simp [Traffic.recorded,traffic,houtlets,hout,hrecording,hsent,delivery,ofJournal]

/-- A page with a new tracker, which tells leaves once per page view to a recorder. -/
def attended : World where
  page := { history := .ofHref "https://a.io/", ready := .complete }
  trackers := [⟨.ofSettings ⟨"k","https://a.io",false,false,.auto,true⟩,0⟩]
  outlets := [{ transport := .recording }]

/-- A visitor who looks at that page and leaves it after five seconds. -/
def visited : World := (({ (attended.ask 0 .pageView).2 with clock := ⟨5000⟩ } : World).ask 0 (.signal .hidden)).2

/-- The visitor goes on to another page, and leaves that one four seconds later. -/
def revisited : World :=
  let w := ((visited.modifyPage fun p => { p with history := .ofHref "https://a.io/b" }).ask 0
    (.signal (.navigate .push))).2
  (({ w with clock := ⟨9000⟩ } : World).ask 0 .leave).2

lemma revisited_journal : ∃ log, attended.Journal 0 log revisited ∧
    log.map Entry.origin = [.viewed,.left,.viewed,.left] := by
  have hnew : attended.Journal 0 [] attended := .start
  have hvisited := ((hnew.call .pageView).wait 5000).call (.signal .hidden)
  have hmoved := hvisited.onPage fun p => { p with history := .ofHref "https://a.io/b" }
  exact ⟨_,((hmoved.call (.signal (.navigate .push))).wait 9000).call .leave,by decide +kernel⟩

/-- With its recorder closed and the clock set back, the tracker has nothing more to tell of this page view but
still records an event. -/
theorem journal_state_revisited : ∃ log w, attended.Journal 0 log w ∧
    log.map Entry.origin = [.viewed,.left,.viewed,.left] ∧ (w.ask 0 .leave).2 = w ∧
    ∃ p, (w.ask 0 (.track (some (callOverrides (some "buy") none)))).1 = some p ∧
      ((w.ask 0 (.track (some (callOverrides (some "buy") none)))).2.traffic 0).recorded =
        (w.traffic 0).recorded ++ [Request.ofPayload ⟨"k","https://a.io",false,false,.auto,true⟩ p] := by
  obtain ⟨log,hlog,horigins⟩ := revisited_journal
  have hlater := hlog.close.wait (-1)
  obtain ⟨-,hcalls⟩ := journal_state rfl hlater
  obtain ⟨-,hevent⟩ := hcalls (.track (some (callOverrides (some "buy") none)))
  obtain ⟨-,hrecorded⟩ := hevent _ rfl _ rfl
  exact ⟨log,_,hlater,horigins,(hcalls .leave).1 (by decide +kernel),_,rfl,hrecorded rfl⟩

/-- What stands in a journal was answered by the tracker that the journal before it tells of. -/
theorem Journal.answered (h₀ : w₀.trackers[t]? = some ⟨.ofSettings s,o⟩) (h : w₀.Journal t log w)
    {pre post : List Entry} {e : Entry} (he : log = pre ++ e::post) :
    ∃ (c : Call) (a : Payload.Ambient), c.origin = e.origin ∧
      (c.answer (ofJournal s pre) a e.time).1 = some e.payload := by
  induction h generalizing post with
  | start => simp at he
  | @call log w h c ih =>
    cases hp : (w.ask t c).1 with
    | none =>
      rw [hp] at he
      exact ih ((List.append_nil log).symm.trans he)
    | some p =>
      have he : log ++ [⟨c.origin,p,w.clock.now⟩] = pre ++ e::post := by rw [← he,hp]; rfl
      rcases List.eq_nil_or_concat' post with rfl | ⟨post,last,rfl⟩
      · obtain ⟨rfl,hlast⟩ := List.append_inj' he rfl
        obtain rfl := List.singleton_inj.mp hlast
        rw [ask_answer (h.tracker h₀)] at hp
        exact ⟨c,w.ambient,rfl,hp⟩
      · rw [← List.cons_append,← List.append_assoc] at he
        exact ih (List.append_inj' he rfl).1
  | close _ ih => exact ih he
  | change _ _ ih => exact ih he

/-- Whatever lies in between, a page view that nobody asked for has another path than the page view before it,
asked for or not; and where leaves are told once per page view, there is a page view between any two leaves. -/
theorem journal_no_duplicate (h₀ : w₀.trackers[t]? = some ⟨.ofSettings s,o⟩) (h : w₀.Journal t log w) :
    (∀ pre e post, log = pre ++ e::post → e.origin = .viewed →
      e.isView = true ∧ ∀ v, lastView? pre = some v → v.payload.path ≠ e.payload.path) ∧
    (s.dedupeLeave = true → ∀ pre e mid e' post, log = pre ++ e::mid ++ e'::post →
      e.origin = .left → e'.origin = .left → ∃ v ∈ mid, v.isView = true) := by
  constructor
  · intro pre e post he horigin
    obtain ⟨c,a,hc,hanswer⟩ := h.answered h₀ he
    obtain ⟨hname,hduration,hpath⟩ := answer_viewed (hc.trans horigin) hanswer
    refine ⟨by simp [Entry.isView,Entry.restarts,Entry.isLeave,horigin,hname,hduration],fun v hv heq => hpath ?_⟩
    rw [← heq,ofJournal,hv]
    rfl
  · intro hdedupe pre e mid e' post he horigin horigin'
    by_contra hnone
    push Not at hnone
    obtain ⟨c,a,hc,hanswer⟩ := h.answered h₀ he
    have hleaving : (ofJournal s (pre ++ e::mid)).phase = .leaving :=
      standing_of_leave (by simp [Entry.isLeave,horigin]) fun v hv => by simpa using hnone v hv
    exact answer_left (hc.trans horigin') hanswer hdedupe hleaving

theorem journal_no_duplicate_revisited : ∃ v l v' l', attended.Journal 0 [v,l,v',l'] revisited ∧
    v.payload.path ≠ v'.payload.path ∧ v'.isView = true := by
  obtain ⟨log,hlog,horigins⟩ := revisited_journal
  obtain ⟨v,l,v',l',rfl⟩ : ∃ v l v' l', log = [v,l,v',l'] :=
    List.length_eq_four.mp (by simpa using congrArg List.length horigins)
  obtain ⟨hv,hl,hv',hl'⟩ : v.origin = .viewed ∧ l.origin = .left ∧ v'.origin = .viewed ∧ l'.origin = .left := by
    simpa using horigins
  obtain ⟨hviews,hleaves⟩ := journal_no_duplicate rfl hlog
  have hfirst : v.isView = true := (hviews [] v [l,v',l'] rfl hv).1
  have hleft : l.isView = false := by simp [Entry.isView,Entry.restarts,Entry.isLeave,hl]
  have hlast : lastView? [v,l] = some v := by simp [lastView?,hfirst,hleft]
  have hbetween : v'.isView = true := by simpa using hleaves rfl [v] l [v'] l' [] rfl hl hl'
  exact ⟨v,l,v',l',hlog,(hviews [v,l] v' [l'] rfl hv').2 v hlast,hbetween⟩

end World
end PageTelemetry
