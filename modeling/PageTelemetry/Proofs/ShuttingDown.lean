import PageTelemetry.Proofs.Posting
import PageTelemetry.Proofs.Reinstalling
import PageTelemetry.World.Embedding

/-! What shutting a tracker down stops. Requests that its outlet has taken stay there. A beacon takes no other,
whatever happens afterwards, and has posted all of them when its close returns. Keep-alive requests, recorders and
the debug output take no notice. -/
namespace PageTelemetry

namespace Outlet
variable {o : Outlet}

/-- Only a beacon notices that it is closed. -/
lemma accepts_close (o : Outlet) : o.close.accepts = (o.accepts && o.transport != .beacon) := by
  rcases o with ⟨_ | _ | _ | _,_,_⟩ <;> simp [close,accepts]

lemma accepts_of_close (h : o.close.accepts = true) : o.accepts = true := by
  rw [accepts_close,Bool.and_eq_true] at h
  exact h.1

end Outlet

namespace World
variable {w w' w'' : World} {t : TrackerId} {i : Installation} {out : Outlet}

/-- From one world to another no outlet has gone, or has opened again, and those that were there have taken requests
only if they accept any. -/
structure Forwards (w w' : World) : Prop where
  outlets : ∀ (o : OutletId) (out : Outlet), w.outlets[o]? = some out →
    w'.outlets[o]? = some out ∨ w'.outlets[o]? = some out.close
  sent : ∃ new, w'.sent = w.sent ++ new ∧
    ∀ d ∈ new, ∀ out, w.outlets[d.outlet]? = some out → out.accepts = true

lemma Forwards.of_same (houtlets : w'.outlets = w.outlets) (hsent : w'.sent = w.sent) : w.Forwards w' :=
  ⟨fun _ _ ho => .inl (houtlets ▸ ho),[],by rw [hsent,List.append_nil],by simp⟩

lemma Forwards.refl (w : World) : w.Forwards w := .of_same rfl rfl

lemma Forwards.trans (h : w.Forwards w') (h' : w'.Forwards w'') : w.Forwards w'' := by
  obtain ⟨new,hsent,hnew⟩ := h.sent
  obtain ⟨new',hsent',hnew'⟩ := h'.sent
  refine ⟨fun o out ho => ?_,new ++ new',by rw [hsent',hsent,List.append_assoc],fun d hd out ho => ?_⟩
  · rcases h.outlets o out ho with ho | ho
    · exact h'.outlets o out ho
    · exact .inr (or_self_iff.mp (h'.outlets o out.close ho))
  · rcases List.mem_append.mp hd with hd | hd
    · exact hnew d hd out ho
    · rcases h.outlets d.outlet out ho with ho | ho
      · exact hnew' d hd out ho
      · exact Outlet.accepts_of_close (hnew' d hd out.close ho)

lemma Forwards.frame (h : w.Forwards w') (houtlets : w''.outlets = w'.outlets) (hsent : w''.sent = w'.sent) :
    w.Forwards w'' := h.trans (.of_same houtlets hsent)

lemma Forwards.after (h : w'.Forwards w'') (houtlets : w'.outlets = w.outlets) (hsent : w'.sent = w.sent) :
    w.Forwards w'' := .trans (.of_same houtlets hsent) h

/-! What happens forwards. -/

lemma deliver_forwards (w : World) (id : TrackerId) (i : Installation) (p : Payload) : w.Forwards (w.deliver id i p) := by
  unfold deliver
  split
  · exact .refl w
  · rename_i out ho
    split_ifs with haccepts
    · refine ⟨fun _ _ => .inl,_,rfl,fun d hd out' ho' => ?_⟩
      obtain rfl := List.mem_singleton.mp hd
      obtain rfl := Option.some.inj (ho.symm.trans ho')
      exact haccepts
    · exact .refl w

lemma report_forwards (w : World) (id : TrackerId)
    (f : Tracker → Payload.Ambient → Int → Option Payload × Tracker) : w.Forwards (w.report id f).2 := by
  unfold report
  split
  · exact .refl w
  · dsimp only
    split
    · exact .of_same rfl rfl
    · exact (deliver_forwards ..).after rfl rfl

lemma signal_forwards (w : World) (h : Handler) (s : Signal) : w.Forwards (w.signal h s) := by
  cases h with
  | tracker id =>
    simp only [signal]
    split_ifs
    · exact w.report_forwards id _
    · exact .refl w
  | log label => exact .of_same rfl rfl

lemma subscribe_forwards (w : World) (s : SourceId) (h : Handler) : w.Forwards (w.subscribe s h).2 := by
  refine .of_same ?_ (subscribe_sent ..)
  rcases w.subscribe_cases s h with ⟨-,e⟩ | ⟨-,e⟩ | e <;> rw [e] <;> rfl

lemma restore_forwards (w : World) (s : SourceId) : w.Forwards (w.restore s).2 := by
  refine .of_same ?_ (restore_sent ..)
  cases hi : w.interception? s with
  | none => rw [restore_free hi]
  | some i => rw [restore_installed hi]; rfl

lemma start_forwards (w : World) (t : TrackerId) (source : Option SourceId) : w.Forwards (w.start t source) := by
  refine start_invariant (w.report_forwards t _) ?_ ?_ source
  · exact fun u hu => hu.frame rfl rfl
  · exact fun u s hu => hu.trans (subscribe_forwards ..)

lemma install_forwards (w : World) (c : Config) (source : Option SourceId) (outlet : OutletId) :
    w.Forwards (w.install c source outlet).2 := by
  rcases w.install_cases c source outlet with e | ⟨-,st,e | e⟩
  · rw [e]; exact .refl w
  · rw [e]
    exact ((w.enroll st outlet).start_forwards _ source).after rfl rfl
  · rw [e]; exact .of_same rfl rfl

lemma embed_forwards (w : World) (tag : ScriptTag) (files : Config.Files) (e : Config.Environment) (spawns : Bool) :
    w.Forwards (w.embed tag files e spawns).2 := by
  unfold embed
  split
  · exact .refl w
  · refine .trans ⟨fun o out ho => .inl ?_,[],by simp,by simp⟩ (install_forwards ..)
    exact (List.getElem?_append_left (List.getElem?_eq_some_iff.mp ho).1).trans ho

lemma moveTo_forwards (w : World) (target : Option History) : w.Forwards (w.moveTo target).2 := by
  cases target <;> exact .of_same rfl rfl

theorem act_forwards (w : World) (a : Act) : w.Forwards (w.act a) := by
  cases a with
  | push | replace | setHref | setTitle | setWidth | reveal | unload | discard | addPopState | addLifecycle
  | removePopState | removeLifecycle | wrapHook | removeHook => exact .of_same rfl rfl
  | back => exact w.moveTo_forwards _
  | forward => exact w.moveTo_forwards _
  | hide =>
    simp only [act,hide]
    split_ifs <;> exact .of_same rfl rfl
  | finishLoading =>
    simp only [act,finishLoading]
    split_ifs <;> exact .of_same rfl rfl
  | track name =>
    simp only [act,trackExposed]
    cases w.page.global? Page.namespaceName with
    | none => exact .refl w
    | some id => exact w.report_forwards id _
  | install c source outlet => exact w.install_forwards c source outlet
  | subscribe s h => exact w.subscribe_forwards s h
  | restore s => exact w.restore_forwards s
  | onLoad label ending acts =>
    simp only [act,onLoad]
    split_ifs <;> exact .of_same rfl rfl

theorem perform_forwards (w : World) (task : Task) : w.Forwards (w.perform task) := by
  cases task with
  | hook k kind => cases k <;> exact .of_same rfl rfl
  | relay id h kind =>
    simp only [perform]
    split_ifs
    · exact w.signal_forwards h _
    · exact .refl w
  | call l o =>
    simp only [perform,call]
    split_ifs <;> exact .of_same rfl rfl
  | signal h s => exact w.signal_forwards h s
  | start t source => exact w.start_forwards t source
  | act a => exact w.act_forwards a

lemma step_forwards (w : World) : w.Forwards w.step := by
  cases hagenda : w.agenda with
  | nil => rw [step_of_agenda_nil hagenda]; exact .refl w
  | cons task rest =>
    rw [step_of_agenda_cons hagenda]
    exact (perform_forwards { w with agenda := rest } task).after rfl rfl

/-- Whole dispatches. -/
lemma run_forwards (w : World) (a : Act) : w.Forwards (w.run a) :=
  settle_invariant (w.act_forwards a) (fun u hu => hu.trans u.step_forwards) patience

lemma emit_forwards (w : World) (s : SourceId) (signal : Signal) : w.Forwards (w.emit s signal) := by
  unfold emit
  split
  · exact w.signal_forwards _ _
  · exact .refl w

lemma shutdown_outlets (hi : w.trackers[t]? = some i) (o : OutletId) : (w.shutdown t).outlets[o]? =
    (w.outlets[o]?).map fun out => if i.outlet = o then out.close else out := by
  simp only [shutdown,hi,List.getElem?_modify]
  rfl

lemma shutdown_sent (w : World) (t : TrackerId) : (w.shutdown t).sent = w.sent := by
  unfold shutdown
  split <;> rfl

lemma shutdown_forwards (w : World) (t : TrackerId) : w.Forwards (w.shutdown t) := by
  refine ⟨fun o out ho => ?_,[],by simp [shutdown_sent],by simp⟩
  cases hi : w.trackers[t]? with
  | none => exact .inl (by simp [shutdown,hi,ho])
  | some i =>
    rw [shutdown_outlets hi,ho,Option.map_some]
    split_ifs
    · exact .inr rfl
    · exact .inl rfl

/-- One thing that happens: a task is done, someone operates on the page, calls a tracker, gives a signal by hand, shuts
a tracker down or embeds another one, or something else changes that has nothing to do with outlets. -/
inductive Ensues : World → World → Prop
  | step (w : World) : Ensues w w.step
  | act (w : World) (a : Act) : Ensues w (w.act a)
  | ask (w : World) (t : TrackerId) (c : Tracker.Call) : Ensues w (w.ask t c).2
  | emit (w : World) (s : SourceId) (signal : Signal) : Ensues w (w.emit s signal)
  | shutdown (w : World) (t : TrackerId) : Ensues w (w.shutdown t)
  | embed (w : World) (tag : ScriptTag) (files : Config.Files) (e : Config.Environment) (spawns : Bool) :
    Ensues w (w.embed tag files e spawns).2
  | aside {w w' : World} (houtlets : w'.outlets = w.outlets) (hsent : w'.sent = w.sent) : Ensues w w'

theorem Ensues.forwards (h : w.Ensues w') : w.Forwards w' := by
  cases h with
  | step => exact w.step_forwards
  | act a => exact w.act_forwards a
  | ask t c =>
    rw [ask_eq_report]
    exact w.report_forwards t _
  | emit s signal => exact w.emit_forwards s signal
  | shutdown t => exact w.shutdown_forwards t
  | embed tag files e spawns => exact w.embed_forwards tag files e spawns
  | aside houtlets hsent => exact .of_same houtlets hsent

/-- Over every run, by induction on it. -/
theorem forwards_of_ensues (h : Relation.ReflTransGen Ensues w w') : w.Forwards w' := by
  induction h with
  | refl => exact .refl w
  | tail _ hlast ih => exact ih.trans hlast.forwards

/-! Requests of one outlet. -/

lemma Forwards.requests {o : OutletId} (h : w.Forwards w') :
    (w.traffic o).requests <+: (w'.traffic o).requests := by
  obtain ⟨new,hsent,-⟩ := h.sent
  simp only [traffic,hsent,List.filter_append,List.map_append]
  exact List.prefix_append ..

lemma Forwards.transport {o : OutletId} (h : w.Forwards w') (ho : w.outlets[o]? = some out) :
    (w'.traffic o).outlet.transport = out.transport := by
  rcases h.outlets o out ho with ho' | ho' <;> simp [traffic,ho',Outlet.close]

/-- An outlet that accepts nothing takes nothing. -/
lemma Forwards.requests_eq {o : OutletId} (h : w.Forwards w') (ho : w.outlets[o]? = some out)
    (hrefuses : out.accepts = false) : (w'.traffic o).requests = (w.traffic o).requests := by
  obtain ⟨new,hsent,hnew⟩ := h.sent
  have hnone : new.filter (·.outlet == o) = [] := by
    rw [List.filter_eq_nil_iff]
    intro d hd heq
    have haccepts := hnew d hd out (by rw [beq_iff_eq.mp heq,ho])
    rw [hrefuses] at haccepts
    cases haccepts
  simp only [traffic,hsent,List.filter_append,hnone,List.append_nil]

lemma shutdown_requests (w : World) (t : TrackerId) (o : OutletId) :
    ((w.shutdown t).traffic o).requests = (w.traffic o).requests := by
  simp only [traffic,shutdown_sent]

/-- A tracker is shut down, and then anything happens. What its outlet has taken by then it keeps. A beacon takes
nothing any more; and if callers handed it these requests before somebody closed it, then as soon as a close returns
all of them have been posted, nothing waits and no attempt is under way. Any other outlet goes on: a tracker that
reports to it hands over its request as ever. -/
theorem shutdown_stops (hi : w.trackers[t]? = some i) (ho : w.outlets[i.outlet]? = some out)
    (h : Relation.ReflTransGen Ensues (w.shutdown t) w') :
    (w.traffic i.outlet).requests <+: (w'.traffic i.outlet).requests ∧
    (out.transport = .beacon →
      (w'.traffic i.outlet).requests = (w.traffic i.outlet).requests ∧
      ∀ events b, Beacon.run? {} events = some b → Beacon.accepted events = (w.traffic i.outlet).requests →
        0 < b.closed → b.reaped.Perm (w'.traffic i.outlet).requests ∧ b.queued = [] ∧ b.inFlight = []) ∧
    ∀ t' j c p, w'.trackers[t']? = some j → j.outlet = i.outlet → (w'.ask t' c).1 = some p →
      (w'.ask t' c).2.sent = w'.sent ++
        if out.accepts && out.transport != .beacon then [w'.delivery t' i.outlet (.ofPayload j.tracker.settings p)]
        else [] := by
  have hforwards := forwards_of_ensues h
  have hclosed : (w.shutdown t).outlets[i.outlet]? = some out.close := by simp [shutdown_outlets hi,ho]
  have hrequests := w.shutdown_requests t i.outlet
  refine ⟨hrequests ▸ hforwards.requests,fun hbeacon => ?_,fun t' j c p hj houtlet hp => ?_⟩
  · have hrefuses : out.close.accepts = false := by simp [Outlet.accepts_close,hbeacon]
    have hsame : (w'.traffic i.outlet).requests = (w.traffic i.outlet).requests :=
      (hforwards.requests_eq hclosed hrefuses).trans hrequests
    refine ⟨hsame,fun events b hrun haccepted hreturned => ?_⟩
    have hkeeps : b.Keeps (Beacon.accepted events) := Beacon.keeps_nil.run hrun
    rw [hsame,← haccepted]
    exact hkeeps.done hreturned
  · have hout : w'.outlets[j.outlet]? = some out.close := by
      rw [houtlet]
      exact or_self_iff.mp (hforwards.outlets _ _ hclosed)
    rw [ask_sent hj hp hout,Outlet.accepts_close,houtlet]

/-- A page with a tracker whose requests leave in one way or the other. -/
def staffed (transport : Transport) : World :=
  ({ unvisited .complete with outlets := [{ transport := transport }] }.install siteConfig none 0).2

/-- A caller hands a beacon a request and closes it. -/
def errand (r : Request) : List Beacon.Event :=
  [.send r,.receive,.close,.finish 0,.reap 0,.drain,.stop,.join,.joined]

lemma errand_run (r : Request) : ∃ b, Beacon.run? {} (errand r) = some b ∧ 0 < b.closed :=
  ⟨_,rfl,Nat.one_pos⟩

lemma staffed_tracker (transport : Transport) : ∃ i, (staffed transport).trackers[0]? = some i ∧ i.outlet = 0 ∧
    (staffed transport).outlets[i.outlet]? = some { transport := transport } := by
  obtain ⟨i,hi,houtlet⟩ : ∃ i, (staffed transport).trackers[0]? = some i ∧ i.outlet = 0 :=
    Option.map_eq_some_iff.mp (by cases transport <;> decide +kernel)
  refine ⟨i,hi,houtlet,?_⟩
  rw [houtlet]
  cases transport <;> decide +kernel

/-- A tracker is shut down, and the visitor goes on. -/
def retired (transport : Transport) : World := (((staffed transport).shutdown 0).act (.push "/c")).step

lemma retired_ensues (transport : Transport) :
    Relation.ReflTransGen Ensues ((staffed transport).shutdown 0) (retired transport) :=
  .tail (.single (.act _ _)) (.step _)

/-- A beacon that is shut down has posted the page view, and hears of no other. A recorder keeps the page view, and
takes an event that is tracked after it. -/
theorem shutdown_stops_staffed :
    (∃ r, ((staffed .beacon).traffic 0).requests = [r] ∧ ((retired .beacon).traffic 0).requests = [r] ∧
      ∃ b, Beacon.run? {} (errand r) = some b ∧ b.reaped.Perm [r]) ∧
    ((staffed .recording).traffic 0).requests <+: ((retired .recording).traffic 0).requests ∧
    ∃ d, ((retired .recording).ask 0 (.track none)).2.sent = (retired .recording).sent ++ [d] ∧ d.outlet = 0 := by
  constructor
  · obtain ⟨i,hi,houtlet,ho⟩ := staffed_tracker .beacon
    obtain ⟨-,hbeacon,-⟩ := shutdown_stops hi ho (retired_ensues .beacon)
    obtain ⟨hsame,hposted⟩ := hbeacon rfl
    obtain ⟨r,hr⟩ : ∃ r, ((staffed .beacon).traffic 0).requests = [r] :=
      List.length_eq_one_iff.mp (by decide +kernel)
    rw [houtlet] at hsame hposted
    rw [hr] at hsame hposted
    obtain ⟨b,hb,hclosed⟩ := errand_run r
    obtain ⟨hreaped,-,-⟩ := hposted (errand r) b hb rfl hclosed
    rw [hsame] at hreaped
    exact ⟨r,hr,hsame,b,hb,hreaped⟩
  · obtain ⟨i,hi,houtlet,ho⟩ := staffed_tracker .recording
    obtain ⟨hkept,-,htakes⟩ := shutdown_stops hi ho (retired_ensues .recording)
    rw [houtlet] at hkept htakes
    obtain ⟨j,hj,hj'⟩ : ∃ j, (retired .recording).trackers[0]? = some j ∧ j.outlet = 0 :=
      Option.map_eq_some_iff.mp (by decide +kernel)
    obtain ⟨p,hp⟩ : ∃ p, ((retired .recording).ask 0 (.track none)).1 = some p :=
      Option.isSome_iff_exists.mp (by decide +kernel)
    exact ⟨hkept,_,htakes 0 j _ p hj hj' hp,rfl⟩

/-- A recorder and keep-alive requests go on after the shutdown of their tracker. -/
theorem shutdown_unnoticed :
    ((((staffed .recording).shutdown 0).run (.push "/c")).traffic 0).requests.length =
      (((staffed .recording).shutdown 0).traffic 0).requests.length+1 ∧
    ((((staffed .keepAlive).shutdown 0).run (.push "/c")).traffic 0).requests.length =
      (((staffed .keepAlive).shutdown 0).traffic 0).requests.length+1 := by
  constructor <;> decide +kernel

end World
end PageTelemetry
