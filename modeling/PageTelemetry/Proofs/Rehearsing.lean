import PageTelemetry.Command
import PageTelemetry.Delivery.Post
import PageTelemetry.Proofs.Replay.FlatRun
import PageTelemetry.Proofs.Rerouting
import PageTelemetry.Proofs.ShuttingDown

/-! What a dry run tells of the real run. The two differ in the outlet alone, and where the real one is a beacon it
posts what the dry run records. A command has no runtime, so keep-alive requests go nowhere. -/
namespace PageTelemetry

/-- What a collector gets when a beacon is handed requests and closed: these posts, however callers, the worker and
the attempts took their turns. -/
def Collects (handed : List Request) (posts : List Post) : Prop :=
  ∀ events b, Beacon.run? {} events = some b → Beacon.accepted events = handed → 0 < b.closed →
    (b.reaped.filterMap (Post.ofRequest? { transport := .beacon })).Perm posts

lemma collects (handed : List Request) :
    Collects handed (handed.filterMap (Post.ofRequest? { transport := .beacon })) := by
  rintro events b hrun rfl hclosed
  exact ((Beacon.keeps_nil.run hrun).done hclosed).1.filterMap _

namespace Config
variable {c : Config} {st : Settings}

lemma resolve_delivery (h : c.resolve = .ok st) : st.debug = c.debug ∧ st.transport = c.transport := by
  unfold resolve at h
  split at h
  · cases h
  · dsimp only at h
    split_ifs at h
    split at h
    · cases h
    · obtain rfl := Except.ok.inj h
      exact ⟨rfl,rfl⟩

/-- Whether requests are to leave by a beacon. -/
def WantsBeacon (c : Config) : Prop := c.debug = false ∧ c.transport ≠ .keepAlive

lemma WantsBeacon.ofSettings (hc : c.WantsBeacon) (h : c.resolve = .ok st) :
    Outlet.ofSettings st false = { transport := .beacon, hasRuntime := false } := by
  obtain ⟨hdebug,htransport⟩ := resolve_delivery h
  obtain ⟨hc,hk⟩ := hc
  rw [← hdebug] at hc
  rw [← htransport] at hk
  cases htransport : st.transport with
  | keepAlive => exact absurd htransport hk
  | auto | beacon => simp [Outlet.ofSettings,Transport.select,hc,htransport]

end Config

/-! Sending. -/

namespace Command.Send
variable {s : Send} {files : Config.Files} {e : Config.Environment}

lemma settings_ok_iff {st : Settings} : s.settings files e = .ok st ↔
    ∃ c, Config.layered s.tag files e = .ok c ∧ c.enabled = true ∧ c.resolve = .ok st := by
  unfold settings
  cases Config.layered s.tag files e with
  | error err => simp
  | ok c => cases hon : c.enabled <;> cases hst : c.resolve <;> simp [hon,hst]

lemma run_ok_iff {now : ℤ} {t : Traffic} : s.run files e now = .ok t ↔
    ∃ st properties, s.settings files e = .ok st ∧ s.properties? = .ok properties ∧
      s.sendWith st now properties = t := by
  unfold run
  cases s.settings files e with
  | error err => simp
  | ok st => cases s.properties? <;> simp

/-- The request of a page view or event that is sent once. -/
def request (s : Send) (st : Settings) (properties : Option Json) : Request :=
  .ofPayload st (.build st.siteKey st.includeQuery s.page.ambient (some (s.input properties).toJson))

/-- At whatever time, one request goes to the outlet. -/
lemma sendWith_eq (s : Send) (st : Settings) (h : (Outlet.ofSettings st s.dryRun).accepts = true) (now : ℤ)
    (properties : Option Json) : s.sendWith st now properties =
      ⟨(Outlet.ofSettings st s.dryRun).close,[s.request st properties]⟩ := by
  set w : World :=
    { page := s.page, clock := ⟨now⟩, outlets := [.ofSettings st s.dryRun], trackers := [⟨.ofSettings st,0⟩] } with hw
  have hambient : w.ambient = s.page.ambient := rfl
  have htrack := World.report_sole (w := w) rfl rfl h fun t a now =>
    (some (t.track a now (some (s.input properties).toJson)).1,
      (t.track a now (some (s.input properties).toJson)).2)
  have hsend : s.sendWith st now properties =
      ((w.track 0 (some (s.input properties).toJson)).2.shutdown 0).traffic 0 := rfl
  rw [hsend,World.track,htrack,hambient]
  rfl

end Command.Send

namespace Replay
open World
variable {v : Visit} {w : World} {f : Flat}

/-- The time of a clock that passes during a script is not beyond its range. -/
def InRange (now : ℤ) (steps : List Step) : Prop :=
  -0x8000000000000000 ≤ now ∧ now+advanced steps < 0x8000000000000000

/-- Why a step is refused. -/
def Step.refusal? : Step → Option Error
  | .advance seconds => if (Span.ofSeconds? seconds).isSome then none else some (.invalidAdvance seconds)
  | _ => none

/-- The steps before the first that is refused. -/
def played (steps : List Step) : List Step := steps.takeWhile (·.refusal?.isNone)

/-- What is reported during a script. -/
def heard (s : Script) (st : Settings) : List Payload :=
  Flat.play ⟨st,s.scene.referrer,s.scene.width⟩ (.ofScene s.scene)
    (if s.scene.loaded then Step.load::played s.steps else played s.steps)

lemma Step.accepted_of_refusal? {a : Step} (h : a.refusal? = none) :
    ∀ seconds, a = .advance seconds → (Span.ofSeconds? seconds).isSome = true := by
  rintro seconds rfl
  by_contra hnone
  simp [refusal?,hnone] at h

lemma step_refused {a : Step} {e : Error} (h : a.refusal? = some e) (w : World) (id : TrackerId) :
    step w id a = .error e := by
  cases a with
  | advance seconds =>
    cases hspan : Span.ofSeconds? seconds with
    | none => simpa [step,Step.refusal?,hspan] using h
    | some span => simp [Step.refusal?,hspan] at h
  | _ => cases h

/-- A script is played up to the step that is refused, and sends what the visit reports until then. -/
lemma play_flat (h : w.Mirrors v f) (steps : List Step) (hrange : InRange w.clock.now steps) :
    (∃ g, (play w 0 steps).1.Mirrors v g) ∧
      (play w 0 steps).1.sent = w.sent ++ deliveries v (f.play v (played steps)) ∧
      (play w 0 steps).2 = steps.findSome? Step.refusal? := by
  induction steps generalizing w f with
  | nil => exact ⟨⟨f,h⟩,(List.append_nil _).symm,rfl⟩
  | cons a rest ih =>
    obtain ⟨hlow,hhigh⟩ := hrange
    rw [advanced_cons] at hhigh
    push_cast at hhigh
    cases hrefusal : a.refusal? with
    | some e =>
      rw [play,step_refused hrefusal,played,List.takeWhile_cons_of_neg (by simp [hrefusal]),
        List.findSome?_cons_of_isSome (by simp [hrefusal]),hrefusal]
      exact ⟨⟨f,h⟩,(List.append_nil _).symm,rfl⟩
    | none =>
      obtain ⟨w₁,hstep,h₁,hsent₁,hle,hge⟩ := step_mirrors h a (Step.accepted_of_refusal? hrefusal) hlow (by omega)
      obtain ⟨hmirrors,hsent,herror⟩ := ih h₁ ⟨by omega,by omega⟩
      rw [play,hstep,played,List.takeWhile_cons_of_pos (by simp [hrefusal]),
        List.findSome?_cons_of_isNone (by simp [hrefusal])]
      refine ⟨hmirrors,?_,herror⟩
      rw [hsent,hsent₁,List.append_assoc,Flat.play,deliveries,deliveries,deliveries,List.map_append]
      rfl

lemma requests_of_deliveries {ps : List Payload} (h : w.sent = deliveries v ps) :
    (w.traffic 0).requests = ps.map (Request.ofPayload v.settings) := by
  have hall : (deliveries v ps).filter (·.outlet == 0) = deliveries v ps :=
    List.filter_eq_self.mpr (by simp [deliveries])
  change (w.sent.filter (·.outlet == 0)).map Delivery.request = _
  rw [h,hall,deliveries,List.map_map]
  rfl

/-- Closing at the end sends nothing. -/
lemma closed_sent (h : w.agenda = []) (id : TrackerId) : ((w.shutdown id).run .discard).sent = w.sent := by
  have hidle : (w.shutdown id).agenda = [] := by
    unfold shutdown
    split <;> exact h
  have hrun : (w.shutdown id).run .discard = (w.shutdown id).modifyPage Page.discard :=
    settle_idle (w := (w.shutdown id).modifyPage Page.discard) hidle
  rw [hrun]
  exact w.shutdown_sent id

variable {s : Script} {c : Config} {st : Settings} {now : ℤ}

/-- A replay hands over what is reported during its script, whenever it begins and whatever outlet it has. -/
theorem runWith_heard (hon : c.enabled = true) (hst : c.resolve = .ok st) (hrange : InRange now s.steps)
    (dryRun : Bool) (haccepts : (outlet c dryRun).accepts = true) :
    (runWith s c now dryRun).error = s.steps.findSome? Step.refusal? ∧
      (runWith s c now dryRun).traffic.requests = (heard s st).map (Request.ofPayload st) := by
  obtain ⟨w₀,hbegin,hnow,h₀,hsent₀⟩ := begin_mirrors s now hon hst rfl
  obtain ⟨⟨g,hg⟩,hsent,herror⟩ := play_flat h₀ s.steps (by rwa [← hnow] at hrange)
  have hdry : (outlet c true).accepts = true := by simp [outlet,hst,Outlet.ofSettings,Outlet.accepts]
  have hrerouted : ({ page := s.page, clock := ⟨now⟩, outlets := [outlet c true] } : World).Rerouted
      { page := s.page, clock := ⟨now⟩, outlets := [outlet c dryRun] } :=
    ⟨[outlet c dryRun],by simp [hdry,haccepts]⟩
  obtain ⟨hid,hinstalled⟩ := hrerouted.install c none 0
  obtain ⟨w',hbegin',hw'⟩ : ∃ w', begin s c now dryRun = (some 0,w') ∧ w₀.Rerouted w' := by
    have hpair : begin s c now true = (some 0,w₀) := hbegin
    unfold begin at hpair ⊢
    dsimp only at hpair ⊢
    rw [hpair] at hid hinstalled
    exact ⟨(begin s c now dryRun).2,Prod.ext hid.symm rfl,hinstalled⟩
  have hheld : ({ w₀ with handles := [0] } : World).Rerouted { w' with handles := [0] } := by
    obtain ⟨outlets,h⟩ := hw'
    exact ⟨outlets,h⟩
  obtain ⟨hplay,hsame⟩ := play_rerouted hheld 0 s.steps
  have hheard : (play { w' with handles := [0] } 0 s.steps).1.sent = deliveries ⟨st,s.scene.referrer,s.scene.width⟩
      (heard s st) := by
    rw [hplay.sent,hsent]
    dsimp only
    rw [hsent₀,deliveries,deliveries,← List.map_append,heard]
    split_ifs <;> rfl
  have hidle : (play { w' with handles := [0] } 0 s.steps).1.agenda = [] := hplay.agenda.trans hg.idle
  have hopen := requests_of_deliveries hheard
  have hclosed := requests_of_deliveries ((closed_sent hidle 0).trans hheard)
  rw [herror] at hsame
  unfold runWith
  rw [hbegin']
  dsimp only
  generalize play { w' with handles := [0] } 0 s.steps = r at *
  obtain ⟨u,e⟩ := r
  dsimp only at hsame hopen hclosed
  rw [hsame]
  cases e with
  | some e => exact ⟨rfl,hopen⟩
  | none => exact ⟨rfl,hclosed⟩

/-! Where the requests go. -/

lemma step_forwards {w' : World} {id : TrackerId} {a : Step} (h : step w id a = .ok w') : w.Forwards w' := by
  cases a with
  | advance seconds =>
    unfold step at h
    dsimp only at h
    split at h
    · cases h
    · obtain rfl := Except.ok.inj h
      exact .of_same rfl rfl
  | track name properties =>
    obtain rfl := Except.ok.inj h
    exact w.report_forwards id _
  | push | replace | back | forward | title | hide | reveal | unload | load =>
    obtain rfl := Except.ok.inj h
    exact w.run_forwards _

lemma play_forwards (w : World) (id : TrackerId) (steps : List Step) : w.Forwards (play w id steps).1 := by
  induction steps generalizing w with
  | nil => exact .refl w
  | cons a rest ih =>
    cases hstep : step w id a with
    | error e =>
      simp only [play,hstep]
      exact .refl w
    | ok w₁ =>
      simp only [play,hstep]
      exact (step_forwards hstep).trans (ih w₁)

/-- The outlet of a replay stays what it is. -/
lemma runWith_transport (s : Script) (c : Config) (now : ℤ) (dryRun : Bool) :
    (runWith s c now dryRun).traffic.outlet.transport = (outlet c dryRun).transport := by
  have hbegin := install_forwards { page := s.page, clock := ⟨now⟩, outlets := [outlet c dryRun] } c none 0
  have hfirst {w : World} (h : World.Forwards { page := s.page, clock := ⟨now⟩, outlets := [outlet c dryRun] } w) :
      (w.traffic 0).outlet.transport = (outlet c dryRun).transport := h.transport rfl
  unfold runWith begin
  dsimp only
  generalize World.install _ c none 0 = r at *
  obtain ⟨id,w⟩ := r
  cases id with
  | none => exact hfirst hbegin
  | some id =>
    have hheld := hbegin.trans (.of_same rfl rfl : w.Forwards { w with handles := [id] })
    have hplay := hheld.trans (play_forwards _ id s.steps)
    dsimp only
    generalize play { w with handles := [id] } id s.steps = r at *
    obtain ⟨u,e⟩ := r
    cases e with
    | some e => exact hfirst hplay
    | none => exact hfirst ((hplay.trans (u.shutdown_forwards id)).trans (run_forwards ..))

/-- Without a tracker nothing is sent. -/
lemma runWith_refused (h : c.enabled = false ∨ ∃ e, c.resolve = .error e) (now : ℤ) (dryRun : Bool) :
    (runWith s c now dryRun).error = some .notInstalled ∧ (runWith s c now dryRun).traffic.requests = [] := by
  have hbegin : begin s c now dryRun =
      (none,{ page := s.page, clock := ⟨now⟩, outlets := [outlet c dryRun] }) := by
    rcases h with hoff | ⟨e,he⟩
    · simp [begin,World.install,hoff]
    · cases hon : c.enabled <;> simp [begin,World.install,hon,he,Page.global?,Script.page]
  simp only [runWith,hbegin]
  exact ⟨trivial,rfl⟩

/-- Whenever the two begin, a real run hands to the collector what a dry run records, and fails as it does. -/
theorem runWith_posted (hc : c.WantsBeacon) {now' : ℤ} (hrange : InRange now s.steps)
    (hrange' : InRange now' s.steps) :
    (runWith s c now' false).error = (runWith s c now true).error ∧
      (runWith s c now' false).traffic.posted = (runWith s c now true).traffic.recorded := by
  by_cases hrefused : c.enabled = false ∨ ∃ e, c.resolve = .error e
  · obtain ⟨herror,hnone⟩ := runWith_refused (s := s) hrefused now true
    obtain ⟨herror',hnone'⟩ := runWith_refused (s := s) hrefused now' false
    exact ⟨herror'.trans herror.symm,by simp [Traffic.posted,Traffic.recorded,hnone,hnone']⟩
  · push Not at hrefused
    obtain ⟨hon,hresolve⟩ := hrefused
    have hon : c.enabled = true := by simpa using hon
    obtain ⟨st,hst⟩ : ∃ st, c.resolve = .ok st := by
      cases hst : c.resolve with
      | error e => exact absurd hst (hresolve e)
      | ok st => exact ⟨st,rfl⟩
    have hdry : outlet c true = { transport := .recording, hasRuntime := false } := by
      simp [outlet,hst,Outlet.ofSettings]
    have hreal : outlet c false = { transport := .beacon, hasRuntime := false } := by
      simp only [outlet,hst,hc.ofSettings hst]
    obtain ⟨herror,hheard⟩ := runWith_heard hon hst hrange true (by rw [hdry]; rfl)
    obtain ⟨herror',hheard'⟩ := runWith_heard hon hst hrange' false (by rw [hreal]; rfl)
    refine ⟨herror'.trans herror.symm,?_⟩
    have hrecorded : (runWith s c now true).traffic.outlet.transport = .recording := by
      rw [runWith_transport,hdry]
    have hposted : (runWith s c now' false).traffic.outlet.transport = .beacon := by
      rw [runWith_transport,hreal]
    rw [Traffic.posted,Traffic.recorded,if_pos hrecorded,Outlet.reachesCollector,hposted,if_pos rfl,hheard,hheard']

end Replay

namespace Command.Send

/-- What a real run of a command hands to the collector is the one request that its dry run records and prints. -/
lemma run_posted {s : Send} {files : Config.Files} {e : Config.Environment}
    (hconfig : ∀ c, Config.layered s.tag files e = .ok c → c.WantsBeacon) {now : ℤ} {t : Traffic}
    (h : { s with dryRun := true }.run files e now = .ok t) (now' : ℤ) (script : Config.FileContent) :
    ∃ r t', t.recorded = [r] ∧
      (Command.send { s with dryRun := true }).run ⟨files,e,script,now⟩ = { output := r.line ++ "\n" } ∧
      { s with dryRun := false }.run files e now' = .ok t' ∧ t'.posted = [r] := by
  have hprints : (Command.send { s with dryRun := true }).run ⟨files,e,script,now⟩ = .ofTraffic t := by
    simp only [Command.run,h]
  obtain ⟨st,properties,hst,hproperties,rfl⟩ := run_ok_iff.mp h
  obtain ⟨c,hc,-,hresolve⟩ := settings_ok_iff.mp hst
  have hbeacon := (hconfig c hc).ofSettings hresolve
  have hdry := { s with dryRun := true }.sendWith_eq st rfl now properties
  have hreal := { s with dryRun := false }.sendWith_eq st (by rw [hbeacon]; rfl) now' properties
  rw [hbeacon] at hreal
  rw [hprints,hdry]
  -- Neither settings nor properties depend on whether the run is a dry one.
  refine ⟨s.request st properties,_,rfl,?_,run_ok_iff.mpr ⟨st,properties,hst,hproperties,hreal⟩,rfl⟩
  simp [Result.ofTraffic,Traffic.recorded,Traffic.shown,Outlet.close,Outlet.ofSettings,request,page,input]

end Command.Send

/-- Under a configuration that asks for a beacon, a dry run predicts the real run, whenever that takes place. If the
dry run of a command succeeds it prints one request; the real run succeeds, hands over that request, and the
collector gets one post, to the target and with the body of the request. Of a script whose time stays in the range of
the clock, a real run fails as a dry run does and hands over the requests that the dry run records; if neither fails,
the collector gets their posts. -/
theorem dryRun_predicts {tag : ScriptTag} {files : Config.Files} {e : Config.Environment}
    (hconfig : ∀ c, Config.layered tag files e = .ok c → c.WantsBeacon) :
    (∀ (s : Command.Send) now now' script t, s.tag = tag → { s with dryRun := true }.run files e now = .ok t →
      ∃ r t', t.recorded = [r] ∧
        (Command.send { s with dryRun := true }).run ⟨files,e,script,now⟩ = { output := r.line ++ "\n" } ∧
        { s with dryRun := false }.run files e now' = .ok t' ∧ t'.posted = [r] ∧
        ∀ u, Url.parse r.url = .ok u →
          Collects t'.posted [⟨Post.targetOf u,"text/plain;charset=UTF-8",r.body⟩]) ∧
    ∀ (s : Replay.Script) now now', s.tag = tag → Replay.InRange now s.steps → Replay.InRange now' s.steps →
      (Replay.run s files e now' false).error = (Replay.run s files e now true).error ∧
      (Replay.run s files e now' false).traffic.posted = (Replay.run s files e now true).traffic.recorded ∧
      ((Replay.run s files e now true).error = none → Collects (Replay.run s files e now' false).traffic.posted
        ((Replay.run s files e now true).traffic.recorded.filterMap (Post.ofRequest? { transport := .beacon }))) := by
  constructor
  · rintro s now now' script t rfl h
    obtain ⟨r,t',hrecorded,hprinted,hreal,hposted⟩ := Command.Send.run_posted hconfig h now' script
    refine ⟨r,t',hrecorded,hprinted,hreal,hposted,fun u hu => ?_⟩
    have hpost : Post.ofRequest? { transport := .beacon } r =
        some ⟨Post.targetOf u,"text/plain;charset=UTF-8",r.body⟩ := by
      simp [Post.ofRequest?,Outlet.accepts,Post.contentType?,hu]
    have hcollects := collects t'.posted
    rw [hposted,List.filterMap_cons_some hpost,List.filterMap_nil] at hcollects
    rwa [hposted]
  · rintro s now now' rfl hrange hrange'
    obtain ⟨herror,hposted⟩ : (Replay.run s files e now' false).error = (Replay.run s files e now true).error ∧
        (Replay.run s files e now' false).traffic.posted = (Replay.run s files e now true).traffic.recorded := by
      unfold Replay.run
      cases hc : Config.layered s.tag files e with
      | error err => exact ⟨rfl,rfl⟩
      | ok c => exact Replay.runWith_posted (hconfig c hc) hrange hrange'
    refine ⟨herror,hposted,fun _ => ?_⟩
    rw [hposted]
    exact collects _

/-- A page view to be sent, with the tag of a script that is replayed elsewhere. -/
def rehearsed : Command.Send :=
  { url := "https://a.io/x", source := "https://a.io/p.js", siteKey := some "k", apiUrl := some "https://a.io" }

lemma rehearsed_dry : ∃ t, { rehearsed with dryRun := true }.run {} {} 0 = .ok t ∧
    t.recorded.map Request.url = ["https://a.io/api/collect?site_key=k"] := by
  have hrun : ({ rehearsed with dryRun := true }.run {} {} 0).toOption.map (fun t : Traffic => t.recorded.map Request.url) =
      some ["https://a.io/api/collect?site_key=k"] := by decide +kernel
  cases h : { rehearsed with dryRun := true }.run {} {} 0 with
  | error err => simp [h,Except.toOption] at hrun
  | ok t => exact ⟨t,rfl,by simpa [h,Except.toOption] using hrun⟩

/-- A minute after the dry runs, the page view reaches the collector and the replay hands over the same requests. -/
theorem dryRun_predicts_redirected : (∃ (r : Request) (t' : Traffic),
      { rehearsed with dryRun := false }.run {} {} 60000 = .ok t' ∧
      Collects t'.posted [⟨"/api/collect?site_key=k","text/plain;charset=UTF-8",r.body⟩]) ∧
    (Replay.run Replay.redirected {} {} 60000 false).traffic.posted =
      (Replay.run Replay.redirected {} {} 0 true).traffic.recorded := by
  have hlayered : Config.layered rehearsed.tag {} {} =
      .ok { siteKey := some "k", apiUrl := some "https://a.io" } := rfl
  obtain ⟨hsend,hreplay⟩ := @dryRun_predicts rehearsed.tag {} {} fun c hc => by
    obtain rfl := Except.ok.inj (hlayered.symm.trans hc)
    exact ⟨rfl,by decide⟩
  constructor
  · obtain ⟨t,ht,hurls⟩ := rehearsed_dry
    obtain ⟨r,t',hrecorded,-,hreal,-,hcollects⟩ := hsend rehearsed 0 60000 .missing t rfl ht
    have hurl : r.url = "https://a.io/api/collect?site_key=k" := by simpa [hrecorded] using hurls
    have htarget : (Url.parse "https://a.io/api/collect?site_key=k").toOption.map Post.targetOf =
        some "/api/collect?site_key=k" := by decide +kernel
    cases hu : Url.parse "https://a.io/api/collect?site_key=k" with
    | error err => simp [hu,Except.toOption] at htarget
    | ok u =>
      have hpost := hcollects u (hurl ▸ hu)
      rw [show Post.targetOf u = "/api/collect?site_key=k" by simpa [hu,Except.toOption] using htarget] at hpost
      exact ⟨r,t',hreal,hpost⟩
  · have hadvanced : Replay.advanced Replay.redirected.steps = 5000 := rfl
    have hrange (now : ℤ) (hlow : 0 ≤ now) (hhigh : now ≤ 60000) : Replay.InRange now Replay.redirected.steps := by
      rw [Replay.InRange,hadvanced]
      omega
    exact (hreplay Replay.redirected 0 60000 rfl (hrange 0 le_rfl (by decide)) (hrange 60000 (by decide) le_rfl)).2.1

/-- A user who prefers keep-alive requests. -/
def persistent : Config.Files where
  user := .bytes "[tracker]\ntransport = \"keepalive\"\n".toUTF8

/-- A visitor who comes back at the end of time. -/
def belated : Replay.Script where
  scene := { url := "https://a.io/x" }
  tag := rehearsed.tag
  steps := [.advance (.ofNat 9223372036854770),.push "/b",.advance (.ofNat 5),.hide]

/-- With keep-alive requests a real run hands over nothing of what its dry run shows. And where time runs out of the
range of the clock, what is handed over depends on when the run begins. -/
theorem dryRun_mispredicts :
    ({ rehearsed with dryRun := true }.run persistent {} 0).toOption.map (fun t : Traffic => t.recorded.length) = some 1 ∧
    ({ rehearsed with dryRun := false }.run persistent {} 0).toOption.map Traffic.posted = some [] ∧
    (Replay.run Replay.redirected persistent {} 0 true).traffic.recorded.length = 3 ∧
    (Replay.run Replay.redirected persistent {} 0 false).traffic.posted = [] ∧
    (Replay.run belated {} {} 0 false).traffic.posted.length = 3 ∧
    (Replay.run belated {} {} 1000 true).traffic.recorded.length = 2 := by
  refine ⟨?_,?_,?_,?_,?_,?_⟩
  all_goals decide +kernel

end PageTelemetry
