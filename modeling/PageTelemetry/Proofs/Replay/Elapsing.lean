import PageTelemetry.Proofs.Replay.FlatRun
import PageTelemetry.Proofs.Replay.Timeline
import PageTelemetry.Proofs.ShuttingDown

/-! Replays on their timelines. A leave reports what has passed since the last page view or event, to the nearest second,
and that is the time by which the clock was moved up to a multiple of 2 ^ 64 milliseconds: a clock that is moved beyond
its range goes on from the other end of it. -/
namespace PageTelemetry

/-- What a replay does to the page itself. -/
def Act.isGesture : Act → Bool
  | .push _ | .replace _ | .back | .forward | .setTitle _ | .hide | .reveal | .unload | .finishLoading | .discard => true
  | _ => false

/-- Nobody does anything else, whoever begins and listens. -/
def Rules.gestures : Rules where
  act a := a.isGesture = true
  start _ _ := True
  place _ _ := True

lemma Rules.gestures_sound (trackers : ℕ) : gestures.Sound trackers where
  subscribe _ _ := trivial
  start _ _ := trivial
  install _ _ := trivial

lemma Rules.allows_gesture {a : Act} (ha : a.isGesture = true) : gestures.Allows a := by
  refine .intro ha ?_
  cases a with
  | onLoad | addPopState | addLifecycle | wrapHook => cases ha
  | _ => simp [Act.reaction]

namespace World
open Replay Tracker
variable {w w' : World} {out : Outlet} {hs : List Happening} {now : ℤ}

/-! One operation and one task. -/

lemma moveTo_sameBooks (w : World) (target : Option History) : w.SameBooks (w.moveTo target).2 := by
  cases target <;> exact ⟨rfl,rfl,rfl,rfl,rfl⟩

lemma act_sameBooks (w : World) {a : Act} (ha : a.isGesture = true) : w.SameBooks (w.act a) := by
  cases a with
  | push | replace | setTitle | reveal | unload | discard => exact ⟨rfl,rfl,rfl,rfl,rfl⟩
  | back => exact w.moveTo_sameBooks _
  | forward => exact w.moveTo_sameBooks _
  | hide =>
    simp only [World.act,World.hide]
    split_ifs <;> exact ⟨rfl,rfl,rfl,rfl,rfl⟩
  | finishLoading =>
    simp only [World.act,World.finishLoading]
    split_ifs <;> exact ⟨rfl,rfl,rfl,rfl,rfl⟩
  | _ => cases ha

lemma subscribe_sameBooks (w : World) (s : SourceId) (hd : Handler) : w.SameBooks (w.subscribe s hd).2 := by
  unfold World.subscribe
  dsimp only
  split <;> exact ⟨rfl,rfl,rfl,rfl,rfl⟩

/-- A world on a timeline, up to more requests. -/
def Continues (out : Outlet) (hs : List Happening) (now : ℤ) (w : World) : Prop :=
  ∃ new : List Request, w.Accounts out (hs ++ new.map .sent) now

lemma Accounts.continues (h : w.Accounts out hs now) : w.Continues out hs now := ⟨[],by simpa using h⟩

lemma Continues.frame (h : w.Continues out hs now) (hsame : w.SameBooks w') : w'.Continues out hs now := by
  obtain ⟨new,h⟩ := h
  exact ⟨new,h.frame hsame⟩

lemma Continues.ask (h : w.Continues out hs now) (id : TrackerId) {c : Call} (hc : c.IsUndated) :
    (w.ask id c).2.Continues out hs now := by
  obtain ⟨new,h⟩ := h
  cases id with
  | zero =>
    obtain ⟨more,h⟩ := h.ask hc
    exact ⟨new ++ more,by simpa using h⟩
  | succ id =>
    obtain ⟨t,ht,-⟩ := h.tracker
    have hnobody : (w.ask (id+1) c).2 = w := by simp [ask_eq_report,report,ht]
    exact ⟨new,by rw [hnobody]; exact h⟩

lemma Continues.signal (h : w.Continues out hs now) (hd : Handler) (s : Signal) : (w.signal hd s).Continues out hs now := by
  cases hd with
  | tracker id =>
    simp only [World.signal]
    split_ifs
    · exact h.ask id (c := .signal s) trivial
    · exact h
  | log label => exact h.frame ⟨rfl,rfl,rfl,rfl,rfl⟩

lemma Continues.start (h : w.Continues out hs now) (id : TrackerId) (source : Option SourceId) :
    (w.start id source).Continues out hs now := by
  refine start_invariant (h.ask id (c := .pageView) trivial) ?_ ?_ source
  · exact fun u hu => hu.frame ⟨rfl,rfl,rfl,rfl,rfl⟩
  · exact fun u s hu => hu.frame (u.subscribe_sameBooks s _)

theorem Continues.perform (h : w.Continues out hs now) {task : Task} (ht : Rules.gestures.AllowsTask task) :
    (w.perform task).Continues out hs now := by
  cases task with
  | hook k kind => cases k <;> exact h.frame ⟨rfl,rfl,rfl,rfl,rfl⟩
  | relay id hd kind =>
    simp only [World.perform]
    split_ifs
    · exact h.signal hd _
    · exact h
  | call l o =>
    simp only [World.perform,World.call]
    split_ifs <;> exact h.frame ⟨rfl,rfl,rfl,rfl,rfl⟩
  | signal hd s => exact h.signal hd s
  | start id source => exact h.start id source
  | act a => exact h.frame (w.act_sameBooks ht.own)

/-! Whole operations. -/

/-- A world of a replay. -/
def Replays (out : Outlet) (hs : List Happening) (now : ℤ) (w : World) : Prop :=
  w.Obeys Rules.gestures ∧ w.Continues out hs now

lemma Replays.step (h : w.Replays out hs now) : w.step.Replays out hs now := by
  obtain ⟨hobeys,hcontinues⟩ := h
  refine ⟨hobeys.step (Rules.gestures_sound _),?_⟩
  cases hagenda : w.agenda with
  | nil => rwa [step_of_agenda_nil hagenda]
  | cons task rest =>
    have htask := hobeys.agenda task (by rw [hagenda]; exact List.mem_cons_self)
    have hrest : ({ w with agenda := rest } : World).Continues out hs now := hcontinues.frame ⟨rfl,rfl,rfl,rfl,rfl⟩
    rw [step_of_agenda_cons hagenda]
    exact hrest.perform htask

/-- A gesture with all that it causes. -/
theorem Replays.run (h : w.Replays out hs now) {a : Act} (ha : a.isGesture = true) : (w.run a).Replays out hs now := by
  have hacted : (w.act a).Replays out hs now :=
    ⟨h.1.act (Rules.gestures_sound _) (Rules.allows_gesture ha),h.2.frame (w.act_sameBooks ha)⟩
  exact settle_invariant hacted (fun u hu => hu.step) patience

end World

/-! Scripts. -/

namespace Replay
open World
variable {w w' : World} {out : Outlet} {hs : List Happening} {now : ℤ}

/-- The time that passes in a step. -/
def Step.passing : Step → List Happening
  | .advance seconds => [.passed (Flat.milliseconds seconds)]
  | _ => []

/-- How far the clock is moved in a step. -/
def Step.moves : Step → ℕ
  | .advance seconds => clamped (Flat.milliseconds seconds)
  | _ => 0

/-- How far the clock is moved in steps, if it never ends. -/
def moved (steps : List Step) : ℕ := (steps.map Step.moves).sum

/-- What is sent from one world to another. -/
def sentBetween (w w' : World) : List Happening :=
  ((w'.traffic 0).requests.drop (w.traffic 0).requests.length).map .sent

/-- What happens in steps, one after the other. -/
def happenings (w : World) (id : TrackerId) : List Step → List Happening
  | [] => []
  | a::rest =>
    match step w id a with
    | .error _ => []
    | .ok w' => a.passing ++ sentBetween w w' ++ happenings w' id rest

/-- The world at the end of a script. -/
def finish (w : World) (id : TrackerId) : World := (w.shutdown id).run .discard

/-- What happens when a script is played from a time on: in its beginning, in its steps and, if none of them is refused,
at the end. -/
def timeline (s : Script) (c : Config) (now : ℤ) (dryRun : Bool) : List Happening :=
  match begin s c now dryRun with
  | (none,_) => []
  | (some id,w) =>
    (w.traffic 0).requests.map .sent ++ happenings { w with handles := [id] } id s.steps ++
      match play { w with handles := [id] } id s.steps with
      | (_,some _) => []
      | (w',none) => sentBetween w' (finish w' id)

/-- A world between two steps. -/
def Stands (out : Outlet) (hs : List Happening) (now : ℤ) (w : World) : Prop :=
  w.Obeys Rules.gestures ∧ w.Accounts out hs now

lemma sentBetween_append {new : List Request}
    (h : (w'.traffic 0).requests = (w.traffic 0).requests ++ new) : sentBetween w w' = new.map .sent := by
  rw [sentBetween,h,List.drop_left]

/-- What is sent between two worlds is what is new on their timeline. -/
lemma Stands.sentBetween (h : Stands out hs now w) {out' : Outlet} {now' : ℤ} {ms : List Happening}
    (hms : ms.filterMap Happening.request? = []) (hw' : w'.Replays out' (hs ++ ms) now') :
    Stands out' (hs ++ ms ++ sentBetween w w') now' w' := by
  obtain ⟨hobeys,new,haccounts⟩ := hw'
  have hnew : (w'.traffic 0).requests = (w.traffic 0).requests ++ new := by
    rw [haccounts.requests,h.2.requests,List.filterMap_append,List.filterMap_append,hms,List.filterMap_map]
    simp [Function.comp_def,Happening.request?]
  rw [sentBetween_append hnew]
  exact ⟨hobeys,haccounts⟩

lemma Stands.replays (h : Stands out hs now w) : w.Replays out hs now := ⟨h.1,h.2.continues⟩

lemma wrapInt64_add (i j : ℤ) : wrapInt64 (wrapInt64 i+j) = wrapInt64 (i+j) := Int.bmod_add_bmod

lemma moved_cons (a : Step) (rest : List Step) : moved (a::rest) = a.moves+moved rest := List.sum_cons

/-- Time passes, and the clock is moved by what it can be moved at once. -/
lemma advance_accounts (h : w.Accounts out hs now) {seconds : Binary64} {span : Span}
    (hspan : Span.ofSeconds? seconds = some span) : ({ w with clock := w.clock.advance span } : World).Accounts out
      (hs ++ (Step.advance seconds).passing) (wrapInt64 (now+(Step.advance seconds).moves)) := by
  have hms : Flat.milliseconds seconds = span.milliseconds := by simp [Flat.milliseconds,hspan]
  obtain ⟨t,ht,hkeeps⟩ := h.tracker
  refine ⟨h.outlets,h.width,?_,isReading_wrapInt64 _,?_,⟨t,ht,fun ho start hstart => ?_⟩,
    h.faithful.concat fun r d hr _ => by cases hr⟩
  · simp only [ManualClock.advance,h.clock,Step.moves,clamped,hms]
    push_cast
    rfl
  · rw [List.filterMap_append]
    exact h.requests.trans (List.append_nil _).symm
  · obtain ⟨hreading,hnow⟩ := hkeeps ho start hstart
    refine ⟨hreading,?_⟩
    rw [hnow,wrapInt64_add,Step.passing,sinceView_concat,Happening.follow,Step.moves]
    push_cast
    rw [add_assoc]

/-- One step of a script. -/
theorem step_stands (h : Stands out hs now w) {id : TrackerId} {a : Step} (hstep : step w id a = .ok w') :
    Stands out (hs ++ a.passing ++ sentBetween w w') (wrapInt64 (now+a.moves)) w' := by
  have hsame : wrapInt64 (now+(0 : ℕ)) = now := by
    rw [Nat.cast_zero,add_zero]
    exact wrapInt64_eq_self h.2.reading.1 h.2.reading.2
  have hquiet {u : World} (hu : u.Replays out hs now) :
      Stands out (hs ++ [] ++ sentBetween w u) (wrapInt64 (now+(0 : ℕ))) u := by
    rw [hsame]
    exact h.sentBetween rfl (by rwa [List.append_nil])
  cases a with
  | advance seconds =>
    cases hspan : Span.ofSeconds? seconds with
    | none => simp [step,hspan] at hstep
    | some span =>
      simp only [step,hspan] at hstep
      obtain rfl := Except.ok.inj hstep
      exact h.sentBetween rfl ⟨h.1.of_same,(advance_accounts h.2 hspan).continues⟩
  | track name properties =>
    obtain rfl := Except.ok.inj hstep
    refine hquiet ⟨h.1.reported (w.report_reported id _),?_⟩
    exact h.2.continues.ask id (Tracker.callOverrides_undated name properties)
  | push | replace | back | forward | title | hide | reveal | unload | load =>
    obtain rfl := Except.ok.inj hstep
    exact hquiet (h.replays.run rfl)

/-- Steps up to the first that is refused, by induction on them. -/
theorem play_stands (h : Stands out hs now w) (id : TrackerId) (steps : List Step) : ∃ now',
    Stands out (hs ++ happenings w id steps) now' (play w id steps).1 ∧
      ((play w id steps).2 = none → now' = wrapInt64 (now+moved steps)) := by
  induction steps generalizing w hs now with
  | nil =>
    have hself := wrapInt64_eq_self h.2.reading.1 h.2.reading.2
    exact ⟨now,by simpa [happenings,play] using h,fun _ => by simpa [moved] using hself.symm⟩
  | cons a rest ih =>
    cases hstep : step w id a with
    | error e => exact ⟨now,by simpa [happenings,play,hstep] using h,fun hnone => by simp [play,hstep] at hnone⟩
    | ok u =>
      obtain ⟨now',hstands,hnow'⟩ := ih (step_stands h hstep)
      refine ⟨now',by simpa [happenings,play,hstep] using hstands,fun hnone => ?_⟩
      rw [hnow' (by simpa [play,hstep] using hnone),wrapInt64_add,moved_cons]
      push_cast
      rw [add_assoc]

/-- A tracker that closes its outlet goes on standing in its world. -/
lemma shutdown_stands (h : Stands out hs now w) (id : TrackerId) : ∃ out', Stands out' hs now (w.shutdown id) := by
  obtain ⟨hobeys,haccounts⟩ := h
  obtain ⟨t,ht,hkeeps⟩ := haccounts.tracker
  cases id with
  | zero =>
    have hclosed : w.shutdown 0 = { w with outlets := [out.close] } := by simp [shutdown,ht,haccounts.outlets]
    rw [hclosed]
    refine ⟨out.close,hobeys.of_same,?_⟩
    exact ⟨rfl,haccounts.width,haccounts.clock,haccounts.reading,haccounts.requests,
      ⟨t,ht,fun ho => hkeeps (Outlet.accepts_of_close ho)⟩,haccounts.faithful⟩
  | succ id =>
    have hsame : w.shutdown (id+1) = w := by simp [shutdown,ht]
    rw [hsame]
    exact ⟨out,hobeys,haccounts⟩

lemma finish_stands (h : Stands out hs now w) (id : TrackerId) :
    ∃ out', Stands out' (hs ++ sentBetween w (finish w id)) now (finish w id) := by
  obtain ⟨out',hclosed⟩ := shutdown_stands h id
  have hfinished : (finish w id).Replays out' (hs ++ []) now := by
    rw [List.append_nil]
    exact hclosed.replays.run rfl
  exact ⟨out',by simpa using h.sentBetween rfl hfinished⟩

variable {s : Script}

/-- The world of a script before anything is installed in it. -/
def untouched (s : Script) (c : Config) (now : ℤ) (dryRun : Bool) : World :=
  { page := s.page, clock := ⟨now⟩, outlets := [outlet c dryRun] }

/-- A script begins without a tracker, or with one that begins to report or waits for the document. -/
lemma begin_cases (s : Script) (c : Config) (now : ℤ) (dryRun : Bool) :
    begin s c now dryRun = (none,untouched s c now dryRun) ∨ ∃ st,
      begin s c now dryRun = (some 0,((untouched s c now dryRun).enroll st 0).start 0 none) ∨
      begin s c now dryRun = (some 0,((untouched s c now dryRun).enroll st 0).await 0 none) := by
  have hfree : s.page.global? Page.namespaceName = none := rfl
  unfold begin untouched
  simp only [World.install,hfree]
  split_ifs
  · exact .inl rfl
  · cases c.resolve with
    | error e => exact .inl rfl
    | ok st =>
      refine .inr ⟨st,?_⟩
      dsimp only
      split_ifs
      · exact .inl rfl
      · exact .inr rfl

lemma enroll_stands (hwidth : s.scene.width < 0x100000000) (hnow : IsReading now) (c : Config) (dryRun : Bool)
    (st : Settings) :
    Stands (outlet c dryRun) [] now ((untouched s c now dryRun).enroll st 0) := by
  constructor
  · have hnothing (i : SourceId) : ((untouched s c now dryRun).enroll st 0).interception? i = none := rfl
    refine ⟨?_,?_,?_,?_,?_,fun i _ hi => by simp [hnothing] at hi⟩
    all_goals simp [untouched,enroll,addTracker,modifyPage,Page.expose,Script.page]
  · exact ⟨rfl,hwidth,rfl,hnow,rfl,⟨_,rfl,fun _ _ hstart => by cases hstart⟩,faithful_nil⟩

variable {c : Config} {dryRun : Bool}

/-- A script with a tracker begins with what that sends at once. -/
lemma begin_stands (hwidth : s.scene.width < 0x100000000) (hnow : IsReading now) {id : TrackerId}
    (h : begin s c now dryRun = (some id,w)) :
    Stands (outlet c dryRun) ((w.traffic 0).requests.map .sent) now { w with handles := [id] } := by
  have hbegun : ∃ st, w.Replays (outlet c dryRun) [] now ∧
      sentBetween ((untouched s c now dryRun).enroll st 0) w = (w.traffic 0).requests.map .sent := by
    rcases begin_cases s c now dryRun with e | ⟨st,e | e⟩
    · rw [e] at h
      cases h
    · obtain ⟨-,rfl⟩ := Prod.mk.inj (e.symm.trans h)
      have hstands := enroll_stands hwidth hnow c dryRun st
      exact ⟨st,⟨hstands.1.start fun _ => trivial,hstands.2.continues.start 0 none⟩,rfl⟩
    · obtain ⟨-,rfl⟩ := Prod.mk.inj (e.symm.trans h)
      obtain ⟨hobeys,haccounts⟩ := enroll_stands hwidth hnow c dryRun st
      have hwaiting : (((untouched s c now dryRun).enroll st 0).await 0 none).Accounts (outlet c dryRun) [] now :=
        haccounts.frame ⟨rfl,rfl,rfl,rfl,rfl⟩
      exact ⟨st,⟨hobeys.await trivial,hwaiting.continues⟩,rfl⟩
  obtain ⟨st,hreplays,hsent⟩ := hbegun
  rw [← List.append_nil []] at hreplays
  have hstands := (enroll_stands hwidth hnow c dryRun st).sentBetween rfl hreplays
  rw [hsent] at hstands
  exact ⟨hstands.1.of_same,hstands.2.frame ⟨rfl,rfl,rfl,rfl,rfl⟩⟩

/-- A whole script. -/
theorem runWith_timeline (hwidth : s.scene.width < 0x100000000) (hnow : IsReading now) :
    (runWith s c now dryRun).traffic.requests = (timeline s c now dryRun).filterMap Happening.request? ∧
      Faithful (timeline s c now dryRun) := by
  unfold runWith timeline
  cases hbegin : begin s c now dryRun with
  | mk id w =>
    cases id with
    | none =>
      rcases begin_cases s c now dryRun with e | ⟨st,e | e⟩
      · obtain ⟨-,rfl⟩ := Prod.mk.inj (hbegin.symm.trans e)
        exact ⟨rfl,faithful_nil⟩
      · rw [e] at hbegin
        cases hbegin
      · rw [e] at hbegin
        cases hbegin
    | some id =>
      obtain ⟨now',hstands,-⟩ := play_stands (begin_stands hwidth hnow hbegin) id s.steps
      dsimp only
      cases hplay : play { w with handles := [id] } id s.steps with
      | mk u e =>
        rw [hplay] at hstands
        cases e with
        | some e => exact ⟨by simpa using hstands.2.requests,by simpa using hstands.2.faithful⟩
        | none =>
          obtain ⟨out',hfinished⟩ := finish_stands hstands id
          exact ⟨hfinished.2.requests,hfinished.2.faithful⟩

/-! The clock of a script. -/

lemma Step.moves_le (a : Step) : a.moves ≤ 0x7fffffffffffffff := by
  cases a <;> simp only [moves,clamped] <;> omega

lemma moved_le_advanced (steps : List Step) : moved steps ≤ advanced steps := by
  induction steps with
  | nil => exact le_rfl
  | cons a rest ih =>
    have hstep : a.moves ≤ advanced [a] := by cases a <;> simp [Step.moves,advanced,clamped]
    rw [moved_cons,advanced_cons]
    omega

/-- A reading that is moved on is an earlier one just if it leaves the range of the clock. -/
lemma wrapInt64_lt_iff {n : ℕ} (hnow : IsReading now) (hn : n ≤ 0x7fffffffffffffff) :
    wrapInt64 (now+n) < now ↔ 0x8000000000000000 ≤ now+n := by
  simp only [IsReading] at hnow
  simp only [wrapInt64,Int.bmod]
  omega

/-- The clock before and after a step. -/
lemma play_clock (h : Stands out hs now w) {id : TrackerId} {pre : List Step} {u : World}
    (hplay : play w id pre = (u,none)) {a : Step} (hstep : step u id a = .ok w') : u.clock.now = wrapInt64 (now+moved pre) ∧
      (w'.clock.now < u.clock.now ↔ 0x8000000000000000 ≤ u.clock.now+a.moves) := by
  obtain ⟨now',hstands,hnow'⟩ := play_stands h id pre
  rw [hplay] at hstands hnow'
  have hu : u.clock.now = now' := by rw [hstands.2.clock]
  have hw' : w'.clock.now = wrapInt64 (now'+a.moves) := by rw [(step_stands hstands hstep).2.clock]
  rw [hw',hu]
  exact ⟨hnow' rfl,wrapInt64_lt_iff hstands.2.reading a.moves_le⟩

/-- A replay sends the requests on its timeline. A leave with a duration reports, to the nearest second, the
milliseconds that passed on the timeline since the last page view or event: exactly, if they are fewer than 2 ^ 64;
otherwise what is left of them up to a multiple of that, where each time that passes counts as no more than the clock
can be moved at once. The clock of the replay reads what it was moved by from its start, wrapped to 64 bits; so a step
moves it back just if it leaves that range, which never happens where all that passes stays inside. -/
theorem replay_timeline {files : Config.Files} {e : Config.Environment}
    (hconfig : Config.layered s.tag files e = .ok c) (hwidth : s.scene.width < 0x100000000) (hnow : IsReading now)
    (dryRun : Bool) :
    (run s files e now dryRun).traffic.requests = (timeline s c now dryRun).filterMap Happening.request? ∧
    (∀ pre r post d, timeline s c now dryRun = pre ++ .sent r::post → r.duration? = some d → Reports pre d) ∧
    ∀ id w₀ pre a post w w', begin s c now dryRun = (some id,w₀) → s.steps = pre ++ a::post →
      play { w₀ with handles := [id] } id pre = (w,none) → step w id a = .ok w' →
      w.clock.now = wrapInt64 (now+moved pre) ∧
      (w'.clock.now < w.clock.now ↔ 0x8000000000000000 ≤ w.clock.now+a.moves) ∧
      (now+advanced s.steps < 0x8000000000000000 → w.clock.now ≤ w'.clock.now) := by
  have hrun : run s files e now dryRun = runWith s c now dryRun := by rw [run,hconfig]
  rw [hrun]
  obtain ⟨hrequests,hfaithful⟩ := runWith_timeline (c := c) hwidth hnow
  refine ⟨hrequests,hfaithful,fun id w₀ pre a post w w' hbegin hsteps hplay hstep => ?_⟩
  obtain ⟨hclock,hback⟩ := play_clock (begin_stands hwidth hnow hbegin) hplay hstep
  refine ⟨hclock,hback,fun hinside => ?_⟩
  have hmoved : moved s.steps = moved pre+(a.moves+moved post) := by simp [moved,hsteps]
  have hall := moved_le_advanced s.steps
  have hlow := hnow.1
  rw [wrapInt64_eq_self (by omega) (by omega)] at hclock
  by_contra hearlier
  have hbeyond := hback.mp (by omega)
  omega

/-- The settings of the page that is left for another one before it is complete. -/
def redirectedConfig : Config := { siteKey := some "k", apiUrl := some "https://a.io" }

/-- Five seconds pass between its page view and the leave that reports them. -/
theorem replay_timeline_redirected : ∃ pre r post,
    timeline redirected redirectedConfig 0 true = pre ++ .sent r::post ∧ r.duration? = some 5 ∧
      sinceView id pre = 5000 ∧ Reports pre 5 ∧
      r ∈ (run redirected {} {} 0 true).traffic.requests ∧
      ∃ id w₀ w w', begin redirected redirectedConfig 0 true = (some id,w₀) ∧
        play { w₀ with handles := [id] } id [.push "/y",.load] = (w,none) ∧
        step w id (.advance (.ofNat 5)) = .ok w' ∧ w.clock.now ≤ w'.clock.now := by
  have hnow : IsReading 0 := ⟨by decide,by decide⟩
  have hconfig : Config.layered redirected.tag {} {} = .ok redirectedConfig := rfl
  obtain ⟨hrequests,hleaves,hclock⟩ := replay_timeline hconfig (by decide) hnow true
  obtain ⟨r,hr,hd⟩ : ∃ r, (timeline redirected redirectedConfig 0 true)[2]? = some (.sent r) ∧
      r.duration? = some 5 := by
    have hthird : (timeline redirected redirectedConfig 0 true)[2]?.map
        (fun h => h.request?.map Request.duration?) = some (some (some 5)) := by decide +kernel
    obtain ⟨h,hget,hduration⟩ := Option.map_eq_some_iff.mp hthird
    obtain ⟨r,hrequest,hd⟩ := Option.map_eq_some_iff.mp hduration
    cases h with
    | passed ms => cases hrequest
    | sent r' => exact ⟨r',hget,Option.some.inj hrequest ▸ hd⟩
  obtain ⟨hlt,hget⟩ := List.getElem?_eq_some_iff.mp hr
  have hsplit : timeline redirected redirectedConfig 0 true =
      (timeline redirected redirectedConfig 0 true).take 2 ++
        .sent r::(timeline redirected redirectedConfig 0 true).drop 3 := by
    rw [← hget,← List.drop_eq_getElem_cons hlt,List.take_append_drop]
  have hmem : r ∈ (run redirected {} {} 0 true).traffic.requests := by
    rw [hrequests]
    exact List.mem_filterMap.mpr ⟨_,List.mem_of_getElem? hr,rfl⟩
  have hplay : ∃ w, play { (begin redirected redirectedConfig 0 true).2 with handles := [0] } 0 [.push "/y",.load] =
      (w,none) := ⟨_,Prod.ext rfl (by decide +kernel)⟩
  obtain ⟨w,hplay⟩ := hplay
  have hstep : step w 0 (.advance (.ofNat 5)) = .ok { w with clock := w.clock.advance ⟨5000000000⟩ } := rfl
  obtain ⟨-,-,hforth⟩ := hclock 0 _ [.push "/y",.load] (.advance (.ofNat 5)) [.hide,.back] w _ rfl rfl hplay hstep
  exact ⟨_,r,_,hsplit,hd,by decide +kernel,hleaves _ _ _ _ hsplit hd,hmem,0,_,w,_,rfl,hplay,hstep,
    hforth (by decide +kernel)⟩

/-- A visitor who stays twice for longer than a clock can show, and then for three seconds. -/
def overdrawn : Script where
  scene := { url := "https://a.io/" }
  tag := .ofOptions "https://a.io/t.js" (some "k") none false
  steps := [.advance (.ofNat 10000000000000000),.advance (.ofNat 10000000000000000),.advance (.ofNat 3),.unload]

/-- The clock is moved on to the end of its range and then back to its beginning, and three seconds are reported. -/
theorem replay_wraps : (∀ seconds, .advance seconds ∈ overdrawn.steps → (Span.ofSeconds? seconds).isSome = true) ∧
    advanced overdrawn.steps = 20000000000000003000 ∧
    (run overdrawn {} {} 0 true).traffic.recorded.map Request.duration? = [none,some 3] ∧
    ∃ w₀, begin overdrawn redirectedConfig 0 true = (some 0,w₀) ∧
      (play { w₀ with handles := [0] } 0 (overdrawn.steps.take 1)).1.clock.now = 9223372036854775807 ∧
      (play { w₀ with handles := [0] } 0 (overdrawn.steps.take 2)).1.clock.now = -2 := by
  refine ⟨?_,by decide +kernel,by decide +kernel,_,rfl,by decide +kernel,by decide +kernel⟩
  simp only [overdrawn,List.mem_cons,Step.advance.injEq,reduceCtorEq,List.not_mem_nil,or_false]
  rintro seconds (rfl | rfl | rfl) <;> decide +kernel

end Replay

end PageTelemetry
