import PageTelemetry.Proofs.Replay.Mirror
import PageTelemetry.Proofs.Sources

/-! A dry run of a script sends what the flat visit reports, request by request: each step of the script
keeps the world a mirror of the visit, and the replay ends without an error. -/
namespace PageTelemetry

namespace World
variable {v : Visit} {w : World} {f : Flat}
open Replay

/-- The start of the only tracker on a page that nobody has touched: a page view, then it observes. -/
theorem Shows.start (h : w.Shows v f) (hready : w.page.ready = .complete) (hhook : w.page.hook = none)
    (hpop : w.page.popState = []) (hlife : w.page.lifecycle = []) :
    (w.start 0 none).Shows v (f.view v).2 ∧ (w.start 0 none).sent = w.sent ++ deliveries v (f.view v).1 ∧
      (w.start 0 none).Observing ∧ (w.start 0 none).agenda = w.agenda ∧
      (w.start 0 none).handles = w.handles ∧ (w.start 0 none).clock = w.clock := by
  obtain ⟨hs,hsent⟩ := h.report (r := Tracker.trackPageView) (f.view_samePage v) fun t hm => hm.trackPageView
  obtain ⟨_,_,_,-,e⟩ := w.report_reported 0 Tracker.trackPageView
  have hstart := start_default hs.pageKept
  have hpage : (w.trackPageView 0).2.page = w.page := by rw [World.trackPageView,e]
  rw [hstart]
  dsimp only
  refine ⟨⟨hs.history,hs.referrer,hs.title,hs.width,hs.visibility,hs.held,hs.outlets,hs.exposed,hs.tracker⟩,hsent,
    ⟨?_,⟨(w.trackPageView 0).2.lastHook+1,?_,?_⟩,⟨(w.trackPageView 0).2.page.lastListener+1,?_⟩,
      ⟨(w.trackPageView 0).2.page.lastListener+2,?_⟩⟩,by rw [World.trackPageView,e],
    by rw [World.trackPageView,e],by rw [World.trackPageView,e]⟩
  · simp [interceptedPage,hpage,hready]
  · simp [interceptedPage,intercept,hpage,hhook]
  · simp [hookActive,Source.hasHook,intercept,Hook.id]
  · simp [interceptedPage,hpage,hpop]
  · simp [interceptedPage,hpage,hlife]

/-- Completing the document begins the observation, once. -/
lemma Mirrors.load (h : w.Mirrors v f) :
    Follows v w (w.finishLoading.settle patience)
      (if f.loaded then ([],f) else { f with loaded := true }.view v) := by
  have hpost := h.post
  split_ifs at hpost ⊢ with hl
  · have hdone : w.finishLoading = w := by simp [finishLoading,hpost.1]
    rw [hdone,settle_idle h.idle]
    exact h.refl
  · obtain ⟨hready,hhook,hpop,hlife,hload⟩ := hpost
    obtain ⟨t,ht,hm⟩ := h.page.tracker
    let w₁ := w.modifyPage fun p => { p with ready := .complete, onLoad := [] }
    have hs : w₁.Shows v { f with loaded := true } :=
      ⟨h.page.history,h.page.referrer,h.page.title,h.page.width,h.page.visibility,h.page.held,
        h.page.outlets,h.page.exposed,t,ht,⟨hm.settings,hm.lastPath,hm.leaving,hm.start⟩⟩
    obtain ⟨hs',hsent,hobs,hagenda,hhandles,hclock⟩ := hs.start rfl hhook hpop hlife
    have hfinish : w.finishLoading = w₁.enqueue [.start 0 none] := by
      simp [finishLoading,hready,hload,w₁,loadTask]
    have hstep : step^[1] (w₁.enqueue [.start 0 none]) = w₁.start 0 none := rfl
    rw [hfinish,settle_of_le (k := 1) (by rw [hstep,hagenda]; exact h.idle) (by decide),hstep]
    have hsame := Flat.view_samePage v { f with loaded := true }
    refine ⟨⟨hs',by rw [hagenda]; exact h.idle,by rw [hhandles]; exact h.handles,?_⟩,hsent,hclock⟩
    rw [hsame.loaded]
    exact hobs

end World

namespace Replay
open World
variable {v : Visit} {w : World} {f : Flat}

/-- How many milliseconds pass in steps. -/
def advanced : List Step → ℕ
  | [] => 0
  | .advance seconds::rest => Flat.milliseconds seconds+advanced rest
  | _::rest => advanced rest

/-- Time passes on a clock that is not moved beyond its range. -/
lemma advance_mirrors (h : w.Mirrors v f) {seconds : Binary64} {span : Span}
    (hspan : Span.ofSeconds? seconds = some span) (hlow : -0x8000000000000000 ≤ w.clock.now)
    (hhigh : w.clock.now+span.milliseconds < 0x8000000000000000) :
    ({ w with clock := w.clock.advance span } : World).Mirrors v
        { f with elapsed := f.elapsed+Flat.milliseconds seconds } := by
  have hms : Flat.milliseconds seconds = span.milliseconds := by simp [Flat.milliseconds,hspan]
  have hnow : (w.clock.advance span).now = w.clock.now+min (span.milliseconds : ℤ) 0x7fffffffffffffff :=
    wrapInt64_eq_self (by omega) (by omega)
  obtain ⟨t,ht,hm⟩ := h.page.tracker
  refine ⟨⟨h.page.history,h.page.referrer,h.page.title,h.page.width,h.page.visibility,h.page.held,
    h.page.outlets,h.page.exposed,t,ht,⟨hm.settings,hm.lastPath,hm.leaving,hm.start.advance ?_ _ rfl⟩⟩,h.idle,h.handles,h.post⟩
  rw [hnow,hms]
  omega

lemma run_push (h : w.Mirrors v f) (url : String) :
    Follows v w (w.run (.push url)) (f.step v (.push url)) := by
  have h₁ := h.relocate (f.current::f.behind) (Page.resolveFrom f.current url) []
  have hw : (w.modifyPage fun p => { p with history := p.history.push (p.resolve url) }) =
      w.modifyPage fun p => { p with
        history := .ofZipper (f.current::f.behind) (Page.resolveFrom f.current url) [] } := by
    simp [modifyPage,Page.resolve,h.page.href,h.page.history]
  simp only [World.run,World.act,World.push,hw]
  exact (h₁.relay .push).of_eq rfl rfl

lemma run_replace (h : w.Mirrors v f) (url : String) :
    Follows v w (w.run (.replace url)) (f.step v (.replace url)) := by
  have h₁ := h.relocate f.behind (Page.resolveFrom f.current url) f.ahead
  have hw : (w.modifyPage fun p => { p with history := p.history.replace (p.resolve url) }) =
      w.modifyPage fun p => { p with
        history := .ofZipper f.behind (Page.resolveFrom f.current url) f.ahead } := by
    simp [modifyPage,Page.resolve,h.page.href,h.page.history]
  simp only [World.run,World.act,World.replace,hw]
  exact (h₁.relay .replace).of_eq rfl rfl

lemma run_back (h : w.Mirrors v f) : Follows v w (w.run .back) (f.step v .back) := by
  simp only [World.run,World.act,World.back,h.page.history,Flat.step]
  cases hb : f.behind with
  | nil =>
    rw [History.back?_ofZipper_nil,World.moveTo,settle_idle h.idle]
    exact h.refl
  | cons href rest =>
    rw [History.back?_ofZipper_cons]
    exact (h.relocate rest href (f.current::f.ahead)).pop.of_eq rfl rfl

lemma run_forward (h : w.Mirrors v f) : Follows v w (w.run .forward) (f.step v .forward) := by
  simp only [World.run,World.act,World.forward,h.page.history,Flat.step]
  cases ha : f.ahead with
  | nil =>
    rw [History.forward?_ofZipper_nil,World.moveTo,settle_idle h.idle]
    exact h.refl
  | cons href rest =>
    rw [History.forward?_ofZipper_cons]
    exact (h.relocate (f.current::f.behind) href rest).pop.of_eq rfl rfl

lemma run_hide (h : w.Mirrors v f) : Follows v w (w.run .hide) (f.step v .hide) := by
  have h₁ := h.setVisible false
  simp only [World.run,World.act,World.hide,h.page.visibility,Flat.step]
  cases hv : f.visible with
  | true => exact (h₁.dispatch .hidden).of_eq rfl rfl
  | false =>
    have hf : { f with visible := false } = f := by rw [← hv]
    rw [hf] at h₁
    simp only [Bool.false_eq_true,if_false,reduceCtorEq]
    rw [settle_idle (by exact h.idle)]
    exact ⟨h₁,by simp [modifyPage],rfl⟩

lemma track_mirrors (h : w.Mirrors v f) (name : Option String) (properties : Option Json) :
    Follows v w (w.track 0 (some (Tracker.callOverrides name properties))).2
      (f.step v (.track name properties)) := by
  have hsame := f.track_samePage v name properties
  set r : Tracker → Payload.Ambient → ℤ → Option Payload × Tracker := fun t a now =>
    (some (t.track a now (some (Tracker.callOverrides name properties))).1,
      (t.track a now (some (Tracker.callOverrides name properties))).2)
  obtain ⟨hs,hsent⟩ := h.page.report (g := f.track v name properties) hsame (r := r)
    fun t hm => hm.track name properties
  obtain ⟨_,_,_,-,e⟩ := w.report_reported 0 r
  refine ⟨⟨hs,by rw [World.track,e]; exact h.idle,by rw [World.track,e]; exact h.handles,?_⟩,hsent,
    by rw [World.track,e]⟩
  rw [World.track,e]
  change if (f.track v name properties).2.loaded = true then _ else _
  rw [hsame.loaded]
  exact h.post

lemma run_setTitle (h : w.Mirrors v f) (title : String) :
    Follows v w (w.run (.setTitle title)) (f.step v (.title title)) := by
  have hs : w.run (.setTitle title) = w.modifyPage fun p => { p with title := title } :=
    settle_idle (w := w.modifyPage fun p => { p with title := title }) h.idle
  rw [hs]
  exact ⟨h.retitle title,(List.append_nil _).symm,rfl⟩

lemma run_reveal (h : w.Mirrors v f) : Follows v w (w.run .reveal) (f.step v .reveal) := by
  have hs : w.run .reveal = w.modifyPage fun p => { p with visibility := .visible } :=
    settle_idle (w := w.modifyPage fun p => { p with visibility := .visible }) h.idle
  rw [hs]
  exact ⟨h.setVisible true,(List.append_nil _).symm,rfl⟩

/-- One step of a script is one step of the visit. -/
theorem step_mirrors (h : w.Mirrors v f) (a : Step)
    (haccepted : ∀ seconds, a = .advance seconds → (Span.ofSeconds? seconds).isSome = true)
    (hlow : -0x8000000000000000 ≤ w.clock.now)
    (hhigh : w.clock.now+advanced [a] < 0x8000000000000000) :
    ∃ w', step w 0 a = .ok w' ∧ w'.Mirrors v (f.step v a).2 ∧
      w'.sent = w.sent ++ deliveries v (f.step v a).1 ∧ w.clock.now ≤ w'.clock.now ∧
      w'.clock.now ≤ w.clock.now+advanced [a] := by
  have hquiet {w'} (hw : Follows v w w' (f.step v a)) (ha : advanced [a] = 0) :
      w'.Mirrors v (f.step v a).2 ∧ w'.sent = w.sent ++ deliveries v (f.step v a).1 ∧
        w.clock.now ≤ w'.clock.now ∧ w'.clock.now ≤ w.clock.now+advanced [a] := by
    rw [hw.clock,ha]
    exact ⟨hw.mirrors,hw.sent,le_rfl,by simp⟩
  cases a with
  | push url => exact ⟨_,rfl,hquiet (run_push h url) rfl⟩
  | replace url => exact ⟨_,rfl,hquiet (run_replace h url) rfl⟩
  | back => exact ⟨_,rfl,hquiet (run_back h) rfl⟩
  | forward => exact ⟨_,rfl,hquiet (run_forward h) rfl⟩
  | advance seconds =>
    obtain ⟨span,hspan⟩ := Option.isSome_iff_exists.mp (haccepted seconds rfl)
    have hms : advanced [.advance seconds] = span.milliseconds := by
      simp [advanced,Flat.milliseconds,hspan]
    rw [hms] at hhigh ⊢
    have hnow : (w.clock.advance span).now = w.clock.now+min (span.milliseconds : ℤ) 0x7fffffffffffffff :=
      wrapInt64_eq_self (by omega) (by omega)
    refine ⟨_,by simp only [step,hspan],advance_mirrors h hspan hlow hhigh,(List.append_nil _).symm,?_,?_⟩
    · rw [hnow]
      omega
    · rw [hnow]
      omega
  | track name properties => exact ⟨_,rfl,hquiet (track_mirrors h name properties) rfl⟩
  | title title => exact ⟨_,rfl,hquiet (run_setTitle h title) rfl⟩
  | hide => exact ⟨_,rfl,hquiet (run_hide h) rfl⟩
  | reveal => exact ⟨_,rfl,hquiet (run_reveal h) rfl⟩
  | unload => exact ⟨_,rfl,hquiet (h.dispatch .unload) rfl⟩
  | load => exact ⟨_,rfl,hquiet h.load rfl⟩

lemma advanced_cons (a : Step) (rest : List Step) :
    advanced (a::rest) = advanced [a]+advanced rest := by
  cases a <;> simp [advanced]

/-- A script is played to its end, and what it sends is what the visit reports. -/
theorem play_mirrors (h : w.Mirrors v f) (steps : List Step)
    (haccepted : ∀ seconds, .advance seconds ∈ steps → (Span.ofSeconds? seconds).isSome = true)
    (hlow : -0x8000000000000000 ≤ w.clock.now)
    (hhigh : w.clock.now+advanced steps < 0x8000000000000000) :
    ∃ w' g, play w 0 steps = (w',none) ∧ w'.Mirrors v g ∧
      w'.sent = w.sent ++ deliveries v (f.play v steps) := by
  induction steps generalizing w f with
  | nil => exact ⟨w,f,rfl,h,(List.append_nil _).symm⟩
  | cons a rest ih =>
    rw [advanced_cons] at hhigh
    obtain ⟨w₁,hstep,h₁,hsent₁,hle,hge⟩ := step_mirrors h a
      (fun seconds hs => haccepted seconds (by simp [hs])) hlow (by push_cast at hhigh; omega)
    obtain ⟨w₂,g,hplay,h₂,hsent₂⟩ := ih h₁ (fun seconds hs => haccepted seconds (List.mem_cons_of_mem _ hs))
      (by omega) (by push_cast at hhigh; omega)
    refine ⟨w₂,g,by rw [play,hstep]; exact hplay,h₂,?_⟩
    rw [hsent₂,hsent₁,List.append_assoc,Flat.play,deliveries,deliveries,deliveries,List.map_append]

/-- The world in which a dry run begins mirrors a visit that has done nothing but load, if the page was
loaded. -/
theorem begin_mirrors (s : Script) {c : Config} {st : Settings} (now : ℤ) (hon : c.enabled = true)
    (hst : c.resolve = .ok st) {v : Visit} (hv : v = ⟨st,s.scene.referrer,s.scene.width⟩) :
    ∃ w, begin s c now true = (some 0,w) ∧ w.clock.now = now ∧
      { w with handles := [0] }.Mirrors v
        (if s.scene.loaded then ((Flat.ofScene s.scene).step v .load).2 else .ofScene s.scene) ∧
      w.sent = deliveries v (if s.scene.loaded then ((Flat.ofScene s.scene).step v .load).1 else []) := by
  set w₀ : World :=
    { page := s.page.expose Page.namespaceName 0, clock := ⟨now⟩, outlets := [dryOutlet]
      trackers := [⟨.ofSettings st,0⟩] } with hw₀
  have hbegin : begin s c now true =
      if s.scene.loaded then (some 0,w₀.start 0 none)
      else (some 0,w₀.modifyPage fun p => { p with onLoad := [.start 0 none] }) := by
    cases hl : s.scene.loaded <;>
      simp [begin,World.install,hon,hst,Page.global?,Script.page,addTracker,modifyPage,Page.expose,outlet,
        Outlet.ofSettings,hw₀,dryOutlet,hl]
  have hshows (loaded : Bool) : w₀.Shows v { Flat.ofScene s.scene with loaded := loaded } :=
    ⟨rfl,by rw [hv]; rfl,rfl,by rw [hv]; rfl,rfl,rfl,rfl,rfl,_,rfl,⟨by rw [hv]; rfl,rfl,rfl,trivial⟩⟩
  rw [hbegin]
  split_ifs with hl
  · have hready : w₀.page.ready = .complete := by simp [hw₀,Page.expose,Script.page,hl]
    obtain ⟨hs,hsent,hobs,hagenda,-,hclock⟩ := (hshows true).start hready rfl rfl rfl
    refine ⟨_,rfl,by rw [hclock],⟨⟨hs.history,hs.referrer,hs.title,hs.width,hs.visibility,hs.held,hs.outlets,
      hs.exposed,hs.tracker⟩,hagenda,rfl,?_⟩,hsent⟩
    have hsame := Flat.view_samePage v { Flat.ofScene s.scene with loaded := true }
    rw [show ((Flat.ofScene s.scene).step v .load).2.loaded = true from hsame.loaded]
    exact hobs
  · have hready : w₀.page.ready = .loading := by simp [hw₀,Page.expose,Script.page,hl]
    have hs := hshows false
    exact ⟨_,rfl,rfl,⟨⟨hs.history,hs.referrer,hs.title,hs.width,hs.visibility,hs.held,hs.outlets,hs.exposed,hs.tracker⟩,
      rfl,rfl,hready,rfl,rfl,rfl,rfl⟩,rfl⟩

/-- A recorder keeps what was sent when the tracker and the page are closed. -/
lemma recorded_of_closed (h : w.Mirrors v f) {ps : List Payload} (hsent : w.sent = deliveries v ps) :
    (((w.shutdown 0).run .discard).traffic 0).recorded = ps.map (Request.ofPayload v.settings) := by
  obtain ⟨t,ht,-⟩ := h.page.tracker
  have hclosed : w.shutdown 0 = { w with outlets := [dryOutlet.close] } := by
    simp [shutdown,ht,h.page.outlets]
  have hrun : (w.shutdown 0).run .discard = { w with outlets := [dryOutlet.close], page := w.page.discard } := by
    rw [hclosed]
    exact settle_idle (w := { w with outlets := [dryOutlet.close], page := w.page.discard }) h.idle
  have hall : (deliveries v ps).filter (·.outlet == 0) = deliveries v ps :=
    List.filter_eq_self.mpr (by simp [deliveries])
  have hrequests : (w.sent.filter (·.outlet == 0)).map Delivery.request =
      ps.map (Request.ofPayload v.settings) := by
    rw [hsent,hall,deliveries,List.map_map]
    rfl
  rw [hrun]
  exact hrequests

/-- A dry run of a script sends exactly the requests of the flat visit: the layers of hooks, listeners,
sources and trackers make no difference. -/
theorem run_eq_flat (s : Script) (files : Config.Files) (e : Config.Environment) (now : ℤ) {c : Config}
    {st : Settings} (hconfig : Config.layered s.tag files e = .ok c) (hon : c.enabled = true)
    (hst : c.resolve = .ok st)
    (haccepted : ∀ seconds, .advance seconds ∈ s.steps → (Span.ofSeconds? seconds).isSome = true)
    (hlow : -0x8000000000000000 ≤ now) (hhigh : now+advanced s.steps < 0x8000000000000000) :
    (run s files e now true).error = none ∧
      (run s files e now true).traffic.recorded = Flat.requests ⟨st,s.scene.referrer,s.scene.width⟩ s := by
  obtain ⟨w₀,hbegin,hnow,h₀,hsent₀⟩ := begin_mirrors s now hon hst rfl
  obtain ⟨w₁,g,hplay,h₁,hsent₁⟩ := play_mirrors h₀ s.steps haccepted (by simpa [hnow] using hlow)
    (by simpa [hnow] using hhigh)
  have hrun : run s files e now true = ⟨((w₁.shutdown 0).run .discard).traffic 0,none⟩ := by
    simp only [run,hconfig,runWith,hbegin,hplay]
  rw [hrun]
  refine ⟨rfl,?_⟩
  have hsent : w₁.sent = deliveries ⟨st,s.scene.referrer,s.scene.width⟩
      (Flat.play ⟨st,s.scene.referrer,s.scene.width⟩ (.ofScene s.scene)
        (if s.scene.loaded then Step.load::s.steps else s.steps)) := by
    rw [hsent₁,hsent₀,deliveries,deliveries,← List.map_append]
    split_ifs <;> rfl
  rw [recorded_of_closed h₁ hsent]
  rfl

/-- A page that is left for another one before it is complete, and then seen for five seconds. -/
def redirected : Script where
  scene := { url := "https://a.io/x", loaded := false }
  tag := .ofOptions "https://a.io/p.js" (some "k") (some "https://a.io") false
  steps := [.push "/y",.load,.advance (.ofNat 5),.hide,.back]

/-- The configuration of its tag is complete, and its clock stays in range. -/
theorem run_eq_flat_redirected :
    (run redirected {} {} 0 true).error = none ∧
      (run redirected {} {} 0 true).traffic.recorded =
        Flat.requests ⟨⟨"k","https://a.io",false,false,.auto,false⟩,"",1280⟩ redirected := by
  refine run_eq_flat redirected {} {} 0
    (c := { siteKey := some "k", apiUrl := some "https://a.io" }) rfl rfl rfl ?_ (by decide) ?_
  · intro seconds hs
    obtain rfl : seconds = .ofNat 5 := by simpa [redirected] using hs
    rfl
  · have hadvanced : advanced redirected.steps = 5000 := rfl
    rw [hadvanced]
    decide

example : (Flat.requests ⟨⟨"k","https://a.io",false,false,.auto,false⟩,"",1280⟩ redirected).length = 3 := by
  decide +kernel

end Replay
end PageTelemetry
