import PageTelemetry.Proofs.Discretion.Steps
import PageTelemetry.Replay

/-! Replays of two scripts that differ in nothing that counts. Both send the same requests. -/
namespace PageTelemetry
variable {m : Scope}

lemma World.Alike.traffic {w w' : World} (h : w.Alike m w') (o : OutletId) : w.traffic o = w'.traffic o := by
  rw [World.traffic,World.traffic,h.outlets,h.sent]

/-- A page that nobody has left anything on yet. -/
structure Page.IsFresh (p : Page) : Prop where
  hook : p.hook = none
  popState : p.popState = []
  lifecycle : p.lifecycle = []
  onLoad : p.onLoad = []

/-- Worlds that begin with one such page at two locations. -/
lemma World.alike_fresh {p : Page} (hp : p.IsFresh) {url url' : String} (hurl : Seen m url url') (clock : ManualClock)
    (outlets : List Outlet) :
    World.Alike m { page := { p with history := .ofHref url }, clock := clock, outlets := outlets }
      { page := { p with history := .ofHref url' }, clock := clock, outlets := outlets } := by
  have hhistory : (History.ofHref url).Alike m (.ofHref url') := ⟨.cons hurl .nil,rfl⟩
  have hpage : Page.Alike m { p with history := .ofHref url } { p with history := .ofHref url' } := by
    refine ⟨hhistory,rfl,rfl,rfl,rfl,rfl,?_,?_,?_,?_,rfl,rfl⟩
    · exact hp.hook ▸ .none
    · exact hp.popState ▸ .nil
    · exact hp.lifecycle ▸ .nil
    · exact hp.onLoad ▸ .nil
  exact ⟨hpage,rfl,rfl,rfl,rfl,.nil,rfl,rfl,.nil,rfl,fun i hi => absurd hi List.not_mem_nil⟩

namespace Replay
variable {queries : Bool} {w w' : World}

/-- Two steps that differ at most in where they lead. -/
inductive Step.Alike (queries : Bool) : Step → Step → Prop
  | same (a : Step) : Step.Alike queries a a
  | push {url url' : String} (h : Leads queries url url') : Step.Alike queries (.push url) (.push url')
  | replace {url url' : String} (h : Leads queries url url') : Step.Alike queries (.replace url) (.replace url')

/-- Two scripts that differ at most in the location of the page and in where their steps lead. -/
structure Script.Alike (queries : Bool) (s s' : Script) : Prop where
  url : Leads queries s.scene.url s'.scene.url
  scene : s'.scene = { s.scene with url := s'.scene.url }
  tag : s.tag = s'.tag
  steps : List.Forall₂ (Step.Alike queries) s.steps s'.steps

/-- Scripts leave no listeners, so no ending counts. -/
abbrev scope (queries : Bool) : Scope := { queries := queries }

lemma step_alike (h : w.Alike (scope queries) w') (id : TrackerId) {a a' : Step} (ha : a.Alike queries a') :
    (∃ e, step w id a = .error e ∧ step w' id a' = .error e) ∨
      ∃ v v', step w id a = .ok v ∧ step w' id a' = .ok v' ∧ v.Alike (scope queries) v' := by
  cases ha with
  | push hurl => exact .inr ⟨_,_,rfl,rfl,h.run (.push hurl.led)⟩
  | replace hurl => exact .inr ⟨_,_,rfl,rfl,h.run (.replace hurl.led)⟩
  | same =>
    cases a with
    | push url => exact .inr ⟨_,_,rfl,rfl,h.run (.push (Leads.same url).led)⟩
    | replace url => exact .inr ⟨_,_,rfl,rfl,h.run (.replace (Leads.same url).led)⟩
    | advance seconds =>
      unfold step
      dsimp only
      split
      · exact .inl ⟨_,rfl,rfl⟩
      · rename_i span _
        exact .inr ⟨_,_,rfl,rfl,{ h with clock := congrArg (ManualClock.advance · span) h.clock }⟩
    | track name properties => exact .inr ⟨_,_,rfl,rfl,(h.report (Tracker.track_blind _) id).2⟩
    | back | forward | title | hide | reveal | unload | load => exact .inr ⟨_,_,rfl,rfl,h.run (.plain rfl)⟩

/-- Whole scripts, by induction on their steps. -/
lemma play_alike (h : w.Alike (scope queries) w') (id : TrackerId) {steps steps' : List Step}
    (hsteps : List.Forall₂ (Step.Alike queries) steps steps') :
    (play w id steps).1.Alike (scope queries) (play w' id steps').1 ∧ (play w id steps).2 = (play w' id steps').2 := by
  induction hsteps generalizing w w' with
  | nil => exact ⟨h,rfl⟩
  | cons ha _ ih =>
    rcases step_alike h id ha with ⟨e,he,he'⟩ | ⟨v,v',hv,hv',halike⟩
    · simpa only [play,he,he'] using ⟨h,trivial⟩
    · simpa only [play,hv,hv'] using ih halike

/-- A script begins with the page alone. -/
lemma begin_alike {s s' : Script} (h : s.Alike queries s') {c : Config}
    (hc : c.includeQuery = true → queries = true) (now : ℤ) (dryRun : Bool) :
    (begin s c now dryRun).1 = (begin s' c now dryRun).1 ∧
      (begin s c now dryRun).2.Alike (scope queries) (begin s' c now dryRun).2 := by
  have hpage : s'.page = { s.page with history := .ofHref s'.scene.url } := by
    rw [Script.page,Script.page,h.scene]
  have hfresh : s.page.IsFresh := ⟨rfl,rfl,rfl,rfl⟩
  have hurl : Seen (scope queries) s.scene.url s'.scene.url := ⟨h.url.twins,fun _ he => absurd he List.not_mem_nil⟩
  rw [begin,begin,hpage]
  exact (World.alike_fresh hfresh hurl ⟨now⟩ [outlet c dryRun]).install hc none 0

lemma runWith_alike {s s' : Script} (h : s.Alike queries s') {c : Config}
    (hc : c.includeQuery = true → queries = true) (now : ℤ) (dryRun : Bool) :
    runWith s c now dryRun = runWith s' c now dryRun := by
  obtain ⟨hid,hbegin⟩ := begin_alike h hc now dryRun
  unfold runWith
  generalize begin s c now dryRun = b at *
  generalize begin s' c now dryRun = b' at *
  obtain ⟨o,w⟩ := b
  obtain ⟨o',w'⟩ := b'
  obtain rfl : o = o' := hid
  cases o with
  | none => exact congrArg (Outcome.mk · _) (hbegin.traffic 0)
  | some id =>
    have hheld : ({ w with handles := [id] } : World).Alike (scope queries) { w' with handles := [id] } :=
      { hbegin with handles := rfl }
    obtain ⟨hplay,herror⟩ := play_alike hheld id h.steps
    dsimp only
    generalize play { w with handles := [id] } id s.steps = r at *
    generalize play { w' with handles := [id] } id s'.steps = r' at *
    obtain ⟨v,e⟩ := r
    obtain ⟨v',e'⟩ := r'
    obtain rfl : e = e' := herror
    have hclosed := (hplay.shutdown id).run (.plain rfl : Act.Alike _ .discard .discard)
    cases e with
    | some e => exact congrArg (Outcome.mk · _) (hplay.traffic 0)
    | none => exact congrArg (Outcome.mk · _) (hclosed.traffic 0)

lemma run_alike {s s' : Script} (h : s.Alike queries s') {files : Config.Files} {e : Config.Environment}
    (hc : ∀ c, Config.layered s.tag files e = .ok c → c.includeQuery = true → queries = true) (now : ℤ)
    (dryRun : Bool) : run s files e now dryRun = run s' files e now dryRun := by
  unfold run
  rw [← h.tag]
  cases hlayered : Config.layered s.tag files e with
  | error err => rfl
  | ok c => exact runWith_alike h (hc c hlayered) now dryRun

end Replay

end PageTelemetry
