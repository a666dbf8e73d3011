import PageTelemetry.Proofs.Reports
import PageTelemetry.Proofs.Settling
import PageTelemetry.Replay

/-! Worlds whose requests leave through other outlets. As long as the outlets accept alike, the same happens in them:
neither trackers nor pages see where requests go. -/
namespace PageTelemetry

namespace World
variable {w w' : World}

/-- The same world with other outlets, which accept alike. -/
inductive Rerouted (w : World) : World → Prop
  | through (outlets : List Outlet) (h : outlets.map Outlet.accepts = w.outlets.map Outlet.accepts) :
    Rerouted w { w with outlets := outlets }

section Same
variable (h : w.Rerouted w')
include h

lemma Rerouted.sent : w'.sent = w.sent := by cases h; rfl

lemma Rerouted.page : w'.page = w.page := by cases h; rfl

lemma Rerouted.ambient : w'.ambient = w.ambient := by cases h; rfl

lemma Rerouted.pageKept : w'.pageKept = w.pageKept := by cases h; rfl

lemma Rerouted.trackerKept (id : TrackerId) : w'.trackerKept id = w.trackerKept id := by cases h; rfl

lemma Rerouted.hookActive (id : HookId) : w'.hookActive id = w.hookActive id := by cases h; rfl

lemma Rerouted.agenda : w'.agenda = w.agenda := by cases h; rfl

lemma Rerouted.reacts (l : Listener) : w'.reacts l = w.reacts l := by cases h; rfl

lemma Rerouted.note (e : PageTelemetry.Event) : (w.note e).Rerouted (w'.note e) := by
  obtain ⟨outlets,h⟩ := h
  exact ⟨outlets,h⟩

lemma Rerouted.enqueue (tasks : List Task) : (w.enqueue tasks).Rerouted (w'.enqueue tasks) := by
  obtain ⟨outlets,h⟩ := h
  exact ⟨outlets,h⟩

end Same

/-! Reports. -/

lemma Rerouted.deliver (h : w.Rerouted w') (id : TrackerId) (i : Installation) (p : Payload) :
    (w.deliver id i p).Rerouted (w'.deliver id i p) := by
  obtain ⟨outlets,h⟩ := h
  have hout : outlets[i.outlet]?.map Outlet.accepts = w.outlets[i.outlet]?.map Outlet.accepts := by
    rw [← List.getElem?_map,h,List.getElem?_map]
  unfold World.deliver
  dsimp only
  cases ho : w.outlets[i.outlet]? with
  | none =>
    rw [ho,Option.map_none,Option.map_eq_none_iff] at hout
    rw [hout]
    exact ⟨outlets,h⟩
  | some o =>
    rw [ho,Option.map_some] at hout
    obtain ⟨o',ho',haccepts⟩ := Option.map_eq_some_iff.mp hout
    simp only [ho',haccepts]
    split_ifs
    · exact ⟨outlets,h⟩
    · exact ⟨outlets,h⟩

lemma Rerouted.report (h : w.Rerouted w') (id : TrackerId)
    (f : Tracker → Payload.Ambient → Int → Option Payload × Tracker) :
    (w.report id f).2.Rerouted (w'.report id f).2 := by
  have hambient := h.ambient
  obtain ⟨outlets,h⟩ := h
  unfold World.report
  rw [hambient]
  dsimp only
  cases w.trackers[id]? with
  | none => exact ⟨outlets,h⟩
  | some i =>
    dsimp only
    cases (f i.tracker w.ambient w.clock.now).1 with
    | none => exact ⟨outlets,h⟩
    | some p =>
      have hnoted : ({ w with trackers := w.trackers.set id { i with
          tracker := (f i.tracker w.ambient w.clock.now).2 } } : World).Rerouted _ := ⟨outlets,h⟩
      exact hnoted.deliver id i p

lemma Rerouted.signal (h : w.Rerouted w') (hd : Handler) (s : Signal) : (w.signal hd s).Rerouted (w'.signal hd s) := by
  cases hd with
  | tracker id =>
    unfold World.signal
    dsimp only
    rw [h.trackerKept]
    split_ifs
    · exact h.report id _
    · exact h
  | log label =>
    obtain ⟨outlets,h⟩ := h
    exact ⟨outlets,h⟩

/-! Sources and installing. -/

lemma Rerouted.subscribe (h : w.Rerouted w') (s : SourceId) (hd : Handler) :
    (w.subscribe s hd).2.Rerouted (w'.subscribe s hd).2 := by
  obtain ⟨outlets,h⟩ := h
  unfold World.subscribe
  dsimp only
  split <;> exact ⟨outlets,h⟩

lemma Rerouted.restore (h : w.Rerouted w') (s : SourceId) : (w.restore s).2.Rerouted (w'.restore s).2 := by
  obtain ⟨outlets,h⟩ := h
  unfold World.restore
  dsimp only
  split <;> exact ⟨outlets,h⟩

lemma Rerouted.addSource (h : w.Rerouted w') (kind : SourceKind) (held : Bool) :
    (w.addSource kind held).1 = (w'.addSource kind held).1 ∧
      (w.addSource kind held).2.Rerouted (w'.addSource kind held).2 := by
  obtain ⟨outlets,h⟩ := h
  exact ⟨rfl,outlets,h⟩

lemma Rerouted.start (h : w.Rerouted w') (id : TrackerId) (source : Option SourceId) :
    (w.start id source).Rerouted (w'.start id source) := by
  have hview := h.report id Tracker.trackPageView
  unfold World.start
  cases source with
  | some s => exact hview.subscribe s _
  | none =>
    have hkept : (w'.trackPageView id).2.pageKept = (w.trackPageView id).2.pageKept := hview.pageKept
    dsimp only
    rw [hkept]
    split_ifs
    · obtain ⟨hid,hadd⟩ := hview.addSource (.history .none) false
      exact hid ▸ hadd.subscribe _ (.tracker id)
    · exact hview

lemma Rerouted.install (h : w.Rerouted w') (c : Config) (source : Option SourceId) (o : OutletId) :
    (w.install c source o).1 = (w'.install c source o).1 ∧
      (w.install c source o).2.Rerouted (w'.install c source o).2 := by
  obtain ⟨outlets,h⟩ := h
  unfold World.install
  dsimp only
  split_ifs
  · exact ⟨rfl,outlets,h⟩
  · split
    · exact ⟨rfl,outlets,h⟩
    · split
      · exact ⟨rfl,outlets,h⟩
      · rename_i s _
        have henrolled : ((w.addTracker s o).2.modifyPage (·.expose Page.namespaceName w.trackers.length)).Rerouted
            _ := ⟨outlets,h⟩
        have hstart := henrolled.start w.trackers.length source
        by_cases hready : w.page.ready = .complete
        · simp only [addTracker,modifyPage,Page.expose,hready,if_true] at hstart ⊢
          exact ⟨trivial,hstart⟩
        · simp only [addTracker,modifyPage,Page.expose,hready,if_false]
          exact ⟨trivial,outlets,h⟩

/-! Operations and tasks. -/

lemma Rerouted.moveTo (h : w.Rerouted w') (target : Option History) :
    (w.moveTo target).2.Rerouted (w'.moveTo target).2 := by
  obtain ⟨outlets,h⟩ := h
  cases target <;> exact ⟨outlets,h⟩

theorem Rerouted.act (h : w.Rerouted w') (a : Act) : (w.act a).Rerouted (w'.act a) := by
  have hpage := h.page
  cases a with
  | push | replace | setHref | setTitle | setWidth | reveal | unload | discard | addPopState | addLifecycle
  | removePopState | removeLifecycle | wrapHook | removeHook =>
    obtain ⟨outlets,h⟩ := h
    exact ⟨outlets,h⟩
  | back =>
    simp only [World.act,World.back,hpage]
    exact h.moveTo _
  | forward =>
    simp only [World.act,World.forward,hpage]
    exact h.moveTo _
  | hide | finishLoading | onLoad =>
    simp only [World.act,World.hide,World.finishLoading,World.onLoad,hpage]
    obtain ⟨outlets,h⟩ := h
    split_ifs <;> exact ⟨outlets,h⟩
  | track name =>
    simp only [World.act,trackExposed,hpage]
    cases w.page.global? Page.namespaceName with
    | none => exact h
    | some id => exact h.report id _
  | install c source o => exact (h.install c source o).2
  | subscribe s hd => exact h.subscribe s hd
  | restore s => exact h.restore s

theorem Rerouted.perform (h : w.Rerouted w') (t : Task) : (w.perform t).Rerouted (w'.perform t) := by
  cases t with
  | hook k kind =>
    obtain ⟨outlets,h⟩ := h
    cases k <;> exact ⟨outlets,h⟩
  | relay id hd kind =>
    simp only [World.perform,h.hookActive]
    split_ifs
    · exact h.signal hd _
    · exact h
  | call l o =>
    have hnoted := h.note (.heard l.label o w.ambient.href)
    simp only [World.perform,World.call,h.ambient,hnoted.reacts]
    split_ifs
    · exact hnoted.enqueue _
    · exact hnoted
  | signal hd s => exact h.signal hd s
  | start id source => exact h.start id source
  | act a => exact h.act a

lemma Rerouted.step (h : w.Rerouted w') : w.step.Rerouted w'.step := by
  cases hagenda : w.agenda with
  | nil =>
    rw [step_of_agenda_nil hagenda,step_of_agenda_nil (h.agenda.trans hagenda)]
    exact h
  | cons t rest =>
    have hrest : ({ w with agenda := rest } : World).Rerouted { w' with agenda := rest } := by
      obtain ⟨outlets,h⟩ := h
      exact ⟨outlets,h⟩
    rw [step_of_agenda_cons hagenda,step_of_agenda_cons (h.agenda.trans hagenda)]
    exact hrest.perform t

/-- Whole dispatches. -/
theorem Rerouted.run (h : w.Rerouted w') (a : Act) : (w.run a).Rerouted (w'.run a) :=
  settle_together (h.act a) (fun _ _ => Rerouted.step) patience

end World

namespace Replay
open World
variable {w w' : World}

lemma step_rerouted (h : w.Rerouted w') (id : TrackerId) (a : Step) :
    (∃ e, step w id a = .error e ∧ step w' id a = .error e) ∨
      ∃ v v', step w id a = .ok v ∧ step w' id a = .ok v' ∧ v.Rerouted v' := by
  cases a with
  | advance seconds =>
    unfold step
    dsimp only
    split
    · exact .inl ⟨_,rfl,rfl⟩
    · obtain ⟨outlets,h⟩ := h
      exact .inr ⟨_,_,rfl,rfl,outlets,h⟩
  | track name properties => exact .inr ⟨_,_,rfl,rfl,h.report id _⟩
  | push | replace | back | forward | title | hide | reveal | unload | load => exact .inr ⟨_,_,rfl,rfl,h.run _⟩

/-- Whole scripts, by induction on their steps. -/
theorem play_rerouted (h : w.Rerouted w') (id : TrackerId) (steps : List Step) :
    (play w id steps).1.Rerouted (play w' id steps).1 ∧ (play w id steps).2 = (play w' id steps).2 := by
  induction steps generalizing w w' with
  | nil => exact ⟨h,rfl⟩
  | cons a rest ih =>
    rcases step_rerouted h id a with ⟨e,he,he'⟩ | ⟨v,v',hv,hv',hrerouted⟩
    · simpa only [play,he,he'] using ⟨h,trivial⟩
    · simpa only [play,hv,hv'] using ih hrerouted

end Replay

end PageTelemetry
