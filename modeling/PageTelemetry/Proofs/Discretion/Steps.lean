import PageTelemetry.Proofs.Discretion.Reports
import PageTelemetry.Proofs.Settling
import PageTelemetry.World.Embedding

/-! What happens in two worlds that differ in nothing that counts: installs, operations and the tasks they cause. The
worlds still differ in nothing that counts. -/
namespace PageTelemetry
variable {m : Scope}

lemma Config.resolve_includeQuery {c : Config} {s : Settings} (h : c.resolve = .ok s) :
    s.includeQuery = c.includeQuery := by
  unfold Config.resolve at h
  split at h
  · cases h
  · dsimp only at h
    split_ifs at h
    split at h
    · cases h
    · obtain rfl := Except.ok.inj h
      rfl

namespace World
variable {w w' : World}

/-! Installing. -/

lemma Alike.addTracker (h : w.Alike m w') {s : Settings} (hs : s.includeQuery = true → m.queries = true)
    (o : OutletId) : (w.addTracker s o).1 = (w'.addTracker s o).1 ∧ (w.addTracker s o).2.Alike m (w'.addTracker s o).2 := by
  refine ⟨congrArg List.length h.trackers,
    { h with trackers := congrArg (· ++ [_]) h.trackers, queries := fun i hi => ?_ }⟩
  rcases List.mem_append.mp hi with hi | hi
  · exact h.queries i hi
  · obtain rfl := List.mem_singleton.mp hi
    exact hs

lemma Alike.start (h : w.Alike m w') (id : TrackerId) (source : Option SourceId) :
    (w.start id source).Alike m (w'.start id source) := by
  have hview := (h.report Tracker.trackPageView_blind id).2
  unfold World.start
  cases source with
  | some s => exact (hview.subscribe s _).2
  | none =>
    have hkept : (w'.trackPageView id).2.pageKept = (w.trackPageView id).2.pageKept := hview.pageKept.symm
    dsimp only
    rw [hkept]
    split_ifs
    · obtain ⟨hid,hadd⟩ := hview.addSource (.history .none) false
      have hsubscribed := (hadd.subscribe ((w.trackPageView id).2.addSource (.history none) false).1 (.tracker id)).2
      exact hid ▸ hsubscribed
    · exact hview

lemma Alike.enroll (h : w.Alike m w') {s : Settings} (hs : s.includeQuery = true → m.queries = true) (o : OutletId) :
    (w.enroll s o).Alike m (w'.enroll s o) := by
  obtain ⟨hid,hadd⟩ := h.addTracker hs o
  have hpage := hadd.page.expose Page.namespaceName w.trackers.length
  have hlength : w.trackers.length = w'.trackers.length := hid
  exact hadd.onPage (hlength ▸ hpage)

lemma Alike.await (h : w.Alike m w') (id : TrackerId) (source : Option SourceId) :
    (w.await id source).Alike m (w'.await id source) := h.onPage (h.page.awaitLoad (.start id source))

lemma Alike.admits_iff (h : w.Alike m w') (c : Config) (s : Settings) : w'.Admits c s ↔ w.Admits c s := by
  have hglobal : w'.page.global? Page.namespaceName = w.page.global? Page.namespaceName := by
    rw [Page.global?,Page.global?,h.page.globals]
  exact ⟨fun hs => ⟨hs.enabled,hglobal ▸ hs.vacant,hs.resolved⟩,
    fun hs => ⟨hs.enabled,hglobal.trans hs.vacant,hs.resolved⟩⟩

lemma Alike.found? (h : w.Alike m w') (c : Config) : w'.found? c = w.found? c := by
  rw [World.found?,World.found?,Page.global?,Page.global?,h.page.globals]

lemma Alike.install (h : w.Alike m w') {c : Config} (hc : c.includeQuery = true → m.queries = true)
    (source : Option SourceId) (o : OutletId) : (w.install c source o).1 = (w'.install c source o).1 ∧
      (w.install c source o).2.Alike m (w'.install c source o).2 := by
  by_cases hs : ∃ s, w.Admits c s
  · obtain ⟨s,hs⟩ := hs
    have henroll := h.enroll (fun hq => hc (Config.resolve_includeQuery hs.resolved ▸ hq)) o (s := s)
    rw [install_admitted hs,install_admitted ((h.admits_iff c s).mpr hs),← h.trackers,← h.page.ready]
    refine ⟨rfl,?_⟩
    dsimp only
    split_ifs
    · exact henroll.start _ source
    · exact henroll.await _ source
  · have hnone := not_exists.mp hs
    rw [install_refused hnone,install_refused fun s hs' => hnone s ((h.admits_iff c s).mp hs')]
    exact ⟨(h.found? c).symm,h⟩

lemma Alike.newcomer? (h : w.Alike m w') (c : Config) : w'.newcomer? c = w.newcomer? c := by
  rw [World.newcomer?,World.newcomer?,Page.global?,Page.global?,h.page.globals]

lemma Alike.embed (h : w.Alike m w') {tag : ScriptTag} {files : Config.Files} {e : Config.Environment}
    (hc : ∀ c, Config.layered tag files e = .ok c → c.includeQuery = true → m.queries = true) (spawns : Bool) :
    (w.embed tag files e spawns).1 = (w'.embed tag files e spawns).1 ∧
      (w.embed tag files e spawns).2.Alike m (w'.embed tag files e spawns).2 := by
  have houtlets (os : List Outlet) : ({ w with outlets := w.outlets ++ os } : World).Alike m
      { w' with outlets := w'.outlets ++ os } := { h with outlets := congrArg (· ++ os) h.outlets }
  have hlength : w'.outlets.length = w.outlets.length := by rw [h.outlets]
  unfold World.embed
  cases hlayered : Config.layered tag files e with
  | error err => exact ⟨rfl,h⟩
  | ok c =>
    dsimp only
    rw [hlength,h.newcomer?]
    exact (houtlets _).install (hc c hlayered) none _

/-! Operations. -/

lemma hookTasks_alike {k k' : Option Hook} (h : Option.Rel (Hook.Alike m) k k') (kind : NavigationKind) :
    List.Forall₂ (Task.Alike m) (k.map (Task.hook · kind)).toList (k'.map (Task.hook · kind)).toList := by
  cases h with
  | none => exact .nil
  | some hk => exact .cons (.hook hk kind) .nil

lemma Alike.push (h : w.Alike m w') {url url' : String} (hurl : Led m url url') :
    (w.push url).Alike m (w'.push url') := by
  have hpage := h.page.setHistory (h.page.history.push (h.page.resolve hurl))
  exact (h.onPage hpage).enqueue (hookTasks_alike hpage.hook .push)

lemma Alike.replace (h : w.Alike m w') {url url' : String} (hurl : Led m url url') :
    (w.replace url).Alike m (w'.replace url') := by
  have hpage := h.page.setHistory (h.page.history.replace (h.page.resolve hurl))
  exact (h.onPage hpage).enqueue (hookTasks_alike hpage.hook .replace)

lemma Alike.setHref (h : w.Alike m w') {url url' : String} (hurl : Led m url url') :
    (w.setHref url).Alike m (w'.setHref url') :=
  h.onPage (h.page.setHistory (h.page.history.replace (h.page.resolve hurl)))

lemma popStateTask_alike {c c' : ListenerId × Callback} (h : Registered m c c') :
    (popStateTask c).Alike m (popStateTask c') := by
  obtain ⟨id,c⟩ := c
  obtain ⟨id',c'⟩ := c'
  obtain ⟨-,hc⟩ := h
  cases hc with
  | handler k => exact .signal k _
  | listener hl => exact .call hl _

lemma lifecycleTask_alike (e : LifecycleEvent) {c c' : ListenerId × Callback} (h : Registered m c c') :
    (lifecycleTask e c).Alike m (lifecycleTask e c') := by
  obtain ⟨id,c⟩ := c
  obtain ⟨id',c'⟩ := c'
  obtain ⟨-,hc⟩ := h
  cases hc with
  | handler k => exact .signal k _
  | listener hl => exact .call hl _

lemma loadTask_alike {c c' : LoadCallback} (h : c.Alike m c') : (loadTask c).Alike m (loadTask c') := by
  cases h with
  | start t source => exact .start t source
  | listener hl => exact .call hl _

lemma Alike.moveTo (h : w.Alike m w') {l l' : Option History} (hl : Option.Rel (History.Alike m) l l') :
    (w.moveTo l).1 = (w'.moveTo l').1 ∧ (w.moveTo l).2.Alike m (w'.moveTo l').2 := by
  cases hl with
  | none => exact ⟨rfl,h⟩
  | some hl =>
    have hpage := h.page.setHistory hl
    exact ⟨rfl,(h.onPage hpage).enqueue (forall₂_map h.page.popState fun _ _ => popStateTask_alike)⟩

lemma Alike.dispatch (h : w.Alike m w') (e : LifecycleEvent) : (w.dispatch e).Alike m (w'.dispatch e) :=
  h.enqueue (forall₂_map h.page.lifecycle fun _ _ => lifecycleTask_alike e)

lemma Alike.hide (h : w.Alike m w') : w.hide.Alike m w'.hide := by
  have hhidden := h.onPage ({ h.page with visibility := rfl } :
    ({ w.page with visibility := .hidden } : Page).Alike m { w'.page with visibility := .hidden })
  unfold World.hide
  dsimp only
  rw [h.page.visibility]
  split_ifs
  · exact hhidden.dispatch .hidden
  · exact hhidden

lemma Alike.onLoad (h : w.Alike m w') {l l' : Listener} (hl : l.Alike m l') : (w.onLoad l).Alike m (w'.onLoad l') := by
  unfold World.onLoad
  rw [h.page.ready]
  split_ifs
  · exact h.enqueue (.cons (.call hl .load) .nil)
  · exact h.onPage (h.page.awaitLoad (.listener hl))

lemma Alike.finishLoading (h : w.Alike m w') : w.finishLoading.Alike m w'.finishLoading := by
  have hcomplete := h.onPage ({ h.page with ready := rfl, onLoad := .nil } :
    ({ w.page with ready := .complete, onLoad := [] } : Page).Alike m { w'.page with ready := .complete, onLoad := [] })
  unfold World.finishLoading
  rw [h.page.ready]
  split_ifs
  · exact h
  · exact hcomplete.enqueue (forall₂_map h.page.onLoad fun _ _ => loadTask_alike)

lemma Alike.wrapHook (h : w.Alike m w') {l l' : Listener} (hl : l.Alike m l') (chained last : Bool) :
    (w.wrapHook l chained last).1 = (w'.wrapHook l' chained last).1 ∧
      (w.wrapHook l chained last).2.Alike m (w'.wrapHook l' chained last).2 := by
  have hlast : w.lastHook+1 = w'.lastHook+1 := congrArg (·+1) h.lastHook
  have hchained : Option.Rel (Hook.Alike m) (if chained then w.page.hook else none)
      (if chained then w'.page.hook else none) := by
    split_ifs
    · exact h.page.hook
    · exact .none
  have hhook : (Hook.custom (w.lastHook+1) l (if chained then w.page.hook else none) last).Alike m
      (.custom (w'.lastHook+1) l' (if chained then w'.page.hook else none) last) :=
    hlast ▸ .custom _ hl hchained last
  exact ⟨isSome_of_rel h.page.hook,{ h with page := h.page.setHook (.some hhook), lastHook := hlast }⟩

lemma Alike.trackExposed (h : w.Alike m w') (name : String) : (w.trackExposed name).Alike m (w'.trackExposed name) := by
  have hglobal : w'.page.global? Page.namespaceName = w.page.global? Page.namespaceName := by
    rw [Page.global?,Page.global?,h.page.globals]
  unfold World.trackExposed
  rw [hglobal]
  split
  · exact h
  · exact (h.report (Tracker.track_blind _) _).2

/-- An operation that neither leads anywhere nor leaves anything on the page. -/
lemma Alike.actPlain (h : w.Alike m w') {a : Act} (ha : a.isPlain = true) : (w.act a).Alike m (w'.act a) := by
  cases a with
  | push | replace | setHref | install | onLoad | addPopState | addLifecycle | wrapHook => cases ha
  | back => exact (h.moveTo h.page.history.back?).2
  | forward => exact (h.moveTo h.page.history.forward?).2
  | setTitle title => exact h.onPage { h.page with title := rfl }
  | setWidth width => exact h.onPage { h.page with width := rfl }
  | hide => exact h.hide
  | reveal => exact h.onPage { h.page with visibility := rfl }
  | unload => exact h.dispatch .unload
  | finishLoading => exact h.finishLoading
  | discard => exact h.onPage h.page.discard
  | track name => exact h.trackExposed name
  | subscribe source k => exact (h.subscribe source k).2
  | restore source => exact (h.restore source).2
  | removePopState id => exact h.onPage (h.page.removePopState id)
  | removeLifecycle id => exact h.onPage (h.page.removeLifecycle id)
  | removeHook => exact h.onPage (h.page.setHook .none)

lemma listener_alike (label : String) {ending : String} (hending : m.Allows ending) {acts acts' : List Act}
    (h : List.Forall₂ (Act.Alike m) acts acts') : Listener.Alike m ⟨label,ending,acts⟩ ⟨label,ending,acts'⟩ :=
  ⟨rfl,⟨rfl,hending⟩,h⟩

/-- Operations that differ in nothing that counts. -/
theorem Alike.act (h : w.Alike m w') {a a' : Act} (ha : a.Alike m a') : (w.act a).Alike m (w'.act a') := by
  cases ha with
  | plain ha => exact h.actPlain ha
  | push hurl => exact h.push hurl
  | replace hurl => exact h.replace hurl
  | setHref hurl => exact h.setHref hurl
  | install hc source o => exact (h.install hc source o).2
  | onLoad label hending hacts => exact h.onLoad (listener_alike label hending hacts)
  | addPopState label hending hacts =>
    exact h.onPage (h.page.addPopState (.listener (listener_alike label hending hacts)))
  | addLifecycle label hending hacts =>
    exact h.onPage (h.page.addLifecycle (.listener (listener_alike label hending hacts)))
  | wrapHook label hending hacts chained last => exact (h.wrapHook (listener_alike label hending hacts) chained last).2

/-! Tasks. -/

/-- A listener finds its ending at both locations or at none. -/
lemma Alike.reacts (h : w.Alike m w') {l l' : Listener} (hl : l.Alike m l') : w.reacts l = w'.reacts l' := by
  rw [World.reacts,World.reacts,h.pageKept,← hl.ending.1,Page.href,Page.href,
    h.page.history.href.ending hl.ending.2]

lemma Alike.call (h : w.Alike m w') {l l' : Listener} (hl : l.Alike m l') (o : Occasion) :
    (w.call l o).Alike m (w'.call l' o) := by
  have hnoted : (w.note (.heard l.label o w.ambient.href)).Alike m (w'.note (.heard l'.label o w'.ambient.href)) :=
    { h with }
  unfold World.call
  dsimp only
  rw [hnoted.reacts hl]
  split_ifs
  · exact hnoted.enqueue (forall₂_map hl.acts fun _ _ => .act)
  · exact hnoted

lemma Alike.callHook (h : w.Alike m w') (kind : NavigationKind) {k k' : Hook} (hk : k.Alike m k') :
    (w.callHook kind k).Alike m (w'.callHook kind k') := by
  cases hk with
  | observer id s hprevious =>
    exact h.enqueue (List.rel_append (hookTasks_alike hprevious kind) (.cons (.relay id s kind) .nil))
  | custom id hl hchained last =>
    refine h.enqueue ?_
    cases last with
    | true => exact List.rel_append (hookTasks_alike hchained kind) (.cons (.call hl _) .nil)
    | false => exact .cons (.call hl _) (hookTasks_alike hchained kind)

theorem Alike.perform (h : w.Alike m w') {t t' : Task} (ht : t.Alike m t') : (w.perform t).Alike m (w'.perform t') := by
  cases ht with
  | hook hk kind => exact h.callHook kind hk
  | relay id k kind =>
    simp only [World.perform,← h.hookActive id]
    split_ifs
    · exact h.signal k _
    · exact h
  | call hl o => exact h.call hl o
  | signal k s => exact h.signal k s
  | start t source => exact h.start t source
  | act ha => exact h.act ha

/-- The first tasks of two agendas. -/
theorem Alike.step (h : w.Alike m w') : w.step.Alike m w'.step := by
  have hagenda := h.agenda
  unfold World.step
  generalize w.agenda = tasks at *
  generalize w'.agenda = tasks' at *
  cases hagenda with
  | nil => exact h
  | @cons _ _ rest rest' ht hrest =>
    have hleft : ({ w with agenda := rest } : World).Alike m { w' with agenda := rest' } := { h with agenda := hrest }
    exact hleft.perform ht

/-- All that an operation causes. -/
theorem Alike.settle (h : w.Alike m w') (n : ℕ) : (w.settle n).Alike m (w'.settle n) :=
  settle_together h (fun _ _ => Alike.step) n

theorem Alike.run (h : w.Alike m w') {a a' : Act} (ha : a.Alike m a') : (w.run a).Alike m (w'.run a') :=
  (h.act ha).settle patience

end World
end PageTelemetry
