import PageTelemetry.Proofs.Discretion.Twins
import PageTelemetry.Proofs.Sources

/-! What trackers report and sources do in two worlds that differ in nothing that counts. It is the same, and the worlds
still differ in nothing that counts. -/
namespace PageTelemetry

namespace History
variable {m : Scope} {l l' : History} {href href' : String}

lemma Alike.push (h : l.Alike m l') (hhref : Seen m href href') : (l.push href).Alike m (l'.push href') := by
  refine ⟨List.rel_append ?_ (.cons hhref .nil),congrArg (·+1) h.index⟩
  rw [h.index]
  exact List.forall₂_take _ h.entries

lemma Alike.replace (h : l.Alike m l') (hhref : Seen m href href') : (l.replace href).Alike m (l'.replace href') := by
  refine ⟨?_,h.index⟩
  rw [History.replace,History.replace,h.index]
  exact forall₂_set h.entries hhref _

lemma Alike.back? (h : l.Alike m l') : Option.Rel (History.Alike m) l.back? l'.back? := by
  rw [History.back?,History.back?,h.index]
  split_ifs
  · exact .none
  · exact .some ⟨h.entries,rfl⟩

lemma Alike.forward? (h : l.Alike m l') : Option.Rel (History.Alike m) l.forward? l'.forward? := by
  rw [History.forward?,History.forward?,h.index,h.entries.length_eq]
  split_ifs
  · exact .some ⟨h.entries,rfl⟩
  · exact .none

end History

namespace Page
variable {m : Scope} {p p' : Page}

lemma Alike.setHook (h : p.Alike m p') {k k' : Option Hook} (hk : Option.Rel (Hook.Alike m) k k') :
    ({ p with hook := k } : Page).Alike m { p' with hook := k' } := { h with hook := hk }

lemma Alike.setHistory (h : p.Alike m p') {l l' : History} (hl : l.Alike m l') :
    ({ p with history := l } : Page).Alike m { p' with history := l' } := { h with history := hl }

lemma Alike.resolve (h : p.Alike m p') {url url' : String} (hurl : Led m url url') :
    Seen m (p.resolve url) (p'.resolve url') := h.history.href.resolve hurl

lemma Alike.addPopState (h : p.Alike m p') {c c' : Callback} (hc : c.Alike m c') :
    (p.addPopState c).Alike m (p'.addPopState c') := by
  have hid : p.lastListener+1 = p'.lastListener+1 := congrArg (·+1) h.lastListener
  exact { h with popState := List.rel_append h.popState (.cons ⟨hid,hc⟩ .nil), lastListener := hid }

lemma Alike.addLifecycle (h : p.Alike m p') {c c' : Callback} (hc : c.Alike m c') :
    (p.addLifecycle c).Alike m (p'.addLifecycle c') := by
  have hid : p.lastListener+1 = p'.lastListener+1 := congrArg (·+1) h.lastListener
  exact { h with lifecycle := List.rel_append h.lifecycle (.cons ⟨hid,hc⟩ .nil), lastListener := hid }

lemma forall₂_unregister {l l' : List (ListenerId × Callback)} (h : List.Forall₂ (Registered m) l l')
    (id : ListenerId) : List.Forall₂ (Registered m) (l.filter (·.1 != id)) (l'.filter (·.1 != id)) := by
  induction h with
  | nil => exact .nil
  | @cons c c' _ _ hc _ ih =>
    rw [List.filter_cons,List.filter_cons,hc.1]
    split_ifs
    · exact .cons hc ih
    · exact ih

lemma Alike.removePopState (h : p.Alike m p') (id : ListenerId) :
    (p.removePopState id).Alike m (p'.removePopState id) :=
  { h with popState := forall₂_unregister h.popState id }

lemma Alike.removeLifecycle (h : p.Alike m p') (id : ListenerId) :
    (p.removeLifecycle id).Alike m (p'.removeLifecycle id) :=
  { h with lifecycle := forall₂_unregister h.lifecycle id }

lemma Alike.replaceHookIf (h : p.Alike m p') {k k' : Option Hook} (hk : Option.Rel (Hook.Alike m) k k') (id : HookId) :
    (p.replaceHookIf id k).1 = (p'.replaceHookIf id k').1 ∧
      (p.replaceHookIf id k).2.Alike m (p'.replaceHookIf id k').2 := by
  have hhook := h.hook
  unfold Page.replaceHookIf
  generalize p.hook = o at *
  generalize p'.hook = o' at *
  cases hhook with
  | none => exact ⟨rfl,h⟩
  | some hhook =>
    dsimp only
    rw [hhook.id]
    split_ifs
    · exact ⟨rfl,h.setHook hk⟩
    · exact ⟨rfl,h⟩

lemma Alike.expose (h : p.Alike m p') (name : String) (id : TrackerId) :
    (p.expose name id).Alike m (p'.expose name id) := by
  refine { h with globals := ?_ }
  rw [Page.expose,Page.expose,h.globals]

lemma Alike.awaitLoad (h : p.Alike m p') {c c' : LoadCallback} (hc : c.Alike m c') :
    ({ p with onLoad := p.onLoad ++ [c] } : Page).Alike m { p' with onLoad := p'.onLoad ++ [c'] } :=
  { h with onLoad := List.rel_append h.onLoad (.cons hc .nil) }

lemma Alike.discard (h : p.Alike m p') : p.discard.Alike m p'.discard :=
  { h with hook := .none, popState := .nil, lifecycle := .nil, onLoad := .nil, globals := rfl }

end Page

namespace World
variable {m : Scope} {w w' : World} {f : Tracker → Payload.Ambient → ℤ → Option Payload × Tracker}

/-! Reports. -/

lemma Alike.deliver (h : w.Alike m w') (id : TrackerId) (i : Installation) (p : Payload) :
    (w.deliver id i p).Alike m (w'.deliver id i p) := by
  have houtlet : w'.outlets[i.outlet]? = w.outlets[i.outlet]? := by rw [h.outlets]
  have hdelivery (r : Request) : w.delivery id i.outlet r = w'.delivery id i.outlet r := by
    rw [World.delivery,World.delivery,Page.global?,Page.global?,h.page.globals]
  unfold World.deliver
  rw [houtlet,hdelivery]
  split
  · exact h
  · split_ifs
    · exact { h with sent := congrArg (· ++ [_]) h.sent }
    · exact h

lemma Alike.setTracker (h : w.Alike m w') {id : TrackerId} {i : Installation} {t : Tracker}
    (hi : w.trackers[id]? = some i) (ht : t.settings = i.tracker.settings) :
    ({ w with trackers := w.trackers.set id { i with tracker := t } } : World).Alike m
      { w' with trackers := w'.trackers.set id { i with tracker := t } } := by
  refine { h with trackers := congrArg (List.set · id { i with tracker := t }) h.trackers, queries := fun j hj => ?_ }
  rcases List.mem_or_eq_of_mem_set hj with hj | rfl
  · exact h.queries j hj
  · rw [ht]
    exact h.queries i (List.mem_of_getElem? hi)

/-- The same tracker tells the same payload. -/
lemma Alike.report (h : w.Alike m w') (hf : Tracker.Blind m f) (id : TrackerId) :
    (w.report id f).1 = (w'.report id f).1 ∧ (w.report id f).2.Alike m (w'.report id f).2 := by
  have htracker : w'.trackers[id]? = w.trackers[id]? := by rw [h.trackers]
  unfold World.report
  rw [htracker]
  cases hi : w.trackers[id]? with
  | none => exact ⟨rfl,h⟩
  | some i =>
    have hsame : f i.tracker w'.ambient w'.clock.now = f i.tracker w.ambient w.clock.now := by
      rw [← h.clock,hf.same i.tracker _ _ w.clock.now h.ambient (h.queries i (List.mem_of_getElem? hi))]
    have hset := h.setTracker hi (hf.settings i.tracker w.ambient w.clock.now)
    dsimp only
    rw [hsame]
    cases (f i.tracker w.ambient w.clock.now).1 with
    | none => exact ⟨rfl,hset⟩
    | some p => exact ⟨rfl,hset.deliver id i p⟩

lemma Alike.shutdown (h : w.Alike m w') (id : TrackerId) : (w.shutdown id).Alike m (w'.shutdown id) := by
  have htracker : w'.trackers[id]? = w.trackers[id]? := by rw [h.trackers]
  unfold World.shutdown
  rw [htracker]
  split
  · exact h
  · exact { h with outlets := congrArg (List.modify · _ Outlet.close) h.outlets }

lemma Alike.signal (h : w.Alike m w') (k : Handler) (s : Signal) : (w.signal k s).Alike m (w'.signal k s) := by
  cases k with
  | tracker id =>
    simp only [World.signal,← h.trackerKept id]
    split_ifs
    · exact (h.report (Tracker.handle_blind s) id).2
    · exact h
  | log label => exact { h with }

/-! Sources. -/

lemma Alike.enqueue (h : w.Alike m w') {tasks tasks' : List Task} (ht : List.Forall₂ (Task.Alike m) tasks tasks') :
    (w.enqueue tasks).Alike m (w'.enqueue tasks') := { h with agenda := List.rel_append ht h.agenda }

lemma Alike.onPage (h : w.Alike m w') {p p' : Page} (hp : p.Alike m p') :
    ({ w with page := p } : World).Alike m { w' with page := p' } := { h with page := hp }

lemma Alike.addSource (h : w.Alike m w') {k k' : SourceKind} (hk : k.Alike m k') (held : Bool) :
    (w.addSource k held).1 = (w'.addSource k' held).1 ∧ (w.addSource k held).2.Alike m (w'.addSource k' held).2 :=
  ⟨h.sources.length_eq,{ h with sources := List.rel_append h.sources (.cons ⟨hk,rfl⟩ .nil) }⟩

lemma Alike.setSource (h : w.Alike m w') {k k' : SourceKind} (hk : k.Alike m k') (id : SourceId) :
    (w.setSource id k).Alike m (w'.setSource id k') := by
  have hset (s s' : Source) (hs : s.Alike m s') :
      ({ s with kind := k } : Source).Alike m { s' with kind := k' } := ⟨hk,hs.held⟩
  exact { h with sources := forall₂_modify h.sources hset id }

lemma Alike.sourceKind (h : w.Alike m w') (id : SourceId) :
    Option.Rel (SourceKind.Alike m) (w.sources[id]?.map Source.kind) (w'.sources[id]?.map Source.kind) := by
  have hsource := h.source id
  generalize w.sources[id]? = s at *
  generalize w'.sources[id]? = s' at *
  cases hsource with
  | none => exact .none
  | some hs => exact .some hs.kind

lemma Alike.hookActive (h : w.Alike m w') (id : HookId) : w.hookActive id = w'.hookActive id := by
  refine any_congr h.sources fun s s' hs => ?_
  have hkind := hs.kind
  unfold Source.hasHook
  generalize s.kind = k at *
  generalize s'.kind = k' at *
  cases hkind with
  | history hi =>
    cases hi with
    | none => rfl
    | some hi => dsimp only; rw [hi.hook.id]
  | memory => rfl

/-- Sources refuse and intercept alike. -/
lemma Alike.subscribe (h : w.Alike m w') (id : SourceId) (k : Handler) :
    (w.subscribe id k).1 = (w'.subscribe id k).1 ∧ (w.subscribe id k).2.Alike m (w'.subscribe id k).2 := by
  have hkind := h.sourceKind id
  unfold World.subscribe
  generalize hs : w.sources[id]?.map Source.kind = s at *
  generalize hs' : w'.sources[id]?.map Source.kind = s' at *
  cases hkind with
  | none => exact ⟨rfl,h⟩
  | some hkind =>
    cases hkind with
    | memory subscriber =>
      cases subscriber with
      | none => exact ⟨rfl,h.setSource (.memory _) id⟩
      | some _ => exact ⟨rfl,h⟩
    | history hi =>
      cases hi with
      | some _ => exact ⟨rfl,h⟩
      | none =>
        have hlast : w.lastHook+1 = w'.lastHook+1 := congrArg (·+1) h.lastHook
        have hhook : (Hook.observer (w.lastHook+1) k w.page.hook).Alike m
            (.observer (w'.lastHook+1) k w'.page.hook) := hlast ▸ .observer _ k h.page.hook
        have hpage := (h.page.setHook (.some hhook)).addPopState (.handler k)
        have hpage' := hpage.addLifecycle (.handler k)
        have hworld : ({ w with page := _, lastHook := w.lastHook+1 } : World).Alike m
            { w' with page := _, lastHook := w'.lastHook+1 } := { h with page := hpage', lastHook := hlast }
        exact ⟨rfl,hworld.setSource (.history (.some ⟨hhook,h.page.hook,hpage.lastListener,hpage'.lastListener⟩)) id⟩

/-- They give back alike what they intercept. -/
lemma Alike.restore (h : w.Alike m w') (id : SourceId) :
    (w.restore id).1 = (w'.restore id).1 ∧ (w.restore id).2.Alike m (w'.restore id).2 := by
  have hkind := h.sourceKind id
  unfold World.restore
  generalize w.sources[id]?.map Source.kind = s at *
  generalize w'.sources[id]?.map Source.kind = s' at *
  cases hkind with
  | none => exact ⟨rfl,h⟩
  | some hkind =>
    cases hkind with
    | memory subscriber => exact ⟨rfl,h⟩
    | history hi =>
      cases hi with
      | none => exact ⟨rfl,h⟩
      | some hi =>
        refine ⟨rfl,(h.setSource (.history .none) id).onPage ?_⟩
        rw [hi.hook.id,hi.popState,hi.lifecycle]
        exact (((h.page.replaceHookIf hi.previous _).2).removePopState _).removeLifecycle _

lemma Alike.emit (h : w.Alike m w') (id : SourceId) (s : Signal) : (w.emit id s).Alike m (w'.emit id s) := by
  have hkind := h.sourceKind id
  unfold World.emit
  generalize w.sources[id]?.map Source.kind = k at *
  generalize w'.sources[id]?.map Source.kind = k' at *
  cases hkind with
  | none => exact h
  | some hkind =>
    cases hkind with
    | history hi => exact h
    | memory subscriber =>
      cases subscriber with
      | none => exact h
      | some k => exact h.signal k s

end World
end PageTelemetry
