import PageTelemetry.Proofs.Locations
import PageTelemetry.Proofs.Paths

/-! Worlds that differ in nothing that counts: the locations in the histories of their pages, those that are still to be
visited, and what is written in their logs. Trackers look at such worlds alike. -/
namespace PageTelemetry

/-- What counts of a location: its query, as soon as a tracker reports it, and the endings that listeners look for. -/
structure Scope where
  queries : Bool
  endings : List String := []

/-- The endings that listeners may look for; every location has the empty one. -/
def Scope.Allows (m : Scope) (ending : String) : Prop := ending = "" ∨ ending ∈ m.endings

/-- Two locations that differ in nothing that counts. -/
structure Seen (m : Scope) (href href' : String) : Prop where
  twins : Twins m.queries href href'
  endings : ∀ e ∈ m.endings, e.toList.isSuffixOf href.toList = e.toList.isSuffixOf href'.toList

/-- Two texts that lead from such locations to such locations. -/
structure Led (m : Scope) (url url' : String) : Prop where
  leads : Leads m.queries url url'
  endings : ∀ href href', Seen m href href' → ∀ e ∈ m.endings,
    e.toList.isSuffixOf (Page.resolveFrom href url).toList = e.toList.isSuffixOf (Page.resolveFrom href' url').toList

section Scope
variable {m : Scope} {href href' url url' : String}

lemma Seen.same (href : String) : Seen m href href := ⟨.same href,fun _ _ => rfl⟩

lemma Seen.ending (h : Seen m href href') {e : String} (he : m.Allows e) :
    e.toList.isSuffixOf href.toList = e.toList.isSuffixOf href'.toList := by
  rcases he with rfl | he
  · simp
  · exact h.endings e he

lemma Seen.resolve (h : Seen m href href') (hurl : Led m url url') :
    Seen m (Page.resolveFrom href url) (Page.resolveFrom href' url') :=
  ⟨h.twins.resolve hurl.leads,hurl.endings href href' h⟩

/-- Where no listener looks at the location. -/
lemma Leads.led {queries : Bool} (h : Leads queries url url') : Led { queries := queries } url url' :=
  ⟨h,fun _ _ _ _ he => absurd he List.not_mem_nil⟩

end Scope

/-! Lists that agree entry by entry. -/

section Lists
variable {α β : Type} {R : α → α → Prop} {l l' : List α} {f f' : α → α}

lemma forall₂_getElem? (h : List.Forall₂ R l l') (n : ℕ) : Option.Rel R l[n]? l'[n]? := by
  induction h generalizing n with
  | nil => exact .none
  | cons hab _ ih =>
    cases n with
    | zero => exact .some hab
    | succ n => exact ih n

lemma forall₂_modify (h : List.Forall₂ R l l') (hf : ∀ a b, R a b → R (f a) (f' b)) (n : ℕ) :
    List.Forall₂ R (l.modify n f) (l'.modify n f') := by
  induction h generalizing n with
  | nil => simp
  | cons hab hl ih =>
    cases n with
    | zero => exact .cons (hf _ _ hab) hl
    | succ n => exact .cons hab (ih n)

lemma forall₂_set {a b : α} (h : List.Forall₂ R l l') (hab : R a b) (n : ℕ) :
    List.Forall₂ R (l.set n a) (l'.set n b) := by
  induction h generalizing n with
  | nil => exact .nil
  | cons hcd hl ih =>
    cases n with
    | zero => exact .cons hab hl
    | succ n => exact .cons hcd (ih n)

lemma any_congr {p p' : α → Bool} (h : List.Forall₂ R l l') (hp : ∀ a b, R a b → p a = p' b) : l.any p = l'.any p' := by
  induction h with
  | nil => rfl
  | cons hab _ ih => rw [List.any_cons,List.any_cons,hp _ _ hab,ih]

lemma forall₂_map {S : β → β → Prop} {g g' : α → β} (h : List.Forall₂ R l l') (hg : ∀ a b, R a b → S (g a) (g' b)) :
    List.Forall₂ S (l.map g) (l'.map g') := by
  rw [List.forall₂_map_left_iff,List.forall₂_map_right_iff]
  exact h.imp hg

lemma map_eq_of_rel {g g' : α → β} {o o' : Option α} (h : Option.Rel R o o') (hg : ∀ a b, R a b → g a = g' b) :
    o.map g = o'.map g' := by
  cases h with
  | none => rfl
  | some h => exact congrArg some (hg _ _ h)

lemma isSome_of_rel {o o' : Option α} (h : Option.Rel R o o') : o.isSome = o'.isSome := by cases h <;> rfl

lemma rel_getD {o o' : Option α} {d d' : α} (h : Option.Rel R o o') (hd : R d d') : R (o.getD d) (o'.getD d') := by
  cases h with
  | none => exact hd
  | some h => exact h

end Lists

/-! What is left on a page. -/

namespace Act

/-- An operation that neither leads anywhere nor leaves anything on the page. -/
def isPlain : Act → Bool
  | .push _ | .replace _ | .setHref _ | .install .. | .onLoad .. | .addPopState .. | .addLifecycle .. | .wrapHook .. =>
    false
  | _ => true

/-- Two operations that differ in nothing that counts. -/
inductive Alike (m : Scope) : Act → Act → Prop
  | plain {a : Act} (h : a.isPlain = true) : Alike m a a
  | push {url url' : String} (h : Led m url url') : Alike m (.push url) (.push url')
  | replace {url url' : String} (h : Led m url url') : Alike m (.replace url) (.replace url')
  | setHref {url url' : String} (h : Led m url url') : Alike m (.setHref url) (.setHref url')
  | install {c : Config} (h : c.includeQuery = true → m.queries = true) (source : Option SourceId) (outlet : OutletId) :
    Alike m (.install c source outlet) (.install c source outlet)
  | onLoad (label : String) {ending : String} (hending : m.Allows ending) {acts acts' : List Act}
    (h : List.Forall₂ (Alike m) acts acts') : Alike m (.onLoad label ending acts) (.onLoad label ending acts')
  | addPopState (label : String) {ending : String} (hending : m.Allows ending) {acts acts' : List Act}
    (h : List.Forall₂ (Alike m) acts acts') : Alike m (.addPopState label ending acts) (.addPopState label ending acts')
  | addLifecycle (label : String) {ending : String} (hending : m.Allows ending) {acts acts' : List Act}
    (h : List.Forall₂ (Alike m) acts acts') :
    Alike m (.addLifecycle label ending acts) (.addLifecycle label ending acts')
  | wrapHook (label : String) {ending : String} (hending : m.Allows ending) {acts acts' : List Act}
    (h : List.Forall₂ (Alike m) acts acts') (chained last : Bool) :
    Alike m (.wrapHook label ending acts chained last) (.wrapHook label ending acts' chained last)

end Act

variable {m : Scope}

structure Listener.Alike (m : Scope) (l l' : Listener) : Prop where
  label : l.label = l'.label
  ending : l.ending = l'.ending ∧ m.Allows l.ending
  acts : List.Forall₂ (Act.Alike m) l.acts l'.acts

inductive Hook.Alike (m : Scope) : Hook → Hook → Prop
  | observer (id : HookId) (h : Handler) {previous previous' : Option Hook}
    (hprevious : Option.Rel (Hook.Alike m) previous previous') :
    Hook.Alike m (.observer id h previous) (.observer id h previous')
  | custom (id : HookId) {l l' : Listener} (hl : l.Alike m l') {chained chained' : Option Hook}
    (hchained : Option.Rel (Hook.Alike m) chained chained') (last : Bool) :
    Hook.Alike m (.custom id l chained last) (.custom id l' chained' last)

lemma Hook.Alike.id {k k' : Hook} (h : k.Alike m k') : k.id = k'.id := by cases h <;> rfl

inductive Callback.Alike (m : Scope) : Callback → Callback → Prop
  | handler (h : Handler) : Callback.Alike m (.handler h) (.handler h)
  | listener {l l' : Listener} (h : l.Alike m l') : Callback.Alike m (.listener l) (.listener l')

/-- Callbacks under one id. -/
def Registered (m : Scope) (c c' : ListenerId × Callback) : Prop := c.1 = c'.1 ∧ c.2.Alike m c'.2

inductive LoadCallback.Alike (m : Scope) : LoadCallback → LoadCallback → Prop
  | start (t : TrackerId) (source : Option SourceId) : LoadCallback.Alike m (.start t source) (.start t source)
  | listener {l l' : Listener} (h : l.Alike m l') : LoadCallback.Alike m (.listener l) (.listener l')

inductive Task.Alike (m : Scope) : Task → Task → Prop
  | hook {k k' : Hook} (h : k.Alike m k') (kind : NavigationKind) : Task.Alike m (.hook k kind) (.hook k' kind)
  | relay (id : HookId) (h : Handler) (kind : NavigationKind) : Task.Alike m (.relay id h kind) (.relay id h kind)
  | call {l l' : Listener} (h : l.Alike m l') (o : Occasion) : Task.Alike m (.call l o) (.call l' o)
  | signal (h : Handler) (s : Signal) : Task.Alike m (.signal h s) (.signal h s)
  | start (t : TrackerId) (source : Option SourceId) : Task.Alike m (.start t source) (.start t source)
  | act {a a' : Act} (h : a.Alike m a') : Task.Alike m (.act a) (.act a')

/-! What sources know. -/

structure Interception.Alike (m : Scope) (i i' : Interception) : Prop where
  hook : i.hook.Alike m i'.hook
  previous : Option.Rel (Hook.Alike m) i.previous i'.previous
  popState : i.popState = i'.popState
  lifecycle : i.lifecycle = i'.lifecycle

inductive SourceKind.Alike (m : Scope) : SourceKind → SourceKind → Prop
  | history {i i' : Option Interception} (h : Option.Rel (Interception.Alike m) i i') :
    SourceKind.Alike m (.history i) (.history i')
  | memory (subscriber : Option Handler) : SourceKind.Alike m (.memory subscriber) (.memory subscriber)

structure Source.Alike (m : Scope) (s s' : Source) : Prop where
  kind : s.kind.Alike m s'.kind
  held : s.held = s'.held

/-! Pages and worlds. -/

structure History.Alike (m : Scope) (l l' : History) : Prop where
  entries : List.Forall₂ (Seen m) l.entries l'.entries
  index : l.index = l'.index

structure Page.Alike (m : Scope) (p p' : Page) : Prop where
  history : p.history.Alike m p'.history
  referrer : p.referrer = p'.referrer
  title : p.title = p'.title
  width : p.width = p'.width
  ready : p.ready = p'.ready
  visibility : p.visibility = p'.visibility
  hook : Option.Rel (Hook.Alike m) p.hook p'.hook
  popState : List.Forall₂ (Registered m) p.popState p'.popState
  lifecycle : List.Forall₂ (Registered m) p.lifecycle p'.lifecycle
  onLoad : List.Forall₂ (LoadCallback.Alike m) p.onLoad p'.onLoad
  globals : p.globals = p'.globals
  lastListener : p.lastListener = p'.lastListener

/-- Two worlds that differ in nothing that counts; queries count as soon as a tracker reports them. -/
structure World.Alike (m : Scope) (w w' : World) : Prop where
  page : w.page.Alike m w'.page
  pageHeld : w.pageHeld = w'.pageHeld
  clock : w.clock = w'.clock
  trackers : w.trackers = w'.trackers
  handles : w.handles = w'.handles
  sources : List.Forall₂ (Source.Alike m) w.sources w'.sources
  outlets : w.outlets = w'.outlets
  sent : w.sent = w'.sent
  agenda : List.Forall₂ (Task.Alike m) w.agenda w'.agenda
  lastHook : w.lastHook = w'.lastHook
  queries : ∀ i ∈ w.trackers, i.tracker.settings.includeQuery = true → m.queries = true

/-! What trackers see and report. -/

/-- Two views of a page that differ in nothing that counts. -/
structure Payload.Ambient.Alike (m : Scope) (a a' : Payload.Ambient) : Prop where
  href : Seen m a.href a'.href
  referrer : a.referrer = a'.referrer
  title : a.title = a'.title
  width : a.width = a'.width

namespace Tracker
variable {f : Tracker → Payload.Ambient → ℤ → Option Payload × Tracker} {a a' : Payload.Ambient}

/-- A report that is the same for views that differ in nothing that counts, and keeps to its settings. -/
structure Blind (m : Scope) (f : Tracker → Payload.Ambient → ℤ → Option Payload × Tracker) : Prop where
  settings : ∀ t a now, (f t a now).2.settings = t.settings
  same : ∀ t a a' now, a.Alike m a' → (t.settings.includeQuery = true → m.queries = true) → f t a now = f t a' now

/-- What is built for such views is the same. -/
lemma build_alike (h : a.Alike m a') {includeQuery : Bool} (hm : includeQuery = true → m.queries = true)
    (siteKey : String) (overrides : Option Json) :
    Payload.build siteKey includeQuery a overrides = Payload.build siteKey includeQuery a' overrides := by
  simp only [Payload.build,Payload.buildWith,h.href.twins.path hm,h.href.twins.campaign,
    h.href.twins.normalizeReferrer,h.referrer,h.title,h.width]

lemma track_blind (overrides : Option Json) :
    Blind m fun t a now => (some (t.track a now overrides).1,(t.track a now overrides).2) := by
  refine ⟨fun t a now => t.note_settings now _,fun t a a' now h hm => ?_⟩
  simp only [track,build_alike h hm]

lemma trackPageView_blind : Blind m trackPageView := by
  refine ⟨trackPageView_truthful.settings,fun t a a' now h hm => ?_⟩
  simp only [trackPageView,track,build_alike h hm,h.href.twins.path hm]

lemma trackLeave_blind : Blind m trackLeave := by
  refine ⟨trackLeave_truthful.settings,fun t a a' now h hm => ?_⟩
  simp only [trackLeave,Payload.buildLeave,build_alike h hm]

lemma handle_blind (s : Signal) : Blind m fun t a now => t.handle a now s := by
  cases s with
  | navigate kind => exact trackPageView_blind
  | hidden => exact trackLeave_blind
  | unload => exact trackLeave_blind

end Tracker

lemma History.Alike.href {l l' : History} (h : l.Alike m l') : Seen m l.href l'.href := by
  rw [History.href,History.href,← h.index]
  exact rel_getD (forall₂_getElem? h.entries l.index) (.same "")

lemma Page.Alike.ambient {p p' : Page} (h : p.Alike m p') : p.ambient.Alike m p'.ambient :=
  ⟨h.history.href,h.referrer,h.title,h.width⟩

/-! Who keeps what. -/

lemma LoadCallback.Alike.keepsSource {c c' : LoadCallback} (h : c.Alike m c') (id : SourceId) :
    c.keepsSource id = c'.keepsSource id := by cases h <;> rfl

lemma LoadCallback.Alike.keepsTracker {c c' : LoadCallback} (h : c.Alike m c') (id : TrackerId) :
    c.keepsTracker id = c'.keepsTracker id := by cases h <;> rfl

lemma Task.Alike.keepsSource {t t' : Task} (h : t.Alike m t') (id : SourceId) :
    t.keepsSource id = t'.keepsSource id := by cases h <;> rfl

lemma Task.Alike.keepsTracker {t t' : Task} (h : t.Alike m t') (id : TrackerId) :
    t.keepsTracker id = t'.keepsTracker id := by cases h <;> rfl

lemma Source.Alike.isHistory {s s' : Source} (h : s.Alike m s') : s.isHistory = s'.isHistory := by
  have hkind := h.kind
  unfold Source.isHistory
  generalize s.kind = k at *
  generalize s'.kind = k' at *
  cases hkind <;> rfl

lemma Source.Alike.isInstalled {s s' : Source} (h : s.Alike m s') : s.isInstalled = s'.isInstalled := by
  have hkind := h.kind
  unfold Source.isInstalled
  generalize s.kind = k at *
  generalize s'.kind = k' at *
  cases hkind with
  | history hi => exact isSome_of_rel hi
  | memory => rfl

namespace World
variable {w w' : World} {f : Tracker → Payload.Ambient → ℤ → Option Payload × Tracker}

lemma Alike.source (h : w.Alike m w') (id : SourceId) : Option.Rel (Source.Alike m) w.sources[id]? w'.sources[id]? :=
  forall₂_getElem? h.sources id

lemma Alike.sourceKept (h : w.Alike m w') (id : SourceId) : w.sourceKept id = w'.sourceKept id := by
  have hheld : w.sources[id]?.map Source.held = w'.sources[id]?.map Source.held :=
    map_eq_of_rel (h.source id) fun _ _ hs => hs.held
  rw [World.sourceKept,World.sourceKept,hheld,any_congr h.page.onLoad fun _ _ hc => hc.keepsSource id,
    any_congr h.agenda fun _ _ ht => ht.keepsSource id]

lemma Alike.pageKept (h : w.Alike m w') : w.pageKept = w'.pageKept := by
  have hhistory (id : SourceId) : w.sources[id]?.map Source.isHistory = w'.sources[id]?.map Source.isHistory :=
    map_eq_of_rel (h.source id) fun _ _ hs => hs.isHistory
  simp only [World.pageKept,h.pageHeld,h.sources.length_eq,hhistory,h.sourceKept]

lemma Alike.trackerKept (h : w.Alike m w') (id : TrackerId) : w.trackerKept id = w'.trackerKept id := by
  rw [World.trackerKept,World.trackerKept,h.handles,h.pageKept,h.page.globals,
    any_congr h.page.onLoad fun _ _ hc => hc.keepsTracker id,any_congr h.agenda fun _ _ ht => ht.keepsTracker id]

lemma Alike.ambient (h : w.Alike m w') : w.ambient.Alike m w'.ambient := by
  unfold World.ambient
  rw [← h.pageKept]
  split_ifs
  · exact h.page.ambient
  · exact ⟨.same _,rfl,rfl,rfl⟩

end World

end PageTelemetry
