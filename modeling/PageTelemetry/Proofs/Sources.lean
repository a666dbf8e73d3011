import Mathlib.Tactic
import PageTelemetry.World

/-! Navigation sources: what subscribing and restoring leave on the page, and which hooks are active. -/
namespace PageTelemetry.World

/-- What a source knows. -/
def sourceKind? (w : World) (id : SourceId) : Option SourceKind := w.sources[id]?.map Source.kind

lemma sourceKind?_setSource (w : World) (id other : SourceId) (k : SourceKind) :
    (w.setSource id k).sourceKind? other =
      if other = id then (w.sourceKind? id).map fun _ => k else w.sourceKind? other := by
  simp only [sourceKind?,setSource,List.getElem?_modify]
  by_cases h : id = other
  · subst h
    cases w.sources[id]? <;> simp
  · simp [h,Ne.symm h]

/-- What a source that intercepts a page has put there. -/
def interception? (w : World) (id : SourceId) : Option Interception :=
  match w.sourceKind? id with
  | some (.history i) => i
  | _ => none

lemma interception?_of_sourceKind? {w : World} {id : SourceId} {i : Option Interception}
    (h : w.sourceKind? id = some (.history i)) : w.interception? id = i := by
  simp only [interception?,h]

lemma sourceKind?_of_interception? {w : World} {id : SourceId} {i : Interception}
    (h : w.interception? id = some i) : w.sourceKind? id = some (.history (some i)) := by
  unfold interception? at h
  split at h
  · rename_i j hj
    rw [hj,h]
  · exact absurd h (by simp)

lemma interception?_setSource_history {w : World} {id : SourceId} {k : SourceKind}
    (hk : w.sourceKind? id = some k) (i : Option Interception) (other : SourceId) :
    (w.setSource id (.history i)).interception? other = if other = id then i else w.interception? other := by
  simp only [interception?,sourceKind?_setSource,hk]
  split_ifs <;> rfl

lemma interception?_setSource_memory {w : World} {id : SourceId} {a : Option Handler}
    (hk : w.sourceKind? id = some (.memory a)) (b : Option Handler) (other : SourceId) :
    (w.setSource id (.memory b)).interception? other = w.interception? other := by
  simp only [interception?,sourceKind?_setSource]
  split_ifs with h
  · rw [h,hk]
    rfl
  · rfl

/-- A hook is active as long as some source has it installed. -/
theorem hookActive_iff (w : World) (id : HookId) :
    w.hookActive id = true ↔ ∃ s i, w.interception? s = some i ∧ i.hook.id = id := by
  simp only [hookActive,List.any_eq_true]
  constructor
  · rintro ⟨src,hmem,hhas⟩
    obtain ⟨s,hs⟩ := List.getElem?_of_mem hmem
    obtain ⟨_ | i,hk⟩ : ∃ i, src.kind = .history i := by
      unfold Source.hasHook at hhas
      split at hhas
      · exact ⟨_,‹_›⟩
      · simp at hhas
    · simp [Source.hasHook,hk] at hhas
    · refine ⟨s,i,by simp [interception?,sourceKind?,hs,hk],?_⟩
      simpa [Source.hasHook,hk] using hhas
  · rintro ⟨s,i,hi,rfl⟩
    have hk := sourceKind?_of_interception? hi
    obtain ⟨src,hs,hkind⟩ := Option.map_eq_some_iff.mp hk
    exact ⟨src,List.mem_of_getElem? hs,by simp [Source.hasHook,hkind]⟩

lemma hookActive_congr {w w' : World} (h : ∀ s, w'.interception? s = w.interception? s) (id : HookId) :
    w'.hookActive id = w.hookActive id := by
  rw [Bool.eq_iff_iff,hookActive_iff,hookActive_iff]
  simp only [h]

/-- What a source puts on the page when it is subscribed. -/
def intercept (w : World) (h : Handler) : Interception :=
  ⟨.observer (w.lastHook+1) h w.page.hook,w.page.hook,w.page.lastListener+1,w.page.lastListener+2⟩

/-- The page with an interception on it. -/
def interceptedPage (w : World) (h : Handler) : Page :=
  { w.page with
    hook := some (w.intercept h).hook
    popState := w.page.popState ++ [(w.page.lastListener+1,.handler h)]
    lifecycle := w.page.lifecycle ++ [(w.page.lastListener+2,.handler h)]
    lastListener := w.page.lastListener+2 }

/-- The world in which a source has begun to intercept. -/
def intercepted (w : World) (id : SourceId) (h : Handler) : World :=
  { w with page := w.interceptedPage h, lastHook := w.lastHook+1 }.setSource id (.history (some (w.intercept h)))

lemma subscribe_free {w : World} {id : SourceId} (hs : w.sourceKind? id = some (.history none))
    (h : Handler) : w.subscribe id h = (true,w.intercepted id h) := by
  unfold sourceKind? at hs
  simp [subscribe,hs,intercepted,interceptedPage,intercept,Page.addPopState,Page.addLifecycle]

lemma subscribe_memory {w : World} {id : SourceId} (hs : w.sourceKind? id = some (.memory none))
    (h : Handler) : w.subscribe id h = (true,w.setSource id (.memory (some h))) := by
  unfold sourceKind? at hs
  simp [subscribe,hs]

/-- A source that has a subscriber refuses another one. -/
lemma subscribe_installed {w : World} {id : SourceId} {i : Interception} (hs : w.interception? id = some i)
    (h : Handler) : w.subscribe id h = (false,w) := by
  have hk := sourceKind?_of_interception? hs
  unfold sourceKind? at hk
  simp [subscribe,hk]

lemma subscribe_cases (w : World) (id : SourceId) (h : Handler) :
    (w.sourceKind? id = some (.history none) ∧ w.subscribe id h = (true,w.intercepted id h)) ∨
      (w.sourceKind? id = some (.memory none) ∧ w.subscribe id h = (true,w.setSource id (.memory (some h)))) ∨
      w.subscribe id h = (false,w) := by
  rcases hk : w.sourceKind? id with _ | (_ | i) | (_ | a)
  case some.history.none => exact .inl ⟨rfl,subscribe_free hk h⟩
  case some.memory.none => exact .inr (.inl ⟨rfl,subscribe_memory hk h⟩)
  all_goals
    unfold sourceKind? at hk
    simp [subscribe,hk]

lemma interception?_intercepted {w : World} {id : SourceId} (hs : w.sourceKind? id = some (.history none))
    (h : Handler) (other : SourceId) :
    (w.intercepted id h).interception? other =
      if other = id then some (w.intercept h) else w.interception? other := by
  have hk : ({ w with page := w.interceptedPage h, lastHook := w.lastHook+1 } : World).sourceKind? id =
      some (.history none) := hs
  rw [intercepted,interception?_setSource_history hk]
  rfl

/-- The page once an interception is taken back. -/
def restoredPage (w : World) (i : Interception) : Page :=
  (((w.page.replaceHookIf i.hook.id i.previous).2).removePopState i.popState).removeLifecycle i.lifecycle

/-- The world in which a source has taken its interception back. -/
def restored (w : World) (id : SourceId) (i : Interception) : World :=
  { w with page := w.restoredPage i }.setSource id (.history none)

lemma restore_installed {w : World} {id : SourceId} {i : Interception} (hs : w.interception? id = some i) :
    w.restore id = (true,w.restored id i) := by
  have hk := sourceKind?_of_interception? hs
  unfold sourceKind? at hk
  simp [restore,hk,restored,restoredPage,setSource]

/-- Where nothing is installed there is nothing to take back. -/
lemma restore_free {w : World} {id : SourceId} (hs : w.interception? id = none) :
    w.restore id = (false,w) := by
  rcases hk : w.sourceKind? id with _ | (_ | i) | _
  case some.history.some => simp [interception?,hk] at hs
  all_goals
    unfold sourceKind? at hk
    simp [restore,hk]

lemma interception?_restored {w : World} {id : SourceId} {i : Interception} (hs : w.interception? id = some i)
    (other : SourceId) :
    (w.restored id i).interception? other = if other = id then none else w.interception? other := by
  have hk : ({ w with page := w.restoredPage i } : World).sourceKind? id = some (.history (some i)) :=
    sourceKind?_of_interception? hs
  rw [restored,interception?_setSource_history hk]
  rfl

/-- The hook that a page has once one is taken back: what that one chained if it was on top, else the same. -/
lemma restoredPage_hook (w : World) (i : Interception) :
    (w.restoredPage i).hook = i.previous ∧ (∃ k, w.page.hook = some k ∧ k.id = i.hook.id) ∨
      (w.restoredPage i).hook = w.page.hook ∧ ∀ k, w.page.hook = some k → k.id ≠ i.hook.id := by
  simp only [restoredPage,Page.replaceHookIf,Page.removePopState,Page.removeLifecycle]
  cases hhook : w.page.hook with
  | none => exact .inr ⟨hhook,by simp⟩
  | some k =>
    dsimp only
    split_ifs with hid
    · exact .inl ⟨rfl,k,rfl,hid⟩
    · exact .inr ⟨hhook,by rintro _ ⟨⟩; exact hid⟩

/-- Nothing else on the page changes. -/
lemma restoredPage_eq (w : World) (i : Interception) :
    w.restoredPage i = { w.page with
      hook := (w.restoredPage i).hook
      popState := w.page.popState.filter (·.1 != i.popState)
      lifecycle := w.page.lifecycle.filter (·.1 != i.lifecycle) } := by
  simp only [restoredPage,Page.replaceHookIf,Page.removePopState,Page.removeLifecycle]
  split
  · split_ifs <;> rfl
  · rfl

/-- A new source intercepts nothing yet. -/
lemma interception?_addSource (w : World) {kind : SourceKind} (hfree : ∀ i, kind ≠ .history (some i))
    (held : Bool) (id : SourceId) : (w.addSource kind held).2.interception? id = w.interception? id := by
  simp only [interception?,sourceKind?,addSource,List.getElem?_append]
  split_ifs with h
  · rfl
  · rw [List.getElem?_eq_none (by omega : w.sources.length ≤ id)]
    cases hid : id-w.sources.length with
    | succ => rfl
    | zero =>
      rcases kind with (_ | i) | a
      · rfl
      · exact absurd rfl (hfree i)
      · rfl

lemma modify_concat {α : Type} (l : List α) (a : α) (f : α → α) :
    (l ++ [a]).modify l.length f = l ++ [f a] := by
  induction l <;> simp_all

/-- A start without a source is a page view, and then a source of the page that nobody keeps. -/
theorem start_default {w : World} {id : TrackerId} (h : (w.trackPageView id).2.pageKept = true) :
    w.start id none =
      let w₁ := (w.trackPageView id).2
      { w₁ with
        page := w₁.interceptedPage (.tracker id)
        lastHook := w₁.lastHook+1
        sources := w₁.sources ++ [⟨.history (some (w₁.intercept (.tracker id))),false⟩] } := by
  set w₁ := (w.trackPageView id).2 with hw₁
  have hfree : (w₁.addSource (.history none) false).2.sourceKind? w₁.sources.length =
      some (.history none) := by
    simp [sourceKind?,addSource]
  have hstart : w.start id none =
      ((w₁.addSource (.history none) false).2.subscribe w₁.sources.length (.tracker id)).2 := by
    simp only [start,← hw₁,h,if_true]
    rfl
  rw [hstart,subscribe_free hfree]
  simp only [intercepted,setSource,addSource,modify_concat]
  rfl

/-- The world with a new tracker, which is exposed on the page. -/
def enroll (w : World) (st : Settings) (outlet : OutletId) : World :=
  (w.addTracker st outlet).2.modifyPage (·.expose Page.namespaceName w.trackers.length)

/-- Lets a tracker wait for the document to be complete. -/
def await (w : World) (id : TrackerId) (source : Option SourceId) : World :=
  w.modifyPage fun p => { p with onLoad := p.onLoad ++ [.start id source] }

/-- A page takes a new tracker if tracking is enabled, no tracker is exposed yet, and the configuration resolves. -/
structure Admits (w : World) (c : Config) (st : Settings) : Prop where
  enabled : c.enabled = true
  vacant : w.page.global? Page.namespaceName = none
  resolved : c.resolve = .ok st

/-- What is handed out without a new tracker: nothing if tracking is disabled, else what is exposed. -/
def found? (w : World) (c : Config) : Option TrackerId :=
  if c.enabled then w.page.global? Page.namespaceName else none

variable {w : World} {c : Config} {st : Settings}

/-- Without a new tracker nothing changes. -/
lemma install_refused (h : ∀ st, ¬w.Admits c st) (source : Option SourceId) (outlet : OutletId) :
    w.install c source outlet = (w.found? c,w) := by
  unfold install found?
  cases henabled : c.enabled with
  | false => rfl
  | true =>
    cases hvacant : w.page.global? Page.namespaceName with
    | some id => rfl
    | none =>
      cases hresolved : c.resolve with
      | error e => rfl
      | ok st => exact absurd ⟨henabled,hvacant,hresolved⟩ (h st)

/-- A new tracker is enrolled, and then it begins or waits for the document. -/
lemma install_admitted (h : w.Admits c st) (source : Option SourceId) (outlet : OutletId) :
    w.install c source outlet = (some w.trackers.length,
      if w.page.ready = .complete then (w.enroll st outlet).start w.trackers.length source
      else (w.enroll st outlet).await w.trackers.length source) := by
  unfold install
  rw [h.enabled,h.vacant,h.resolved]
  by_cases hready : w.page.ready = .complete
  · rw [if_pos hready]
    exact if_pos hready
  · rw [if_neg hready]
    exact if_neg hready

/-- An installation changes nothing, or enrolls a tracker on a page without one, where it begins or waits. -/
theorem install_cases (w : World) (c : Config) (source : Option SourceId) (outlet : OutletId) :
    (w.install c source outlet).2 = w ∨ w.page.global? Page.namespaceName = none ∧ ∃ st,
      (w.install c source outlet).2 = (w.enroll st outlet).start w.trackers.length source ∨
      (w.install c source outlet).2 = (w.enroll st outlet).await w.trackers.length source := by
  by_cases h : ∃ st, w.Admits c st
  · obtain ⟨st,hst⟩ := h
    rw [install_admitted hst]
    exact .inr ⟨hst.vacant,st,ite_eq_or_eq ..⟩
  · rw [install_refused (not_exists.mp h)]
    exact .inl rfl

end PageTelemetry.World
