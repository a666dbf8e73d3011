import PageTelemetry.Proofs.Agenda
import PageTelemetry.Proofs.History
import PageTelemetry.Proofs.Installing

/-! The session history as a browser shows it: where back leads, where the page is, and where forward leads. Whatever
is done to a page, by its embedder or by a listener in the middle of a dispatch, its entries and their index are those
of the browser in which the same operations are performed. -/
namespace PageTelemetry

/-- What lies behind, nearest first, the current entry, and what lies ahead, nearest first. -/
structure Browser where
  behind : List String
  current : String
  ahead : List String
  deriving DecidableEq, Repr

namespace Browser

def push (b : Browser) (href : String) : Browser := ⟨b.current::b.behind,href,[]⟩

def replace (b : Browser) (href : String) : Browser := { b with current := href }

def back? : Browser → Option Browser
  | ⟨[],_,_⟩ => none
  | ⟨href::behind,current,ahead⟩ => some ⟨behind,href,current::ahead⟩

def forward? : Browser → Option Browser
  | ⟨_,_,[]⟩ => none
  | ⟨behind,current,href::ahead⟩ => some ⟨current::behind,href,ahead⟩

/-- What an operation on a page does. A URL is resolved where the browser is; without somewhere to go, going does
nothing; and all but navigation leaves the history alone. -/
def after (b : Browser) : Act → Browser
  | .push url => b.push (Page.resolveFrom b.current url)
  | .replace url | .setHref url => b.replace (Page.resolveFrom b.current url)
  | .back => b.back?.getD b
  | .forward => b.forward?.getD b
  | _ => b

/-- The entries of a browser and the place of the current one. -/
def history (b : Browser) : History := .ofZipper b.behind b.current b.ahead

variable (b : Browser) (href : String)

@[simp] lemma href_history : b.history.href = b.current := History.href_ofZipper ..

@[simp] lemma push_history : b.history.push href = (b.push href).history := History.push_ofZipper ..

@[simp] lemma replace_history : b.history.replace href = (b.replace href).history := History.replace_ofZipper ..

@[simp] lemma back?_history : b.history.back? = b.back?.map history := by
  obtain ⟨_ | ⟨href,behind⟩,current,ahead⟩ := b
  · rfl
  · exact History.back?_ofZipper_cons ..

@[simp] lemma forward?_history : b.history.forward? = b.forward?.map history := by
  obtain ⟨behind,current,_ | ⟨href,ahead⟩⟩ := b
  · exact History.forward?_ofZipper_nil ..
  · exact History.forward?_ofZipper_cons ..

lemma size_history : b.history.size = b.behind.length+1+b.ahead.length := by
  simp only [history,History.ofZipper,History.size,List.length_append,List.length_reverse,List.length_cons]
  omega

lemma located_history : b.history.entries[b.history.index]? = some b.current := by
  simp [history,History.ofZipper]

/-- Forward undoes back. -/
lemma forward?_back? {b b' : Browser} (h : b.back? = some b') : b'.forward? = some b := by
  obtain ⟨_ | ⟨href,behind⟩,current,ahead⟩ := b
  · cases h
  · obtain rfl := Option.some.inj h
    rfl

end Browser

/-- A history is that of a browser as soon as its index is inside. -/
theorem History.inside_iff (h : History) : h.index < h.entries.length ↔ ∃ b : Browser, h = b.history := by
  constructor
  · intro hinside
    refine ⟨⟨(h.entries.take h.index).reverse,h.entries[h.index],h.entries.drop (h.index+1)⟩,?_⟩
    have hsplit : h.entries.take h.index ++ h.entries[h.index]::h.entries.drop (h.index+1) = h.entries := by
      rw [← List.drop_eq_getElem_cons hinside,List.take_append_drop]
    have hindex : (h.entries.take h.index).length = h.index := by
      rw [List.length_take]
      omega
    simp only [Browser.history,ofZipper,List.reverse_reverse,List.length_reverse,hsplit,hindex]
  · rintro ⟨b,rfl⟩
    simp [Browser.history,ofZipper]

/-- The operation that a task is, if it is one. -/
def Task.act? : Task → Option Act
  | .act a => some a
  | .hook _ _ | .relay _ _ _ | .call _ _ | .signal _ _ | .start _ _ => none

lemma Task.act?_eq_some {t : Task} {a : Act} : t.act? = some a ↔ t = .act a := by
  cases t <;> simp [act?]

namespace World
variable {w w' w₀ : World} {b b₀ : Browser} {acts : List Act}

/-! What is no navigation leaves the history alone. -/

lemma Reported.page (h : w.Reported w') : w'.page = w.page := by
  obtain ⟨_,_,_,-,rfl⟩ := h
  rfl

lemma restore_history (w : World) (s : SourceId) : (w.restore s).2.page.history = w.page.history := by
  cases hi : w.interception? s with
  | none => rw [restore_free hi]
  | some i =>
    have hpage : (w.restored s i).page = w.restoredPage i := rfl
    rw [restore_installed hi,hpage,restoredPage_eq]

lemma start_history (w : World) (t : TrackerId) (source : Option SourceId) :
    (w.start t source).page.history = w.page.history := by
  have hview : (w.trackPageView t).2.page = w.page := report_page w t
  rw [(w.start_steady t source).history,hview]

lemma install_history (w : World) (c : Config) (source : Option SourceId) (outlet : OutletId) :
    (w.install c source outlet).2.page.history = w.page.history := by
  rcases w.install_cases c source outlet with e | ⟨-,st,e | e⟩
  · rw [e]
  · rw [e]
    exact start_history ..
  · rw [e]
    rfl

/-- An operation on a page does to its history what it does to the browser. -/
theorem act_history (h : w.page.history = b.history) (a : Act) :
    (w.act a).page.history = (b.after a).history := by
  have hresolve (url : String) : w.page.resolve url = Page.resolveFrom b.current url := by
    rw [Page.resolve,Page.href,h,b.href_history]
  have hmove (target : Option Browser) :
      (w.moveTo (target.map Browser.history)).2.page.history = (target.getD b).history := by
    cases target with
    | none => exact h
    | some b' => rfl
  cases a with
  | push url =>
    change w.page.history.push (w.page.resolve url) = _
    rw [hresolve,h,b.push_history]
    rfl
  | replace url | setHref url =>
    change w.page.history.replace (w.page.resolve url) = _
    rw [hresolve,h,b.replace_history]
    rfl
  | back =>
    change (w.moveTo w.page.history.back?).2.page.history = _
    rw [h,b.back?_history]
    exact hmove b.back?
  | forward =>
    change (w.moveTo w.page.history.forward?).2.page.history = _
    rw [h,b.forward?_history]
    exact hmove b.forward?
  | hide | finishLoading =>
    simp only [act,hide,finishLoading]
    split_ifs <;> exact h
  | onLoad label ending acts =>
    simp only [act,onLoad]
    split_ifs <;> exact h
  | track name =>
    simp only [act,trackExposed]
    split
    · exact h
    · exact (congrArg Page.history (w.report_reported _ _).page).trans h
  | install c source outlet => exact (w.install_history c source outlet).trans h
  | subscribe source hd => exact (w.subscribe_steady source hd).history.trans h
  | restore source => exact (w.restore_history source).trans h
  | setTitle | setWidth | reveal | unload | discard | addPopState | addLifecycle | removePopState | removeLifecycle
  | wrapHook | removeHook => exact h

/-- The operation that is to be performed next, if the next task is one. -/
def nextAct? (w : World) : Option Act := w.agenda.head?.bind Task.act?

theorem step_history (h : w.page.history = b.history) :
    w.step.page.history = (w.nextAct?.toList.foldl Browser.after b).history := by
  cases hagenda : w.agenda with
  | nil =>
    rw [step_of_agenda_nil hagenda,nextAct?,hagenda]
    exact h
  | cons t rest =>
    have hnext : w.nextAct? = t.act? := by rw [nextAct?,hagenda]; rfl
    rw [step_of_agenda_cons hagenda,hnext]
    cases ht : t.act? with
    | some a =>
      obtain rfl := Task.act?_eq_some.mp ht
      exact act_history (w := { w with agenda := rest }) h a
    | none =>
      refine perform_invariant (P := fun u => u.page.history = b.history) (w := { w with agenda := rest }) h ?_
        (fun _ _ hu => hu) ?_ ?_
      · intro u u' hu hr
        rw [hr.page,hu]
      · rintro id source -
        exact (start_history _ id source).trans h
      · rintro a rfl
        cases ht

/-! Runs. -/

/-- A run with the operations on the page that are performed in it, by the embedder or by a listener whose turn it is.
What leaves the page and its tasks alone may happen in between. -/
inductive Operates (w₀ : World) : List Act → World → Prop
  | refl : Operates w₀ [] w₀
  | act {acts : List Act} {w : World} (h : Operates w₀ acts w) (a : Act) : Operates w₀ (acts ++ [a]) (w.act a)
  | step {acts : List Act} {w : World} (h : Operates w₀ acts w) : Operates w₀ (acts ++ w.nextAct?.toList) w.step
  | aside {acts : List Act} {w w' : World} (h : Operates w₀ acts w) (hpage : w'.page = w.page)
      (hagenda : w'.agenda = w.agenda) : Operates w₀ acts w'

/-- Whatever happens is such a run. -/
theorem Runs.operates {allowed : Act → Prop} {within : World → Prop} (h : Runs allowed within w₀ w) :
    ∃ acts, w₀.Operates acts w := by
  induction h with
  | refl => exact ⟨[],.refl⟩
  | tail _ hlast ih =>
    obtain ⟨acts,hacts⟩ := ih
    cases hlast.1 with
    | step => exact ⟨_,hacts.step⟩
    | act _ => exact ⟨_,hacts.act _⟩
    | report hr => exact ⟨acts,hacts.aside hr.page hr.agenda⟩
    | keep | hold | addTracker | addSource => exact ⟨acts,hacts.aside rfl rfl⟩

/-- The history after a run is that of the browser after its operations. -/
theorem Operates.history (h : w₀.Operates acts w) (h₀ : w₀.page.history = b₀.history) :
    w.page.history = (acts.foldl Browser.after b₀).history := by
  induction h with
  | refl => exact h₀
  | act _ a ih =>
    rw [List.foldl_append]
    exact act_history ih a
  | step _ ih =>
    rw [List.foldl_append]
    exact step_history ih
  | aside _ hpage _ ih => rw [hpage,ih]

/-- A page that shows a browser. Its entries and their index are those of the browser, so there always is a current
entry. Going leads to the nearest entry on that side and calls those who listen for it; without an entry there it says
so, and nothing else happens. Back undoes a push on the location, and forward undoes back. -/
structure Displays (w : World) (b : Browser) : Prop where
  entries : w.page.history.entries = b.behind.reverse ++ b.current::b.ahead
  index : w.page.history.index = b.behind.length
  located : w.page.history.entries[w.page.history.index]? = some b.current
  size : w.page.history.size = b.behind.length+1+b.ahead.length
  back_none : b.behind = [] → w.back = (false,w)
  back_some : ∀ href behind, b.behind = href::behind → w.back = (true,{ w with
    page := { w.page with history := (⟨behind,href,b.current::b.ahead⟩ : Browser).history }
    agenda := w.page.popState.map popStateTask ++ w.agenda })
  forward_none : b.ahead = [] → w.forward = (false,w)
  forward_some : ∀ href ahead, b.ahead = href::ahead → w.forward = (true,{ w with
    page := { w.page with history := (⟨b.current::b.behind,href,ahead⟩ : Browser).history }
    agenda := w.page.popState.map popStateTask ++ w.agenda })
  back_push : ∀ url, ∃ u, (w.push url).back = (true,u) ∧ u.page.href = w.page.href
  forward_back : ∀ u, w.back = (true,u) → ∃ v, u.forward = (true,v) ∧ v.page = w.page

lemma back_eq (h : w.page.history = b.history) : w.back = w.moveTo (b.back?.map Browser.history) := by
  rw [back,h,b.back?_history]

lemma forward_eq (h : w.page.history = b.history) : w.forward = w.moveTo (b.forward?.map Browser.history) := by
  rw [forward,h,b.forward?_history]

lemma back_push (h : w.page.history = b.history) (url : String) :
    ∃ u, (w.push url).back = (true,u) ∧ u.page.href = w.page.href := by
  have hpushed : (w.push url).page.history = (b.push (w.page.resolve url)).history := by
    change w.page.history.push (w.page.resolve url) = _
    rw [h,b.push_history]
  refine ⟨_,back_eq hpushed,?_⟩
  change (⟨b.behind,b.current,[w.page.resolve url]⟩ : Browser).history.href = w.page.history.href
  rw [h,Browser.href_history,Browser.href_history]

lemma forward_back (h : w.page.history = b.history) {u : World} (hu : w.back = (true,u)) :
    ∃ v, u.forward = (true,v) ∧ v.page = w.page := by
  rw [back_eq h] at hu
  cases hb : b.back? with
  | none =>
    rw [hb] at hu
    cases hu
  | some b' =>
    rw [hb] at hu
    obtain rfl := (Prod.mk.inj hu).2
    have hmoved : (w.moveTo (some b'.history)).2.page.history = b'.history := rfl
    have hforward := forward_eq hmoved
    rw [Browser.forward?_back? hb] at hforward
    refine ⟨_,hforward,?_⟩
    change ({ w.page with history := b.history } : Page) = w.page
    rw [← h]

lemma displays_of_history (h : w.page.history = b.history) : w.Displays b where
  entries := by rw [h]; rfl
  index := by rw [h]; rfl
  located := by rw [h,b.located_history]
  size := by rw [h,b.size_history]
  back_none := by
    obtain ⟨behind,current,ahead⟩ := b
    rintro rfl
    exact back_eq h
  back_some := by
    obtain ⟨behind,current,ahead⟩ := b
    rintro href rest rfl
    exact back_eq h
  forward_none := by
    obtain ⟨behind,current,ahead⟩ := b
    rintro rfl
    exact forward_eq h
  forward_some := by
    obtain ⟨behind,current,ahead⟩ := b
    rintro href rest rfl
    exact forward_eq h
  back_push := fun url => World.back_push h url
  forward_back := fun _ hu => World.forward_back h hu

/-- Whatever happens to a page consists of operations on it, and after any run of them, by its embedder or by listeners
in the middle of a dispatch, the page shows the browser in which they are performed one after the other. -/
theorem session_history (h₀ : w₀.page.history = b₀.history) :
    (∀ w, Runs (fun _ => True) (fun _ => True) w₀ w → ∃ acts, w₀.Operates acts w) ∧
    ∀ acts w, w₀.Operates acts w → w.Displays (acts.foldl Browser.after b₀) := by
  constructor
  · intro w hrun
    exact hrun.operates
  · intro acts w hacts
    exact displays_of_history (hacts.history h₀)

/-- A listener that goes forward again as soon as the page is back at its root. -/
def rebounding : World where
  page :=
    { history := .ofHref "https://a.io/"
      popState := [(1,.listener ⟨"home","io/",[.forward]⟩)] }

/-- The world in which it has done so. -/
def rebounded : World := ((rebounding.act (.push "/a")).act .back).step.step

theorem session_history_rebounding : rebounding.Operates [.push "/a",.back,.forward] rebounded ∧
    rebounded.Displays ⟨["https://a.io/"],"https://a.io/a",[]⟩ := by
  have hacts : rebounding.Operates [.push "/a",.back,.forward] rebounded :=
    ((Operates.refl.act (.push "/a")).act .back).step.step
  refine ⟨hacts,?_⟩
  have hroot : rebounding.page.history = (⟨[],"https://a.io/",[]⟩ : Browser).history := rfl
  have hshown := (session_history hroot).2 _ _ hacts
  have hbrowser : [Act.push "/a",.back,.forward].foldl Browser.after ⟨[],"https://a.io/",[]⟩ =
      ⟨["https://a.io/"],"https://a.io/a",[]⟩ := by decide +kernel
  rwa [hbrowser] at hshown

end World
end PageTelemetry
