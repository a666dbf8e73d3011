import PageTelemetry.Proofs.Sending
import PageTelemetry.World.Embedding

/-! Installing a tracker. An installation is refused, finds a tracker that is exposed already, or brings a new one; in
the first two cases it changes nothing, and a new tracker is exposed before it sends anything: its first request goes
out from a page on which it is exposed. -/
namespace PageTelemetry

namespace Page

lemma lookup_filter_ne {name other : String} (h : other ≠ name) (l : List (String × TrackerId)) :
    (l.filter (·.1 != name)).lookup other = l.lookup other := by
  induction l with
  | nil => rfl
  | cons entry l ih =>
    obtain ⟨key,t⟩ := entry
    by_cases hkey : key = name
    · have hother : (other == key) = false := by simpa [hkey] using h
      rw [List.filter_cons_of_neg (by simp [hkey]),List.lookup_cons,hother,ih]
    · rw [List.filter_cons_of_pos (by simp [hkey]),List.lookup_cons,List.lookup_cons,ih]

/-- Exposing a tracker in one place changes nothing in another. -/
lemma global?_expose (p : Page) (name other : String) (t : TrackerId) :
    (p.expose name t).global? other = if other = name then some t else p.global? other := by
  rw [global?,global?,expose,List.lookup_cons]
  split_ifs with h
  · simp [h]
  · have hother : (other == name) = false := by simpa using h
    rw [hother]
    exact lookup_filter_ne h _

end Page

namespace World
variable {w : World} {c : Config} {st : Settings} {t : TrackerId} {source : Option SourceId} {outlet : OutletId}

/-! What beginning leaves alone. -/

/-- One world and another with the same trackers, outlets and requests, and a page with the same history on which the
same is exposed. -/
structure Steady (w w' : World) : Prop where
  trackers : w'.trackers = w.trackers
  outlets : w'.outlets = w.outlets
  sent : w'.sent = w.sent
  history : w'.page.history = w.page.history
  globals : w'.page.globals = w.page.globals

lemma subscribe_steady (w : World) (s : SourceId) (h : Handler) : w.Steady (w.subscribe s h).2 := by
  rcases w.subscribe_cases s h with ⟨-,e⟩ | ⟨-,e⟩ | e <;> rw [e] <;> exact ⟨rfl,rfl,rfl,rfl,rfl⟩

lemma Steady.trans {w' w'' : World} (h : w.Steady w') (h' : w'.Steady w'') : w.Steady w'' :=
  ⟨h'.trackers.trans h.trackers,h'.outlets.trans h.outlets,h'.sent.trans h.sent,h'.history.trans h.history,
    h'.globals.trans h.globals⟩

/-- A tracker begins with a page view; nothing is sent after it. -/
lemma start_steady (w : World) (t : TrackerId) (source : Option SourceId) :
    (w.trackPageView t).2.Steady (w.start t source) := by
  refine start_invariant ⟨rfl,rfl,rfl,rfl,rfl⟩ ?_ ?_ source
  · exact fun u hu => hu.trans ⟨rfl,rfl,rfl,rfl,rfl⟩
  · exact fun u s hu => hu.trans (u.subscribe_steady s _)

/-- What a new tracker sends at once: a page view, if the document is complete and its outlet accepts anything. The
tracker is exposed at that moment. -/
def firstSent (w : World) (st : Settings) (outlet : OutletId) : List Delivery :=
  if w.page.ready = .complete then
    ((w.outlets[outlet]?).filter Outlet.accepts).toList.map fun _ =>
      ⟨w.trackers.length,outlet,.ofPayload st (.build st.siteKey st.includeQuery w.ambient none),
        some w.trackers.length⟩
  else []

/-- An installation that brings a new tracker, with its settings and its outlet. It is exposed, and was so before it
sent its page view, which is all that is sent. The other trackers, the outlets, the location and what else is exposed
stay as they are. -/
structure Installed (w : World) (st : Settings) (outlet : OutletId) (r : Option TrackerId × World) : Prop where
  result : r.1 = some w.trackers.length
  exposed : r.2.page.global? Page.namespaceName = some w.trackers.length
  sent : r.2.sent = w.sent ++ w.firstSent st outlet
  newcomer : ∃ i, r.2.trackers[w.trackers.length]? = some i ∧ i.tracker.settings = st ∧ i.outlet = outlet
  trackers : ∀ id < w.trackers.length, r.2.trackers[id]? = w.trackers[id]?
  globals : ∀ name, name ≠ Page.namespaceName → r.2.page.global? name = w.page.global? name
  outlets : r.2.outlets = w.outlets
  history : r.2.page.history = w.page.history

lemma global?_enroll (w : World) (st : Settings) (outlet : OutletId) (name : String) :
    (w.enroll st outlet).page.global? name =
      if name = Page.namespaceName then some w.trackers.length else w.page.global? name :=
  Page.global?_expose w.page _ name _

lemma enroll_tracker (w : World) (st : Settings) (outlet : OutletId) :
    (w.enroll st outlet).trackers[w.trackers.length]? = some ⟨.ofSettings st,outlet⟩ := by
  simp [enroll,addTracker,modifyPage]

/-- A new tracker has not seen any page yet, so it reports the first one; it is exposed by then. -/
lemma enroll_sent (w : World) (st : Settings) (outlet : OutletId) (hready : w.page.ready = .complete) :
    ((w.enroll st outlet).trackPageView w.trackers.length).2.sent = w.sent ++ w.firstSent st outlet := by
  have hexposed : (w.enroll st outlet).page.global? Page.namespaceName = some w.trackers.length := by
    rw [global?_enroll,if_pos rfl]
  have hnew : (Tracker.ofSettings st).lastPath ≠ some (Location.path w.ambient.href st.includeQuery) := by
    simp [Tracker.ofSettings]
  have hviews : (Tracker.ofSettings st).trackPageView (w.enroll st outlet).ambient (w.enroll st outlet).clock.now =
      (some (.build st.siteKey st.includeQuery w.ambient none),_) := if_neg hnew
  have hdelivery (r : Request) : (w.enroll st outlet).delivery w.trackers.length outlet r =
      ⟨w.trackers.length,outlet,r,some w.trackers.length⟩ := by rw [delivery,hexposed]
  have houtlets : (w.enroll st outlet).outlets = w.outlets := rfl
  simp only [trackPageView,report,enroll_tracker,hviews,deliver,firstSent,if_pos hready,houtlets]
  cases w.outlets[outlet]? with
  | none => exact (List.append_nil _).symm
  | some o =>
    rw [Option.filter_some]
    dsimp only
    split_ifs with haccepts
    · exact congrArg (fun d => w.sent ++ [d]) (hdelivery _)
    · exact (List.append_nil _).symm

/-- The first page view of a new tracker. -/
lemma enroll_views (w : World) (st : Settings) (outlet : OutletId) :
    let v := ((w.enroll st outlet).trackPageView w.trackers.length).2
    v.page = (w.enroll st outlet).page ∧ v.outlets = w.outlets ∧
      (∃ i, v.trackers[w.trackers.length]? = some i ∧ i.tracker.settings = st ∧ i.outlet = outlet) ∧
      ∀ id < w.trackers.length, v.trackers[id]? = w.trackers[id]? := by
  have hi := w.enroll_tracker st outlet
  have htrackers := report_trackers (f := Tracker.trackPageView) hi
  refine ⟨report_page _ _,?_,?_,fun id hid => ?_⟩
  · obtain ⟨_,_,_,-,e⟩ := (w.enroll st outlet).report_reported w.trackers.length Tracker.trackPageView
    rw [trackPageView,e]
    rfl
  · have hlt := (List.getElem?_eq_some_iff.mp hi).1
    refine ⟨_,by rw [trackPageView,htrackers,List.getElem?_set_self hlt],?_,rfl⟩
    exact Tracker.trackPageView_truthful.settings ..
  · rw [trackPageView,htrackers,List.getElem?_set_ne (by omega)]
    exact List.getElem?_append_left hid

/-- What is admitted is installed. -/
theorem installed_of_admits (h : w.Admits c st) (source : Option SourceId) (outlet : OutletId) :
    w.Installed st outlet (w.install c source outlet) := by
  have hglobals (name : String) := w.global?_enroll st outlet name
  rw [install_admitted h]
  by_cases hready : w.page.ready = .complete
  · rw [if_pos hready]
    obtain ⟨hpage,houtlets,⟨i,hi,hst,hout⟩,htrackers⟩ := w.enroll_views st outlet
    have hsteady := (w.enroll st outlet).start_steady w.trackers.length source
    have hkept (name : String) : ((w.enroll st outlet).start w.trackers.length source).page.global? name =
        (w.enroll st outlet).page.global? name := by
      rw [Page.global?,hsteady.globals,hpage]
      rfl
    exact {
      result := rfl
      exposed := by rw [hkept,hglobals,if_pos rfl]
      sent := by rw [hsteady.sent,enroll_sent w st outlet hready]
      newcomer := ⟨i,by rw [hsteady.trackers,hi],hst,hout⟩
      trackers := fun id hid => by rw [hsteady.trackers,htrackers id hid]
      globals := fun name hname => by rw [hkept,hglobals,if_neg hname]
      outlets := by rw [hsteady.outlets,houtlets]
      history := by rw [hsteady.history,hpage]; rfl }
  · rw [if_neg hready]
    exact {
      result := rfl
      exposed := (hglobals _).trans (if_pos rfl)
      sent := by rw [firstSent,if_neg hready,List.append_nil]; rfl
      newcomer := ⟨_,w.enroll_tracker st outlet,rfl,rfl⟩
      trackers := fun id hid => List.getElem?_append_left hid
      globals := fun name hname => (hglobals name).trans (if_neg hname)
      outlets := rfl
      history := rfl }

/-! What an installation hands out. -/

/-- Without a new tracker nothing is handed out if tracking is disabled, or nothing is exposed and no settings come of
the configuration. -/
lemma found?_eq_none_iff (h : ∀ st, ¬w.Admits c st) : w.found? c = none ↔
    c.enabled = false ∨ w.page.global? Page.namespaceName = none ∧ ∃ e, c.resolve = .error e := by
  unfold found?
  cases henabled : c.enabled with
  | false => simp
  | true =>
    rw [if_pos rfl]
    refine ⟨fun hvacant => .inr ⟨hvacant,?_⟩,fun h => (h.resolve_left (by simp)).1⟩
    cases hresolved : c.resolve with
    | error e => exact ⟨e,rfl⟩
    | ok st => exact absurd ⟨henabled,hvacant,hresolved⟩ (h st)

lemma install_eq_none_iff (w : World) (c : Config) (source : Option SourceId) (outlet : OutletId) :
    (w.install c source outlet).1 = none ↔
      c.enabled = false ∨ w.page.global? Page.namespaceName = none ∧ ∃ e, c.resolve = .error e := by
  by_cases h : ∃ st, w.Admits c st
  · obtain ⟨st,hst⟩ := h
    rw [install_admitted hst]
    simp [hst.enabled,hst.resolved]
  · rw [install_refused (not_exists.mp h)]
    exact found?_eq_none_iff (not_exists.mp h)

lemma install_finds_iff (w : World) (c : Config) (source : Option SourceId) (outlet : OutletId) (t : TrackerId) :
    w.page.global? Page.namespaceName = some t ∧ (w.install c source outlet).1 = some t ↔
      c.enabled = true ∧ w.page.global? Page.namespaceName = some t := by
  rw [and_comm]
  refine and_congr_left fun hexposed => ?_
  have hoccupied : ∀ st, ¬w.Admits c st := by
    intro st hst
    rw [hst.vacant] at hexposed
    cases hexposed
  rw [install_refused hoccupied,found?,hexposed]
  cases c.enabled <;> simp

/-! Embedding a script. -/

lemma newcomer?_eq_some_iff : w.newcomer? c = some st ↔ w.Admits c st := by
  have hresolved : c.resolve.toOption = some st ↔ c.resolve = .ok st := by cases c.resolve <;> simp [Except.toOption]
  unfold newcomer?
  split_ifs with h
  · rw [Bool.and_eq_true,Option.isNone_iff_eq_none] at h
    exact hresolved.trans ⟨fun hst => ⟨h.1,h.2,hst⟩,Admits.resolved⟩
  · constructor
    · intro hnone
      cases hnone
    · intro hst
      exact absurd (by simp [hst.enabled,hst.vacant]) h

/-- The world with one more outlet, as it is chosen for the settings of a tracker. -/
def equip (w : World) (st : Settings) (spawns : Bool) : World :=
  { w with outlets := w.outlets ++ [{ transport := .select st spawns }] }

/-- An embedded script that gets no new tracker leaves nothing behind. -/
lemma embed_refused {tag : ScriptTag} {files : Config.Files} {e : Config.Environment}
    (hc : Config.layered tag files e = .ok c) (h : ∀ st, ¬w.Admits c st) (spawns : Bool) :
    w.embed tag files e spawns = (w.found? c,w) := by
  have hnone : w.newcomer? c = none :=
    Option.eq_none_iff_forall_ne_some.mpr fun st hst => h st (newcomer?_eq_some_iff.mp hst)
  have hsame : ({ w with outlets := w.outlets ++ [] } : World) = w := by rw [List.append_nil]
  unfold embed
  rw [hc]
  dsimp only
  rw [hnone,Option.map_none,Option.toList_none,hsame,install_refused h]

lemma embed_admitted {tag : ScriptTag} {files : Config.Files} {e : Config.Environment}
    (hc : Config.layered tag files e = .ok c) (h : w.Admits c st) (spawns : Bool) :
    (w.equip st spawns).Installed st w.outlets.length (w.embed tag files e spawns) := by
  have hinstalled := installed_of_admits (w := w.equip st spawns) ⟨h.enabled,h.vacant,h.resolved⟩ none w.outlets.length
  unfold embed
  rw [hc]
  dsimp only
  rw [newcomer?_eq_some_iff.mpr h]
  exact hinstalled

/-- An installation is whole or not at all. It hands out nothing exactly if tracking is disabled, or nothing is exposed
and no settings come of the configuration; it hands out what is exposed exactly if tracking is enabled; in all these
cases nothing changes; and else a new tracker is installed, and exposed before it sends anything. With a script it is
the same, and nothing changes either if its configuration cannot be loaded; a transport is chosen for a new tracker
only. -/
theorem install_whole (w : World) (c : Config) (source : Option SourceId) (outlet : OutletId) :
    ((w.install c source outlet).1 = none ↔
      c.enabled = false ∨ w.page.global? Page.namespaceName = none ∧ ∃ e, c.resolve = .error e) ∧
    (∀ t, w.page.global? Page.namespaceName = some t ∧ (w.install c source outlet).1 = some t ↔
      c.enabled = true ∧ w.page.global? Page.namespaceName = some t) ∧
    ((∀ st, ¬w.Admits c st) → (w.install c source outlet).2 = w) ∧
    (∀ st, w.Admits c st → w.Installed st outlet (w.install c source outlet)) ∧
    ∀ tag files e spawns,
      (∀ err, Config.layered tag files e = .error err → w.embed tag files e spawns = (none,w)) ∧
      ∀ c, Config.layered tag files e = .ok c →
        ((∀ st, ¬w.Admits c st) → w.embed tag files e spawns = (w.found? c,w)) ∧
        ∀ st, w.Admits c st → (w.equip st spawns).Installed st w.outlets.length (w.embed tag files e spawns) := by
  refine ⟨w.install_eq_none_iff c source outlet,w.install_finds_iff c source outlet,fun h => ?_,
    fun st h => installed_of_admits h source outlet,fun tag files e spawns => ⟨fun err herr => ?_,fun c hc =>
      ⟨fun h => embed_refused hc h spawns,fun st h => embed_admitted hc h spawns⟩⟩⟩
  · rw [install_refused h]
  · unfold embed
    rw [herr]

/-- A page that has no tracker yet. -/
def untenanted : World where
  page := { history := .ofHref "https://a.io/", ready := .complete }
  outlets := [{ transport := .recording }]

def tenancy : Config := { siteKey := some "k", apiUrl := some "https://h.io" }

/-- A page that has a tracker. -/
def tenanted : World := (untenanted.install tenancy none 0).2

/-- A new tracker sends its first request when it is exposed. It is handed out again for a configuration that names no
site, and is not for one that is disabled; and a script with another site key does not even bring an outlet. -/
theorem install_whole_tenanted :
    (∃ r, tenanted.sent = [⟨0,0,r,some 0⟩] ∧ tenanted.page.global? Page.namespaceName = some 0) ∧
    tenanted.install {} none 0 = (some 0,tenanted) ∧
    tenanted.install { enabled := false } none 0 = (none,tenanted) ∧
    tenanted.embed ⟨"https://a.io/t.js",[("data-site-key","other")]⟩ {} {} = (some 0,tenanted) := by
  obtain ⟨st,hst⟩ : ∃ st, untenanted.Admits tenancy st := ⟨_,rfl,rfl,rfl⟩
  obtain ⟨-,-,-,hinstalled,-⟩ := untenanted.install_whole tenancy none 0
  have hsent := (hinstalled st hst).sent
  have hexposed := (hinstalled st hst).exposed
  have hoccupied (c : Config) : ∀ st, ¬tenanted.Admits c st := by
    intro st hst
    exact absurd (hst.vacant.symm.trans hexposed) (Option.some_ne_none _).symm
  obtain ⟨-,hfinds,hrefused,-,hembed⟩ := tenanted.install_whole {} none 0
  obtain ⟨hnone,-,hrefused',-⟩ := tenanted.install_whole { enabled := false } none 0
  obtain ⟨c,hc,hon⟩ : ∃ c, Config.layered ⟨"https://a.io/t.js",[("data-site-key","other")]⟩ {} {} = .ok c ∧
      c.enabled = true := ⟨_,by rfl,by rfl⟩
  have hfound := ((hembed _ _ _ true).2 c hc).1 (hoccupied c)
  refine ⟨⟨_,hsent,hexposed⟩,?_,?_,?_⟩
  · exact Prod.ext ((hfinds 0).mpr ⟨rfl,hexposed⟩).2 (hrefused (hoccupied _))
  · exact Prod.ext (hnone.mpr (.inl rfl)) (hrefused' (hoccupied _))
  · rw [hfound,found?,if_pos hon]
    exact congrArg (·,tenanted) hexposed

end World
end PageTelemetry
