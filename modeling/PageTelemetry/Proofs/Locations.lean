import PageTelemetry.Page
import PageTelemetry.Proofs.Url.Alike

/-! Locations that differ in nothing that counts. A page is led from them to such locations again, and path, campaign
and what becomes of a referrer are the same. -/
namespace PageTelemetry

/-- Two texts, one and the same or of web URLs that differ in nothing that counts. -/
inductive Twins (m : Bool) : String → String → Prop
  | same (a : String) : Twins m a a
  | read {a a' : String} {u u' : Url} (h : Url.parse a = .ok u) (h' : Url.parse a' = .ok u') (halike : u.Alike m u') :
    Twins m a a'
  /-- Nothing is read of either. -/
  | unread {a a' : String} {e : Url.Error}
      (h : ∀ base, Url.readChars base a.toList = .error e ∧ Url.readChars base a'.toList = .error e) : Twins m a a'

/-- A text that begins with a scheme and two slashes, and so is read alike wherever it stands. -/
def Url.isAbsolute (text : String) : Bool :=
  match splitScheme (Reference.ofChars (cleaned text.toList)).front with
  | some (_,'/' :: '/' :: _) => true
  | _ => false

/-- Two texts that a page is led by, one and the same or of web URLs that differ in nothing that counts. -/
inductive Leads (m : Bool) : String → String → Prop
  | same (a : String) : Leads m a a
  | absolute {a a' : String} {u u' : Url} (ha : Url.isAbsolute a = true) (ha' : Url.isAbsolute a' = true)
      (h : Url.parse a = .ok u) (h' : Url.parse a' = .ok u') (halike : u.Alike m u') : Leads m a a'

lemma Leads.twins {m : Bool} {a a' : String} (h : Leads m a a') : Twins m a a' := by
  cases h with
  | same => exact .same a
  | absolute _ _ h h' halike => exact .read h h' halike

namespace Twins
open Url
variable {m : Bool} {a a' href href' : String} {u u' : Url}

/-- The texts of URLs that differ in nothing that counts. -/
lemma text (h : Alike m u u') (hu : u.IsWeb) (hu' : u'.IsWeb) : Twins m u.text u'.text := by
  rcases h.read hu hu' with ⟨e,he⟩ | ⟨v,v',hv,halike⟩
  · exact .unread he
  · exact .read (hv none).1 (hv none).2 halike

/-- The text of what was read, or the text it was to be read from. -/
def textOr (a : String) : Except Url.Error Url → String
  | .error _ => a
  | .ok u => u.text

lemma of_readAlike {r r' : Except Url.Error Url} (h : ReadAlike m r r') (a : String) :
    Twins m (textOr a r) (textOr a r') := by
  rcases h with ⟨e,e',rfl,rfl⟩ | ⟨v,v',rfl,rfl,rfl | ⟨halike,hv,hv'⟩⟩
  · exact .same a
  · exact .same _
  · exact .text halike hv hv'

lemma resolveFrom_read {base : Url} (h : Url.parse href = .ok base) (a : String) :
    Page.resolveFrom href a = textOr a (base.join a) := by
  rw [Page.resolveFrom,h]
  dsimp only
  cases base.join a <;> rfl

lemma resolveFrom_unread {e : Url.Error} (h : Url.parse href = .error e) (a : String) :
    Page.resolveFrom href a = a := by
  rw [Page.resolveFrom,h]

/-- An absolute URL leads to itself. -/
lemma join_absolute (ha : isAbsolute a = true) (h : Url.parse a = .ok u) (hhttp : u.isHttp = true) (base : Url) :
    base.join a = .ok u := by
  obtain ⟨scheme,raw,rest,query,fragment,hr,hsplit,hread⟩ := parse_ok h
  obtain ⟨hcuts,hlast⟩ := behind_ofChars hr
  obtain ⟨rfl,-⟩ := readScheme_ok hread hcuts hlast
  obtain ⟨hspecial,hfile⟩ := isSpecialScheme_of_isHttp hhttp
  obtain ⟨rest,rfl⟩ : ∃ tail, rest = '/' :: '/' :: tail := by
    rw [isAbsolute,hr] at ha
    dsimp only at ha
    rw [hsplit] at ha
    split at ha
    · rename_i tail heq
      exact ⟨tail,(Prod.mk.inj (Option.some.inj heq)).2⟩
    · cases ha
  rw [readScheme_web hspecial hfile] at hread
  rw [Url.join,readChars,hr]
  dsimp only
  rw [hsplit]
  exact (readScheme_web hspecial hfile _ _ _).trans hread

/-- Where two texts lead to from two locations. -/
theorem resolve (h : Twins m href href') (ha : Leads m a a') :
    Twins m (Page.resolveFrom href a) (Page.resolveFrom href' a') := by
  cases ha with
  | same =>
    cases h with
    | same => exact .same _
    | read h h' halike =>
      rw [resolveFrom_read h,resolveFrom_read h']
      exact of_readAlike (halike.join (isWeb_of_parse h halike.http) (isWeb_of_parse h' halike.http') a) a
    | unread h =>
      rw [resolveFrom_unread (h none).1,resolveFrom_unread (h none).2]
      exact .same a
  | absolute ha ha' hu hu' halike =>
    have hraw : Twins m a a' := .read hu hu' halike
    have hread {base base' : Url} (h : Url.parse href = .ok base) (h' : Url.parse href' = .ok base') :
        Twins m (Page.resolveFrom href a) (Page.resolveFrom href' a') := by
      rw [resolveFrom_read h,resolveFrom_read h',join_absolute ha hu halike.http,join_absolute ha' hu' halike.http']
      exact text halike (isWeb_of_parse hu halike.http) (isWeb_of_parse hu' halike.http')
    cases h with
    | same =>
      cases hbase : Url.parse href with
      | error e => rwa [resolveFrom_unread hbase,resolveFrom_unread hbase]
      | ok base => exact hread hbase hbase
    | read h h' _ => exact hread h h'
    | unread h => rwa [resolveFrom_unread (h none).1,resolveFrom_unread (h none).2]

end Twins

/-! What a location says. -/

namespace Url
variable {m : Bool} {u u' : Url}

lemma Alike.pathOf (h : Alike m u u') {includeQuery : Bool} (hm : includeQuery = true → m = true) :
    Location.pathOf u includeQuery = Location.pathOf u' includeQuery := by
  have htext : u'.pathText = u.pathText := by rw [h.others]; rfl
  cases includeQuery with
  | false =>
    have hpath (u : Url) : Location.pathOf u false = u.pathText := by
      unfold Location.pathOf
      split <;> simp
    rw [hpath,hpath,htext]
  | true => rw [Location.pathOf,Location.pathOf,h.query (hm rfl),htext]

/-- Only its own pairs count for a campaign. -/
lemma ofPairs_queryPairs (u : Url) : Campaign.ofPairs u.queryPairs = Campaign.ofPairs u.campaignPairs := by
  rw [campaignPairs,Campaign.ofPairs,Campaign.ofPairs,List.foldl_filter]
  congr 1
  funext c pair
  split_ifs with h
  · rfl
  · simp only [decide_eq_true_eq,not_or] at h
    rw [Campaign.note,if_neg h.1,if_neg h.2.1,if_neg h.2.2]

end Url

namespace Twins
variable {m : Bool} {href href' : String}

lemma read? (h : Twins m href href') : Location.read? href = Location.read? href' ∨
    ∃ u u', Location.read? href = some u ∧ Location.read? href' = some u' ∧ u.Alike m u' := by
  cases h with
  | same => exact .inl rfl
  | read h h' halike => exact .inr ⟨_,_,by rw [Location.read?,h],by rw [Location.read?,h'],halike⟩
  | unread h =>
    refine .inl ?_
    have hread : Url.parse href = Url.parse href' := (h none).1.trans (h none).2.symm
    have hjoin : Location.localUrl.join href = Location.localUrl.join href' :=
      (h (some Location.localUrl)).1.trans (h (some Location.localUrl)).2.symm
    rw [Location.read?,Location.read?,hread,hjoin]

/-- The path is the same, unless queries are wanted that do not count. -/
theorem path (h : Twins m href href') {includeQuery : Bool} (hm : includeQuery = true → m = true) :
    Location.path href includeQuery = Location.path href' includeQuery := by
  rcases h.read? with h | ⟨u,u',hu,hu',halike⟩
  · rw [Location.path,Location.path,h]
  · rw [Location.path,Location.path,hu,hu']
    exact halike.pathOf hm

theorem campaign (h : Twins m href href') : Campaign.ofHref href = Campaign.ofHref href' := by
  rcases h.read? with h | ⟨u,u',hu,hu',halike⟩
  · rw [Campaign.ofHref,Campaign.ofHref,h]
  · rw [Campaign.ofHref,Campaign.ofHref,hu,hu']
    dsimp only
    rw [u.ofPairs_queryPairs,u'.ofPairs_queryPairs,halike.campaign]

theorem normalizeReferrer (h : Twins m href href') (referrer : String) :
    Location.normalizeReferrer referrer href = Location.normalizeReferrer referrer href' := by
  have hhost : Location.sameHost (Text.trim referrer) href = Location.sameHost (Text.trim referrer) href' := by
    rcases h.read? with h | ⟨u,u',hu,hu',halike⟩
    · rw [Location.sameHost,Location.sameHost,h]
    · have htext : u'.hostText? = u.hostText? := by rw [halike.others]; rfl
      rw [Location.sameHost,Location.sameHost,hu,hu']
      cases Url.parse (Text.trim referrer) with
      | error e => rfl
      | ok a =>
        dsimp only
        rw [htext]
  rw [Location.normalizeReferrer,Location.normalizeReferrer,hhost]

end Twins

end PageTelemetry
