import PageTelemetry.Proofs.Browsing
import PageTelemetry.Proofs.Locations
import PageTelemetry.Proofs.Routing
import PageTelemetry.Proofs.Url.Joining

/-! Where navigation leads. A page resolves a URL against its location, and a payload reports the path of the location
that comes of it: at an absolute location this is the path of the URL that was joined, over any number of references
one after the other. A bare path is a location for payloads only. -/
namespace PageTelemetry
open Url

/-- The URL that an operation leads a page by. -/
def Act.led? : Act → Option String
  | .push url | .replace url | .setHref url => some url
  | _ => none

/-- Where references lead, each read at the URL that the last one led to. A name that is not plain ASCII is taken to be
one that is mapped to itself, as what is mapped to ASCII is. -/
inductive Url.Reaches : Url → List String → Url → Prop
  | nil (b : Url) : Reaches b [] b
  | cons {b u t : Url} {url : String} {urls : List String} (hjoin : b.join url = .ok u)
      (hname : ∀ name, u.host = some (.domain name) → Domain.isSimple name = false → Domain.Settled name)
      (h : Reaches u urls t) : Reaches b (url::urls) t

namespace Location
variable {href url : String} {b t u : Url}

lemma path_of_parse (h : Url.parse href = .ok t) (q : Bool) : path href q = pathOf t q := by
  rw [path,read?,h]

lemma pathOf_congr (hpath : u.path = t.path) (hquery : u.query = t.query) (q : Bool) : pathOf u q = pathOf t q := by
  rw [pathOf,pathOf,pathText,pathText,hpath,hquery]

/-- What is no absolute URL is a reference on the local host. -/
lemma read?_bare {e : Url.Error} (h : Url.parse href = .error e) (hread : read? href = some b) :
    b.scheme = localUrl.scheme ∧ b.isRootless = false := by
  rw [read?,h] at hread
  cases hjoin : localUrl.join href with
  | error e' => rw [hjoin] at hread; cases hread
  | ok u =>
    rw [hjoin] at hread
    obtain rfl : u = b := Option.some.inj hread
    exact join_segments (by decide) rfl h hjoin

/-- A reference that begins with a slash has one path, be it read at a bare path or on its own. -/
lemma path_rooted {e : Url.Error} (h : Url.parse href = .error e) (hread : read? href = some b)
    (hurl : isRooted url = true) (hjoin : b.join url = .ok t) (q : Bool) : path url q = pathOf t q := by
  obtain ⟨hscheme,hrooted⟩ := read?_bare h hread
  have hfile : isFileScheme b.scheme = false := by rw [hscheme]; decide
  have hspecial : isSpecialScheme b.scheme = true := by rw [hscheme]; decide
  obtain ⟨u,hu,hpath,hquery⟩ := join_rooted hurl hfile hspecial hscheme.symm hrooted rfl hjoin
  rw [path,read?,(isRooted_cases hurl).1,hu]
  exact pathOf_congr hpath hquery q

end Location

namespace World
variable {w : World} {a : Act} {url : String} {b t : Url}

/-- A navigation leads to where its URL is resolved to, and the page stays inside its history. -/
lemma act_led (hinside : w.page.history.index < w.page.history.entries.length) (ha : a.led? = some url) :
    (w.act a).page.href = Page.resolveFrom w.page.href url ∧
    (w.act a).page.history.index < (w.act a).page.history.entries.length := by
  obtain ⟨browser,hbrowser⟩ := (History.inside_iff _).mp hinside
  have hact := act_history hbrowser a
  refine ⟨?_,(History.inside_iff _).mpr ⟨_,hact⟩⟩
  have hhref : w.page.href = browser.current := by rw [Page.href,hbrowser,browser.href_history]
  rw [Page.href,hact,Browser.href_history,hhref]
  cases a with
  | push _ | replace _ | setHref _ => rw [← Option.some.inj ha]; rfl
  | _ => cases ha

/-- At an absolute location a page goes where the reference leads, and is at an absolute location again. -/
lemma act_absolute (hinside : w.page.history.index < w.page.history.entries.length) (ha : a.led? = some url)
    (hb : Url.parse w.page.href = .ok b) (hjoin : b.join url = .ok t)
    (hname : ∀ name, t.host = some (.domain name) → Domain.isSimple name = false → Domain.Settled name) :
    Url.parse (w.act a).page.href = .ok t := by
  rw [(act_led hinside ha).1,Twins.resolveFrom_read hb,hjoin]
  exact parse_text_of_join hb hjoin (isSettled_of_tables hname)

/-- A run of navigations from an absolute location. -/
theorem acts_absolute {urls : List String} (h : b.Reaches urls t) : ∀ {w : World} {acts : List Act},
    w.page.history.index < w.page.history.entries.length → acts.map Act.led? = urls.map some →
    Url.parse w.page.href = .ok b → Url.parse (acts.foldl act w).page.href = .ok t := by
  induction h with
  | nil b =>
    intro w acts hinside hacts hb
    obtain rfl := List.map_eq_nil_iff.mp hacts
    exact hb
  | cons hjoin hname _ ih =>
    intro w acts hinside hacts hb
    obtain ⟨a,acts,rfl,ha,hacts⟩ := List.map_eq_cons_iff.mp hacts
    rw [List.foldl_cons]
    exact ih (act_led hinside ha).2 hacts (act_absolute hinside ha hb hjoin hname)

/-- Where navigation leads. From an absolute location, any number of references lead where they lead one after the
other, and the path that is reported is that of the URL they lead to. From a bare path, which is no base for a page, a
URL leads to itself: what is reported is the path that it leads to if it begins with a slash or is absolute. -/
theorem navigation_path (hinside : w.page.history.index < w.page.history.entries.length) :
    (∀ b (acts : List Act) urls t, Url.parse w.page.href = .ok b → acts.map Act.led? = urls.map some →
      b.Reaches urls t → Url.parse (acts.foldl act w).page.href = .ok t ∧
      ∀ q, Location.path (acts.foldl act w).page.href q = Location.pathOf t q) ∧
    ∀ e b a url t, Url.parse w.page.href = .error e → Location.read? w.page.href = some b → a.led? = some url →
      b.join url = .ok t → (w.act a).page.href = url ∧
      (isRooted url = true ∨ Url.parse url = .ok t →
        ∀ q, Location.path (w.act a).page.href q = Location.pathOf t q) := by
  constructor
  · intro b acts urls t hb hacts hreaches
    have hparse := acts_absolute hreaches hinside hacts hb
    exact ⟨hparse,Location.path_of_parse hparse⟩
  · intro e b a url t hbare hread ha hjoin
    have hhref : (w.act a).page.href = url := by rw [(act_led hinside ha).1,Twins.resolveFrom_unread hbare]
    refine ⟨hhref,fun hurl q => ?_⟩
    rw [hhref]
    rcases hurl with hrooted | hparse
    · exact Location.path_rooted hbare hread hrooted hjoin q
    · exact Location.path_of_parse hparse q

/-- A page at a location. -/
def located (href : String) : World where
  page := { history := .ofHref href }

/-- A URL on a host. -/
def urlOn (scheme host : String) (names : List String) (query : Option String) : Url where
  scheme := scheme.toList
  username := []
  password := []
  host := some (.domain host.toList)
  port := none
  path := .segments (names.map String.toList)
  query := query.map String.toList
  fragment := none

/-- A query and then a relative path, and a path alone at a bare one. -/
theorem navigation_path_relative :
    Location.path ([Act.push "?tab=2",.setHref "../setup"].foldl act (located "https://a.io/docs/intro")).page.href
      true = "/setup" ∧
    Location.path ((located "/docs/intro").act (.replace "/setup?tab=2")).page.href true = "/setup?tab=2" := by
  have hinside (href : String) : (located href).page.history.index < (located href).page.history.entries.length :=
    Nat.one_pos
  constructor
  · have hb : Url.parse "https://a.io/docs/intro" = .ok (urlOn "https" "a.io" ["docs","intro"] none) := by
      decide +kernel
    have hname (names : List String) (query : Option String) : ∀ name,
        (urlOn "https" "a.io" names query).host = some (.domain name) → Domain.isSimple name = false →
          Domain.Settled name := by
      rintro name h hsimple
      obtain rfl := Host.domain.inj (Option.some.inj h)
      exact absurd hsimple (by decide +kernel)
    have hreaches : (urlOn "https" "a.io" ["docs","intro"] none).Reaches ["?tab=2","../setup"]
        (urlOn "https" "a.io" ["setup"] none) := by
      refine .cons (u := urlOn "https" "a.io" ["docs","intro"] (some "tab=2")) (by decide +kernel) (hname _ _) ?_
      exact .cons (by decide +kernel) (hname _ _) (.nil _)
    rw [((navigation_path (hinside _)).1 _ _ _ _ hb rfl hreaches).2]
    decide
  · have hjoin : (urlOn "http" "localhost" ["docs","intro"] none).join "/setup?tab=2" =
        .ok (urlOn "http" "localhost" ["setup"] (some "tab=2")) := by decide +kernel
    have hled := (navigation_path (w := located "/docs/intro") (hinside _)).2 .noBase _ (.replace "/setup?tab=2") _ _
      (by decide +kernel) (by decide +kernel) rfl hjoin
    rw [hled.2 (.inl (by decide +kernel))]
    decide

/-- At a bare path, a query alone leads away from it. -/
theorem navigation_path_bare : ∃ b t, Location.read? (located "/docs/intro").page.href = some b ∧
    b.join "?tab=2" = .ok t ∧ Location.pathOf t true = "/docs/intro?tab=2" ∧
    ∀ a ∈ [Act.push "?tab=2",.replace "?tab=2",.setHref "?tab=2"],
      Location.path ((located "/docs/intro").act a).page.href true = "/?tab=2" := by
  refine ⟨urlOn "http" "localhost" ["docs","intro"] none,urlOn "http" "localhost" ["docs","intro"] (some "tab=2"),?_⟩
  decide +kernel

end World
end PageTelemetry
