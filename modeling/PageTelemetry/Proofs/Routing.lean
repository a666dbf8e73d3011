import PageTelemetry.Delivery
import PageTelemetry.Proofs.Url.Route

/-! Where requests go. The routes of the collector lie below the base that a tracker is configured with. -/
namespace PageTelemetry
open Url
variable {c : Config} {s : Settings} {u v : Url}

/-- The names of a route of the collector. -/
def Payload.Endpoint.names : Payload.Endpoint → List (List Char)
  | .collect => ["api".toList,"collect".toList]
  | .event => ["api".toList,"event".toList]

lemma Payload.Endpoint.path_eq (e : Payload.Endpoint) : e.path = String.ofList (routeText e.names) := by
  cases e <;> decide

lemma Payload.Endpoint.isRoute (e : Payload.Endpoint) : IsRoute e.names := by
  have hsegment : ∀ name ∈ e.names, IsSegment true name := by
    intro name hname
    have hparts : Text.Free Percent.inPath name ∧ Text.Free (isSlash true) name ∧ isSingleDot name = false ∧
        isDoubleDot name = false := by
      revert name
      cases e <;> decide
    exact ⟨hparts.1,hparts.2.1,hparts.2.2.1,hparts.2.2.2⟩
  cases e <;> exact ⟨⟨hsegment,by decide⟩,_,_,_,rfl⟩

lemma Config.resolve_ok (h : c.resolve = .ok s) : ∃ u, Url.parse s.apiUrl = .ok u := by
  unfold resolve at h
  split at h
  · cases h
  · dsimp only at h
    split_ifs at h
    split at h
    · cases h
    · rename_i u hu
      obtain rfl := Except.ok.inj h
      exact ⟨u,hu⟩

/-- Names that no table has to be asked about are settled anyway. -/
lemma isSettled_of_tables (h : ∀ name, u.host = some (.domain name) → Domain.isSimple name = false →
    Domain.Settled name) : u.IsSettled := by
  intro name hname
  cases hsimple : Domain.isSimple name with
  | true => exact Domain.settled_of_isSimple hsimple
  | false => exact h name hname hsimple

/-- A configuration that resolves names a URL. If a route can be put behind its text, requests go to a URL with the
scheme, the host and the port of that URL; its path is the one of that URL, without a last slash, and then the route;
and the site key is another pair of its query. A name that is not plain ASCII is taken to be one that is mapped to
itself, as what is mapped to ASCII is. -/
theorem Request.endpointUrl_below (hst : c.resolve = .ok s) : ∃ u, Url.parse s.apiUrl = .ok u ∧
    (IsOpen (isSpecialScheme u.scheme) s.apiUrl.toList →
      (∀ name, u.host = some (.domain name) → Domain.isSimple name = false → Domain.Settled name) →
      ∀ e, ∃ v, Url.parse (endpointUrl s.apiUrl s.siteKey e) = .ok v ∧
        v.scheme = u.scheme ∧ v.host = u.host ∧ v.port = u.port ∧
        v.path.write = withoutSlash u.path.write ++ e.path.toList ∧
        v = ({ u with path := v.path } : Url).appendPair "site_key".toList s.siteKey.toList) := by
  obtain ⟨u,hu⟩ := Config.resolve_ok hst
  refine ⟨u,hu,fun hopen hname e => ?_⟩
  obtain ⟨v,hv,hbelow⟩ := parse_route e.isRoute hu hopen
  rw [← e.path_eq] at hv
  have hhost : v.host = u.host := by rw [hbelow.same]
  have hnormal : v.IsNormal := isNormal_of_parse hv fun name h => isSettled_of_tables hname name (hhost ▸ h)
  have htext : endpointUrl s.apiUrl s.siteKey e = (v.appendPair "site_key".toList s.siteKey.toList).text := by
    rw [endpointUrl,hv]
  set w := v.appendPair "site_key".toList s.siteKey.toList with hw
  have hsame : w.scheme = v.scheme ∧ w.host = v.host ∧ w.port = v.port ∧ w.path = v.path := by
    obtain ⟨q,hq⟩ := v.appendPair_eq "site_key".toList s.siteKey.toList
    rw [hw,hq]
    exact ⟨rfl,rfl,rfl,rfl⟩
  obtain ⟨hscheme,hwhost,hport,hpath⟩ := hsame
  refine ⟨w,by rw [htext]; exact (hnormal.appendPair _ _).parse,?_,hwhost.trans hhost,?_,?_,?_⟩
  · rw [hscheme,hbelow.same]
  · rw [hport,hbelow.same]
  · rw [hpath,hbelow.path,e.path_eq,String.toList_ofList]
  · rw [hpath,← hbelow.same]

/-- A collector below a path. -/
def prefixed : Config := { siteKey := some "a b", apiUrl := some "https://h.io:81/stats/" }

theorem Request.endpointUrl_below_prefixed : ∃ s v, prefixed.resolve = .ok s ∧
    Url.parse (endpointUrl s.apiUrl s.siteKey .event) = .ok v ∧ v.scheme = "https".toList ∧
    v.host = some (.domain "h.io".toList) ∧ v.port = some 81 ∧ v.path.write = "/stats/api/event".toList := by
  have hst : prefixed.resolve = .ok ⟨"a b","https://h.io:81/stats",false,false,.auto,false⟩ := by decide +kernel
  obtain ⟨u,hu,hbelow⟩ := endpointUrl_below hst
  have hbase : Url.parse "https://h.io:81/stats" = .ok ⟨"https".toList,[],[],some (.domain "h.io".toList),some 81,
      .segments ["stats".toList],none,none⟩ := by decide +kernel
  obtain rfl := Except.ok.inj (hu.symm.trans hbase)
  have hopen : IsOpen (isSpecialScheme "https".toList) "https://h.io:81/stats".toList := by
    exact ⟨by decide +kernel,'s',by decide +kernel,by decide,by decide⟩
  obtain ⟨v,hv,hscheme,hhost,hport,hpath,-⟩ := hbelow hopen (by
    rintro name hname hsimple
    obtain rfl := Host.domain.inj (Option.some.inj hname)
    exact absurd hsimple (by decide +kernel)) .event
  exact ⟨_,v,hst,hv,hscheme,hhost,hport,hpath.trans (by decide +kernel)⟩

/-- The path that a configured base has, and the one that page views are sent to. -/
def collectPaths (c : Config) : Option (String × String) := do
  let s ← c.resolve.toOption
  let u ← (Url.parse s.apiUrl).toOption
  let v ← (Url.parse (Request.endpointUrl s.apiUrl s.siteKey .collect)).toOption
  return (u.pathText,v.pathText)

/-- Bases that resolve, but end in a query, a fragment, a blank, or a slash that is not trimmed: a route that is put
behind them is no path below theirs. -/
theorem Request.endpointUrl_astray :
    collectPaths { siteKey := some "k", apiUrl := some "https://h.io/stats?tenant=1" } = some ("/stats","/stats") ∧
    collectPaths { siteKey := some "k", apiUrl := some "https://h.io/stats#top" } = some ("/stats","/stats") ∧
    collectPaths { siteKey := some "k", apiUrl := some "https://h.io/stats " } =
      some ("/stats","/stats%20/api/collect") ∧
    collectPaths { siteKey := some "k", apiUrl := some "https://h.io/stats\\" } =
      some ("/stats/","/stats//api/collect") ∧
    collectPaths { siteKey := some "k", apiUrl := some "https://h.io/stats/\t" } =
      some ("/stats/","/stats//api/collect") := by
  decide +kernel

end PageTelemetry
