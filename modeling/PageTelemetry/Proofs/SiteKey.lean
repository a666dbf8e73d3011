import PageTelemetry.Config.ScriptTag
import PageTelemetry.Proofs.Routing
import PageTelemetry.Proofs.Url.Extension
import PageTelemetry.Proofs.Url.Form

/-! The site key in the addresses of requests. Where base and route make a URL the key is the last pair of its query,
whatever characters it holds; and no two keys lead to one address. -/
namespace PageTelemetry
open Url
variable {c : Config} {s : Settings} {u v : Url} {key key' : String}

/-- What pair is added can be told from the query. -/
lemma Url.appendPair_value (u : Url) (name : List Char) {value value' : List Char}
    (h : (u.appendPair name value).query = (u.appendPair name value').query) : value = value' := by
  have hpair : Form.encodePair name value = Form.encodePair name value' := by
    unfold appendPair at h
    split at h
    · exact Option.some.inj h
    · exact Option.some.inj h
    · exact (List.cons.inj (List.append_cancel_left (Option.some.inj h))).2
  exact Form.encode_injective (List.cons.inj (List.append_cancel_left hpair)).2

/-- A text tells its query, if all else is known. -/
lemma Url.query_of_text {q q' : List Char} (h : ({ u with query := some q } : Url).text =
    ({ u with query := some q' } : Url).text) : q = q' := by
  have hwrite : ({ u with query := some q } : Url).write = ({ u with query := some q' } : Url).write := by
    have htext := congrArg String.toList h
    rwa [text,text,String.toList_ofList,String.toList_ofList] at htext
  rw [write_eq,write_eq] at hwrite
  have hquery := List.append_cancel_right hwrite
  exact (List.cons.inj (List.append_cancel_left hquery)).2

/-- No two keys lead to one address, whatever the base. -/
lemma Request.endpointUrl_injective (apiUrl : String) (e : Payload.Endpoint) :
    Function.Injective fun key => endpointUrl apiUrl key e := by
  intro key key' h
  unfold endpointUrl at h
  dsimp only at h
  split at h
  · rename_i v _
    obtain ⟨q,hq⟩ := v.appendPair_eq "site_key".toList key.toList
    obtain ⟨q',hq'⟩ := v.appendPair_eq "site_key".toList key'.toList
    rw [hq,hq'] at h
    refine String.toList_inj.mp (v.appendPair_value "site_key".toList ?_)
    rw [hq,hq',query_of_text h]
  · have hlist := congrArg String.toList h
    simp only [String.toList_append] at hlist
    exact String.toList_inj.mp (List.append_cancel_left hlist)

/-- Behind another slash the routes of the collector are read as the host "api" and a path. -/
lemma Payload.Endpoint.isHostRoute (e : Payload.Endpoint) : IsHostRoute e.names := by
  have hname (special : Bool) : ((routeText e.names).tail.takeWhile fun c => !isSlash special c) = "api".toList := by
    cases e <;> cases special <;> decide
  refine ⟨e.isRoute,fun r => ?_,fun scheme r hspecial => ?_⟩
  · have hhost : Host.parse true "api".toList = .ok (.domain "api".toList) := by decide +kernel
    rw [readFileHost_eq,hname,hhost]
    exact ⟨_,rfl⟩
  · have hauthority : readAuthority scheme "api".toList = .ok ⟨[],[],.verbatim "api".toList,none⟩ := by
      unfold readAuthority
      rw [hspecial]
      rfl
    exact ⟨_,readBehindSlashes_eq_ok.mpr ⟨_,by rw [hname,hauthority],rfl⟩⟩

/-- Where a configuration resolves, what the site key is can be told from the address of a request. If the base ends
with something visible, base and route make a URL; and whenever they do, requests go to that URL with the site key as
the last pair of its query, and nothing else of it is changed. A name that is not plain ASCII is taken to be one that is
mapped to itself, as what is mapped to ASCII is. -/
theorem Request.endpointUrl_siteKey (hst : c.resolve = .ok s) (e : Payload.Endpoint) :
    (Function.Injective fun key => endpointUrl s.apiUrl key e) ∧
    (EndsVisibly s.apiUrl.toList → ∃ v, Url.parse (s.apiUrl ++ e.path) = .ok v) ∧
    ∀ v, Url.parse (s.apiUrl ++ e.path) = .ok v → ∃ w, endpointUrl s.apiUrl s.siteKey e = w.text ∧
      w = { v with query := w.query } ∧
      w.queryPairs = v.queryPairs ++ [("site_key".toList,s.siteKey.toList)] ∧
      ((∀ name, v.host = some (.domain name) → Domain.isSimple name = false → Domain.Settled name) →
        Url.parse (endpointUrl s.apiUrl s.siteKey e) = .ok w) := by
  refine ⟨endpointUrl_injective s.apiUrl e,fun hvisible => ?_,fun v hv => ?_⟩
  · obtain ⟨u,hu⟩ := Config.resolve_ok hst
    rw [e.path_eq]
    exact parse_append e.isHostRoute hu hvisible
  · have htext : endpointUrl s.apiUrl s.siteKey e = (v.appendPair "site_key".toList s.siteKey.toList).text := by
      rw [endpointUrl,hv]
    refine ⟨_,htext,?_,queryPairs_appendPair ..,fun hname => ?_⟩
    · obtain ⟨q,hq⟩ := v.appendPair_eq "site_key".toList s.siteKey.toList
      rw [hq]
    · rw [htext]
      exact ((isNormal_of_parse hv (isSettled_of_tables hname)).appendPair _ _).parse

/-- A key of characters that queries are made of. -/
def reservedKey : Config := { siteKey := some "a&b#c", apiUrl := some "https://h.io/stats?tenant=1" }

theorem Request.endpointUrl_siteKey_reserved : ∃ s w, reservedKey.resolve = .ok s ∧
    Url.parse (endpointUrl s.apiUrl s.siteKey .collect) = .ok w ∧ w.host = some (.domain "h.io".toList) ∧
    w.queryPairs = [("tenant".toList,"1/api/collect".toList),("site_key".toList,"a&b#c".toList)] := by
  have hst : reservedKey.resolve = .ok ⟨"a&b#c","https://h.io/stats?tenant=1",false,false,.auto,false⟩ := by
    decide +kernel
  obtain ⟨-,hreads,hkey⟩ := endpointUrl_siteKey hst .collect
  obtain ⟨v,hv⟩ := hreads ⟨'1',by decide +kernel,by decide⟩
  have hroute : Url.parse ("https://h.io/stats?tenant=1" ++ Payload.Endpoint.collect.path) =
      .ok ⟨"https".toList,[],[],some (.domain "h.io".toList),none,.segments ["stats".toList],
        some "tenant=1/api/collect".toList,none⟩ := by decide +kernel
  obtain rfl := Except.ok.inj (hv.symm.trans hroute)
  obtain ⟨w,-,hsame,hpairs,hparse⟩ := hkey _ hv
  refine ⟨_,w,hst,hparse ?_,by rw [hsame],hpairs.trans (by decide +kernel)⟩
  rintro name hname hsimple
  obtain rfl := Host.domain.inj (Option.some.inj hname)
  exact absurd hsimple (by decide +kernel)

/-- A base that ends with a blank behind its host. Reading a URL takes no notice of a blank there, so it resolves. -/
def blankBase : Config := { siteKey := some "a&b", apiUrl := some "https://h.io " }

/-- Base and route make no URL then. The address is none either, and the key stands in it as it is; a tag can carry such
a base too. -/
theorem Request.endpointUrl_unencoded :
    (⟨"https://c.io/t.js",[("data-site-key","a&b"),("data-api-url","https://h.io /")]⟩ : ScriptTag).config =
      .ok blankBase ∧
    ∃ s, blankBase.resolve = .ok s ∧
      endpointUrl s.apiUrl s.siteKey .collect = "https://h.io /api/collect?site_key=a&b" ∧
      (Url.parse (endpointUrl s.apiUrl s.siteKey .collect)).toOption = none := by
  have hst : blankBase.resolve = .ok ⟨"a&b","https://h.io ",false,false,.auto,false⟩ := by decide +kernel
  exact ⟨by decide +kernel,_,hst,by decide +kernel,by decide +kernel⟩

end PageTelemetry
