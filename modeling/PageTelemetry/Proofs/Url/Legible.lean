import PageTelemetry.Proofs.Url.RoundTrip

/-! Web URLs that were read. Whatever their host is, their texts are cut into their own parts again. -/
namespace PageTelemetry.Url
open Text Percent
variable {u : Url} {h : Host} {cs scheme : List Char} {r : Reference}

/-- A name that was read holds nothing forbidden. -/
lemma free_of_domain {special : Bool} {name : List Char} (hparse : Host.parse special cs = .ok (.domain name)) :
    Free Host.isForbiddenInDomain name := by
  unfold Host.parse at hparse
  split at hparse
  · split at hparse
    · rename_i inner _
      cases hns : Ipv6.parse inner.reverse <;> rw [hns] at hparse <;> cases hparse
    · cases hparse
  · split_ifs at hparse
    · obtain ⟨other,-,-,hfree,⟨n,-,hn⟩ | ⟨-,hname⟩⟩ := ofDomain_ok hparse
      · cases hn
      · exact Host.domain.inj hname ▸ hfree
    · unfold Host.ofName at hparse
      split_ifs at hparse <;> cases hparse

/-- No host that was read ends an authority. -/
lemma free_of_host {special : Bool} (hparse : Host.parse special cs = .ok h) : Free endsAuthority h.write := by
  by_cases hname : ∃ name, h = .domain name
  · obtain ⟨name,rfl⟩ := hname
    obtain ⟨hforbidden,hcontrol⟩ := free_of_forbiddenInDomain (free_of_domain hparse)
    exact free_endsAuthority (free_of_forbidden hforbidden).1 (visible_of_forbidden hforbidden hcontrol)
  · have hhost : IsHost special h := isHost_of_parse hparse fun name hdomain => absurd ⟨name,hdomain⟩ hname
    exact free_endsAuthority hhost.unended hhost.visible

/-- Nor does anything else of an authority that was read. -/
lemma free_of_authority {a : Authority} (hread : readAuthority scheme cs = .ok a) (husername : u.username = a.username)
    (hpassword : u.password = a.password) : Free endsAuthority (authorityText u a.host) := by
  rw [readAuthority_eq] at hread
  obtain ⟨-,hhost,-,hname,hword⟩ := readParts_ok hread
  refine free_authorityText (free_of_host hhost) ?_ ?_
  · rw [husername,hname]
    exact encode_free free_marks.2.2.2.2.2 _
  · rw [hpassword,hword]
    exact encode_free free_marks.2.2.2.2.2 _

lemma isSpecialScheme_of_isHttp (h : u.isHttp = true) :
    isSpecialScheme u.scheme = true ∧ isFileScheme u.scheme = false := by
  rcases Bool.or_eq_true_iff.mp h with h | h <;> rw [eq_of_beq h] <;> decide

/-- What stands behind the scheme of a URL with a host that was read. -/
lemma behindScheme_free (hread : readBehindSlashes scheme cs r = .ok u) :
    ∃ rest, u.behindScheme = '/' :: '/' :: rest ∧ Free cutsUrl rest := by
  obtain ⟨a,ha,rfl⟩ := readBehindSlashes_eq_ok.mp hread
  obtain ⟨ss,hpath,hss,-⟩ := readPath_isPath (SchemePath.nil scheme)
    (cs.dropWhile fun c => !isSlash (isSpecialScheme scheme) c)
  refine ⟨_,by rw [behindScheme,writeAuthority_hosted rfl]; rfl,?_⟩
  refine Free.append (free_of_endsAuthority (free_of_authority ha rfl rfl)) ?_
  rw [hostedUrl,hpath]
  exact hss.free_write

/-- A web URL as it is read, whatever its host is. -/
structure IsWeb (u : Url) : Prop where
  http : u.isHttp = true
  scheme : IsScheme u.scheme
  hosted : ∃ rest, u.behindScheme = '/' :: '/' :: rest ∧ Free cutsUrl rest
  query : ∀ q ∈ u.query, Free (querySet u.scheme) q
  fragment : ∀ f ∈ u.fragment, Free inFragment f

theorem isWeb_of_parse {text : String} (hread : Url.parse text = .ok u) (hhttp : u.isHttp = true) : u.IsWeb := by
  obtain ⟨scheme,raw,rest,query,fragment,hr,hsplit,hread⟩ := parse_ok hread
  obtain ⟨hcuts,hlast⟩ := behind_ofChars hr
  obtain ⟨rfl,hrefers,-⟩ := readScheme_ok hread hcuts hlast
  obtain ⟨hspecial,hfile⟩ := isSpecialScheme_of_isHttp hhttp
  rw [readScheme_special hfile hspecial] at hread
  exact ⟨hhttp,(splitScheme_ok hsplit).1,behindScheme_free hread,hrefers.query ▸ free_readQuery,
    hrefers.fragment ▸ free_readFragment⟩

/-- A web URL that was read can be read again. -/
lemma IsWeb.legible (hu : u.IsWeb) : u.IsLegible := by
  obtain ⟨rest,hbehind,hrest⟩ := hu.hosted
  have hfree : Free cutsUrl u.behindScheme := hbehind ▸ free_cons.mpr ⟨rfl,free_cons.mpr ⟨rfl,hrest⟩⟩
  obtain ⟨huncut,hvisible⟩ := free_cutsUrl.mp hfree
  exact ⟨hu.scheme,huncut,fun c hc => Nat.le_of_lt (of_decide_eq_true (hvisible c hc)),
    fun _ _ c hc => hvisible c (List.mem_of_getLast? hc),hu.query,hu.fragment⟩

/-- Behind a web scheme and two slashes nothing depends on the base. -/
lemma readScheme_web (hspecial : isSpecialScheme scheme = true) (hfile : isFileScheme scheme = false)
    (base : Option Url) (rest : List Char) (r : Reference) : readScheme base scheme ('/' :: '/' :: rest) r =
      readBehindSlashes scheme (rest.dropWhile (isSlash true)) r := by
  unfold readScheme
  rw [if_neg (by simp [hfile]),if_pos hspecial]
  cases base with
  | none => rfl
  | some b =>
    dsimp only
    rw [if_neg (fun h => h.2 rfl)]
    rfl

/-- How the text of a web URL is read, wherever it stands. -/
lemma IsWeb.read (hu : u.IsWeb) (base : Option Url) : readChars base u.text.toList =
    readBehindSlashes u.scheme ((u.behindScheme.drop 2).dropWhile (isSlash true))
      ⟨u.scheme ++ ':'::u.behindScheme,u.query,u.fragment⟩ := by
  obtain ⟨hspecial,hfile⟩ := isSpecialScheme_of_isHttp hu.http
  obtain ⟨rest,hrest,-⟩ := hu.hosted
  unfold readChars
  rw [hu.legible.ofChars]
  dsimp only
  rw [hu.scheme.split]
  dsimp only
  rw [hrest,readScheme_web hspecial hfile]
  rfl

end PageTelemetry.Url
