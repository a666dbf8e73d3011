import PageTelemetry.Proofs.Url.Legible

/-! Web URLs that differ in nothing that counts: they may have other fragments, and other queries with the same
campaign. What is read of their texts, and what a text is read as against them, differs in nothing that counts either. -/
namespace PageTelemetry.Url
open Text Percent
variable {m : Bool} {u u' v v' b b' : Url} {cs scheme : List Char} {r r' : Reference}

/-- The pairs of a query that tell of a campaign. -/
def campaignPairs (u : Url) : List (List Char × List Char) :=
  u.queryPairs.filter fun pair => pair.1 = "utm_source".toList ∨ pair.1 = "utm_medium".toList ∨
    pair.1 = "utm_campaign".toList

/-- Two web URLs that differ at most in their fragments and their queries. The campaign is the same, and if queries
count the query is. -/
structure Alike (m : Bool) (u u' : Url) : Prop where
  http : u.isHttp = true
  others : u' = { u with query := u'.query, fragment := u'.fragment }
  campaign : u.campaignPairs = u'.campaignPairs
  query : m = true → u.query = u'.query

lemma campaignPairs_congr (h : u.query = u'.query) : u.campaignPairs = u'.campaignPairs := by
  simp only [campaignPairs,queryPairs,h]

lemma Alike.http' (h : Alike m u u') : u'.isHttp = true := by
  rw [h.others]
  exact h.http

/-! Reading. -/

/-- Two results of reading: none at all, or URLs that differ in nothing that counts and can be read again. -/
def ReadAlike (m : Bool) (a a' : Except Error Url) : Prop :=
  (∃ e e', a = .error e ∧ a' = .error e') ∨
    ∃ v v', a = .ok v ∧ a' = .ok v' ∧ (v = v' ∨ Alike m v v' ∧ v.IsWeb ∧ v'.IsWeb)

lemma ReadAlike.refl (a : Except Error Url) : ReadAlike m a a := by
  cases a with
  | error e => exact .inl ⟨e,e,rfl,rfl⟩
  | ok v => exact .inr ⟨v,v,rfl,rfl,.inl rfl⟩

/-- What stands behind two slashes is read without regard to query and fragment. -/
lemma readBehindSlashes_other (r r' : Reference) : (∃ e, readBehindSlashes scheme cs r = .error e ∧
    readBehindSlashes scheme cs r' = .error e) ∨ ∃ u, readBehindSlashes scheme cs r = .ok u ∧
      readBehindSlashes scheme cs r' =
        .ok { u with query := readQuery scheme r'.query, fragment := readFragment r'.fragment } := by
  unfold readBehindSlashes
  dsimp only
  cases readAuthority scheme (cs.takeWhile fun c => !isSlash (isSpecialScheme scheme) c) with
  | error e => exact .inl ⟨e,rfl,rfl⟩
  | ok a => exact .inr ⟨_,rfl,rfl⟩

lemma isHttp_congr (h : u'.scheme = u.scheme) : u'.isHttp = u.isHttp := by rw [isHttp,isHttp,h]

/-- The texts of two such URLs are read as two such URLs again, wherever they stand. -/
lemma Alike.read (h : Alike m u u') (hu : u.IsWeb) (hu' : u'.IsWeb) :
    (∃ e, ∀ base, readChars base u.text.toList = .error e ∧ readChars base u'.text.toList = .error e) ∨
    ∃ v v', (∀ base, readChars base u.text.toList = .ok v ∧ readChars base u'.text.toList = .ok v') ∧ Alike m v v' := by
  have hscheme : u'.scheme = u.scheme := by rw [h.others]
  have hbehind : u'.behindScheme = u.behindScheme := by rw [h.others]; rfl
  have hread' := hu'.read
  have hquery' := (hu'.legible.refers []).query
  rw [hscheme,hbehind] at hread'
  rw [hscheme] at hquery'
  rcases readBehindSlashes_other ⟨u.scheme ++ ':'::u.behindScheme,u.query,u.fragment⟩
    ⟨u.scheme ++ ':'::u.behindScheme,u'.query,u'.fragment⟩ with ⟨e,he,he'⟩ | ⟨v,hv,hv'⟩
  · exact .inl ⟨e,fun base => ⟨(hu.read base).trans he,(hread' base).trans he'⟩⟩
  · refine .inr ⟨v,_,fun base => ⟨(hu.read base).trans hv,(hread' base).trans hv'⟩,?_⟩
    obtain ⟨hvscheme,hrefers,-⟩ := readBehindSlashes_ok (isSpecialScheme_of_isHttp hu.http).2 hv
    have hvquery : v.query = u.query := by
      rw [← hrefers.query,hvscheme]
      exact (hu.legible.refers []).query
    have hvquery' : readQuery u.scheme u'.query = u'.query := hquery'
    refine ⟨(isHttp_congr hvscheme).trans hu.http,rfl,?_,fun hm => ?_⟩
    · rw [campaignPairs_congr hvquery,h.campaign]
      exact campaignPairs_congr hvquery'.symm
    · rw [hvquery,h.query hm]
      exact hvquery'.symm

/-! Joining. -/

/-- Such URLs with one fragment. -/
lemma Alike.withFragment (h : Alike m b b') (hb : b.IsWeb) (hb' : b'.IsWeb) (fragment : Option (List Char)) :
    ReadAlike m (.ok { b with fragment := readFragment fragment })
      (.ok { b' with fragment := readFragment fragment }) := by
  have hweb {b : Url} (hb : b.IsWeb) : IsWeb { b with fragment := readFragment fragment } :=
    ⟨hb.http,hb.scheme,hb.hosted,hb.query,free_readFragment⟩
  refine .inr ⟨_,_,rfl,rfl,.inr ⟨⟨h.http,?_,h.campaign,h.query⟩,hweb hb,hweb hb'⟩⟩
  rw [h.others]

/-- Against such bases a text without a scheme is read as such URLs. All but a query that it leaves to the base is the
same. -/
lemma Alike.readRelative (h : Alike m b b') (hb : b.IsWeb) (hb' : b'.IsWeb) (r : Reference) (cs : List Char) :
    ReadAlike m (readRelative b r cs) (readRelative b' r cs) := by
  have hfragment := h.withFragment hb hb' r.fragment
  obtain ⟨q,f,rfl⟩ : ∃ q f, b' = { b with query := q, fragment := f } := ⟨_,_,h.others⟩
  unfold Url.readRelative
  dsimp only at hfragment ⊢
  cases cs with
  | nil =>
    dsimp only
    split_ifs
    · exact .refl _
    · exact hfragment
  | cons c rest =>
    dsimp only
    split_ifs
    all_goals exact .refl _

/-- Against such bases every text is read as such URLs. -/
theorem Alike.join (h : Alike m b b') (hb : b.IsWeb) (hb' : b'.IsWeb) (text : String) :
    ReadAlike m (b.join text) (b'.join text) := by
  have hscheme : b'.scheme = b.scheme := by rw [h.others]
  have hrootless : b'.isRootless = b.isRootless := by rw [h.others]; rfl
  have hfile := (isSpecialScheme_of_isHttp h.http).2
  unfold Url.join readChars
  dsimp only
  split
  · unfold readScheme
    simp only [Option.filter,hscheme,hfile,Bool.false_and,Bool.false_eq_true,if_false]
    split_ifs
    · exact .refl _
    · exact h.readRelative hb hb' _ _
    · exact .refl _
    · exact .refl _
  · simp only [hrootless,hscheme,hfile,Bool.false_eq_true,if_false]
    split_ifs
    · simpa only [hscheme] using h.withFragment hb hb' _
    · exact .refl _
    · exact h.readRelative hb hb' _ _

end PageTelemetry.Url
