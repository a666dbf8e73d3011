import PageTelemetry.Proofs.Url.Normal
import PageTelemetry.Url.Form

/-! What was read is read again from its own text. -/
namespace PageTelemetry.Url
open Text Percent
variable {u : Url} {h : Host} {cs scheme : List Char} {r : Reference}

lemma free_readQuery {query : Option (List Char)} : ∀ q ∈ readQuery scheme query, Free (querySet scheme) q := by
  intro q hq
  obtain ⟨raw,-,rfl⟩ := Option.map_eq_some_iff.mp hq
  unfold querySet
  split_ifs
  · exact encode_free free_marks.2.2.2.1 raw
  · exact encode_free free_marks.2.2.1 raw

lemma free_readFragment {fragment : Option (List Char)} : ∀ f ∈ readFragment fragment, Free inFragment f := by
  intro f hf
  obtain ⟨raw,-,rfl⟩ := Option.map_eq_some_iff.mp hf
  exact encode_free free_marks.2.1 raw

/-- A URL whose name, if it has one, stays as it is when it is read as a domain. -/
def IsSettled (u : Url) : Prop := ∀ name, u.host = some (.domain name) → Domain.Settled name

lemma SchemePath.nil (scheme : List Char) : SchemePath scheme [] := isPath_nil ..

/-- What is read behind two slashes. -/
lemma readBehindSlashes_ok (hfile : isFileScheme scheme = false) (hread : readBehindSlashes scheme cs r = .ok u) :
    u.scheme = scheme ∧ Refers r u ∧ (u.IsSettled → HasBody u) := by
  obtain ⟨a,ha,rfl⟩ := readBehindSlashes_eq_ok.mp hread
  obtain ⟨ss,hpath,hss,hne⟩ := readPath_isPath (SchemePath.nil scheme)
    (cs.dropWhile fun c => !isSlash (isSpecialScheme scheme) c)
  refine ⟨rfl,⟨rfl,rfl⟩,fun hsettled => .hosted a.host ss hfile rfl ?_ hpath hss fun hspecial => hne (.inl hspecial)⟩
  exact readAuthority_ok ha rfl rfl rfl fun name hname => hsettled name (congrArg some hname)

lemma fileUrl_body (hu : fileUrl h cs r = u) (hname : u.IsSettled →
      h = .empty ∨ IsHost true h ∧ h.write ≠ [] ∧ h ≠ .domain "localhost".toList) :
    u.scheme = "file".toList ∧ Refers r u ∧ (u.IsSettled → HasBody u) := by
  have hfile : isFileScheme "file".toList = true := by decide
  obtain ⟨ss,hpath,hss,hne⟩ := readPath_isPath (SchemePath.nil "file".toList) cs
  subst hu
  have hsome := hne (.inl (isSpecialScheme_of_isFileScheme hfile))
  exact ⟨rfl,⟨rfl,rfl⟩,fun hsettled => .file h ss hfile rfl ⟨rfl,rfl,rfl⟩ (hname hsettled) hpath hss hsome⟩

lemma readFileHost_ok (hread : readFileHost cs r = .ok u) :
    u.scheme = "file".toList ∧ Refers r u ∧ (u.IsSettled → HasBody u) := by
  rw [readFileHost_eq] at hread
  split_ifs at hread with hdrive hempty
  · exact fileUrl_body (Except.ok.inj hread) fun _ => .inl rfl
  · exact fileUrl_body (Except.ok.inj hread) fun _ => .inl rfl
  · cases hhost : Host.parse true (cs.takeWhile fun c => !isSlash true c) with
    | error e => rw [hhost] at hread; cases hread
    | ok host =>
      rw [hhost] at hread
      have hu : fileUrl (localised host) (cs.dropWhile fun c => !isSlash true c) r = u := Except.ok.inj hread
      refine fileUrl_body hu fun hsettled => ?_
      by_cases hlocal : host = .domain "localhost".toList
      · exact .inl (if_pos hlocal)
      · rw [localised,if_neg hlocal] at hu ⊢
        refine .inr ⟨isHost_of_parse hhost fun name hname => hsettled name ?_,
          write_ne_nil_of_parse hhost (by simpa using hempty),hlocal⟩
        rw [← hu,← hname]
        rfl

/-- What is read behind a scheme without rules for hosts. -/
lemma readPlain_ok (hspecial : isSpecialScheme scheme = false) (hread : readScheme none scheme cs r = .ok u)
    (hcs : Free cutsFront cs) (hlast : r.query = none → r.fragment = none → ∀ c ∈ cs.getLast?, isVisible c = true) :
    u.scheme = scheme ∧ Refers r u ∧ (u.IsSettled → HasBody u) := by
  have hrooted {rest : List Char} (hslash : cs = '/'::rest) (hhead : ∀ c ∈ rest.head?, c ≠ '/') :
      u.scheme = scheme ∧ Refers r u ∧ (u.IsSettled → HasBody u) := by
    rw [hslash,readScheme_slash hspecial hhead] at hread
    obtain rfl := Except.ok.inj hread
    obtain ⟨ss,hpath,hss,hne⟩ := readPath_isPath (SchemePath.nil scheme) ('/'::rest)
    exact ⟨rfl,⟨rfl,rfl⟩,fun _ => .rooted ss hspecial rfl ⟨rfl,rfl,rfl⟩ hpath hss (hne (.inr (by simp)))⟩
  have hrootless (hhead : ∀ c ∈ cs.head?, c ≠ '/') :
      u.scheme = scheme ∧ Refers r u ∧ (u.IsSettled → HasBody u) := by
    rw [readScheme_rootless hspecial hhead] at hread
    obtain rfl := Except.ok.inj hread
    refine ⟨rfl,⟨rfl,rfl⟩,fun _ => .rootless _ hspecial rfl ⟨rfl,rfl,rfl⟩ rfl (encode_free free_marks.1 cs) ?_ ?_ ?_⟩
    · exact free_encode (by decide) fun c hc _ => hcs c hc
    · intro c hc
      rcases head_encode hc with ⟨hc,-⟩ | rfl
      · exact hhead c hc
      · decide
    · intro hquery hfragment c hc
      rcases last_encode hc with ⟨hc,-⟩ | hmark
      · rintro rfl
        cases hlast (Option.map_eq_none_iff.mp hquery) (Option.map_eq_none_iff.mp hfragment) ' ' hc
      · rintro rfl
        exact absurd hmark (by decide)
  rcases slashes_cases cs with ⟨rest,hslashes⟩ | ⟨rest,hslash,hhead⟩ | hhead
  · rw [hslashes,readScheme_slashes hspecial] at hread
    exact readBehindSlashes_ok (isFileScheme_of_not_isSpecialScheme hspecial) hread
  · exact hrooted hslash hhead
  · exact hrootless hhead

/-- What is read behind a scheme, in a text without query and fragment that does not end with a blank. -/
lemma readScheme_ok (hread : readScheme none scheme cs r = .ok u)
    (hcs : Free cutsFront cs) (hlast : r.query = none → r.fragment = none → ∀ c ∈ cs.getLast?, isVisible c = true) :
    u.scheme = scheme ∧ Refers r u ∧ (u.IsSettled → HasBody u) := by
  cases hfile : isFileScheme scheme with
  | true =>
    obtain rfl : scheme = "file".toList := eq_of_beq hfile
    rw [readScheme_file hfile] at hread
    cases hslashes : startsWithSlashes true cs with
    | true =>
      unfold startsWithSlashes at hslashes
      split at hslashes
      · obtain ⟨hc,hd⟩ := Bool.and_eq_true_iff.mp hslashes
        rw [readFile_slashes hc hd] at hread
        exact readFileHost_ok hread
      · cases hslashes
    | false =>
      rw [readFile_path hslashes] at hread
      exact fileUrl_body (Except.ok.inj hread) fun _ => .inl rfl
  | false =>
    cases hspecial : isSpecialScheme scheme with
    | true =>
      rw [readScheme_special hfile hspecial] at hread
      exact readBehindSlashes_ok hfile hread
    | false => exact readPlain_ok hspecial hread hcs hlast

/-- How an absolute URL is read: query and fragment are cut off, then the scheme, and then the rest is read. -/
lemma parse_ok {text : String} (hread : Url.parse text = .ok u) : ∃ scheme raw rest query fragment,
    Reference.ofChars (cleaned text.toList) = ⟨raw ++ ':'::rest,query,fragment⟩ ∧
    splitScheme (raw ++ ':'::rest) = some (scheme,rest) ∧
    readScheme none scheme rest ⟨raw ++ ':'::rest,query,fragment⟩ = .ok u := by
  cases hr : Reference.ofChars (cleaned text.toList) with
  | mk front query fragment =>
    cases hsplit : splitScheme front with
    | none =>
      unfold Url.parse readChars at hread
      rw [hr] at hread
      dsimp only at hread
      rw [hsplit] at hread
      cases hread
    | some parts =>
      rw [Url.parse,readChars_eq hr hsplit] at hread
      obtain ⟨-,raw,rfl,-⟩ := splitScheme_ok hsplit
      exact ⟨parts.1,raw,parts.2,query,fragment,rfl,hsplit,hread⟩

/-- What follows the scheme of a text holds neither query nor fragment, and it ends with something visible. -/
lemma behind_ofChars {raw rest text : List Char} {query fragment : Option (List Char)}
    (hr : Reference.ofChars (cleaned text) = ⟨raw ++ ':'::rest,query,fragment⟩) : Free cutsFront rest ∧
    (query = none → fragment = none → ∀ c ∈ rest.getLast?, isVisible c = true) := by
  obtain ⟨front,query',fragment',hr',htext,hcuts,-⟩ := ofChars_eq (cleaned text)
  obtain ⟨rfl,rfl,rfl⟩ := Reference.mk.inj (hr'.symm.trans hr)
  refine ⟨(free_cons.mp hcuts.of_append_right).2,?_⟩
  rintro rfl rfl c hc
  have hne : rest ≠ [] := by rintro rfl; cases hc
  refine last_cleaned text c ?_
  rw [htext,announced,announced,List.append_nil,List.append_nil,List.getLast?_append_of_ne_nil _ (by simp),
    List.getLast?_cons_of_ne_nil hne]
  exact hc

/-- What was read behind a scheme is in normal form. -/
lemma isNormal_of_scheme (hscheme : IsScheme scheme)
    (h : u.scheme = scheme ∧ Refers r u ∧ (u.IsSettled → HasBody u)) (hu : u.IsSettled) : u.IsNormal := by
  obtain ⟨rfl,hrefers,hbody⟩ := h
  exact ⟨hscheme,hbody hu,hrefers.query ▸ free_readQuery,hrefers.fragment ▸ free_readFragment⟩

/-- The scheme of what was read, and the rest as it was read behind it. -/
lemma parse_parts {text : String} (hread : Url.parse text = .ok u) :
    IsScheme u.scheme ∧ ∃ r, Refers r u ∧ (u.IsSettled → HasBody u) := by
  obtain ⟨scheme,raw,rest,query,fragment,hr,hsplit,hread⟩ := parse_ok hread
  obtain ⟨hcuts,hlast⟩ := behind_ofChars hr
  obtain ⟨rfl,hparts⟩ := readScheme_ok hread hcuts hlast
  exact ⟨(splitScheme_ok hsplit).1,_,hparts⟩

/-- What is read is in normal form, where its name, if it has one, is settled. -/
theorem isNormal_of_parse {text : String} (hread : Url.parse text = .ok u) (hu : u.IsSettled) : u.IsNormal := by
  obtain ⟨hscheme,r,hparts⟩ := parse_parts hread
  exact isNormal_of_scheme hscheme ⟨rfl,hparts⟩ hu

/-- What was read is read again from its own text. -/
theorem parse_text {text : String} (hread : Url.parse text = .ok u) (hu : u.IsSettled) : Url.parse u.text = .ok u :=
  (isNormal_of_parse hread hu).parse

/-! Another pair in the query. -/

lemma Form.mem_encode {d : Char} (hd : d ∈ Form.encode cs) : Form.isLiteral d = true ∨ d = '+' ∨ d ∈ marks := by
  obtain ⟨c,-,hd⟩ := List.mem_flatMap.mp hd
  unfold Form.encodeChar at hd
  split_ifs at hd
  · exact .inr (.inl (List.mem_singleton.mp hd))
  · rcases mem_encodeChar hd with ⟨rfl,hkept⟩ | hmark
    · exact .inl (by simpa using hkept)
    · exact .inr (.inr hmark)

lemma Form.free_encode (cs : List Char) : Free inSpecialQuery (Form.encode cs) := by
  have hliteral : ∀ n < 128, Form.isLiteral (Char.ofNat n) = true → inSpecialQuery (Char.ofNat n) = false := by
    decide +kernel
  have hascii {c : Char} (hc : Form.isLiteral c = true) : c.toNat < 128 := by
    simp only [Form.isLiteral,Bool.or_eq_true,beq_iff_eq] at hc
    rcases hc with (((hc | rfl) | rfl) | rfl) | rfl
    · exact ascii_of_isAlphanum hc
    all_goals decide
  intro d hd
  rcases Form.mem_encode hd with hc | rfl | hmark
  · exact forall_ascii (P := fun c => Form.isLiteral c = true → inSpecialQuery c = false) hliteral (hascii hc) hc
  · decide
  · exact free_marks.2.2.2.1 d hmark

lemma free_querySet (scheme : List Char) (h : Free inSpecialQuery cs) : Free (querySet scheme) cs := by
  intro c hc
  unfold querySet
  split_ifs
  · exact h c hc
  · exact (Bool.or_eq_false_iff.mp (h c hc)).1

/-- What ends a text without segments may change, unless nothing is left behind it. -/
lemma HasBody.withEnds (hu : HasBody u) {q f : Option (List Char)}
    (hends : u.isRootless = true → q = none → f ≠ none) : HasBody { u with query := q, fragment := f } := by
  cases hu with
  | hosted h ss hfile hhost ha hpath hss hne =>
    exact .hosted h ss hfile hhost ⟨ha.host,ha.username,ha.password,ha.port,ha.bare⟩ hpath hss hne
  | file h ss hfile hhost hbare hname hpath hss hne => exact .file h ss hfile hhost hbare hname hpath hss hne
  | rooted ss hspecial hhost hbare hpath hss hne => exact .rooted ss hspecial hhost hbare hpath hss hne
  | rootless text hspecial hhost hbare hpath hclean hcut hhead hlast =>
    refine .rootless text hspecial hhost hbare hpath hclean hcut hhead fun hquery hfragment => ?_
    exact absurd hfragment (hends (by rw [isRootless,hpath]) hquery)

/-- Nothing but the query has another pair. -/
lemma appendPair_eq (u : Url) (name value : List Char) :
    ∃ q, u.appendPair name value = { u with query := some q } := by
  unfold Url.appendPair
  split <;> exact ⟨_,rfl⟩

/-- A URL stays in normal form when its query gets another pair. -/
theorem IsNormal.appendPair (hu : u.IsNormal) (name value : List Char) : (u.appendPair name value).IsNormal := by
  have hpair : Free (querySet u.scheme) (Form.encodePair name value) :=
    free_querySet _ ((Form.free_encode name).append (free_cons.mpr ⟨by decide,Form.free_encode value⟩))
  have hquery : ∃ q, u.appendPair name value = { u with query := some q } ∧ Free (querySet u.scheme) q := by
    unfold Url.appendPair
    split
    · exact ⟨_,rfl,hpair⟩
    · exact ⟨_,rfl,hpair⟩
    · rename_i q _ hq
      refine ⟨_,rfl,(hu.query q hq).append (free_cons.mpr ⟨?_,hpair⟩)⟩
      unfold querySet
      split_ifs <;> decide
  obtain ⟨q,e,hq⟩ := hquery
  rw [e]
  refine ⟨hu.scheme,hu.body.withEnds ?_,?_,hu.fragment⟩
  · intro _ hnone
    cases hnone
  · rintro _ ⟨⟩
    exact hq

end PageTelemetry.Url
