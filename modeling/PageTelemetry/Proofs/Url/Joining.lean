import PageTelemetry.Proofs.Url.RoundTrip

/-! References. What a text is read as at a URL in normal form is in normal form again, so that it can be the base of
the next one. -/
namespace PageTelemetry.Url
open Text Percent
variable {b t : Url} {ss : List (List Char)} {cs scheme : List Char} {r : Reference} {q f : Option (List Char)}

lemma IsPath.take {special file : Bool} (h : IsPath special file ss) (n : ℕ) : IsPath special file (ss.take n) := by
  refine ⟨fun s hs => h.segments s (List.mem_of_mem_take hs),fun hfile s hs => h.drive hfile s ?_⟩
  cases n with
  | zero => cases hs
  | succ n => cases ss <;> exact hs

/-! A base with other parts. -/

/-- The segments of a path stay those of a path, whichever part of them a reference keeps. -/
lemma HasBody.segments (hb : HasBody b) : SchemePath b.scheme (segmentsOf b) := by
  unfold segmentsOf
  cases hb with
  | hosted _ _ _ _ _ hpath hss => rwa [hpath]
  | file _ _ _ _ _ _ hpath hss => rwa [hpath]
  | rooted _ _ _ _ hpath hss => rwa [hpath]
  | rootless _ _ _ _ hpath => rw [hpath]; exact SchemePath.nil _

/-- A URL of a scheme with rules for hosts has a path of segments. -/
lemma HasBody.isRootless_of_special (hb : HasBody b) (hspecial : isSpecialScheme b.scheme = true) :
    b.isRootless = false := by
  unfold isRootless
  cases hb with
  | hosted _ _ _ _ _ hpath => rw [hpath]
  | file _ _ _ _ _ _ hpath => rw [hpath]
  | rooted _ _ _ _ hpath => rw [hpath]
  | rootless _ hplain => rw [hspecial] at hplain; cases hplain

lemma HasBody.withPath (hb : HasBody b) (hrooted : b.isRootless = false) (hss : SchemePath b.scheme ss)
    (hne : ss ≠ []) : HasBody { b with path := .segments ss, query := q, fragment := f } := by
  cases hb with
  | hosted h _ hfile hhost ha =>
    exact .hosted h ss hfile hhost ⟨ha.host,ha.username,ha.password,ha.port,ha.bare⟩ rfl hss fun _ => hne
  | file h _ hfile hhost hbare hname => exact .file h ss hfile hhost hbare hname rfl hss hne
  | rooted _ hspecial hhost hbare => exact .rooted ss hspecial hhost hbare rfl hss hne
  | rootless _ _ _ _ hpath => rw [isRootless,hpath] at hrooted; cases hrooted

lemma IsNormal.withPath (hb : b.IsNormal) (hrooted : b.isRootless = false) (hss : SchemePath b.scheme ss)
    (hcs : cs ≠ []) (r : Reference) : IsNormal { b with
      path := readPath b.scheme ss cs, query := readQuery b.scheme r.query, fragment := readFragment r.fragment } := by
  obtain ⟨ss',hpath,hss',hne⟩ := readPath_isPath hss cs
  rw [hpath]
  exact ⟨hb.scheme,hb.body.withPath hrooted hss' (hne (.inr hcs)),free_readQuery,free_readFragment⟩

lemma IsNormal.withEnds (hb : b.IsNormal) (hends : b.isRootless = true → q = none → f ≠ none)
    (hq : ∀ x ∈ q, Free (querySet b.scheme) x) (hf : ∀ x ∈ f, Free inFragment x) :
    IsNormal { b with query := q, fragment := f } :=
  ⟨hb.scheme,hb.body.withEnds hends,hq,hf⟩

/-- A reference without a path keeps the query of its base if it has none of its own. -/
lemma IsNormal.withoutPath (hb : b.IsNormal) (hrooted : b.isRootless = false) (r : Reference) : IsNormal { b with
    query := if r.query.isSome then readQuery b.scheme r.query else b.query, fragment := readFragment r.fragment } := by
  refine hb.withEnds (fun hrootless => by rw [hrooted] at hrootless; cases hrootless) ?_ free_readFragment
  split_ifs
  · exact free_readQuery
  · exact hb.query

/-! Reading. -/

lemma IsSettled.of_host (ht : t.IsSettled) (h : b.host = t.host) : b.IsSettled :=
  fun name hname => ht name (h.symm.trans hname)

/-- What a reference without a scheme of its own can be: a query and a fragment, an authority and what follows it, or a
path, which is read behind nothing of the base or behind all its segments but the last. -/
lemma readRelative_cases (hread : readRelative b r cs = .ok t) :
    t = { b with
      query := if r.query.isSome then readQuery b.scheme r.query else b.query, fragment := readFragment r.fragment } ∨
    (∃ authority, readBehindSlashes b.scheme authority r = .ok t) ∨
    ∃ ss, (ss = [] ∨ ss = (segmentsOf b).dropLast) ∧ cs ≠ [] ∧ t = { b with
      path := readPath b.scheme ss cs, query := readQuery b.scheme r.query, fragment := readFragment r.fragment } := by
  unfold readRelative at hread
  cases cs with
  | nil => exact .inl (Except.ok.inj hread).symm
  | cons c rest =>
    dsimp only at hread
    split_ifs at hread
    · exact .inr (.inl ⟨_,hread⟩)
    · exact .inr (.inl ⟨_,hread⟩)
    · exact .inr (.inr ⟨[],.inl rfl,List.cons_ne_nil c rest,(Except.ok.inj hread).symm⟩)
    · exact .inr (.inr ⟨_,.inr rfl,List.cons_ne_nil c rest,(Except.ok.inj hread).symm⟩)

lemma isNormal_of_readRelative (hb : b.IsSettled → b.IsNormal) (hscheme : IsScheme b.scheme)
    (hfile : isFileScheme b.scheme = false) (hrooted : HasBody b → b.isRootless = false)
    (hread : readRelative b r cs = .ok t) (ht : t.IsSettled) : t.IsNormal := by
  rcases readRelative_cases hread with rfl | ⟨authority,h⟩ | ⟨ss,hss,hcs,rfl⟩
  · have hn := hb (ht.of_host rfl)
    exact hn.withoutPath (hrooted hn.body) r
  · exact isNormal_of_scheme hscheme (readBehindSlashes_ok hfile h) ht
  · have hn := hb (ht.of_host rfl)
    refine hn.withPath (hrooted hn.body) ?_ hcs r
    rcases hss with rfl | rfl
    · exact SchemePath.nil _
    · exact hn.body.segments.dropLast

/-- All of a file but its path, its query and its fragment is its host. -/
lemma HasBody.file_eq (hb : HasBody b) (hfile : isFileScheme b.scheme = true) (path : Path) :
    (⟨"file".toList,[],[],b.host,none,path,q,f⟩ : Url) = { b with path := path, query := q, fragment := f } := by
  have hbare : b.IsBare := by
    cases hb with
    | hosted _ _ hother => rw [hfile] at hother; cases hother
    | file _ _ _ _ hbare => exact hbare
    | rooted _ _ _ hbare => exact hbare
    | rootless _ _ _ hbare => exact hbare
  obtain ⟨scheme,username,password,host,port,path,query,fragment⟩ := b
  obtain ⟨rfl,rfl,rfl⟩ := hbare
  obtain rfl : scheme = "file".toList := eq_of_beq hfile
  rfl

lemma isScheme_file : IsScheme "file".toList := by
  have hsplit : splitScheme "file:".toList = some ("file".toList,[]) := by decide
  exact (splitScheme_ok hsplit).1

/-- A reference to a file at another. -/
lemma isNormal_of_readFile (hb : b.IsSettled → b.IsNormal) (hfile : isFileScheme b.scheme = true)
    (hread : readFile (some b) r cs = .ok t) (ht : t.IsSettled) : t.IsNormal := by
  have hscheme : b.scheme = "file".toList := eq_of_beq hfile
  have hrooted (hn : b.IsNormal) : b.isRootless = false :=
    hn.body.isRootless_of_special (isSpecialScheme_of_isFileScheme hfile)
  have hbehind {ss : List (List Char)} (hss : b.IsNormal → SchemePath b.scheme ss) (hcs : cs ≠ [])
      (e : ⟨"file".toList,[],[],b.host,none,readPath "file".toList ss cs,readQuery "file".toList r.query,
        readFragment r.fragment⟩ = t) : t.IsNormal := by
    have hn := hb (ht.of_host (by rw [← e]))
    rw [← e,hn.body.file_eq hfile,← hscheme]
    exact hn.withPath (hrooted hn) (hss hn) hcs r
  unfold readFile at hread
  cases cs with
  | nil =>
    dsimp only at hread
    obtain rfl := Except.ok.inj hread
    have hn := hb (ht.of_host rfl)
    rw [hn.body.file_eq hfile,← hscheme]
    exact hn.withoutPath (hrooted hn) r
  | cons c rest =>
    dsimp only at hread
    split_ifs at hread
    · exact isNormal_of_scheme isScheme_file (readFileHost_ok hread) ht
    · exact hbehind (fun hn => hn.body.segments.take 1) (List.cons_ne_nil c rest) (Except.ok.inj hread)
    · exact hbehind (fun _ => SchemePath.nil _) (List.cons_ne_nil c rest) (Except.ok.inj hread)
    · exact hbehind (fun _ => SchemePath.nil _) (List.cons_ne_nil c rest) (Except.ok.inj hread)
    · refine hbehind (fun hn => ?_) (List.cons_ne_nil c rest) (Except.ok.inj hread)
      have hshort : SchemePath b.scheme (shorten (isFileScheme b.scheme) (segmentsOf b)) := hn.body.segments.shorten
      rwa [hfile] at hshort

/-- What follows a scheme is read as it is alone, or as a reference at a base with that scheme. -/
lemma readScheme_cases (hread : readScheme (some b) scheme cs r = .ok t) : readScheme none scheme cs r = .ok t ∨
    isFileScheme b.scheme = true ∧ readFile (some b) r cs = .ok t ∨
    isFileScheme b.scheme = false ∧ isSpecialScheme b.scheme = true ∧ readRelative b r cs = .ok t := by
  cases hfile : isFileScheme scheme with
  | true =>
    rw [readScheme_file hfile]
    unfold readScheme at hread
    rw [if_pos hfile,Option.filter_some] at hread
    split_ifs at hread with hbase
    · exact .inr (.inl ⟨(Bool.and_eq_true_iff.mp hbase).1,hread⟩)
    · exact .inl hread
  | false =>
    cases hspecial : isSpecialScheme scheme with
    | true =>
      rw [readScheme_special hfile hspecial]
      unfold readScheme at hread
      rw [if_neg (by simp [hfile]),if_pos hspecial] at hread
      dsimp only at hread
      split_ifs at hread with hsame
      · obtain ⟨rfl,-⟩ := hsame
        exact .inr (.inr ⟨hfile,hspecial,hread⟩)
      · exact .inl hread
    | false =>
      unfold readScheme at hread ⊢
      rw [if_neg (by simp [hfile]),if_neg (by simp [hspecial])] at hread ⊢
      exact .inl hread

/-- How a text is read at a base: as it is read alone, as a reference, or as another fragment of the base. -/
lemma join_cases {text : String} (hread : b.join text = .ok t) : Url.parse text = .ok t ∨ ∃ r cs,
    isFileScheme b.scheme = true ∧ readFile (some b) r cs = .ok t ∨
    isFileScheme b.scheme = false ∧ (isSpecialScheme b.scheme = true ∨ b.isRootless = false) ∧
      readRelative b r cs = .ok t ∨
    r.fragment.isSome = true ∧ t = { b with fragment := readFragment r.fragment } := by
  cases hsplit : splitScheme (Reference.ofChars (cleaned text.toList)).front with
  | some parts =>
    have halone := readChars_eq rfl hsplit
    unfold Url.join readChars at hread
    dsimp only at hread
    rw [hsplit] at hread
    rcases readScheme_cases hread with h | ⟨hfile,h⟩ | ⟨hfile,hspecial,h⟩
    · exact .inl (halone.trans h)
    · exact .inr ⟨_,_,.inl ⟨hfile,h⟩⟩
    · exact .inr ⟨_,_,.inr (.inl ⟨hfile,.inl hspecial,h⟩)⟩
  | none =>
    unfold Url.join readChars at hread
    dsimp only at hread
    rw [hsplit] at hread
    dsimp only at hread
    split_ifs at hread with hrootless hends hfile
    · obtain rfl := Except.ok.inj hread
      rw [Bool.and_eq_true_iff] at hends
      exact .inr ⟨_,[],.inr (.inr ⟨hends.2,rfl⟩)⟩
    · exact .inr ⟨_,_,.inl ⟨hfile,hread⟩⟩
    · exact .inr ⟨_,_,.inr (.inl ⟨by simpa using hfile,.inr (by simpa using hrootless),hread⟩)⟩

/-- What is read at a base in normal form is in normal form, where its name, if it has one, is settled. -/
theorem isNormal_of_join {text : String} (hb : b.IsSettled → b.IsNormal) (hscheme : IsScheme b.scheme)
    (hread : b.join text = .ok t) (ht : t.IsSettled) : t.IsNormal := by
  rcases join_cases hread with h | ⟨r,cs,⟨hfile,h⟩ | ⟨hfile,hrooted,h⟩ | ⟨hfragment,rfl⟩⟩
  · exact isNormal_of_parse h ht
  · exact isNormal_of_readFile hb hfile h ht
  · refine isNormal_of_readRelative hb hscheme hfile (fun hbody => ?_) h ht
    exact hrooted.elim hbody.isRootless_of_special id
  · have hn := hb (ht.of_host rfl)
    refine hn.withEnds (fun _ _ hnone => ?_) hn.query free_readFragment
    rw [Option.map_eq_none_iff.mp hnone] at hfragment
    cases hfragment

/-- What a text is read as at a URL that was read is read again from its own text. -/
theorem parse_text_of_join {base text : String} (hb : Url.parse base = .ok b) (hread : b.join text = .ok t)
    (ht : t.IsSettled) : Url.parse t.text = .ok t :=
  (isNormal_of_join (isNormal_of_parse hb) (parse_parts hb).1 hread ht).parse

/-! References that begin with a slash. -/

/-- Whether a reference leaves nothing of the path of a web URL. -/
def isRooted (text : String) : Bool := startsWithSlash true (Reference.ofChars (cleaned text.toList)).front

lemma splitScheme_slash {c : Char} (hc : isSlash true c = true) (rest : List Char) :
    splitScheme (c::rest) = none := by
  have halpha : c.isAlpha = false := by
    rcases Bool.or_eq_true_iff.mp hc with h | h
    · rw [eq_of_beq h]; decide
    · rw [eq_of_beq (Bool.and_eq_true_iff.mp h).2]; decide
  rw [splitScheme,if_neg (by simp [halpha])]

/-- Such a reference has no scheme, and is read against the scheme of its base. -/
lemma isRooted_cases {text : String} (h : isRooted text = true) : Url.parse text = .error .noBase ∧
    ∃ c rest query fragment, isSlash true c = true ∧
      ∀ b, isFileScheme b.scheme = false → b.isRootless = false →
        b.join text = readRelative b ⟨c::rest,query,fragment⟩ (c::rest) := by
  unfold isRooted at h
  cases hr : Reference.ofChars (cleaned text.toList) with
  | mk front query fragment =>
    rw [hr] at h
    cases front with
    | nil => cases h
    | cons c rest =>
      have hsplit := splitScheme_slash h rest
      refine ⟨?_,c,rest,query,fragment,h,fun b hfile hrooted => ?_⟩
      · rw [Url.parse,readChars,hr]
        dsimp only
        rw [hsplit]
      · rw [Url.join,readChars,hr]
        dsimp only
        rw [hsplit]
        dsimp only
        rw [hrooted,hfile]
        rfl

/-- What it is read as at a web URL, fragments aside, depends on no part of the base but the scheme and the authority. -/
lemma readRelative_rooted {b' : Url} {c : Char} {rest : List Char} (hc : isSlash true c = true)
    (hspecial : isSpecialScheme b.scheme = true) (hscheme : b'.scheme = b.scheme)
    (hread : readRelative b r (c::rest) = .ok t) :
    ∃ t', readRelative b' r (c::rest) = .ok t' ∧ t'.path = t.path ∧ t'.query = t.query := by
  unfold readRelative at hread ⊢
  rw [hscheme]
  dsimp only at hread ⊢
  rw [hspecial,if_pos hc] at hread ⊢
  by_cases hrest : startsWithSlash true rest = true
  · rw [if_pos hrest] at hread ⊢
    exact ⟨t,hread,rfl,rfl⟩
  · rw [if_neg hrest] at hread ⊢
    obtain rfl := Except.ok.inj hread
    exact ⟨_,rfl,rfl,rfl⟩

lemma isRootless_readPath (scheme : List Char) (ss : List (List Char)) (cs : List Char)
    (h : t.path = readPath scheme ss cs) : t.isRootless = false := by
  rw [isRootless,h,readPath_eq]
  split_ifs <;> rfl

lemma readBehindSlashes_segments (hread : readBehindSlashes scheme cs r = .ok t) :
    t.scheme = scheme ∧ t.isRootless = false := by
  obtain ⟨a,-,rfl⟩ := readBehindSlashes_eq_ok.mp hread
  exact ⟨rfl,isRootless_readPath _ _ _ rfl⟩

/-- A reference has the scheme of its base, and a path of segments as the base has. -/
lemma readRelative_segments (hrooted : b.isRootless = false) (hread : readRelative b r cs = .ok t) :
    t.scheme = b.scheme ∧ t.isRootless = false := by
  rcases readRelative_cases hread with rfl | ⟨authority,h⟩ | ⟨ss,-,-,rfl⟩
  · exact ⟨rfl,hrooted⟩
  · exact readBehindSlashes_segments h
  · exact ⟨rfl,isRootless_readPath b.scheme ss cs rfl⟩

/-- What has no meaning of its own has the scheme of the base it is read at. -/
lemma join_segments {text : String} {e : Error} (hfile : isFileScheme b.scheme = false) (hrooted : b.isRootless = false)
    (halone : Url.parse text = .error e) (hread : b.join text = .ok t) :
    t.scheme = b.scheme ∧ t.isRootless = false := by
  rcases join_cases hread with h | ⟨r,cs,⟨hother,-⟩ | ⟨-,-,h⟩ | ⟨-,rfl⟩⟩
  · rw [halone] at h
    cases h
  · rw [hfile] at hother
    cases hother
  · exact readRelative_segments hrooted h
  · exact ⟨rfl,hrooted⟩

/-- At two web URLs with one scheme, a reference that begins with a slash has one path and one query. -/
theorem join_rooted {b' : Url} {text : String} (htext : isRooted text = true) (hfile : isFileScheme b.scheme = false)
    (hspecial : isSpecialScheme b.scheme = true) (hscheme : b'.scheme = b.scheme) (hb : b.isRootless = false)
    (hb' : b'.isRootless = false) (hread : b.join text = .ok t) :
    ∃ t', b'.join text = .ok t' ∧ t'.path = t.path ∧ t'.query = t.query := by
  obtain ⟨-,c,rest,query,fragment,hc,hjoin⟩ := isRooted_cases htext
  rw [hjoin b hfile hb] at hread
  rw [hjoin b' (hscheme ▸ hfile) hb']
  exact readRelative_rooted hc hspecial hscheme hread

end PageTelemetry.Url
