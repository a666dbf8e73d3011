import PageTelemetry.Proofs.Url.RoundTrip

/-! Routes below a base. A route that is put behind the text of a URL is read as segments behind the path of that URL,
and all else is read as it was. -/
namespace PageTelemetry.Url
open Text Percent
variable {u v : Url} {special file : Bool} {names ss : List (List Char)}
  {cs front scheme : List Char} {r : Reference}

/-- The names of a route: segments whatever the scheme, of which the first is not empty. -/
structure IsRoute (names : List (List Char)) : Prop where
  path : IsPath true true names
  first : ∃ c name others, names = (c::name)::others

/-- The text of a route. -/
abbrev routeText (names : List (List Char)) : List Char := (Path.segments names).write

lemma IsRoute.isPath (hr : IsRoute names) (special file : Bool) : IsPath special file names := by
  refine ⟨fun s hs => ?_,fun _ => hr.path.drive rfl⟩
  obtain ⟨hclean,hunbroken,hdot,hdots⟩ := hr.path.segments s hs
  refine ⟨hclean,fun c hc => ?_,hdot,hdots⟩
  have hslash := hunbroken c hc
  simp only [isSlash,Bool.or_eq_false_iff,Bool.true_and] at hslash
  simp [isSlash,hslash]

lemma IsRoute.ne_nil (hr : IsRoute names) : names ≠ [] := by
  obtain ⟨c,name,others,rfl⟩ := hr.first
  simp

/-- A route begins with one slash. -/
lemma IsRoute.text (hr : IsRoute names) : ∃ c rest, routeText names = '/'::c::rest ∧
    ∀ special, isSlash special c = false := by
  obtain ⟨c,name,others,rfl⟩ := hr.first
  refine ⟨c,name ++ others.flatMap ('/'::·),rfl,fun special => ?_⟩
  exact ((hr.isPath special false).segments _ List.mem_cons_self).unbroken c List.mem_cons_self

lemma IsRoute.head (hr : IsRoute names) (special : Bool) : ∀ c ∈ (routeText names).head?, isSlash special c = true := by
  obtain ⟨c,rest,htext,-⟩ := hr.text
  rw [htext]
  rintro _ ⟨⟩
  exact isSlash_slash special

/-- A text without its last slash. -/
def withoutSlash (cs : List Char) : List Char := if cs.getLast? = some '/' then cs.dropLast else cs

/-- A URL whose path is that of another one, without its last slash, and behind it a route. -/
structure Below (u : Url) (names : List (List Char)) (v : Url) : Prop where
  same : v = { u with path := v.path }
  path : v.path.write = withoutSlash u.path.write ++ routeText names

/-! Paths. -/

lemma write_append (ss ps : List (List Char)) :
    (Path.segments (ss ++ ps)).write = (Path.segments ss).write ++ (Path.segments ps).write := List.flatMap_append

lemma IsRoute.pieces (hr : IsRoute names) (special : Bool) (cs : List Char) :
    pieces (isSlash special) (cs ++ routeText names) = pieces (isSlash special) cs ++ names := by
  have hpath := hr.isPath special false
  obtain ⟨first,others,rfl⟩ := List.exists_cons_of_ne_nil hr.ne_nil
  have hjoin := pieces_join (isSlash_slash special) (hpath.segments first (by simp)).unbroken
    fun s hs => (hpath.segments s (List.mem_cons_of_mem _ hs)).unbroken
  change Text.pieces _ (cs ++ '/'::(first ++ others.flatMap ('/'::·))) = _
  rw [pieces_append (isSlash_slash special),hjoin]

lemma withoutSlash_concat (cs : List Char) : withoutSlash (cs ++ ['/']) = cs := by simp [withoutSlash]

lemma withoutSlash_of_last (h : ∀ c ∈ cs.getLast?, c ≠ '/') : withoutSlash cs = cs := by
  rw [withoutSlash,if_neg fun hlast : cs.getLast? = some '/' => h '/' hlast rfl]

lemma withoutSlash_segment {s : List Char} (hs : IsSegment special s) (hne : s ≠ []) :
    withoutSlash (Path.segments (ss ++ [s])).write = (Path.segments (ss ++ [s])).write := by
  refine withoutSlash_of_last fun c hc => ?_
  have hwrite : (Path.segments [s]).write = '/'::s := by simp [Path.write]
  rw [write_append,hwrite,List.getLast?_append_of_ne_nil _ (by simp),List.getLast?_cons_of_ne_nil hne] at hc
  exact ne_slash (hs.unbroken c (List.mem_of_getLast? hc))

/-- The segments that a text makes, and those that it makes with a route behind it. -/
lemma addSegments_route (hr : IsRoute names) (hcs : cs ≠ []) (hlast : ∀ c ∈ cs.getLast?, isSlash special c = false) :
    (Path.segments (addSegments file [] (Text.pieces (isSlash special) (cs ++ routeText names)))).write =
      withoutSlash (Path.segments (addSegments file [] (Text.pieces (isSlash special) cs))).write ++
        routeText names := by
  obtain ⟨front,last,hpieces⟩ := (List.eq_nil_or_concat' _).resolve_left (pieces_ne_nil (isSlash special) cs)
  have hfree : ∀ s ∈ front ++ [last], Free (isSlash special) s :=
    fun s hs => (mem_of_mem_pieces (hpieces ▸ hs)).1
  have hfold := (isPath_nil special file).foldl hfree
  rw [hr.pieces,hpieces,addSegments_append (hfold.append (hr.isPath special file)) hr.ne_nil,write_append,
    addSegments_concat]
  refine congrArg (· ++ routeText names) ?_
  cases hdots : isDots last with
  | true =>
    rw [if_pos rfl,write_append]
    exact (withoutSlash_concat _).symm
  | false =>
    obtain ⟨hdouble,hsingle⟩ := Bool.or_eq_false_iff.mp hdots
    have hne : last ≠ [] := last_pieces hcs hlast last (by simp [hpieces])
    rw [if_neg (by simp),List.append_nil,List.foldl_append,List.foldl_cons,List.foldl_nil,addPiece,hdouble,hsingle]
    refine (withoutSlash_segment (isSegment_segmentOf (hfree last (by simp)) hdots) ?_).symm
    rcases segmentOf_cases file (front.foldl (addPiece file) []) last with ⟨e,-⟩ | ⟨c,-,e⟩ <;> rw [e]
    · exact fun hnil => hne (encode_eq_nil.mp hnil)
    · simp

/-- A route that is put behind the text of a path comes behind its segments. -/
lemma readPath_route (hr : IsRoute names) (hlast : ∀ c ∈ cs.getLast?, isSlash (isSpecialScheme scheme) c = false) :
    (readPath scheme [] (cs ++ routeText names)).write =
      withoutSlash (readPath scheme [] cs).write ++ routeText names := by
  cases cs with
  | nil =>
    have hpath : SchemePath scheme names := hr.isPath _ _
    have hempty : withoutSlash (readPath scheme [] []).write = [] := by
      rw [readPath_eq]
      cases isSpecialScheme scheme <;> cases isFileScheme scheme <;> rfl
    rw [List.nil_append,readPath_write hpath fun _ => hr.ne_nil,hempty,List.nil_append]
  | cons c rest =>
    rw [readPath_eq,readPath_eq,if_neg (by simp),if_neg (by simp)]
    simp only [List.cons_append,pathBody]
    split_ifs with hc
    · have hne : rest ≠ [] := by
        rintro rfl
        rw [hlast c rfl] at hc
        cases hc
      rw [List.getLast?_cons_of_ne_nil hne] at hlast
      exact addSegments_route hr hne hlast
    · exact addSegments_route hr (by simp) hlast

/-! What follows a scheme. -/

lemma last_of_suffix {p : Char → Prop} {tail : List Char} (h : tail <:+ cs) (hlast : ∀ c ∈ cs.getLast?, p c) :
    ∀ c ∈ tail.getLast?, p c := by
  obtain ⟨front,rfl⟩ := h
  intro c hc
  refine hlast c ?_
  rw [List.getLast?_append,Option.mem_def.mp hc]
  rfl

/-- A route adds nothing to what stands before the first slash. -/
lemma IsRoute.split (hr : IsRoute names) (special : Bool) (cs : List Char) :
    (cs ++ routeText names).takeWhile (fun c => !isSlash special c) = cs.takeWhile (fun c => !isSlash special c) ∧
    (cs ++ routeText names).dropWhile (fun c => !isSlash special c) =
      cs.dropWhile (fun c => !isSlash special c) ++ routeText names := by
  have hfree := free_takeWhile (isSlash special) cs
  have hhead : ∀ c ∈ (cs.dropWhile (fun c => !isSlash special c) ++ routeText names).head?,
      isSlash special c = true := by
    cases hdrop : cs.dropWhile fun c => !isSlash special c with
    | nil => exact hr.head special
    | cons d rest =>
      rintro _ ⟨⟩
      exact head_dropWhile (isSlash special) cs d (by rw [hdrop]; rfl)
  conv => enter [1,1]; rw [← List.takeWhile_append_dropWhile (p := fun c => !isSlash special c) (l := cs)]
  conv => enter [2,1]; rw [← List.takeWhile_append_dropWhile (p := fun c => !isSlash special c) (l := cs)]
  rw [List.append_assoc]
  exact ⟨takeWhile_free hfree hhead,dropWhile_free hfree hhead⟩

lemma readBehindSlashes_route (hr : IsRoute names) (hread : readBehindSlashes scheme cs r = .ok u)
    (hlast : ∀ c ∈ cs.getLast?, isSlash (isSpecialScheme scheme) c = false) :
    ∃ v, readBehindSlashes scheme (cs ++ routeText names) r = .ok v ∧ u.Below names v := by
  obtain ⟨htake,hdrop⟩ := hr.split (isSpecialScheme scheme) cs
  obtain ⟨a,ha,rfl⟩ := readBehindSlashes_eq_ok.mp hread
  refine ⟨_,readBehindSlashes_eq_ok.mpr ⟨a,by rw [htake,ha],rfl⟩,rfl,?_⟩
  rw [hdrop]
  exact readPath_route hr (last_of_suffix (List.dropWhile_suffix _) hlast)

lemma fileUrl_route (hr : IsRoute names) (h : Host) (hlast : ∀ c ∈ cs.getLast?, isSlash true c = false)
    (r : Reference) : (fileUrl h cs r).Below names (fileUrl h (cs ++ routeText names) r) := by
  refine ⟨rfl,readPath_route hr ?_⟩
  rwa [isSpecialScheme_of_isFileScheme (by decide)]

lemma readFileHost_route (hr : IsRoute names) (hread : readFileHost cs r = .ok u)
    (hlast : ∀ c ∈ cs.getLast?, isSlash true c = false) :
    ∃ v, readFileHost (cs ++ routeText names) r = .ok v ∧ u.Below names v := by
  obtain ⟨htake,hdrop⟩ := hr.split true cs
  have hbehind := last_of_suffix (List.dropWhile_suffix fun c => !isSlash true c) hlast
  rw [readFileHost_eq] at hread
  rw [readFileHost_eq,htake,hdrop]
  split_ifs at hread ⊢
  · obtain rfl := Except.ok.inj hread
    exact ⟨_,rfl,fileUrl_route hr _ hlast r⟩
  · obtain rfl := Except.ok.inj hread
    exact ⟨_,rfl,fileUrl_route hr _ hbehind r⟩
  · cases hhost : Host.parse true (cs.takeWhile fun c => !isSlash true c) with
    | error e => rw [hhost] at hread; cases hread
    | ok host =>
      rw [hhost] at hread
      obtain rfl := Except.ok.inj hread
      exact ⟨_,rfl,fileUrl_route hr _ hbehind r⟩

lemma readFile_route (hr : IsRoute names) (hread : readFile none r cs = .ok u)
    (hlast : ∀ c ∈ cs.getLast?, isSlash true c = false) :
    ∃ v, readFile none r (cs ++ routeText names) = .ok v ∧ u.Below names v := by
  have hpath (hslashes : startsWithSlashes true cs = false)
      (hslashes' : startsWithSlashes true (cs ++ routeText names) = false) :
      ∃ v, readFile none r (cs ++ routeText names) = .ok v ∧ u.Below names v := by
    rw [readFile_path hslashes] at hread
    obtain rfl := Except.ok.inj hread
    exact ⟨_,readFile_path hslashes' r,fileUrl_route hr _ hlast r⟩
  obtain ⟨d,tail,htext,hd⟩ := hr.text
  match cs with
  | [] => exact hpath rfl (by rw [List.nil_append,htext,startsWithSlashes,hd,Bool.and_false])
  | [c] => exact hpath rfl (by rw [List.singleton_append,htext,startsWithSlashes,hlast c rfl,Bool.false_and])
  | c::d::rest =>
    cases hslashes : startsWithSlashes true (c::d::rest) with
    | false => exact hpath hslashes hslashes
    | true =>
      obtain ⟨hc,hd⟩ := Bool.and_eq_true_iff.mp hslashes
      rw [readFile_slashes hc hd] at hread
      rw [List.cons_append,List.cons_append,readFile_slashes hc hd]
      exact readFileHost_route hr hread (last_of_suffix ⟨[c,d],rfl⟩ hlast)

/-- Nothing is read behind a special scheme without a host. -/
lemma readBehindSlashes_nil (hspecial : isSpecialScheme scheme = true) (r : Reference) :
    readBehindSlashes scheme [] r = .error .emptyHost := by
  have hauthority : readAuthority scheme [] = .error .emptyHost := by
    unfold readAuthority
    simp only [splitCredentials,cut?,List.reverse_nil,List.dropWhile_nil,Option.map_none,splitPort,hspecial]
    rfl
  unfold readBehindSlashes
  dsimp only
  rw [List.takeWhile_nil,hauthority]
  rfl

lemma IsRoute.clean (hr : IsRoute names) : encode isControl (routeText names) = routeText names := by
  refine encode_of_free fun c hc => ?_
  rcases mem_write hc with rfl | ⟨s,hs,hc⟩
  · rfl
  · have hkept := (hr.path.segments s hs).clean c hc
    simp only [inPath,inQuery,Bool.or_eq_false_iff] at hkept
    exact hkept.1.1.1.1.1.1.1.1.1

lemma readRootless_route (hr : IsRoute names) (hspecial : isSpecialScheme scheme = false)
    (hhead : ∀ c ∈ cs.head?, c ≠ '/') (hlast : ∀ c ∈ cs.getLast?, c ≠ '/') (r : Reference) :
    ∃ v, readScheme none scheme (cs ++ routeText names) r = .ok v ∧
      (plainUrl scheme (.rootless (encode isControl cs)) r).Below names v := by
  cases cs with
  | nil =>
    have hpath : SchemePath scheme names := hr.isPath _ _
    obtain ⟨d,tail,htext,hd⟩ := hr.text
    have hbehind : ∀ c ∈ (d::tail).head?, c ≠ '/' := by
      rintro _ ⟨⟩
      exact ne_slash (hd false)
    rw [List.nil_append,htext,readScheme_slash hspecial hbehind,← htext,readPath_write hpath fun _ => hr.ne_nil]
    exact ⟨_,rfl,rfl,rfl⟩
  | cons c rest =>
    rw [readScheme_rootless hspecial (by simpa using hhead),encode_append,hr.clean]
    refine ⟨_,rfl,rfl,congrArg (· ++ routeText names) (withoutSlash_of_last fun d hd => ?_).symm⟩
    rcases last_encode hd with ⟨hd,-⟩ | hmark
    · exact hlast d hd
    · rintro rfl
      exact absurd hmark (by decide)

lemma readPlain_route (hr : IsRoute names) (hspecial : isSpecialScheme scheme = false)
    (hread : readScheme none scheme cs r = .ok u)
    (hlast : ∀ c ∈ cs.getLast?, isSlash (isSpecialScheme scheme) c = false) :
    ∃ v, readScheme none scheme (cs ++ routeText names) r = .ok v ∧ u.Below names v := by
  rcases slashes_cases cs with ⟨rest,rfl⟩ | ⟨rest,rfl,hhead⟩ | hhead
  · rw [readScheme_slashes hspecial] at hread
    rw [List.cons_append,List.cons_append,readScheme_slashes hspecial]
    exact readBehindSlashes_route hr hread (last_of_suffix ⟨['/','/'],rfl⟩ hlast)
  · -- The slash is not the last character, so that the route does not make it one of two.
    have hne : rest ≠ [] := by
      rintro rfl
      exact ne_slash (hlast '/' rfl) rfl
    rw [readScheme_slash hspecial hhead] at hread
    obtain rfl := Except.ok.inj hread
    rw [List.cons_append,readScheme_slash hspecial (by rwa [List.head?_append_of_ne_nil _ hne])]
    exact ⟨_,rfl,rfl,readPath_route hr hlast⟩
  · rw [readScheme_rootless hspecial hhead] at hread
    obtain rfl := Except.ok.inj hread
    exact readRootless_route hr hspecial hhead (fun c hc => ne_slash (hlast c hc)) r

/-- A route behind what follows a scheme. -/
lemma readScheme_route (hr : IsRoute names) (hread : readScheme none scheme cs r = .ok u)
    (hlast : ∀ c ∈ cs.getLast?, isSlash (isSpecialScheme scheme) c = false) :
    ∃ v, readScheme none scheme (cs ++ routeText names) r = .ok v ∧ u.Below names v := by
  cases hfile : isFileScheme scheme with
  | true =>
    rw [isSpecialScheme_of_isFileScheme hfile] at hlast
    rw [readScheme_file hfile] at hread ⊢
    exact readFile_route hr hread hlast
  | false =>
    cases hspecial : isSpecialScheme scheme with
    | true =>
      rw [readScheme_special hfile hspecial] at hread ⊢
      have hsome : cs.dropWhile (isSlash true) ≠ [] := by
        intro hnil
        rw [hnil,readBehindSlashes_nil hspecial] at hread
        cases hread
      rw [List.dropWhile_append,if_neg (by simpa using hsome)]
      exact readBehindSlashes_route hr hread (last_of_suffix (List.dropWhile_suffix _) hlast)
    | false => exact readPlain_route hr hspecial hread hlast

/-! Whole texts. -/

/-- A text that a route can be put behind: it has neither query nor fragment and, tabs and line ends aside, ends with
something visible that is no slash. -/
structure IsOpen (special : Bool) (text : List Char) : Prop where
  uncut : Free cutsFront text
  last : ∃ c ∈ (text.filter isKept).getLast?, isVisible c = true ∧ isSlash special c = false

lemma IsRoute.uncut (hr : IsRoute names) : Free cutsUrl (routeText names) := by
  have hpath : SchemePath [] names := hr.isPath _ _
  exact hpath.free_write

lemma mem_of_mem_cleaned {c : Char} (hc : c ∈ cleaned cs) : c ∈ cs := by
  have hstrip := (List.mem_filter.mp hc).1
  rw [strip,List.mem_reverse] at hstrip
  have hdrop := (List.dropWhile_sublist _).subset hstrip
  exact (List.dropWhile_sublist _).subset (List.mem_reverse.mp hdrop)

lemma ofChars_uncut (hfront : Free cutsFront front) : Reference.ofChars front = ⟨front,none,none⟩ := by
  have hcut : Reference.ofChars (front ++ announced '?' none ++ announced '#' none) = ⟨front,none,none⟩ :=
    ofChars_announced hfront (by simp)
  simpa [announced] using hcut

/-- A route behind the text of a URL is read as a route below that URL. -/
theorem parse_route {text : String} (hr : IsRoute names) (hread : Url.parse text = .ok u)
    (hopen : IsOpen (isSpecialScheme u.scheme) text.toList) :
    ∃ v, Url.parse (text ++ String.ofList (routeText names)) = .ok v ∧ u.Below names v := by
  obtain ⟨scheme,raw,rest,query,fragment,hcut,hsplit,hread⟩ := parse_ok hread
  obtain ⟨huncut,hlast⟩ := behind_ofChars hcut
  obtain ⟨rfl,-⟩ := readScheme_ok hread huncut hlast
  obtain ⟨c,hc,hvisible,hslash⟩ := hopen.last
  obtain ⟨hroute,hroutevisible⟩ := free_cutsUrl.mp hr.uncut
  obtain ⟨init,hinit⟩ := exists_cleaned hc hvisible
  have hbare : cleaned text.toList = init ++ [c] := by simpa using hinit [] (by simp)
  have hwhole : cleaned (text.toList ++ routeText names) = cleaned text.toList ++ routeText names := by
    rw [hinit _ hroutevisible,hbare]
    simp
  have hclean : Free cutsFront (cleaned text.toList) := fun d hd => hopen.uncut d (mem_of_mem_cleaned hd)
  obtain ⟨hfront,rfl,rfl⟩ := Reference.mk.inj ((ofChars_uncut hclean).symm.trans hcut)
  have hend : ∀ d ∈ rest.getLast?, isSlash (isSpecialScheme u.scheme) d = false := by
    intro d hd
    have hne : rest ≠ [] := by rintro rfl; cases hd
    rw [hbare] at hfront
    have hdc := congrArg List.getLast? hfront
    rw [List.getLast?_concat,List.getLast?_append_of_ne_nil _ (by simp),List.getLast?_cons_of_ne_nil hne,
      Option.mem_def.mp hd] at hdc
    exact Option.some.inj hdc ▸ hslash
  obtain ⟨v,hv,hbelow⟩ := readScheme_route hr hread hend
  refine ⟨v,?_,hbelow⟩
  have hcut' : Reference.ofChars (cleaned (text.toList ++ routeText names)) =
      ⟨raw ++ ':'::(rest ++ routeText names),none,none⟩ := by
    rw [hwhole,ofChars_uncut (hclean.append hroute),hfront]
    simp
  rw [Url.parse,String.toList_append,String.toList_ofList,readChars_eq hcut' (splitScheme_append hsplit _),← hv]
  rfl

end PageTelemetry.Url
