import PageTelemetry.Proofs.Url.Authority
import PageTelemetry.Proofs.Url.Segments
import PageTelemetry.Proofs.Url.Reference
import PageTelemetry.Proofs.Url.Reading

/-! URLs that were read. What reading makes of a text is a URL in normal form, and a URL in normal form is read from
its own text. -/
namespace PageTelemetry.Url
open Text Percent
variable {u : Url} {h : Host} {cs : List Char} {ss : List (List Char)} {r : Reference}

/-- Neither user nor password nor port. -/
def IsBare (u : Url) : Prop := u.username = [] ∧ u.password = [] ∧ u.port = none

/-- Host and path as they stand in a URL that was read: below an authority, below the host of a file, if there is
one, below nothing but the scheme, or as text that is no path of segments. -/
inductive HasBody (u : Url) : Prop
  | hosted (h : Host) (ss : List (List Char)) (hfile : isFileScheme u.scheme = false) (hhost : u.host = some h)
      (ha : HasAuthority u h) (hpath : u.path = .segments ss) (hss : SchemePath u.scheme ss)
      (hne : isSpecialScheme u.scheme = true → ss ≠ [])
  | file (h : Host) (ss : List (List Char)) (hfile : isFileScheme u.scheme = true) (hhost : u.host = some h)
      (hbare : u.IsBare) (hname : h = .empty ∨ IsHost true h ∧ h.write ≠ [] ∧ h ≠ .domain "localhost".toList)
      (hpath : u.path = .segments ss) (hss : SchemePath u.scheme ss) (hne : ss ≠ [])
  | rooted (ss : List (List Char)) (hspecial : isSpecialScheme u.scheme = false) (hhost : u.host = none)
      (hbare : u.IsBare) (hpath : u.path = .segments ss) (hss : SchemePath u.scheme ss) (hne : ss ≠ [])
  | rootless (text : List Char) (hspecial : isSpecialScheme u.scheme = false) (hhost : u.host = none)
      (hbare : u.IsBare) (hpath : u.path = .rootless text) (hclean : Free isControl text)
      (hcut : Free cutsFront text) (hhead : ∀ c ∈ text.head?, c ≠ '/')
      (hlast : u.query = none → u.fragment = none → ∀ c ∈ text.getLast?, c ≠ ' ')

/-- The characters that a query may not hold. -/
def querySet (scheme : List Char) : Char → Bool := if isSpecialScheme scheme then inSpecialQuery else inQuery

/-- A URL as it is read. -/
structure IsNormal (u : Url) : Prop where
  scheme : IsScheme u.scheme
  body : HasBody u
  query : ∀ q ∈ u.query, Free (querySet u.scheme) q
  fragment : ∀ f ∈ u.fragment, Free inFragment f

/-! What is written. -/

/-- What stands behind the colon of the scheme. -/
def behindScheme (u : Url) : List Char := u.writeAuthority ++ u.path.write

lemma write_eq (u : Url) : u.write =
    u.scheme ++ ':'::u.behindScheme ++ announced '?' u.query ++ announced '#' u.fragment := by
  unfold write announced behindScheme
  cases u.query <;> cases u.fragment <;> rfl

/-- The characters that cut a URL off, and those that it never holds but in a path without segments. -/
def cutsUrl (c : Char) : Bool := cutsFront c || !isVisible c

lemma free_cutsUrl : Free cutsUrl cs ↔ Free cutsFront cs ∧ ∀ c ∈ cs, isVisible c = true := by
  simp only [Free,cutsUrl,Bool.or_eq_false_iff,Bool.not_eq_false']
  exact ⟨fun h => ⟨fun c hc => (h c hc).1,fun c hc => (h c hc).2⟩,fun h c hc => ⟨h.1 c hc,h.2 c hc⟩⟩

lemma SchemePath.free_write {scheme : List Char} (h : SchemePath scheme ss) :
    Free cutsUrl (Path.segments ss).write := by
  intro c hc
  rcases mem_write hc with rfl | ⟨s,hs,hc⟩
  · rfl
  · have hkept := (h.segments s hs).clean c hc
    have hvisible := isVisible_of_inQuery (inQuery_of_inPath hkept)
    simp only [inPath,inQuery,Bool.or_eq_false_iff] at hkept
    simp [cutsUrl,cutsFront,hkept,hvisible]

lemma free_of_endsAuthority (h : Free endsAuthority cs) : Free cutsUrl cs := by
  intro c hc
  have hends := h c hc
  simp only [endsAuthority,Bool.or_eq_false_iff] at hends
  simp only [cutsUrl,cutsFront,hends,Bool.or_self]

lemma IsHost.free_write {special : Bool} (hh : IsHost special h) : Free cutsUrl h.write := by
  intro c hc
  have hends := hh.unended c hc
  simp only [endsHost,Bool.or_eq_false_iff] at hends
  simp [cutsUrl,cutsFront,hends,isVisible,hh.visible c hc]

lemma writeAuthority_hosted (hhost : u.host = some h) : u.writeAuthority = '/' :: '/' :: authorityText u h := by
  rw [writeAuthority,hhost]
  rfl

lemma IsBare.authorityText (hu : u.IsBare) (h : Host) : authorityText u h = h.write := by
  simp [Url.authorityText,writeCredentials,writePort,hu.1,hu.2.1,hu.2.2]

/-- Nothing behind the scheme cuts it short, and nothing at its end is stripped. -/
lemma HasBody.uncut (hu : HasBody u) : Free cutsFront u.behindScheme ∧ (∀ c ∈ u.behindScheme, 0x20 ≤ c.toNat) ∧
    (u.query = none → u.fragment = none → ∀ c ∈ u.behindScheme.getLast?, isVisible c = true) := by
  have hvisible (hfree : Free cutsUrl u.behindScheme) : Free cutsFront u.behindScheme ∧
      (∀ c ∈ u.behindScheme, 0x20 ≤ c.toNat) ∧
      (u.query = none → u.fragment = none → ∀ c ∈ u.behindScheme.getLast?, isVisible c = true) := by
    obtain ⟨hfront,hall⟩ := free_cutsUrl.mp hfree
    refine ⟨hfront,fun c hc => ?_,fun _ _ c hc => hall c (List.mem_of_getLast? hc)⟩
    exact Nat.le_of_lt (of_decide_eq_true (hall c hc))
  have hslashes {x : List Char} (hx : Free cutsUrl x) : Free cutsUrl ('/' :: '/' :: x) :=
    free_cons.mpr ⟨rfl,free_cons.mpr ⟨rfl,hx⟩⟩
  cases hu with
  | hosted h ss hfile hhost ha hpath hss hne =>
    refine hvisible ?_
    rw [behindScheme,writeAuthority_hosted hhost,hpath]
    exact (hslashes (free_of_endsAuthority ha.unended)).append hss.free_write
  | file h ss hfile hhost hbare hname hpath hss hne =>
    refine hvisible ?_
    rw [behindScheme,writeAuthority_hosted hhost,hbare.authorityText,hpath]
    refine (hslashes ?_).append hss.free_write
    rcases hname with rfl | ⟨hh,-⟩
    · exact free_nil
    · exact hh.free_write
  | rooted ss hspecial hhost hbare hpath hss hne =>
    refine hvisible ?_
    rw [behindScheme,writeAuthority,hhost,hpath]
    refine Free.append ?_ hss.free_write
    dsimp only
    split
    · exact free_cons.mpr ⟨rfl,free_cons.mpr ⟨rfl,free_nil⟩⟩
    · exact free_nil
  | rootless text hspecial hhost hbare hpath hclean hcut hhead hlast =>
    have hbehind : u.behindScheme = text := by
      rw [behindScheme,writeAuthority,hhost,hpath]
      rfl
    rw [hbehind]
    refine ⟨hcut,fun c hc => ?_,fun hquery hfragment c hc => ?_⟩
    · have hc := hclean c hc
      simp only [isControl,Bool.or_eq_false_iff,decide_eq_false_iff_not] at hc
      omega
    · exact isVisible_of_ne (hclean c (List.mem_of_getLast? hc)) (hlast hquery hfragment c hc)

lemma IsScheme.visible {scheme : List Char} (hs : IsScheme scheme) : Free cutsUrl scheme := by
  have hall : ∀ n < 128, isSchemeChar (Char.ofNat n) = true → cutsUrl (Char.ofNat n) = false := by decide +kernel
  intro c hc
  exact forall_ascii (P := fun c => isSchemeChar c = true → cutsUrl c = false) hall
    (ascii_of_isSchemeChar (hs.chars c hc)) (hs.chars c hc)

lemma isVisible_of_querySet {scheme : List Char} {c : Char} (h : querySet scheme c = false) : isVisible c = true := by
  unfold querySet at h
  split_ifs at h
  · exact isVisible_of_inQuery (Bool.or_eq_false_iff.mp h).1
  · exact isVisible_of_inQuery h

lemma visible_announced {p : Char → Bool} {d : Char} {part : Option (List Char)} (hd : isVisible d = true)
    (hp : ∀ c, p c = false → isVisible c = true) (hpart : ∀ x ∈ part, Free p x) :
    ∀ c ∈ announced d part, isVisible c = true := by
  intro c hc
  cases part with
  | none => cases hc
  | some x =>
    rcases List.mem_cons.mp hc with rfl | hc
    · exact hd
    · exact hp c (hpart x rfl c hc)

lemma last_announced {P : Char → Prop} {d : Char} {front : List Char} {part : Option (List Char)}
    (hfront : part = none → ∀ c ∈ front.getLast?, P c) (hpart : ∀ c ∈ announced d part, P c) :
    ∀ c ∈ (front ++ announced d part).getLast?, P c := by
  intro c hc
  cases part with
  | none =>
    rw [announced,List.append_nil] at hc
    exact hfront rfl c hc
  | some x =>
    rw [List.getLast?_append_of_ne_nil _ (by simp [announced])] at hc
    exact hpart c (List.mem_of_getLast? hc)

lemma last_behind {P : Char → Prop} {scheme rest : List Char} (hcolon : P ':') (hrest : ∀ c ∈ rest.getLast?, P c) :
    ∀ c ∈ (scheme ++ ':'::rest).getLast?, P c := by
  intro c hc
  rw [List.getLast?_append_of_ne_nil _ (by simp)] at hc
  cases rest with
  | nil =>
    obtain rfl := Option.some.inj hc
    exact hcolon
  | cons d rest =>
    rw [List.getLast?_cons_of_ne_nil (by simp)] at hc
    exact hrest c hc

/-- A URL whose text is cut into its own parts: nothing in it cuts it short, and nothing at its end is stripped. -/
structure IsLegible (u : Url) : Prop where
  scheme : IsScheme u.scheme
  uncut : Free cutsFront u.behindScheme
  large : ∀ c ∈ u.behindScheme, 0x20 ≤ c.toNat
  last : u.query = none → u.fragment = none → ∀ c ∈ u.behindScheme.getLast?, isVisible c = true
  query : ∀ q ∈ u.query, Free (querySet u.scheme) q
  fragment : ∀ f ∈ u.fragment, Free inFragment f

lemma IsNormal.legible (hu : u.IsNormal) : u.IsLegible := by
  obtain ⟨huncut,hlarge,hlast⟩ := hu.body.uncut
  exact ⟨hu.scheme,huncut,hlarge,hlast,hu.query,hu.fragment⟩

/-- Nothing of it is cleaned away. -/
lemma IsLegible.cleaned (hu : u.IsLegible) : cleaned u.write = u.write := by
  obtain ⟨-,hscheme⟩ := free_cutsUrl.mp hu.scheme.visible
  have hquery : ∀ c ∈ announced '?' u.query, isVisible c = true :=
    visible_announced rfl (fun _ => isVisible_of_querySet) hu.query
  have hfragment : ∀ c ∈ announced '#' u.fragment, isVisible c = true :=
    visible_announced rfl (fun _ => isVisible_of_inFragment) hu.fragment
  rw [write_eq]
  refine cleaned_self ?_ ?_ ?_
  · have hlarge {c : Char} (h : isVisible c = true) : 0x20 ≤ c.toNat := Nat.le_of_lt (of_decide_eq_true h)
    intro c hc
    simp only [List.mem_append,List.mem_cons] at hc
    rcases hc with ((hc | rfl | hc) | hc) | hc
    · exact hlarge (hscheme c hc)
    · decide
    · exact hu.large c hc
    · exact hlarge (hquery c hc)
    · exact hlarge (hfragment c hc)
  · obtain ⟨c,rest,hcons,-⟩ := hu.scheme.first
    intro d hd
    rw [hcons] at hd
    obtain rfl : c = d := Option.some.inj hd
    exact hscheme c (by rw [hcons]; exact List.mem_cons_self)
  · exact last_announced (fun hf => last_announced (fun hq => last_behind rfl (hu.last hq hf)) hquery) hfragment

/-- The characters of a query never end it. -/
lemma IsLegible.query_free (hu : u.IsLegible) : ∀ q ∈ u.query, Free (· == '#') q := by
  intro q hq c hc
  have hkept := hu.query q hq c hc
  unfold querySet at hkept
  split_ifs at hkept
  · simp only [inSpecialQuery,inQuery,Bool.or_eq_false_iff] at hkept
    exact hkept.1.1.1.2
  · simp only [inQuery,Bool.or_eq_false_iff] at hkept
    exact hkept.1.1.2

/-- Its text is cut into what stands before its query, its query and its fragment. -/
lemma IsLegible.ofChars (hu : u.IsLegible) : Reference.ofChars (Url.cleaned u.text.toList) =
    ⟨u.scheme ++ ':'::u.behindScheme,u.query,u.fragment⟩ := by
  have hfront : Free cutsFront (u.scheme ++ ':'::u.behindScheme) :=
    (free_cutsUrl.mp hu.scheme.visible).1.append (free_cons.mpr ⟨rfl,hu.uncut⟩)
  rw [text,String.toList_ofList,hu.cleaned,write_eq,ofChars_announced hfront hu.query_free]

/-! Reading it again. -/

/-- A reference that holds query and fragment of a URL. -/
structure Refers (r : Reference) (u : Url) : Prop where
  query : readQuery u.scheme r.query = u.query
  fragment : readFragment r.fragment = u.fragment

lemma IsLegible.refers (hu : u.IsLegible) (front : List Char) : Refers ⟨front,u.query,u.fragment⟩ u := by
  constructor
  · have hkept := hu.query
    rw [readQuery]
    cases hq : u.query with
    | none => rfl
    | some q => exact congrArg some (encode_of_free (hkept q hq))
  · have hkept := hu.fragment
    rw [readFragment]
    cases hf : u.fragment with
    | none => rfl
    | some f => exact congrArg some (encode_of_free (hkept f hf))

/-- A path begins with a slash or is empty. -/
lemma head_write {special : Bool} : ∀ c ∈ (Path.segments ss).write.head?, isSlash special c = true := by
  cases ss with
  | nil => simp [Path.write]
  | cons s ss =>
    intro c hc
    obtain rfl : '/' = c := Option.some.inj hc
    exact isSlash_slash special

lemma HasAuthority.unslashed (ha : HasAuthority u h) (special : Bool) : Free (isSlash special) (authorityText u h) := by
  intro c hc
  have hends := ha.unended c hc
  simp only [endsAuthority,Bool.or_eq_false_iff] at hends
  simp [isSlash,hends]

lemma IsHost.unslashed {special : Bool} (hh : IsHost special h) : Free (isSlash true) h.write := by
  intro c hc
  have hends := hh.unended c hc
  simp only [endsHost,Bool.or_eq_false_iff] at hends
  simp [isSlash,hends]

/-- Authority and path are told from each other by the first slash. -/
lemma readBehindSlashes_write (hhost : u.host = some h) (ha : HasAuthority u h) (hpath : u.path = .segments ss)
    (hss : SchemePath u.scheme ss) (hne : isSpecialScheme u.scheme = true → ss ≠ []) (hr : Refers r u) :
    readBehindSlashes u.scheme (authorityText u h ++ (Path.segments ss).write) r = .ok u := by
  have hslashes := ha.unslashed (isSpecialScheme u.scheme)
  have hread : readBehindSlashes u.scheme (authorityText u h ++ (Path.segments ss).write) r =
      .ok ⟨u.scheme,u.username,u.password,some h,u.port,.segments ss,u.query,u.fragment⟩ := by
    simp only [readBehindSlashes,takeWhile_free hslashes head_write,dropWhile_free hslashes head_write,ha.read,
      readPath_write hss hne,hr.query,hr.fragment]
    rfl
  rw [hread,← hhost,← hpath]

lemma fileUrl_write (hfile : isFileScheme u.scheme = true) (hhost : u.host = some h) (hbare : u.IsBare)
    (hpath : u.path = .segments ss) (hss : SchemePath u.scheme ss) (hne : ss ≠ []) (hr : Refers r u) :
    fileUrl h (Path.segments ss).write r = u := by
  have hread := readPath_write hss fun _ => hne
  have hquery := hr.query
  have hscheme : u.scheme = "file".toList := eq_of_beq hfile
  rw [hscheme] at hread hquery
  rw [fileUrl,hread,hquery,hr.fragment]
  obtain ⟨scheme,username,password,host,port,path,query,fragment⟩ := u
  obtain ⟨husername,hpassword,hport⟩ := hbare
  dsimp only at *
  rw [hscheme,husername,hpassword,hport,hhost,hpath]

lemma readFileHost_write (hfile : isFileScheme u.scheme = true) (hhost : u.host = some h) (hbare : u.IsBare)
    (hname : h = .empty ∨ IsHost true h ∧ h.write ≠ [] ∧ h ≠ .domain "localhost".toList)
    (hpath : u.path = .segments ss) (hss : SchemePath u.scheme ss) (hne : ss ≠ []) (hr : Refers r u) :
    readFileHost (h.write ++ (Path.segments ss).write) r = .ok u := by
  have hu := fileUrl_write hfile hhost hbare hpath hss hne hr
  rcases hname with rfl | ⟨hh,hsome,hforeign⟩
  · have hslashes : Free (isSlash true) Host.empty.write := free_nil
    rw [readFileHost_eq,takeWhile_free hslashes head_write,dropWhile_free hslashes head_write,hu]
    rfl
  · have hslashes := hh.unslashed
    rw [readFileHost_eq,takeWhile_free hslashes head_write,dropWhile_free hslashes head_write,hh.notDrive,hh.parse,
      if_neg (by simp),if_neg (by simpa using hsome),Except.map,localised,if_neg hforeign,hu]

lemma Refers.plainUrl (hr : Refers r u) (hhost : u.host = none) (hbare : u.IsBare) :
    plainUrl u.scheme u.path r = u := by
  rw [Url.plainUrl,hr.query,hr.fragment]
  obtain ⟨scheme,username,password,host,port,path,query,fragment⟩ := u
  obtain ⟨husername,hpassword,hport⟩ := hbare
  dsimp only at *
  rw [husername,hpassword,hport,hhost]

/-- A path without a host is not taken for one. -/
lemma readScheme_rooted (hspecial : isSpecialScheme u.scheme = false) (hhost : u.host = none) (hbare : u.IsBare)
    (hpath : u.path = .segments ss) (hss : SchemePath u.scheme ss) (hne : ss ≠ []) (hr : Refers r u) :
    readScheme none u.scheme u.behindScheme r = .ok u := by
  have hurl := hr.plainUrl hhost hbare
  rw [hpath] at hurl
  obtain ⟨first,others,rfl⟩ := List.exists_cons_of_ne_nil hne
  by_cases hdot : first = [] ∧ others ≠ []
  · obtain ⟨rfl,hmore⟩ := hdot
    obtain ⟨second,others,rfl⟩ := List.exists_cons_of_ne_nil hmore
    have hbehind : u.behindScheme = '/' :: '.' :: (Path.segments ([]::second::others)).write := by
      rw [behindScheme,writeAuthority,hhost,hpath]
      rfl
    rw [hbehind,readScheme_slash hspecial (by simp),readPath_dot hss hne,hurl]
  · have hbehind : u.behindScheme = '/'::(first ++ others.flatMap ('/'::·)) := by
      rw [behindScheme,writeAuthority,hhost,hpath]
      cases first with
      | nil =>
        obtain rfl : others = [] := by simpa using hdot
        rfl
      | cons c first => rfl
    have hhead : ∀ c ∈ (first ++ others.flatMap ('/'::·)).head?, c ≠ '/' := by
      cases first with
      | nil =>
        obtain rfl : others = [] := by simpa using hdot
        simp
      | cons c first =>
        intro d hd
        obtain rfl : c = d := Option.some.inj hd
        exact ne_slash ((hss.segments (c::first) List.mem_cons_self).unbroken c List.mem_cons_self)
    rw [hbehind,readScheme_slash hspecial hhead]
    exact congrArg Except.ok ((congrArg (Url.plainUrl u.scheme · r)
      (readPath_write hss fun _ => hne)).trans hurl)

/-- What stands behind the scheme is read as it was written. -/
theorem HasBody.read (hu : HasBody u) (hr : Refers r u) : readScheme none u.scheme u.behindScheme r = .ok u := by
  cases hu with
  | hosted h ss hfile hhost ha hpath hss hne =>
    have hread := readBehindSlashes_write hhost ha hpath hss hne hr
    rw [behindScheme,writeAuthority_hosted hhost,hpath]
    cases hspecial : isSpecialScheme u.scheme with
    | false => exact (readScheme_slashes hspecial _ r).trans hread
    | true =>
      -- The authority is not empty, so the slashes end where it begins.
      have hsome : authorityText u h ≠ [] := by
        intro hnil
        simp only [authorityText,List.append_eq_nil_iff] at hnil
        have hbare := ha.bare hnil.1.2
        rw [hspecial] at hbare
        cases hbare.1
      obtain ⟨c,rest,hcons⟩ := List.exists_cons_of_ne_nil hsome
      have hc : isSlash true c = false := ha.unslashed true c (by rw [hcons]; exact List.mem_cons_self)
      have hdrop : ('/' :: '/' :: authorityText u h ++ (Path.segments ss).write).dropWhile (isSlash true) =
          authorityText u h ++ (Path.segments ss).write := by
        rw [hcons]
        simp [isSlash_slash,hc]
      rw [readScheme_special hfile hspecial,hdrop,hread]
  | file h ss hfile hhost hbare hname hpath hss hne =>
    rw [behindScheme,writeAuthority_hosted hhost,hbare.authorityText,hpath,readScheme_file hfile]
    exact (readFile_slashes (isSlash_slash true) (isSlash_slash true) _ r).trans
      (readFileHost_write hfile hhost hbare hname hpath hss hne hr)
  | rooted ss hspecial hhost hbare hpath hss hne => exact readScheme_rooted hspecial hhost hbare hpath hss hne hr
  | rootless text hspecial hhost hbare hpath hclean hcut hhead hlast =>
    have hbehind : u.behindScheme = text := by
      rw [behindScheme,writeAuthority,hhost,hpath]
      rfl
    rw [hbehind,readScheme_rootless hspecial hhead,encode_of_free hclean,← hpath,hr.plainUrl hhost hbare]

lemma readChars_eq {text scheme rest : List Char} {r : Reference} (hr : Reference.ofChars (cleaned text) = r)
    (hsplit : splitScheme r.front = some (scheme,rest)) : readChars none text = readScheme none scheme rest r := by
  unfold readChars
  rw [hr]
  dsimp only
  rw [hsplit]

/-- A URL in normal form is read from its own text. -/
theorem IsNormal.parse (hu : u.IsNormal) : parse u.text = .ok u := by
  rw [Url.parse,readChars_eq hu.legible.ofChars (hu.scheme.split _)]
  exact hu.body.read (hu.legible.refers _)

end PageTelemetry.Url
