import PageTelemetry.Proofs.Layering
import PageTelemetry.Proofs.Routing
import PageTelemetry.Proofs.Url.Legible

/-! The directory of a script is a URL again, at the origin of the script and with the front of its path. Only where the
path has an empty segment in front of its last one does the directory end with a slash. -/
namespace PageTelemetry
open Text

namespace Text
variable {p : Char → Bool} {cs : List Char}

lemma stripEnd_concat {c : Char} (hc : p c = true) (cs : List Char) : stripEnd p (cs ++ [c]) = stripEnd p cs := by
  rw [stripEnd,List.reverse_append,List.reverse_singleton,List.singleton_append,List.dropWhile_cons_of_pos hc,stripEnd]

end Text

namespace Url
variable {u : Url} {h : Host} {ss : List (List Char)} {last : List Char} {text : String}

/-- The URL of a path at the origin of another one. -/
def atOrigin (u : Url) (ss : List (List Char)) : Url :=
  { u with username := [], password := [], path := .segments ss, query := none, fragment := none }

/-- An origin has neither credentials, nor query, nor fragment. -/
lemma text_atOrigin (hhost : u.host = some h) (ss : List (List Char)) :
    (u.atOrigin ss).text = u.originText ++ String.ofList (Path.segments ss).write := by
  have hport : (u.atOrigin ss).writePort = u.writePort := rfl
  have hcredentials : (u.atOrigin ss).writeCredentials = [] := rfl
  rw [text,originText,hhost,← String.ofList_append]
  congr 1
  simp only [write,writeAuthority,atOrigin,hhost] at hport hcredentials ⊢
  simp [hport,hcredentials]

/-- A web URL that was read has a host, whose text is not empty and ends no authority, and at least one segment. -/
lemma web_parts (hread : Url.parse text = .ok u) (hhttp : u.isHttp = true) : ∃ h ss last,
    u.host = some h ∧ h.write ≠ [] ∧ Free endsAuthority h.write ∧ u.path = .segments (ss ++ [last]) ∧
      SchemePath u.scheme (ss ++ [last]) := by
  obtain ⟨scheme,raw,rest,query,fragment,hr,hsplit,hread⟩ := parse_ok hread
  obtain ⟨hcuts,hlast⟩ := behind_ofChars hr
  obtain ⟨rfl,-⟩ := readScheme_ok hread hcuts hlast
  obtain ⟨hspecial,hfile⟩ := isSpecialScheme_of_isHttp hhttp
  rw [readScheme_special hfile hspecial] at hread
  obtain ⟨a,hauthority,ha⟩ := readBehindSlashes_eq_ok.mp hread
  rw [readAuthority_eq] at hauthority
  obtain ⟨hempty,hhost,-⟩ := readParts_ok hauthority
  have hne : a.host.write ≠ [] := write_ne_nil_of_parse hhost fun hnil => absurd (hempty hnil).1 (by simp [hspecial])
  obtain ⟨ss,hpath,hss,hsome⟩ := readPath_isPath (SchemePath.nil u.scheme)
    ((rest.dropWhile (isSlash true)).dropWhile fun c => !isSlash (isSpecialScheme u.scheme) c)
  obtain ⟨front,last,rfl⟩ := (List.eq_nil_or_concat' ss).resolve_left (hsome (.inl hspecial))
  exact ⟨a.host,front,last,by rw [← ha]; rfl,hne,free_of_host hhost,by rw [← ha]; exact hpath,hss⟩

/-- The path in front of its last segment. -/
lemma write_concat (ss : List (List Char)) (last : List Char) :
    (Path.segments (ss ++ [last])).write = (Path.segments ss).write ++ '/'::last := by
  simp [Path.write]

lemma SchemePath.of_prefix {scheme : List Char} {front : List (List Char)} (h : SchemePath scheme ss)
    (hfront : front <+: ss) : SchemePath scheme front := by
  refine ⟨fun s hs => h.segments s (hfront.subset hs),fun hfile s hs => h.drive hfile s ?_⟩
  obtain ⟨behind,rfl⟩ := hfront
  rw [List.head?_append,Option.mem_def.mp hs]
  rfl

/-- No path at all is that of one empty segment. -/
lemma readPath_nil {scheme : List Char} (hspecial : isSpecialScheme scheme = true) :
    readPath scheme [] [] = .segments [[]] := by
  rw [readPath_eq,hspecial]
  cases isFileScheme scheme <;> rfl

lemma HasAuthority.authorityText_ne_nil (ha : HasAuthority u h) (hspecial : isSpecialScheme u.scheme = true) :
    authorityText u h ≠ [] := by
  intro hnil
  simp only [authorityText,List.append_eq_nil_iff] at hnil
  have hplain := (ha.bare hnil.1.2).1
  simp [hspecial] at hplain

/-- Authority and path are read as they were written, but that there is always a path. -/
lemma readBehindSlashes_web (hhost : u.host = some h) (ha : HasAuthority u h) (hpath : u.path = .segments ss)
    (hss : SchemePath u.scheme ss) (hspecial : isSpecialScheme u.scheme = true) {r : Reference} (hr : Refers r u) :
    readBehindSlashes u.scheme (authorityText u h ++ (Path.segments ss).write) r =
      .ok { u with path := .segments (if ss = [] then [[]] else ss) } := by
  by_cases hne : ss = []
  · subst hne
    have hslashes := ha.unslashed (isSpecialScheme u.scheme)
    have hread : readBehindSlashes u.scheme (authorityText u h ++ (Path.segments []).write) r =
        .ok ⟨u.scheme,u.username,u.password,some h,u.port,.segments [[]],u.query,u.fragment⟩ := by
      simp only [readBehindSlashes,takeWhile_free hslashes head_write,dropWhile_free hslashes head_write,ha.read,
        hr.query,hr.fragment]
      rw [show (Path.segments []).write = [] from rfl,readPath_nil hspecial]
      rfl
    rw [hread,if_pos rfl,← hhost]
  · have hsame : { u with path := .segments ss } = u := by rw [← hpath]
    rw [if_neg hne,hsame]
    exact readBehindSlashes_write hhost ha hpath hss (fun _ => hne) hr

/-- Behind a special scheme the authority is not empty, and no slash begins it. -/
lemma HasAuthority.dropWhile_slashes (ha : HasAuthority u h) (hspecial : isSpecialScheme u.scheme = true)
    (cs : List Char) : (authorityText u h ++ cs).dropWhile (isSlash true) = authorityText u h ++ cs := by
  obtain ⟨c,rest,hcons⟩ := List.exists_cons_of_ne_nil (ha.authorityText_ne_nil hspecial)
  have hc : isSlash true c = false := ha.unslashed true c (by rw [hcons]; exact List.mem_cons_self)
  rw [hcons,List.cons_append,List.dropWhile_cons_of_neg (by simp [hc])]

lemma HasAuthority.atOrigin (ha : HasAuthority u h) (ss : List (List Char)) : HasAuthority (u.atOrigin ss) h :=
  ⟨ha.host,free_nil,free_nil,ha.port,fun hempty => ⟨(ha.bare hempty).1,rfl,rfl,(ha.bare hempty).2.2.2⟩⟩

/-- The authority of a web URL that was read and whose host is settled. -/
lemma hasAuthority_of_parse (hread : Url.parse text = .ok u) (hsettled : u.IsSettled) (hhttp : u.isHttp = true)
    (hhost : u.host = some h) : HasAuthority u h := by
  obtain ⟨hspecial,hfile⟩ := isSpecialScheme_of_isHttp hhttp
  cases (isNormal_of_parse hread hsettled).body with
  | hosted h' ss' _ hhost' ha => exact Option.some.inj (hhost.symm.trans hhost') ▸ ha
  | file h' ss' hfile' => simp [hfile] at hfile'
  | rooted ss' hspecial' => simp [hspecial] at hspecial'
  | rootless text' hspecial' => simp [hspecial] at hspecial'

/-- What stands at the origin of a web URL is read as it was written, but that there is always a path. -/
theorem parse_atOrigin (hread : Url.parse text = .ok u) (hsettled : u.IsSettled) (hhttp : u.isHttp = true)
    (hhost : u.host = some h) (hss : SchemePath u.scheme ss) :
    Url.parse (u.atOrigin ss).text = .ok (u.atOrigin (if ss = [] then [[]] else ss)) := by
  obtain ⟨hspecial,-⟩ := isSpecialScheme_of_isHttp hhttp
  have ha := (hasAuthority_of_parse hread hsettled hhttp hhost).atOrigin ss
  have hbehind : (u.atOrigin ss).behindScheme =
      '/' :: '/' :: (authorityText (u.atOrigin ss) h ++ (Path.segments ss).write) := by
    rw [behindScheme,writeAuthority_hosted (u := u.atOrigin ss) hhost]
    rfl
  have hweb : (u.atOrigin ss).IsWeb := by
    refine ⟨hhttp,(isWeb_of_parse hread hhttp).scheme,⟨_,hbehind,?_⟩,by simp [atOrigin],by simp [atOrigin]⟩
    exact (free_of_endsAuthority ha.unended).append hss.free_write
  rw [Url.parse,hweb.read none,hbehind]
  exact (congrArg (readBehindSlashes u.scheme · _) (ha.dropWhile_slashes hspecial _)).trans
    (readBehindSlashes_web (u := u.atOrigin ss) hhost ha rfl hss hspecial ⟨rfl,rfl⟩)

/-- An origin does not end with a slash. -/
lemma last_originText (hhost : u.host = some h) (hne : h.write ≠ []) (hfree : Free endsAuthority h.write) :
    ∀ c ∈ u.originText.toList.getLast?, c ≠ '/' := by
  have horigin : u.originText.toList = u.scheme ++ ':' :: '/' :: '/' :: (h.write ++ u.writePort) := by
    rw [originText,hhost,String.toList_ofList]
  have hends : Free endsAuthority (h.write ++ u.writePort) :=
    hfree.append (free_writePort _ (by decide) (by decide) u)
  rintro c hc rfl
  rw [horigin,List.getLast?_append_of_ne_nil _ (by simp),List.getLast?_cons_of_ne_nil (by simp),
    List.getLast?_cons_of_ne_nil (by simp),List.getLast?_cons_of_ne_nil (by simp [hne])] at hc
  exact absurd (hends _ (List.mem_of_getLast? hc)) (by decide)

/-- With the slashes at its end a path loses the empty segments at its end. -/
lemma stripEnd_write {front : List Char} (hfront : ∀ c ∈ front.getLast?, c ≠ '/')
    (hss : ∀ s ∈ ss, ∀ c ∈ s, c ≠ '/') : stripEnd (· == '/') (front ++ (Path.segments ss).write) =
      front ++ (Path.segments (ss.rdropWhile (· = []))).write := by
  induction ss using List.reverseRecOn with
  | nil =>
    rw [List.rdropWhile_nil,show (Path.segments []).write = [] from rfl,List.append_nil]
    exact stripEnd_of_last fun c hc => by simpa using hfront c hc
  | append_singleton ss s ih =>
    rw [write_concat,← List.append_assoc]
    cases s with
    | nil =>
      rw [stripEnd_concat rfl,List.rdropWhile_concat_pos _ _ _ (by simp)]
      exact ih fun s hs => hss s (List.mem_append_left _ hs)
    | cons c rest =>
      rw [List.rdropWhile_concat_neg _ _ _ (by simp),write_concat,← List.append_assoc]
      refine stripEnd_of_last fun d hd => ?_
      rw [List.getLast?_append_of_ne_nil _ (by simp),List.getLast?_cons_of_ne_nil (by simp)] at hd
      simpa using hss _ (by simp) d (List.mem_of_getLast? hd)

end Url

namespace ScriptTag
open Url
variable {source dir : String} {front name : List Char}

lemma beforeLastSlash_append (hname : ∀ c ∈ name, c ≠ '/') : beforeLastSlash (front ++ '/'::name) = front := by
  have hreverse : (front ++ '/'::name).reverse = name.reverse ++ '/'::front.reverse := by simp
  rw [beforeLastSlash,hreverse,List.dropWhile_append_of_pos (by simpa using hname),
    List.dropWhile_cons_of_neg (by simp)]
  simp

/-- The parts of a directory: the URL of its script, the path of that URL in front of the last slash, and what stands
behind that slash. -/
structure IsDirectory (source dir : String) (u : Url) (front name : List Char) : Prop where
  read : Url.parse source = .ok u
  http : u.isHttp = true
  path : u.path.write = front ++ '/'::name
  unbroken : '/' ∉ name
  text : dir = u.originText ++ String.ofList front

/-- A directory is the text of a URL at the origin of its script. -/
lemma directory_ok (h : directory source = .ok dir) : ∃ u host ss last, u.host = some host ∧ host.write ≠ [] ∧
    Free endsAuthority host.write ∧ SchemePath u.scheme (ss ++ [last]) ∧
    IsDirectory source dir u (Path.segments ss).write last := by
  unfold directory at h
  split at h
  · cases h
  · rename_i u hread
    split_ifs at h with hhttp
    obtain ⟨host,ss,last,hhost,hne,hfree,hpath,hss⟩ := web_parts hread hhttp
    have hlast : ∀ c ∈ last, c ≠ '/' := fun c hc => ne_slash ((hss.segments last (by simp)).unbroken c hc)
    have hwrite : u.path.write = (Path.segments ss).write ++ '/'::last := by rw [hpath,write_concat]
    refine ⟨u,host,ss,last,hhost,hne,hfree,hss,hread,hhttp,hwrite,fun hmem => hlast _ hmem rfl,?_⟩
    rw [← Except.ok.inj h,hwrite,beforeLastSlash_append hlast]

/-- A tag that names no collector sends to the directory of its script, less the slashes at its end. -/
lemma resolve_directory {tag : ScriptTag} {key : String} {u : Url} (hdir : directory tag.source = .ok dir)
    (hcollector : tag.collector? = none) (hkey : tag.siteKey? = some key)
    (hread : Url.parse (trimEndSlashes dir) = .ok u) :
    ∃ c s, tag.config = .ok c ∧ c.resolve = .ok s ∧ s.siteKey = key ∧ s.apiUrl = trimEndSlashes dir := by
  have hurl : tag.apiUrl = .ok dir := (ScriptTag.apiUrl_of_unnamed hcollector).trans hdir
  obtain ⟨raw,-,hraw⟩ := Option.bind_eq_some_iff.mp hkey
  have htrimmed : (tag.siteKey?.bind trimmed?) = some key := by
    rw [hkey,Option.bind_some]
    exact trimmed?_trimmed hraw
  refine ⟨⟨tag.siteKey?,some dir,tag.includeQuery?.getD false,true,false,.auto,false⟩,
    ⟨key,trimEndSlashes dir,tag.includeQuery?.getD false,false,.auto,false⟩,?_,?_,rfl,rfl⟩
  · rw [config,hurl]
    rfl
  · have hsome : ¬(trimEndSlashes dir).isEmpty = true := by
      intro hempty
      have hnone : (Url.parse "").toOption = none := by decide +kernel
      rw [String.isEmpty_iff.mp hempty] at hread
      simp [hread,Except.toOption] at hnone
    simp only [Config.resolve,htrimmed,Option.getD_some,if_neg hsome,hread]

/-- The directory of a script is the origin of its URL and the path in front of the last slash, and nothing else of that
URL. It ends with a slash where that path does. It is read as the same URL without credentials, query and fragment, and
with that path; and a tag with a site key that names no collector is one that resolves, to the directory without the
slashes at its end. A name that is not plain ASCII is taken to be one that is mapped to itself, as what is mapped to
ASCII is. -/
theorem directory_reads_back (h : directory source = .ok dir) : ∃ u front name, IsDirectory source dir u front name ∧
    (dir.toList.getLast? = some '/' ↔ front.getLast? = some '/') ∧
    ((∀ name, u.host = some (.domain name) → Domain.isSimple name = false → Domain.Settled name) →
      (∃ v, Url.parse dir = .ok v ∧
        v = { u with username := [], password := [], path := v.path, query := none, fragment := none } ∧
        v.path.write = if front = [] then ['/'] else front) ∧
      ∀ (tag : ScriptTag) (key : String), tag.source = source → tag.collector? = none → tag.siteKey? = some key →
        ∃ c s, tag.config = .ok c ∧ c.resolve = .ok s ∧ s.siteKey = key ∧ s.apiUrl = trimEndSlashes dir ∧
          (s.apiUrl = dir ↔ front.getLast? ≠ some '/')) := by
  obtain ⟨u,host,ss,last,hhost,hne,hfree,hss,hdir⟩ := directory_ok h
  have hfront : SchemePath u.scheme ss := hss.of_prefix (List.prefix_append ss [last])
  have hunslashed : ∀ s ∈ ss, ∀ c ∈ s, c ≠ '/' := fun s hs c hc => ne_slash ((hfront.segments s hs).unbroken c hc)
  have horigin := last_originText hhost hne hfree
  have hends : dir.toList.getLast? = some '/' ↔ (Path.segments ss).write.getLast? = some '/' := by
    rw [hdir.text,String.toList_append,String.toList_ofList,List.getLast?_append]
    cases hlast : (Path.segments ss).write.getLast? with
    | none => simpa using fun hslash => horigin _ hslash rfl
    | some c => simp
  refine ⟨u,_,last,hdir,hends,fun hname => ?_⟩
  have hparse {ss' : List (List Char)} (hss' : SchemePath u.scheme ss') :=
    parse_atOrigin hdir.read (isSettled_of_tables hname) hdir.http hhost hss'
  have htrim : trimEndSlashes dir = (u.atOrigin (ss.rdropWhile (· = []))).text := by
    rw [trimEndSlashes,hdir.text,String.toList_append,String.toList_ofList,stripEnd_write horigin hunslashed,
      text_atOrigin hhost,String.ofList_append,String.ofList_toList]
  have hkept : SchemePath u.scheme (ss.rdropWhile (· = [])) := hfront.of_prefix (List.rdropWhile_prefix _ ss)
  refine ⟨⟨_,(congrArg Url.parse (hdir.text.trans (text_atOrigin hhost ss).symm)).trans (hparse hfront),rfl,?_⟩,?_⟩
  · cases ss with
    | nil => rfl
    | cons s ss => rfl
  · rintro tag key rfl hcollector hkey
    have hread := (congrArg Url.parse htrim).trans (hparse hkept)
    obtain ⟨c,s,hc,hs,hsite,hapi⟩ := resolve_directory h hcollector hkey hread
    refine ⟨c,s,hc,hs,hsite,hapi,?_⟩
    rw [hapi,trimEndSlashes_eq_self_iff,ne_eq,hends]

/-- A script with credentials, a port, a query and a fragment. -/
def versioned : ScriptTag := ⟨"https://user:pw@cdn.example.com:8443/js/v1/t.js?v=3#x",[("data-site-key"," k ")]⟩

theorem directory_reads_back_versioned : directory versioned.source = .ok "https://cdn.example.com:8443/js/v1" ∧
    (∃ v, Url.parse "https://cdn.example.com:8443/js/v1" = .ok v ∧ v.path.write = "/js/v1".toList) ∧
    ∃ c s, versioned.config = .ok c ∧ c.resolve = .ok s ∧ s.siteKey = "k" ∧
      s.apiUrl = "https://cdn.example.com:8443/js/v1" := by
  have hdir : directory versioned.source = .ok "https://cdn.example.com:8443/js/v1" := by decide +kernel
  have hparse : Url.parse versioned.source = .ok ⟨"https".toList,"user".toList,"pw".toList,
      some (.domain "cdn.example.com".toList),some 8443,.segments ["js".toList,"v1".toList,"t.js".toList],
      some "v=3".toList,some "x".toList⟩ := by decide +kernel
  obtain ⟨u,front,name,hparts,hends,hreads⟩ := directory_reads_back hdir
  obtain rfl := Except.ok.inj (hparts.read.symm.trans hparse)
  have hfront : beforeLastSlash (front ++ '/'::name) = front :=
    beforeLastSlash_append fun c hc hslash => hparts.unbroken (hslash ▸ hc)
  obtain rfl : "/js/v1".toList = front := by rw [← hfront,← hparts.path]; decide +kernel
  obtain ⟨⟨v,hv,-,hpath⟩,htag⟩ := hreads (by
    rintro name hname hsimple
    obtain rfl := Host.domain.inj (Option.some.inj hname)
    exact absurd hsimple (by decide +kernel))
  obtain ⟨c,s,hc,hs,hkey,-,hsame⟩ := htag versioned "k" rfl (by decide +kernel) (by decide +kernel)
  exact ⟨hdir,⟨v,hv,hpath⟩,c,s,hc,hs,hkey,hsame.mpr (by decide)⟩

/-- A script whose path has an empty segment in front of its last one. -/
def doubled : ScriptTag := ⟨"https://cdn.example.com/js//t.js",[("data-site-key","k")]⟩

/-- The directory ends with a slash then, and a tag is resolved to another text. -/
theorem directory_slashed : directory doubled.source = .ok "https://cdn.example.com/js/" ∧
    (doubled.config.toOption.bind fun c => c.resolve.toOption).map (·.apiUrl) = some "https://cdn.example.com/js" := by
  decide +kernel

end ScriptTag
end PageTelemetry
