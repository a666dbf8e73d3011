import PageTelemetry.Proofs.Url.Route

/-! Routes behind any base that ends with something visible. Wherever they come to stand, in a path, a query or a
fragment, the whole is read. -/
namespace PageTelemetry.Url
open Text Percent
variable {u : Url} {names : List (List Char)} {cs scheme : List Char} {r : Reference}

/-- A route that is also read where its first name is taken for a host, because the base ends with a slash. -/
structure IsHostRoute (names : List (List Char)) : Prop extends IsRoute names where
  file : ∀ r, ∃ v, readFileHost (routeText names).tail r = .ok v
  plain : ∀ scheme r, isSpecialScheme scheme = false → ∃ v, readBehindSlashes scheme (routeText names).tail r = .ok v

/-! Whether a host is read depends on what stands before the first slash alone. -/

lemma readFileHost_congr {cs' : List Char}
    (hsame : (cs'.takeWhile fun c => !isSlash true c) = cs.takeWhile fun c => !isSlash true c)
    (hread : readFileHost cs r = .ok u) (r' : Reference) : ∃ v, readFileHost cs' r' = .ok v := by
  rw [readFileHost_eq] at hread ⊢
  rw [hsame]
  split_ifs at hread ⊢
  · exact ⟨_,rfl⟩
  · exact ⟨_,rfl⟩
  · cases hhost : Host.parse true (cs.takeWhile fun c => !isSlash true c) with
    | error e => rw [hhost] at hread; cases hread
    | ok host => exact ⟨_,rfl⟩

lemma readBehindSlashes_congr {cs' : List Char}
    (hsame : (cs'.takeWhile fun c => !isSlash (isSpecialScheme scheme) c) =
      cs.takeWhile fun c => !isSlash (isSpecialScheme scheme) c)
    (hread : readBehindSlashes scheme cs r = .ok u) (r' : Reference) : ∃ v, readBehindSlashes scheme cs' r' = .ok v := by
  obtain ⟨a,ha,-⟩ := readBehindSlashes_eq_ok.mp hread
  exact ⟨_,readBehindSlashes_eq_ok.mpr ⟨a,by rw [hsame,ha],rfl⟩⟩

/-- Query and fragment have no part in whether the rest is read. -/
lemma readScheme_other (hread : readScheme none scheme cs r = .ok u) (r' : Reference) :
    ∃ v, readScheme none scheme cs r' = .ok v := by
  cases hfile : isFileScheme scheme with
  | true =>
    rw [readScheme_file hfile] at hread ⊢
    cases hslashes : startsWithSlashes true cs with
    | false => exact ⟨_,readFile_path hslashes r'⟩
    | true =>
      match cs with
      | c::d::rest =>
        obtain ⟨hc,hd⟩ := Bool.and_eq_true_iff.mp hslashes
        rw [readFile_slashes hc hd] at hread ⊢
        exact readFileHost_congr rfl hread r'
  | false =>
    cases hspecial : isSpecialScheme scheme with
    | true =>
      rw [readScheme_special hfile hspecial] at hread ⊢
      exact readBehindSlashes_congr rfl hread r'
    | false =>
      rcases slashes_cases cs with ⟨rest,rfl⟩ | ⟨rest,rfl,hhead⟩ | hhead
      · rw [readScheme_slashes hspecial] at hread ⊢
        exact readBehindSlashes_congr rfl hread r'
      · exact ⟨_,readScheme_slash hspecial hhead r'⟩
      · exact ⟨_,readScheme_rootless hspecial hhead r'⟩

/-! A route at the end of what follows a scheme. -/

lemma IsRoute.cons_tail (hr : IsRoute names) : routeText names = '/'::(routeText names).tail := by
  obtain ⟨c,rest,htext,-⟩ := hr.text
  rw [htext,List.tail_cons]

lemma readFile_append (hr : IsHostRoute names) (hread : readFile none r cs = .ok u) :
    ∃ v, readFile none r (cs ++ routeText names) = .ok v := by
  obtain ⟨d,tail,htext,hd⟩ := hr.text
  match cs with
  | [] => exact ⟨_,readFile_path (by rw [List.nil_append,htext,startsWithSlashes,hd,Bool.and_false]) r⟩
  | [c] =>
    cases hc : isSlash true c with
    | false => exact ⟨_,readFile_path (by rw [List.singleton_append,htext,startsWithSlashes,hc,Bool.false_and]) r⟩
    | true =>
      rw [List.singleton_append,hr.cons_tail,readFile_slashes hc (isSlash_slash true)]
      exact hr.file r
  | c::d::rest =>
    cases hslashes : startsWithSlashes true (c::d::rest) with
    | false =>
      have hslashes' : startsWithSlashes true (c::d::rest ++ routeText names) = false := hslashes
      exact ⟨_,readFile_path hslashes' r⟩
    | true =>
      obtain ⟨hc,hd⟩ := Bool.and_eq_true_iff.mp hslashes
      rw [readFile_slashes hc hd] at hread
      rw [List.cons_append,List.cons_append,readFile_slashes hc hd]
      exact readFileHost_congr (hr.split true rest).1 hread r

lemma readPlain_append (hr : IsHostRoute names) (hspecial : isSpecialScheme scheme = false)
    (hread : readScheme none scheme cs r = .ok u) : ∃ v, readScheme none scheme (cs ++ routeText names) r = .ok v := by
  obtain ⟨d,tail,htext,hd⟩ := hr.text
  rcases slashes_cases cs with ⟨rest,rfl⟩ | ⟨rest,rfl,hhead⟩ | hhead
  · rw [readScheme_slashes hspecial] at hread
    rw [List.cons_append,List.cons_append,readScheme_slashes hspecial]
    exact readBehindSlashes_congr (hr.split _ rest).1 hread r
  · cases rest with
    | nil =>
      rw [List.singleton_append,hr.cons_tail,readScheme_slashes hspecial]
      exact hr.plain scheme r hspecial
    | cons c rest =>
      have hhead' : ∀ e ∈ (c::rest ++ routeText names).head?, e ≠ '/' := hhead
      exact ⟨_,readScheme_slash hspecial hhead' r⟩
  · cases cs with
    | nil =>
      rw [List.nil_append,htext]
      refine ⟨_,readScheme_slash hspecial ?_ r⟩
      rintro _ ⟨⟩
      exact ne_slash (hd false)
    | cons c rest =>
      have hhead' : ∀ e ∈ (c::rest ++ routeText names).head?, e ≠ '/' := hhead
      exact ⟨_,readScheme_rootless hspecial hhead' r⟩

lemma readScheme_append (hr : IsHostRoute names) (hread : readScheme none scheme cs r = .ok u) :
    ∃ v, readScheme none scheme (cs ++ routeText names) r = .ok v := by
  cases hfile : isFileScheme scheme with
  | true =>
    rw [readScheme_file hfile] at hread ⊢
    exact readFile_append hr hread
  | false =>
    cases hspecial : isSpecialScheme scheme with
    | true =>
      rw [readScheme_special hfile hspecial] at hread ⊢
      have hsome : cs.dropWhile (isSlash true) ≠ [] := by
        intro hnil
        rw [hnil,readBehindSlashes_nil hspecial] at hread
        cases hread
      rw [List.dropWhile_append,if_neg (by simpa using hsome)]
      exact readBehindSlashes_congr (hr.split _ _).1 hread r
    | false => exact readPlain_append hr hspecial hread

/-! Whole texts. -/

/-- A text that, tabs and line ends aside, ends with something visible. -/
def EndsVisibly (text : List Char) : Prop := ∃ c ∈ (text.filter isKept).getLast?, isVisible c = true

/-- What is put behind a text comes to stand in its fragment, in its query, or at the end of its front. -/
lemma ofChars_append (cs : List Char) {tail : List Char} (htail : Free cutsFront tail) :
    (∃ q f, Reference.ofChars (cs ++ tail) = ⟨(Reference.ofChars cs).front,q,f⟩) ∨
      Reference.ofChars (cs ++ tail) = ⟨(Reference.ofChars cs).front ++ tail,none,none⟩ := by
  obtain ⟨front,query,fragment,hcs,htext,hfront,hquery⟩ := ofChars_eq cs
  rw [hcs]
  subst htext
  cases fragment with
  | some f =>
    have hcut : Reference.ofChars (front ++ announced '?' query ++ announced '#' (some (f ++ tail))) =
        ⟨front,query,some (f ++ tail)⟩ := ofChars_announced hfront hquery
    exact .inl ⟨query,some (f ++ tail),by simpa [announced] using hcut⟩
  | none =>
    cases query with
    | some q =>
      have hquery' : ∀ p ∈ some (q ++ tail), Free (· == '#') p := by
        rintro _ ⟨⟩
        exact (hquery q rfl).append (free_cutsFront.mp htail).2
      have hcut : Reference.ofChars (front ++ announced '?' (some (q ++ tail)) ++ announced '#' none) =
          ⟨front,some (q ++ tail),none⟩ := ofChars_announced hfront hquery'
      exact .inl ⟨some (q ++ tail),none,by simpa [announced] using hcut⟩
    | none =>
      have hcut := ofChars_uncut (hfront.append htail)
      exact .inr (by simpa [announced] using hcut)

/-- A route behind a text that is read, and ends with something visible. -/
theorem parse_append {text : String} (hr : IsHostRoute names) (hread : Url.parse text = .ok u)
    (hlast : EndsVisibly text.toList) : ∃ v, Url.parse (text ++ String.ofList (routeText names)) = .ok v := by
  obtain ⟨scheme,raw,rest,query,fragment,hcut,hsplit,hread⟩ := parse_ok hread
  obtain ⟨c,hc,hvisible⟩ := hlast
  obtain ⟨hroute,hroutevisible⟩ := free_cutsUrl.mp hr.uncut
  obtain ⟨init,hinit⟩ := exists_cleaned hc hvisible
  have hbare : cleaned text.toList = init ++ [c] := by simpa using hinit [] (by simp)
  have hwhole : cleaned (text.toList ++ routeText names) = cleaned text.toList ++ routeText names := by
    rw [hinit _ hroutevisible,hbare]
    simp
  rw [Url.parse,String.toList_append,String.toList_ofList]
  rcases ofChars_append (cleaned text.toList) hroute with ⟨q,f,hcut'⟩ | hcut'
  all_goals rw [hcut,← hwhole] at hcut'
  · rw [readChars_eq hcut' hsplit]
    exact readScheme_other hread _
  · obtain ⟨v,hv⟩ := readScheme_append hr hread
    rw [List.append_assoc,List.cons_append] at hcut'
    rw [readChars_eq hcut' (splitScheme_append hsplit _)]
    exact readScheme_other hv _

end PageTelemetry.Url
