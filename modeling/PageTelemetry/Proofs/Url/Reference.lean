import PageTelemetry.Proofs.Url.Host

/-! What is done to the text of a URL before the rules of its scheme apply: it is cleaned, fragment and query are cut
off, and the scheme is told from the rest. -/
namespace PageTelemetry.Url
open Text Percent
variable {cs scheme rest : List Char}

/-! Cleaning. -/

/-- Neither a tab nor a line end. -/
def isKept (c : Char) : Bool := c != '\t' && c != '\n' && c != '\r'

lemma isKept_of_large {c : Char} (h : 0x20 ≤ c.toNat) : isKept c = true := by
  have hne {d : Char} (hd : d.toNat < 0x20) : (c != d) = true := by
    rw [bne_iff_ne]
    rintro rfl
    omega
  rw [isKept,hne (by decide),hne (by decide),hne (by decide)]
  rfl

lemma isKept_of_isVisible {c : Char} (h : isVisible c = true) : isKept c = true :=
  isKept_of_large (Nat.le_of_lt (of_decide_eq_true h))

lemma cleaned_eq (cs : List Char) : cleaned cs = (strip (fun c => !isVisible c) cs).filter isKept := by
  have hvisible : (fun c : Char => decide (c.toNat ≤ 0x20)) = fun c => !isVisible c := by
    funext c
    rw [isVisible,← decide_not]
    simp
  rw [cleaned,hvisible]
  rfl

/-- Nothing is cleaned away from a text that begins and ends with something visible and holds nothing before blanks. -/
lemma cleaned_self (hchars : ∀ c ∈ cs, 0x20 ≤ c.toNat) (hhead : ∀ c ∈ cs.head?, isVisible c = true)
    (hlast : ∀ c ∈ cs.getLast?, isVisible c = true) : cleaned cs = cs := by
  rw [cleaned_eq,strip_of_ends,List.filter_eq_self.mpr fun c hc => isKept_of_large (hchars c hc)]
  · simpa using hhead
  · simpa using hlast

/-- A cleaned text ends with something visible. -/
lemma last_cleaned (cs : List Char) : ∀ c ∈ (cleaned cs).getLast?, isVisible c = true := by
  intro c hc
  rw [cleaned_eq] at hc
  have hlast : ∀ d ∈ (strip (fun c => !isVisible c) cs).getLast?, isVisible d = true := by
    intro d hd
    rw [strip,List.getLast?_reverse] at hd
    exact head_dropWhile isVisible _ d hd
  rcases List.eq_nil_or_concat' (strip (fun c => !isVisible c) cs) with hnil | ⟨front,d,hconcat⟩
  · rw [hnil] at hc
    cases hc
  · have hd := hlast d (by simp [hconcat])
    rw [hconcat,List.filter_append,List.filter_singleton,isKept_of_isVisible hd] at hc
    obtain rfl : d = c := by simpa using hc
    exact hd

/-- Where a text ends with something visible, tabs and line ends aside, what is put behind it is cleaned apart. -/
lemma exists_cleaned {c : Char} (hc : c ∈ (cs.filter isKept).getLast?) (hvisible : isVisible c = true) :
    ∃ front, ∀ tail, (∀ d ∈ tail, isVisible d = true) → cleaned (cs ++ tail) = front ++ c::tail := by
  have hparts : ∃ front dropped, cs = front ++ c::dropped ∧ dropped.filter isKept = [] := by
    obtain ⟨kept,hkept⟩ := List.getLast?_eq_some_iff.mp hc
    obtain ⟨a,rest,rfl,-,hrest⟩ := List.filter_eq_append_iff.mp hkept
    obtain ⟨b,dropped,rfl,-,-,hdropped⟩ := List.filter_eq_cons_iff.mp hrest
    exact ⟨a ++ b,dropped,by simp,hdropped⟩
  obtain ⟨front,dropped,rfl,hdropped⟩ := hparts
  have hhidden : ∀ d ∈ dropped, (!isVisible d) = true := by
    intro d hd
    rw [Bool.not_eq_true',Bool.eq_false_iff]
    exact fun h => List.filter_eq_nil_iff.mp hdropped d hd (isKept_of_isVisible h)
  have hstays : (!isVisible c) = false := by rw [hvisible]; rfl
  refine ⟨(front.dropWhile fun c => !isVisible c).filter isKept,fun tail htail => ?_⟩
  rcases List.eq_nil_or_concat' tail with rfl | ⟨init,d,rfl⟩
  · rw [List.append_nil,cleaned_eq,strip_concat (p := fun c => !isVisible c) hstays front hhidden,
      List.filter_append,List.filter_singleton,isKept_of_isVisible hvisible]
    rfl
  · have hd := htail d (by simp)
    have hstrip : strip (fun c => !isVisible c) (front ++ c::dropped ++ (init ++ [d])) =
        front.dropWhile (fun c => !isVisible c) ++ c::(dropped ++ (init ++ [d])) := by
      have hend : ∀ e ∈ (front ++ c::dropped ++ (init ++ [d])).getLast?, (!isVisible e) = false := by
        rw [← List.append_assoc _ init,List.getLast?_concat]
        rintro _ ⟨⟩
        rw [hd]
        rfl
      rw [strip_of_last hend,List.append_assoc,List.cons_append,
        dropWhile_concat (p := fun c => !isVisible c) hstays]
    have hself : (init ++ [d]).filter isKept = init ++ [d] :=
      List.filter_eq_self.mpr fun x hx => isKept_of_isVisible (htail x hx)
    rw [cleaned_eq,hstrip,List.filter_append,List.filter_cons_of_pos (isKept_of_isVisible hvisible),
      List.filter_append,hdropped,hself]
    rfl

/-! Schemes. -/
/-- A scheme as it stands in a URL that was read. -/
structure IsScheme (scheme : List Char) : Prop where
  first : ∃ c rest, scheme = c::rest ∧ c.isAlpha = true
  chars : ∀ c ∈ scheme, isSchemeChar c = true
  lower : ∀ c ∈ scheme, c.toLower = c

lemma ascii_of_isSchemeChar {c : Char} (h : isSchemeChar c = true) : c.toNat < 128 := by
  simp only [isSchemeChar,Bool.or_eq_true,beq_iff_eq] at h
  rcases h with ((h | rfl) | rfl) | rfl
  · exact ascii_of_isAlphanum h
  all_goals decide

lemma isScheme_toLower {raw : List Char} (hfirst : ∃ c rest, raw = c::rest ∧ c.isAlpha = true)
    (hchars : ∀ c ∈ raw, isSchemeChar c = true) : IsScheme (raw.map Char.toLower) := by
  have hlower : ∀ n < 128, isSchemeChar (Char.ofNat n) = true →
      isSchemeChar (Char.ofNat n).toLower = true ∧ (Char.ofNat n).toLower.toLower = (Char.ofNat n).toLower := by
    decide +kernel
  have halpha : ∀ n < 128, (Char.ofNat n).isAlpha = true → (Char.ofNat n).toLower.isAlpha = true := by
    decide +kernel
  have hmapped : ∀ c ∈ raw.map Char.toLower, isSchemeChar c = true ∧ c.toLower = c := by
    intro c hc
    obtain ⟨d,hd,rfl⟩ := List.mem_map.mp hc
    exact forall_ascii (P := fun c => isSchemeChar c = true → isSchemeChar c.toLower = true ∧
      c.toLower.toLower = c.toLower) hlower (ascii_of_isSchemeChar (hchars d hd)) (hchars d hd)
  refine ⟨?_,fun c hc => (hmapped c hc).1,fun c hc => (hmapped c hc).2⟩
  obtain ⟨c,tail,rfl,hc⟩ := hfirst
  exact ⟨c.toLower,_,rfl,forall_ascii (P := fun c => c.isAlpha = true → c.toLower.isAlpha = true) halpha
    (ascii_of_isAlpha hc) hc⟩

lemma splitScheme_eq {raw : List Char} (hfirst : ∃ c rest, raw = c::rest ∧ c.isAlpha = true)
    (hchars : ∀ c ∈ raw, isSchemeChar c = true) (rest : List Char) :
    splitScheme (raw ++ ':'::rest) = some (raw.map Char.toLower,rest) := by
  obtain ⟨c,tail,hraw,hc⟩ := hfirst
  have htake : (raw ++ ':'::rest).takeWhile isSchemeChar = raw := by
    rw [List.takeWhile_append_of_pos hchars]
    simp [show isSchemeChar ':' = false by decide]
  have hdrop : (raw ++ ':'::rest).dropWhile isSchemeChar = ':'::rest := by
    rw [List.dropWhile_append_of_pos hchars]
    simp [show isSchemeChar ':' = false by decide]
  have hcons : raw ++ ':'::rest = c::(tail ++ ':'::rest) := by rw [hraw]; rfl
  rw [hcons] at htake hdrop ⊢
  simp only [splitScheme,hc,if_true,hdrop,htake]

lemma IsScheme.split (hs : IsScheme scheme) (rest : List Char) :
    splitScheme (scheme ++ ':'::rest) = some (scheme,rest) := by
  rw [splitScheme_eq hs.first hs.chars,Domain.map_toLower hs.lower]

/-- What stands in front of the colon is a scheme once it is in lower case. -/
lemma splitScheme_ok (h : splitScheme cs = some (scheme,rest)) : IsScheme scheme ∧ ∃ raw, cs = raw ++ ':'::rest ∧
    (∃ c tail, raw = c::tail ∧ c.isAlpha = true) ∧ (∀ c ∈ raw, isSchemeChar c = true) ∧
    raw.map Char.toLower = scheme := by
  cases cs with
  | nil => cases h
  | cons c tail =>
    simp only [splitScheme] at h
    split_ifs at h with hc
    split at h
    · rename_i rest' hdrop
      obtain ⟨rfl,rfl⟩ := Prod.mk.inj (Option.some.inj h)
      have hcs := List.takeWhile_append_dropWhile (p := isSchemeChar) (l := c::tail)
      rw [hdrop] at hcs
      have hchars : ∀ d ∈ (c::tail).takeWhile isSchemeChar, isSchemeChar d = true :=
        List.all_eq_true.mp List.all_takeWhile
      have hfirst : ∃ d tail', (c::tail).takeWhile isSchemeChar = d::tail' ∧ d.isAlpha = true := by
        refine ⟨c,tail.takeWhile isSchemeChar,?_,hc⟩
        simp [isSchemeChar,Char.isAlphanum,hc]
      exact ⟨isScheme_toLower hfirst hchars,_,hcs.symm,hfirst,hchars,rfl⟩
    · cases h

/-- What stands behind the colon may go on. -/
lemma splitScheme_append {raw : List Char} (h : splitScheme (raw ++ ':'::rest) = some (scheme,rest))
    (tail : List Char) : splitScheme (raw ++ ':'::(rest ++ tail)) = some (scheme,rest ++ tail) := by
  obtain ⟨-,raw',hraw,hfirst,hchars,hlower⟩ := splitScheme_ok h
  obtain rfl := List.append_cancel_right hraw
  rw [splitScheme_eq hfirst hchars,hlower]

/-! Cutting off query and fragment. -/

/-- The characters at which a text is cut in front of the scheme and the rest. -/
def cutsFront (c : Char) : Bool := c == '?' || c == '#'

/-- A part that may be absent, behind the character that announces it. -/
def announced (c : Char) : Option (List Char) → List Char
  | none => []
  | some part => c::part

lemma cut?_announced {c : Char} {front : List Char} (hfront : Free (· == c) front) (part : Option (List Char)) :
    cut? (· == c) (front ++ announced c part) = part.map fun part => (front,part) := by
  cases part with
  | none => rw [announced,List.append_nil,cut?_free hfront]; rfl
  | some part => exact cut?_append hfront (by simp)

lemma free_cutsFront : Free cutsFront cs ↔ Free (· == '?') cs ∧ Free (· == '#') cs := by
  simp only [Free,cutsFront,Bool.or_eq_false_iff]
  exact ⟨fun h => ⟨fun c hc => (h c hc).1,fun c hc => (h c hc).2⟩,fun h c hc => ⟨h.1 c hc,h.2 c hc⟩⟩

lemma ofChars_announced {front : List Char} {query fragment : Option (List Char)} (hfront : Free cutsFront front)
    (hquery : ∀ q ∈ query, Free (· == '#') q) :
    Reference.ofChars (front ++ announced '?' query ++ announced '#' fragment) = ⟨front,query,fragment⟩ := by
  obtain ⟨hmark,hsharp⟩ := free_cutsFront.mp hfront
  have hquery' : Free (· == '#') (front ++ announced '?' query) := by
    refine hsharp.append ?_
    cases query with
    | none => exact free_nil
    | some q => exact free_cons.mpr ⟨by decide,hquery q rfl⟩
  rw [Reference.ofChars,cut?_announced hquery']
  cases fragment <;> cases query <;> simp only [Option.map_none,Option.map_some,announced,List.append_nil,
    cut?_free hmark,cut?_append hmark (show ('?' == '?') = true from rfl)]

lemma exists_announced (c : Char) (cs : List Char) :
    ∃ front part, cs = front ++ announced c part ∧ Free (· == c) front := by
  cases hcut : cut? (· == c) cs with
  | none => exact ⟨cs,none,by simp [announced],free_of_cut? hcut⟩
  | some pair =>
    obtain ⟨d,hd,hcs,hfree⟩ := eq_of_cut? (a := pair.1) (b := pair.2) hcut
    exact ⟨pair.1,some pair.2,by rw [hcs,eq_of_beq hd]; rfl,hfree⟩

/-- What is cut off and what is left make up the whole. -/
lemma ofChars_eq (cs : List Char) : ∃ front query fragment, Reference.ofChars cs = ⟨front,query,fragment⟩ ∧
    cs = front ++ announced '?' query ++ announced '#' fragment ∧ Free cutsFront front ∧
    ∀ q ∈ query, Free (· == '#') q := by
  obtain ⟨rest,fragment,rfl,hrest⟩ := exists_announced '#' cs
  obtain ⟨front,query,rfl,hfront⟩ := exists_announced '?' rest
  have hcuts : Free cutsFront front := free_cutsFront.mpr ⟨hfront,hrest.of_append_left⟩
  have hquery : ∀ q ∈ query, Free (· == '#') q := by
    rintro q rfl
    exact (free_cons.mp hrest.of_append_right).2
  exact ⟨front,query,fragment,ofChars_announced hcuts hquery,rfl,hcuts,hquery⟩

end PageTelemetry.Url
