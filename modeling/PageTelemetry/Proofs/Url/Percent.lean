import PageTelemetry.Proofs.Url.Pieces
import PageTelemetry.Url.Parser

/-! Percent-encoding. What is encoded once is not encoded again, and encoding makes no dots: a segment is `.` or `..`
after it if and only if it was before. -/
namespace PageTelemetry.Url.Percent
open Text
variable {encoded p : Char → Bool} {cs : List Char} {c : Char}

/-- The characters that encoding writes. -/
def marks : List Char :=
  ['%','0','1','2','3','4','5','6','7','8','9','A','B','C','D','E','F']

lemma upperHexDigit_mem_marks (n : ℕ) : upperHexDigit n ∈ marks := by
  have hdigits : ∀ d < 16, upperHexDigit d ∈ marks := by decide +kernel
  have hmod : upperHexDigit n = upperHexDigit (n%16) := by
    unfold upperHexDigit
    rw [Nat.mod_mod]
  rw [hmod]
  exact hdigits _ (Nat.mod_lt _ (by decide))

lemma encodeByte_marks (b : UInt8) : ∀ c ∈ encodeByte b, c ∈ marks := by
  have hpercent : '%' ∈ marks := by decide
  simp [encodeByte,hpercent,upperHexDigit_mem_marks]

lemma encodeChar_kept (h : encoded c = false) : encodeChar encoded c = [c] := by simp [encodeChar,h]

lemma encodeChar_encoded (h : encoded c = true) :
    encodeChar encoded c = (String.utf8EncodeChar c).flatMap encodeByte := by simp [encodeChar,h]

/-- An encoded character is a sign for each of its bytes. -/
lemma encodeChar_bytes (h : encoded c = true) :
    ∃ b bs, String.utf8EncodeChar c = b::bs ∧ encodeChar encoded c = encodeByte b ++ bs.flatMap encodeByte := by
  cases hbytes : String.utf8EncodeChar c with
  | nil => exact absurd hbytes String.utf8EncodeChar_ne_nil
  | cons b bs => exact ⟨b,bs,rfl,by rw [encodeChar_encoded h,hbytes,List.flatMap_cons]⟩

lemma encode_cons (encoded : Char → Bool) (c : Char) (cs : List Char) :
    encode encoded (c::cs) = encodeChar encoded c ++ encode encoded cs := List.flatMap_cons

lemma encode_append (encoded : Char → Bool) (a b : List Char) :
    encode encoded (a ++ b) = encode encoded a ++ encode encoded b := List.flatMap_append

/-- Where there is nothing to encode all stays as it is. -/
lemma encode_of_free (h : Free encoded cs) : encode encoded cs = cs := by
  induction cs with
  | nil => rfl
  | cons c cs ih =>
    obtain ⟨hc,hcs⟩ := free_cons.mp h
    rw [encode_cons,encodeChar_kept hc,ih hcs]
    rfl

lemma mem_encodeChar {d : Char} (hd : d ∈ encodeChar encoded c) : d = c ∧ encoded c = false ∨ d ∈ marks := by
  cases h : encoded c with
  | false =>
    rw [encodeChar_kept h] at hd
    exact .inl ⟨List.mem_singleton.mp hd,rfl⟩
  | true =>
    rw [encodeChar_encoded h] at hd
    obtain ⟨b,-,hb⟩ := List.mem_flatMap.mp hd
    exact .inr (encodeByte_marks b d hb)

lemma mem_encode (hc : c ∈ encode encoded cs) : c ∈ cs ∧ encoded c = false ∨ c ∈ marks := by
  obtain ⟨d,hd,hcd⟩ := List.mem_flatMap.mp hc
  exact (mem_encodeChar hcd).imp_left fun ⟨e,hkept⟩ => e ▸ ⟨hd,hkept⟩

/-- What is free of a set of characters stays so when it is encoded, if none of them is one that encoding writes. -/
lemma free_encode (hmarks : Free p marks) (hcs : ∀ c ∈ cs, encoded c = false → p c = false) :
    Free p (encode encoded cs) := by
  intro c hc
  rcases mem_encode hc with ⟨hmem,hkept⟩ | hmark
  · exact hcs c hmem hkept
  · exact hmarks c hmark

/-- What is encoded holds nothing that is still to be encoded. -/
theorem encode_free (hmarks : Free encoded marks) (cs : List Char) : Free encoded (encode encoded cs) :=
  free_encode hmarks fun _ _ hkept => hkept

lemma encodeChar_ne_nil (encoded : Char → Bool) (c : Char) : encodeChar encoded c ≠ [] := by
  cases h : encoded c with
  | false => simp [encodeChar_kept h]
  | true =>
    obtain ⟨b,bs,-,hbytes⟩ := encodeChar_bytes h
    simp [hbytes,encodeByte]

lemma encode_eq_nil : encode encoded cs = [] ↔ cs = [] := by
  cases cs with
  | nil => simp [encode]
  | cons c cs => simp [encode_cons,encodeChar_ne_nil]

/-- An encoded text begins as the text does, or with a percent sign. -/
lemma head_encode (hc : c ∈ (encode encoded cs).head?) : c ∈ cs.head? ∧ encoded c = false ∨ c = '%' := by
  cases cs with
  | nil => cases hc
  | cons d cs =>
    rw [encode_cons] at hc
    cases h : encoded d with
    | false =>
      rw [encodeChar_kept h] at hc
      obtain rfl := Option.some.inj hc
      exact .inl ⟨rfl,h⟩
    | true =>
      obtain ⟨b,bs,-,hbytes⟩ := encodeChar_bytes h
      rw [hbytes] at hc
      exact .inr (Option.some.inj hc).symm

/-- An encoded text ends as the text does, or with a digit. -/
lemma last_encode (hc : c ∈ (encode encoded cs).getLast?) : c ∈ cs.getLast? ∧ encoded c = false ∨ c ∈ marks := by
  rcases List.eq_nil_or_concat' cs with rfl | ⟨front,d,rfl⟩
  · cases hc
  · have hlast : c ∈ (encodeChar encoded d).getLast? := by
      rw [encode_append,encode_cons,show encode encoded [] = [] from rfl,List.append_nil,
        List.getLast?_append_of_ne_nil _ (encodeChar_ne_nil encoded d)] at hc
      exact hc
    rcases mem_encodeChar (List.mem_of_getLast? hlast) with ⟨rfl,hkept⟩ | hmark
    · exact .inl ⟨by simp,hkept⟩
    · exact .inr hmark

/-! The sets of characters that URLs encode hold none of the characters that encoding writes. -/

lemma free_marks : Free isControl marks ∧ Free inFragment marks ∧ Free inQuery marks ∧ Free inSpecialQuery marks ∧
    Free inPath marks ∧ Free inUserinfo marks := by decide

/-- No blank, and nothing before it in ASCII. -/
def isVisible (c : Char) : Bool := 0x20 < c.toNat

lemma isVisible_of_ne (hcontrol : isControl c = false) (hspace : c ≠ ' ') : isVisible c = true := by
  simp only [isControl,Bool.or_eq_false_iff,decide_eq_false_iff_not] at hcontrol
  have hne : c.toNat ≠ 0x20 := fun h => hspace (by rw [← c.ofNat_toNat,h])
  simp only [isVisible,decide_eq_true_eq]
  omega

lemma isVisible_of_inQuery (h : inQuery c = false) : isVisible c = true := by
  simp only [inQuery,Bool.or_eq_false_iff,beq_eq_false_iff_ne] at h
  exact isVisible_of_ne h.1.1.1.1.1 h.1.1.1.1.2

lemma isVisible_of_inFragment (h : inFragment c = false) : isVisible c = true := by
  simp only [inFragment,Bool.or_eq_false_iff,beq_eq_false_iff_ne] at h
  exact isVisible_of_ne h.1.1.1.1.1 h.1.1.1.1.2

lemma inQuery_of_inPath (h : inPath c = false) : inQuery c = false := by
  simp only [inPath,Bool.or_eq_false_iff] at h
  exact h.1.1.1.1

lemma inPath_of_inUserinfo (h : inUserinfo c = false) : inPath c = false := by
  simp only [inUserinfo,Bool.or_eq_false_iff] at h
  exact h.1.1.1.1.1.1.1.1.1.1

/-! Dots. -/

lemma dots_cons_of_ne {cs : List Char} (h : c ≠ '%') : dots (c::cs) = c::dots cs := by
  rw [dots]
  · rintro rest rfl
    exact absurd rfl h
  · rintro rest rfl
    exact absurd rfl h

lemma dots_percent {rest : List Char} (h : ∀ tail, rest ≠ '2' :: 'e' :: tail) (h' : ∀ tail, rest ≠ '2' :: 'E' :: tail) :
    dots ('%'::rest) = '%'::dots rest := by
  rw [dots]
  · rintro tail - rfl
    exact h tail rfl
  · rintro tail - rfl
    exact h' tail rfl

/-- The sign of a byte is not read as a dot unless the byte is one. -/
lemma mem_dots_encodeByte {b : UInt8} (h : b ≠ 0x2e) (rest : List Char) : '%' ∈ dots (encodeByte b ++ rest) := by
  have hdigits : ∀ n < 256, n ≠ 0x2e → ¬(upperHexDigit (n/16) = '2' ∧
      (upperHexDigit (n%16) = 'e' ∨ upperHexDigit (n%16) = 'E')) := by decide +kernel
  have hb := hdigits b.toNat b.toNat_lt fun hn => h (UInt8.toNat_inj.mp hn)
  rw [encodeByte,List.cons_append,dots_percent]
  · exact List.mem_cons_self
  · rintro tail htail
    simp only [List.cons_append,List.cons.injEq] at htail
    exact hb ⟨htail.1,.inl htail.2.1⟩
  · rintro tail htail
    simp only [List.cons_append,List.cons.injEq] at htail
    exact hb ⟨htail.1,.inr htail.2.1⟩

/-- Only a dot is written with the byte of a dot in front. -/
lemma utf8_ne_dot {b : UInt8} {bs : List UInt8} (h : String.utf8EncodeChar c = b::bs) (hc : c ≠ '.') : b ≠ 0x2e := by
  rintro rfl
  simp only [String.utf8EncodeChar] at h
  split_ifs at h <;> simp only [List.cons.injEq,← UInt8.toNat_inj,UInt8.toNat_ofNat',Nat.reducePow] at h
  all_goals have hfirst : _ = 46 := h.1
  · refine hc (Char.ext (UInt32.toNat_inj.mp ?_))
    change c.val.toNat = 46
    omega
  all_goals omega

lemma encode_eq_cons {d : Char} {tail : List Char} (h : encode encoded cs = d::tail) (hd : d ≠ '%') :
    ∃ rest, cs = d::rest ∧ encode encoded rest = tail := by
  cases cs with
  | nil => cases h
  | cons c cs =>
    rw [encode_cons] at h
    cases hc : encoded c with
    | false =>
      rw [encodeChar_kept hc,List.singleton_append] at h
      obtain ⟨rfl,rfl⟩ := List.cons.inj h
      exact ⟨cs,rfl,rfl⟩
    | true =>
      obtain ⟨b,bs,-,hbytes⟩ := encodeChar_bytes hc
      rw [hbytes] at h
      exact absurd (List.cons.inj h).1.symm hd

/-- A percent sign that stands for no dot stands for none when what follows it is encoded. -/
lemma mem_dots_percent {rest : List Char} (hlower : ∀ tail, rest ≠ '2' :: 'e' :: tail)
    (hupper : ∀ tail, rest ≠ '2' :: 'E' :: tail) : '%' ∈ dots ('%'::encode encoded rest) := by
  rw [dots_percent]
  · exact List.mem_cons_self
  · intro tail htail
    obtain ⟨rest₁,rfl,h₁⟩ := encode_eq_cons htail (by decide)
    obtain ⟨rest₂,rfl,-⟩ := encode_eq_cons h₁ (by decide)
    exact hlower rest₂ rfl
  · intro tail htail
    obtain ⟨rest₁,rfl,h₁⟩ := encode_eq_cons htail (by decide)
    obtain ⟨rest₂,rfl,-⟩ := encode_eq_cons h₁ (by decide)
    exact hupper rest₂ rfl

/-- A text in which something was encoded is no longer one of dots. By induction on how dots are read. -/
lemma mem_dots_encode (hdot : encoded '.' = false) (he : encoded 'e' = false) (hmarks : Free encoded marks)
    (h : ∃ c ∈ cs, encoded c = true) : '%' ∈ dots (encode encoded cs) := by
  have hkept {d : Char} (hd : d ∈ marks) {rest : List Char} :
      encode encoded (d::rest) = d::encode encoded rest := by
    rw [encode_cons,encodeChar_kept (hmarks d hd)]
    rfl
  have hkept' {rest : List Char} : encode encoded ('e'::rest) = 'e'::encode encoded rest := by
    rw [encode_cons,encodeChar_kept he]
    rfl
  have hnot {d : Char} (hd : encoded d = false) {rest : List Char} (h : ∃ c ∈ d::rest, encoded c = true) :
      ∃ c ∈ rest, encoded c = true := by simpa [hd] using h
  induction cs using dots.induct with
  | case1 => simp at h
  | case2 rest ih =>
    rw [hkept (by decide),hkept (by decide),hkept',dots]
    exact List.mem_cons_of_mem _ (ih (hnot he (hnot (hmarks _ (by decide)) (hnot (hmarks _ (by decide)) h))))
  | case3 rest ih =>
    rw [hkept (by decide),hkept (by decide),hkept (by decide),dots]
    exact List.mem_cons_of_mem _
      (ih (hnot (hmarks _ (by decide)) (hnot (hmarks _ (by decide)) (hnot (hmarks _ (by decide)) h))))
  | case4 c rest hlower hupper ih =>
    cases hc : encoded c with
    | true =>
      obtain ⟨b,bs,hb,hbytes⟩ := encodeChar_bytes hc
      rw [encode_cons,hbytes,List.append_assoc]
      refine mem_dots_encodeByte (utf8_ne_dot hb ?_) _
      rintro rfl
      rw [hdot] at hc
      cases hc
    | false =>
      rw [encode_cons,encodeChar_kept hc,List.singleton_append]
      by_cases hpercent : c = '%'
      · subst hpercent
        exact mem_dots_percent (fun tail htail => hlower tail rfl htail) fun tail htail => hupper tail rfl htail
      · rw [dots_cons_of_ne hpercent]
        exact List.mem_cons_of_mem _ (ih (hnot hc h))

/-- A text is encoded to one of dots only if it is one. -/
lemma dots_encode {ds : List Char} (hds : '%' ∉ ds) (h : dots (encode inPath cs) = ds) : encode inPath cs = cs := by
  refine encode_of_free fun c hc => Bool.not_eq_true _ ▸ fun hin => hds ?_
  rw [← h]
  exact mem_dots_encode (by decide) (by decide) free_marks.2.2.2.2.1 ⟨c,hc,hin⟩

lemma isSingleDot_of_encode (h : isSingleDot (encode inPath cs) = true) : isSingleDot cs = true := by
  rwa [dots_encode (by decide : '%' ∉ ['.']) (by simpa [isSingleDot] using h)] at h

lemma isDoubleDot_of_encode (h : isDoubleDot (encode inPath cs) = true) : isDoubleDot cs = true := by
  rwa [dots_encode (by decide : '%' ∉ ['.','.']) (by simpa [isDoubleDot] using h)] at h

end PageTelemetry.Url.Percent
