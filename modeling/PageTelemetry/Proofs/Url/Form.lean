import PageTelemetry.Proofs.Url.RoundTrip

/-! Query pairs are read as they were written: the bytes of a character as that character, what was encoded as what it
was, and a pair behind others as the last one. -/
namespace PageTelemetry

/-! Bytes. -/

namespace Text.Utf8
variable {n x : ℕ} {p : Pending}

lemma lead_two (hlow : 0xc2 ≤ n) (hhigh : n ≤ 0xdf) : lead n = .ok ⟨1,n-0xc0,0x80,0xbf⟩ := by
  rw [lead,if_neg (by omega),if_pos ⟨hlow,hhigh⟩]

lemma lead_three (hlow : 0xe0 ≤ n) (hhigh : n ≤ 0xef) (hnext : 0x80 ≤ x ∧ x ≤ 0xbf) (hlong : n = 0xe0 → 0xa0 ≤ x)
    (hsurrogate : n = 0xed → x ≤ 0x9f) :
    ∃ p, lead n = .ok p ∧ p.missing = 2 ∧ p.value = n-0xe0 ∧ p.lower ≤ x ∧ x ≤ p.upper := by
  rw [lead,if_neg (by omega),if_neg (by omega)]
  split_ifs with he0 hed hmiddle
  · exact ⟨_,rfl,rfl,by rw [he0],hlong he0,hnext.2⟩
  · exact ⟨_,rfl,rfl,by rw [hed],hnext.1,hsurrogate hed⟩
  · exact ⟨_,rfl,rfl,rfl,hnext⟩
  all_goals omega

lemma lead_four (hlow : 0xf0 ≤ n) (hhigh : n ≤ 0xf4) (hnext : 0x80 ≤ x ∧ x ≤ 0xbf) (hlong : n = 0xf0 → 0x90 ≤ x)
    (hlast : n = 0xf4 → x ≤ 0x8f) :
    ∃ p, lead n = .ok p ∧ p.missing = 3 ∧ p.value = n-0xf0 ∧ p.lower ≤ x ∧ x ≤ p.upper := by
  rw [lead,if_neg (by omega),if_neg (by omega),if_neg (by omega),if_neg (by omega),if_neg (by omega)]
  split_ifs with hf0 hf4 hmiddle
  · exact ⟨_,rfl,rfl,by rw [hf0],hlong hf0,hnext.2⟩
  · exact ⟨_,rfl,rfl,by rw [hf4],hnext.1,hlast hf4⟩
  · exact ⟨_,rfl,rfl,rfl,hnext⟩
  · omega

lemma toNat_ofNat (hn : n < 256) : (UInt8.ofNat n).toNat = n := by
  rw [UInt8.toNat_ofNat']
  omega

lemma decodeFrom_lead (hn : n < 256) (h : lead n = .ok p) (rest : List UInt8) :
    decodeFrom none (UInt8.ofNat n::rest) = decodeFrom (some p) rest := by rw [decodeFrom,toNat_ofNat hn,h]

/-- A byte that continues a character, and one that completes it. -/
lemma decodeFrom_more (hn : n < 256) (hrange : p.lower ≤ n ∧ n ≤ p.upper) (hmissing : 1 < p.missing)
    (rest : List UInt8) : decodeFrom (some p) (UInt8.ofNat n::rest) =
      decodeFrom (some ⟨p.missing-1,p.value*64 + (n-0x80),0x80,0xbf⟩) rest := by
  simp only [decodeFrom,toNat_ofNat hn,if_pos hrange,if_neg (show ¬p.missing ≤ 1 by omega)]

lemma decodeFrom_last (hn : n < 256) (hrange : p.lower ≤ n ∧ n ≤ p.upper) (hmissing : p.missing = 1)
    (rest : List UInt8) : decodeFrom (some p) (UInt8.ofNat n::rest) =
      Char.ofNat (p.value*64 + (n-0x80))::decodeFrom none rest := by
  simp only [decodeFrom,toNat_ofNat hn,if_pos hrange,if_pos hmissing.le]

/-- A character is read from its bytes, of which there are one to four. -/
lemma decodeFrom_utf8EncodeChar (c : Char) (rest : List UInt8) :
    decodeFrom none (String.utf8EncodeChar c ++ rest) = c::decodeFrom none rest := by
  have hvalid : c.toNat < 0xd800 ∨ 0xdfff < c.toNat ∧ c.toNat < 0x110000 := c.valid
  have hself {m : ℕ} (hm : m = c.toNat) : Char.ofNat m = c := hm ▸ c.ofNat_toNat
  rw [show String.utf8EncodeChar c = if c.toNat ≤ 0x7f then [UInt8.ofNat c.toNat]
    else if c.toNat ≤ 0x7ff then [UInt8.ofNat (c.toNat/64%32+192),UInt8.ofNat (c.toNat%64+128)]
    else if c.toNat ≤ 0xffff then [UInt8.ofNat (c.toNat/4096%16+224),UInt8.ofNat (c.toNat/64%64+128),
      UInt8.ofNat (c.toNat%64+128)]
    else [UInt8.ofNat (c.toNat/262144%8+240),UInt8.ofNat (c.toNat/4096%64+128),UInt8.ofNat (c.toNat/64%64+128),
      UInt8.ofNat (c.toNat%64+128)] from rfl]
  generalize c.toNat = n at hvalid hself ⊢
  split_ifs with h₁ h₂ h₃
  · rw [List.singleton_append,decodeFrom,toNat_ofNat (by omega),lead,if_pos (by omega),hself rfl]
  · simp only [List.cons_append,List.nil_append]
    rw [decodeFrom_lead (by omega) (lead_two (by omega) (by omega)),
      decodeFrom_last (by omega) ⟨by dsimp only; omega,by dsimp only; omega⟩ rfl,hself (by dsimp only; omega)]
  · obtain ⟨p,hlead,hmissing,hvalue,hrange⟩ := lead_three (n := n/4096%16+224) (x := n/64%64+128) (by omega) (by omega)
      (by omega) (by omega) (by omega)
    simp only [List.cons_append,List.nil_append]
    rw [decodeFrom_lead (by omega) hlead,decodeFrom_more (by omega) hrange (by omega),
      decodeFrom_last (by omega) ⟨by dsimp only; omega,by dsimp only; omega⟩ (by dsimp only; omega),
      hself (by dsimp only; omega)]
  · obtain ⟨p,hlead,hmissing,hvalue,hrange⟩ :=
      lead_four (n := n/262144%8+240) (x := n/4096%64+128) (by omega) (by omega)
      (by omega) (by omega) (by omega)
    simp only [List.cons_append,List.nil_append]
    rw [decodeFrom_lead (by omega) hlead,decodeFrom_more (by omega) hrange (by omega),
      decodeFrom_more (by omega) ⟨by dsimp only; omega,by dsimp only; omega⟩ (by dsimp only; omega),
      decodeFrom_last (by omega) ⟨by dsimp only; omega,by dsimp only; omega⟩ (by dsimp only; omega),
      hself (by dsimp only; omega)]

lemma decodeLossy_utf8 (cs : List Char) : decodeLossy (cs.flatMap String.utf8EncodeChar) = cs := by
  unfold decodeLossy
  induction cs with
  | nil => rfl
  | cons c cs ih => rw [List.flatMap_cons,decodeFrom_utf8EncodeChar,ih]
end Text.Utf8

namespace Url
open Text Percent
variable {cs front : List Char} {name value : List Char} {u : Url}

/-! Signs for bytes. -/

lemma Percent.decode_encodeByte (b : UInt8) (rest : List Char) :
    Percent.decode (encodeByte b ++ rest) = b::Percent.decode rest := by
  have hdigits : ∀ n < 256, hexValue? (upperHexDigit (n/16)) = some (n/16) ∧
      hexValue? (upperHexDigit (n%16)) = some (n%16) := by decide +kernel
  obtain ⟨hhigh,hlow⟩ := hdigits b.toNat b.toNat_lt
  have hbyte : UInt8.ofNat (16*(b.toNat/16) + b.toNat%16) = b := by rw [Nat.div_add_mod]; exact UInt8.ofNat_toNat
  simp only [encodeByte,List.cons_append,List.nil_append,Percent.decode,hhigh,hlow,hbyte]

lemma Percent.decode_bytes (bs : List UInt8) (rest : List Char) :
    Percent.decode (bs.flatMap encodeByte ++ rest) = bs ++ Percent.decode rest := by
  induction bs with
  | nil => rfl
  | cons b bs ih => rw [List.flatMap_cons,List.append_assoc,decode_encodeByte,ih,List.cons_append]

lemma Percent.decode_kept {c : Char} (hc : c ≠ '%') (rest : List Char) :
    Percent.decode (c::rest) = String.utf8EncodeChar c ++ Percent.decode rest := by
  rw [Percent.decode]
  rintro _ _ _ rfl
  exact absurd rfl hc

namespace Form

/-- Plus signs are read as blanks. -/
def unplus (c : Char) : Char := if c = '+' then ' ' else c

lemma map_unplus (hcs : ∀ c ∈ cs, c ∈ marks) : cs.map unplus = cs := by
  have hmarks : Free (· == '+') marks := by decide
  have hsame (c : Char) (hc : c ∈ cs) : unplus c = c := if_neg (ne_of_beq_false (hmarks c (hcs c hc)))
  exact (List.map_congr_left hsame).trans (List.map_id cs)

/-- A character is decoded to its bytes. -/
lemma decode_encodeChar (c : Char) (rest : List Char) :
    Percent.decode ((encodeChar c).map unplus ++ rest) = String.utf8EncodeChar c ++ Percent.decode rest := by
  unfold encodeChar
  split_ifs with hblank
  · subst hblank
    exact Percent.decode_kept (by decide) rest
  · cases hliteral : isLiteral c with
    | false =>
      rw [Percent.encodeChar_encoded (by simp [hliteral]),map_unplus,Percent.decode_bytes]
      intro d hd
      obtain ⟨b,-,hb⟩ := List.mem_flatMap.mp hd
      exact encodeByte_marks b d hb
    | true =>
      have hne : c ≠ '+' ∧ c ≠ '%' := by
        constructor <;> rintro rfl <;> exact absurd hliteral (by decide)
      rw [Percent.encodeChar_kept (by simp [hliteral]),List.map_singleton,unplus,if_neg hne.1]
      exact Percent.decode_kept hne.2 rest

/-- What is encoded is decoded to what it was. -/
theorem decode_encode (cs : List Char) : decode (encode cs) = cs := by
  have hbytes : Percent.decode ((encode cs).map unplus) = cs.flatMap String.utf8EncodeChar := by
    induction cs with
    | nil => rfl
    | cons c cs ih =>
      rw [encode,List.flatMap_cons,List.map_append,decode_encodeChar,List.flatMap_cons]
      exact congrArg _ ih
  exact (congrArg Utf8.decodeLossy hbytes).trans (Utf8.decodeLossy_utf8 cs)

theorem encode_injective : Function.Injective encode := Function.LeftInverse.injective decode_encode

/-! Pairs. -/

/-- What is encoded holds none of the characters between and within pairs. -/
lemma free_separators (cs : List Char) : Free (· == '&') (encode cs) ∧ Free (· == '=') (encode cs) := by
  have hfree {d : Char} (hd : Free (· == d) marks) (hliteral : isLiteral d = false) (hplus : ('+' == d) = false) :
      Free (· == d) (encode cs) := by
    intro c hc
    rcases mem_encode hc with hc | rfl | hmark
    · rw [beq_eq_false_iff_ne]
      rintro rfl
      exact absurd hc (by simp [hliteral])
    · exact hplus
    · exact hd c hmark
  exact ⟨hfree (by decide) (by decide) rfl,hfree (by decide) (by decide) rfl⟩

lemma decodePair_encodePair (name value : List Char) : decodePair (encodePair name value) = (name,value) := by
  have hname := (free_separators name).2
  have hvalue : ∀ c ∈ ('='::encode value).head?, (c == '=') = true := by rintro _ ⟨⟩; rfl
  rw [decodePair,encodePair,cut,takeWhile_free hname hvalue,dropWhile_free hname hvalue]
  exact congrArg₂ Prod.mk (decode_encode name) (decode_encode value)

/-- An encoded pair is read as that one pair. -/
lemma pairs_encodePair (name value : List Char) : pairs (encodePair name value) = [(name,value)] := by
  have hfree : Free (· == '&') (encodePair name value) :=
    (free_separators name).1.append (free_cons.mpr ⟨rfl,(free_separators value).1⟩)
  have hsome : (encodePair name value).isEmpty = false := by simp [encodePair]
  rw [pairs,pieces_free hfree,List.filter_cons_of_pos (by rw [hsome]; rfl),List.filter_nil,List.map_singleton,
    decodePair_encodePair]

lemma pairs_append (q pair : List Char) : pairs (q ++ '&'::pair) = pairs q ++ pairs pair := by
  rw [pairs,pieces_append rfl,List.filter_append,List.map_append]
  rfl

end Form

/-- A pair that is added is the last one of the query. -/
theorem queryPairs_appendPair (u : Url) (name value : List Char) :
    (u.appendPair name value).queryPairs = u.queryPairs ++ [(name,value)] := by
  unfold appendPair
  split
  · rename_i hq
    simp [queryPairs,hq,Form.pairs_encodePair]
  · rename_i hq
    simp [queryPairs,hq,Form.pairs_encodePair]
    rfl
  · rename_i q _ hq
    simp only [queryPairs,hq,Form.pairs_append,Form.pairs_encodePair]

end Url
end PageTelemetry
