import PageTelemetry.Proofs.Url.Pieces
import PageTelemetry.Url.Ipv4
import PageTelemetry.Url.Ipv6

/-! Numbers and addresses. An address is read back as it was written. -/
namespace PageTelemetry

namespace Text
variable {b n : ℕ} {c : Char}

/-- The digits of a number have the number as their value. -/
lemma ofDigits_toDigits (hb : 1 < b) {value : Char → ℕ} (hvalue : ∀ d < b, value (Nat.digitChar d) = d) (n : ℕ) :
    ofDigits b ((Nat.toDigits b n).map value) = n := by
  induction n using Nat.strong_induction_on with
  | _ n ih =>
    rw [Nat.toDigits_eq_if hb]
    split_ifs with hn
    · simp [ofDigits,hvalue n hn]
    · have hdiv : n/b < n := Nat.div_lt_self (by omega) hb
      have hfront := ih (n/b) hdiv
      simp only [ofDigits] at hfront
      simp only [ofDigits,List.map_append,List.foldl_append,hfront,List.map_cons,List.map_nil,List.foldl_cons,
        List.foldl_nil,hvalue _ (Nat.mod_lt n (by omega : 0 < b))]
      exact Nat.div_add_mod' n b

lemma ofDecimal_toDigits (n : ℕ) : ofDecimal (Nat.toDigits 10 n) = n :=
  ofDigits_toDigits (by decide) (by decide) n

/-- What all digits below a base are, the digits of every number are. -/
lemma mem_toDigits {P : Char → Prop} (hb : 1 < b) (hP : ∀ d < b, P (Nat.digitChar d)) :
    ∀ c ∈ Nat.toDigits b n, P c := by
  induction n using Nat.strong_induction_on with
  | _ n ih =>
    rw [Nat.toDigits_eq_if hb]
    split_ifs with hn
    · simpa using hP n hn
    · intro c hc
      rcases List.mem_append.mp hc with hc | hc
      · exact ih _ (Nat.div_lt_self (by omega) hb) c hc
      · exact List.mem_singleton.mp hc ▸ hP _ (Nat.mod_lt n (by omega))

lemma ofDigits_lt {ds : List ℕ} (hds : ∀ d ∈ ds, d < b) : ofDigits b ds < b^ds.length := by
  induction ds using List.reverseRecOn with
  | nil => simp [ofDigits]
  | append_singleton ds d ih =>
    have hfront := ih fun x hx => hds x (List.mem_append_left _ hx)
    have hd := hds d (by simp)
    simp only [ofDigits] at hfront
    simp only [ofDigits,List.foldl_append,List.foldl_cons,List.foldl_nil,List.length_append,List.length_singleton,
      pow_succ]
    nlinarith

/-- Digits are read one by one. -/
lemma mapM_toDigits (hb : 1 < b) {read : Char → Option ℕ} (hread : ∀ d < b, read (Nat.digitChar d) = some d) (n : ℕ) :
    (Nat.toDigits b n).mapM read = some ((Nat.toDigits b n).map fun c => (read c).getD 0) := by
  have hdigit : ∀ c ∈ Nat.toDigits b n, read c = some ((read c).getD 0) :=
    mem_toDigits hb fun d hd => by rw [hread d hd]; rfl
  generalize Nat.toDigits b n = cs at hdigit
  induction cs with
  | nil => rfl
  | cons c cs ih =>
    obtain ⟨hc,hcs⟩ := List.forall_mem_cons.mp hdigit
    rw [List.mapM_cons,hc,ih hcs]
    rfl

lemma forall₂_of_mapM {α β : Type} {f : α → Option β} {l : List α} {r : List β} (h : l.mapM f = some r) :
    List.Forall₂ (fun x y => f x = some y) l r := by
  induction l generalizing r with
  | nil =>
    obtain rfl := Option.some.inj h
    exact .nil
  | cons x l ih =>
    rw [List.mapM_cons] at h
    obtain ⟨y,hy,h⟩ := Option.bind_eq_some_iff.mp h
    obtain ⟨r',hr',h⟩ := Option.bind_eq_some_iff.mp h
    obtain rfl := Option.some.inj h
    exact .cons hy (ih hr')

end Text

namespace Url.Ipv4
open Text

/-- The four bytes of an address. -/
def bytes (n : ℕ) : List ℕ := [n>>>24%256,n>>>16%256,n>>>8%256,n%256]

lemma number?_toDigits {k : ℕ} (h : k < 256) : number? (Nat.toDigits 10 k) = some k := by
  have hall : ∀ k < 256, number? (Nat.toDigits 10 k) = some k := by decide +kernel
  exact hall k h

lemma free_toDigits (p : Char → Bool) (hp : ∀ d < 10, p (Nat.digitChar d) = false) (k : ℕ) :
    Free p (Nat.toDigits 10 k) := mem_toDigits (by decide) hp

lemma pieces_write (n : ℕ) : pieces (· == '.') (write n) = (bytes n).map (Nat.toDigits 10) := by
  have hfree (k : ℕ) : Free (· == '.') (Nat.toDigits 10 k) := free_toDigits _ (by decide) k
  simp only [write]
  rw [pieces_append (by rfl),pieces_append (by rfl),pieces_append (by rfl),pieces_free (hfree _),pieces_free (hfree _),
    pieces_free (hfree _),pieces_free (hfree _)]
  rfl

lemma parts_write (n : ℕ) : parts (write n) = (bytes n).map (Nat.toDigits 10) := by
  simp only [parts,pieces_write]
  rw [if_neg]
  simp [bytes]

lemma endsInNumber_write (n : ℕ) : endsInNumber (write n) = true := by
  have hdigits : (Nat.toDigits 10 (n%256)).all Char.isDigit = true :=
    List.all_eq_true.mpr (mem_toDigits (P := fun c => c.isDigit = true) (by decide) (by decide))
  simp only [endsInNumber,pieces_write,parts_write]
  rw [if_neg (by simp [bytes])]
  simp [bytes,hdigits]

lemma ofNumbers?_bytes {n : ℕ} (h : n < 2^32) : ofNumbers? (bytes n) = some n := by
  have hsmall : ([n>>>8%256,n>>>16%256,n>>>24%256].any fun x => decide (255 < x)) = false := by
    simp only [List.any_cons,List.any_nil,Bool.or_false,Bool.or_eq_false_iff,decide_eq_false_iff_not]
    omega
  have hlast : ¬1<<<(8*(5-4)) ≤ n%256 := by
    have : 1<<<(8*(5-4)) = 256 := rfl
    omega
  have hvalue : n%256 + ofDigits 256 [n>>>24%256,n>>>16%256,n>>>8%256]<<<(8*(4-3)) = n := by
    simp only [ofDigits,List.foldl_cons,List.foldl_nil,Nat.shiftLeft_eq,Nat.shiftRight_eq_div_pow]
    omega
  simp only [ofNumbers?,bytes,List.reverse_cons,List.reverse_nil,List.nil_append,List.cons_append,hsmall,
    List.length_cons,List.length_nil,Nat.zero_add,Nat.reduceAdd,Bool.false_eq_true,if_false,if_neg hlast,hvalue]

/-- An address is read back as it was written. -/
theorem parse_write {n : ℕ} (h : n < 2^32) : parse (write n) = .ok n := by
  have hnumbers : ((bytes n).map (Nat.toDigits 10)).mapM number? = some (bytes n) := by
    have hbyte (k : ℕ) : number? (Nat.toDigits 10 (k%256)) = some (k%256) :=
      number?_toDigits (Nat.mod_lt k (by decide))
    simp only [bytes,List.map_cons,List.map_nil,List.mapM_cons,hbyte,List.mapM_nil]
    rfl
  simp only [parse,parts_write,hnumbers,Option.bind_some,ofNumbers?_bytes h]
  rfl

lemma ofNumbers?_lt {ns : List ℕ} {n : ℕ} (hlen : ns.length ≤ 4) (h : ofNumbers? ns = some n) : n < 2^32 := by
  unfold ofNumbers? at h
  split at h
  · cases h
  · rename_i last front hrev
    have hcount : ns.length = front.length+1 := by
      rw [← List.length_reverse,hrev]
      rfl
    split_ifs at h with hlarge hlast
    obtain rfl := Option.some.inj h
    have hfront : ofDigits 256 front.reverse < 256^front.reverse.length := by
      refine ofDigits_lt fun d hd => ?_
      have hd' : ¬255 < d := fun hd' => hlarge (List.any_eq_true.mpr ⟨d,List.mem_reverse.mp hd,by simpa using hd'⟩)
      omega
    rw [List.length_reverse] at hfront ⊢
    rw [hcount] at hlast hlen
    generalize front.length = k at *
    generalize ofDigits 256 front.reverse = v at *
    simp only [Nat.shiftLeft_eq] at hlast ⊢
    have hk : k ≤ 3 := by omega
    interval_cases k <;> omega

/-- An address that was read has 32 bits. -/
theorem parse_lt {cs : List Char} {n : ℕ} (h : parse cs = .ok n) : n < 2^32 := by
  simp only [parse] at h
  split_ifs at h with hmany
  cases hns : (parts cs).mapM number? with
  | none => simp [hns] at h
  | some ns =>
    rw [hns,Option.bind_some] at h
    cases hn : ofNumbers? ns with
    | none => simp [hn] at h
    | some m =>
      rw [hn] at h
      obtain rfl := Except.ok.inj h
      have hlen := (forall₂_of_mapM hns).length_eq
      exact ofNumbers?_lt (by omega) hn

lemma write_chars (n : ℕ) : ∀ c ∈ write n, c.isDigit = true ∨ c = '.' := by
  have hdigits {k : ℕ} : ∀ c ∈ Nat.toDigits 10 k, c.isDigit = true := mem_toDigits (by decide) (by decide)
  intro c hc
  simp only [write,List.mem_append,List.mem_cons] at hc
  rcases hc with hc | rfl | hc | rfl | hc | rfl | hc
  · exact .inl (hdigits c hc)
  · exact .inr rfl
  · exact .inl (hdigits c hc)
  · exact .inr rfl
  · exact .inl (hdigits c hc)
  · exact .inr rfl
  · exact .inl (hdigits c hc)

end Url.Ipv4

namespace Url.Ipv6
open Text
variable {ns : List ℕ} {n : ℕ}

/-- Eight pieces of 16 bits. -/
structure IsAddress (ns : List ℕ) : Prop where
  length : ns.length = 8
  small : ∀ n ∈ ns, n < 65536

lemma hexValue?_digitChar : ∀ d < 16, hexValue? (Nat.digitChar d) = some d := by decide

lemma piece?_toDigits (h : n < 65536) : piece? (Nat.toDigits 16 n) = some n := by
  have hlen : (Nat.toDigits 16 n).length ≤ 4 := Nat.toDigits_length 16 n 4 (by decide) h
  have hvalue : ofDigits 16 ((Nat.toDigits 16 n).map fun c => (hexValue? c).getD 0) = n :=
    ofDigits_toDigits (by decide) (fun d hd => by rw [hexValue?_digitChar d hd]; rfl) n
  rw [piece?,if_neg (by simpa using hlen),mapM_toDigits (by decide) hexValue?_digitChar,Option.map_some,hvalue]

/-- The digits of a piece hold neither colon nor point nor bracket. -/
lemma free_digits (p : Char → Bool) (hp : ∀ d < 16, p (Nat.digitChar d) = false) (n : ℕ) :
    Free p (Nat.toDigits 16 n) := mem_toDigits (by decide) hp

lemma writePieces_cons (n : ℕ) (ns : List ℕ) :
    writePieces (n::ns) = Nat.toDigits 16 n ++ ns.flatMap fun m => ':'::Nat.toDigits 16 m := by
  induction ns generalizing n with
  | nil => simp [writePieces]
  | cons m ns ih =>
    have hm := ih m
    simp only [writePieces,List.map_cons] at hm ⊢
    rw [List.intersperse_cons_cons,List.flatten_cons,List.flatten_cons,hm]
    simp

lemma pieces_writePieces (n : ℕ) (ns : List ℕ) :
    pieces (· == ':') (writePieces (n::ns)) = (n::ns).map (Nat.toDigits 16) := by
  have hfree (k : ℕ) : Free (· == ':') (Nat.toDigits 16 k) := free_digits _ (by decide) k
  have hothers : ∀ s ∈ ns.map (Nat.toDigits 16), Free (· == ':') s := by
    simp only [List.forall_mem_map]
    exact fun k _ => hfree k
  have hjoin := pieces_join (p := (· == ':')) (c := ':') rfl (hfree n) hothers
  rw [List.flatMap_map] at hjoin
  rw [writePieces_cons,hjoin]
  rfl

lemma pieces?_toDigits (dotted : Bool) (h : ∀ n ∈ ns, n < 65536) :
    pieces? dotted (ns.map (Nat.toDigits 16)) = some ns := by
  induction ns with
  | nil => rfl
  | cons n ns ih =>
    obtain ⟨hn,hns⟩ := List.forall_mem_cons.mp h
    cases ns with
    | nil =>
      have hpoint : (Nat.toDigits 16 n).contains '.' = false := by
        have hfree := free_digits (· == '.') (by decide) n
        simpa [Free] using fun hmem => hfree '.' hmem
      simp only [List.map_cons,List.map_nil,pieces?,hpoint,Bool.and_false,Bool.false_eq_true,if_false,
        piece?_toDigits hn]
      rfl
    | cons m ns =>
      have hrest := ih hns
      simp only [List.map_cons] at hrest ⊢
      simp only [pieces?,piece?_toDigits hn,hrest]
      rfl

lemma side?_writePieces (dotted : Bool) (h : ∀ n ∈ ns, n < 65536) : side? dotted (writePieces ns) = some ns := by
  cases ns with
  | nil => rfl
  | cons n ns =>
    have hne : (writePieces (n::ns)).isEmpty = false := by
      rw [writePieces_cons]
      simp
    rw [side?,if_neg (by simp [hne]),pieces_writePieces,pieces?_toDigits dotted h]

/-! The gap. -/

/-- The same gap with a text in front. -/
def before (front : List Char) (gap : Option (List Char × List Char)) : Option (List Char × List Char) :=
  gap.map fun (b,a) => (front ++ b,a)

lemma before_before (a b : List Char) (gap : Option (List Char × List Char)) :
    before a (before b gap) = before (a ++ b) gap := by
  cases gap <;> simp [before]

lemma splitGap_cons {c : Char} (hc : c ≠ ':') (cs : List Char) : splitGap (c::cs) = before [c] (splitGap cs) := by
  rw [splitGap]
  · rfl
  · rintro rest rfl
    exact absurd rfl hc

lemma splitGap_digits {x : List Char} (hx : Free (· == ':') x) (rest : List Char) :
    splitGap (x ++ rest) = before x (splitGap rest) := by
  induction x with
  | nil => cases h : splitGap rest <;> simp [before,h]
  | cons c x ih =>
    obtain ⟨hc,hx⟩ := free_cons.mp hx
    rw [List.cons_append,splitGap_cons (by simpa using hc),ih hx,before_before]
    rfl

lemma splitGap_colon {x : List Char} (hx : Free (· == ':') x) (hne : x ≠ []) (rest : List Char) :
    splitGap (':'::(x ++ rest)) = before (':'::x) (splitGap rest) := by
  obtain ⟨c,x,rfl⟩ := List.exists_cons_of_ne_nil hne
  have hc : c ≠ ':' := by simpa using (free_cons.mp hx).1
  have hstep : splitGap (':'::c::(x ++ rest)) = before [':'] (splitGap (c::(x ++ rest))) := by
    rw [splitGap]
    · rfl
    · rintro rest' - h
      exact hc (List.cons.inj h).1
  rw [List.cons_append,hstep,← List.cons_append,splitGap_digits hx,before_before]
  rfl

/-- Pieces have no gap of their own. -/
lemma splitGap_writePieces (ns : List ℕ) (rest : List Char) :
    splitGap (writePieces ns ++ rest) = before (writePieces ns) (splitGap rest) := by
  have hfree (k : ℕ) : Free (· == ':') (Nat.toDigits 16 k) := free_digits _ (by decide) k
  cases ns with
  | nil => cases h : splitGap rest <;> simp [writePieces,before,h]
  | cons n ns =>
    have hothers : splitGap ((ns.flatMap fun m => ':'::Nat.toDigits 16 m) ++ rest) =
        before (ns.flatMap fun m => ':'::Nat.toDigits 16 m) (splitGap rest) := by
      induction ns with
      | nil => cases h : splitGap rest <;> simp [before,h]
      | cons m ns ih =>
        rw [List.flatMap_cons,List.append_assoc,List.cons_append,splitGap_colon (hfree m) Nat.toDigits_ne_nil,ih,
          before_before]
    rw [writePieces_cons,List.append_assoc,splitGap_digits (hfree n),hothers,before_before]

/-- A gap that is left out is one of zeros. -/
lemma gap?_spec {start k : ℕ} (h : gap? ns = some (start,k)) : 2 ≤ k ∧ k = zerosFrom (ns.drop start) := by
  unfold gap? at h
  have hfold : ∀ (is : List ℕ) (best : Option (ℕ × ℕ)), (∀ g ∈ best, 2 ≤ g.2 ∧ g.2 = zerosFrom (ns.drop g.1)) →
      ∀ g ∈ is.foldl (fun best i =>
        let n := zerosFrom (ns.drop i)
        if 2 ≤ n && (best.map Prod.snd).getD 1 < n then some (i,n) else best) best,
        2 ≤ g.2 ∧ g.2 = zerosFrom (ns.drop g.1) := by
    intro is
    induction is with
    | nil => exact fun best hbest => hbest
    | cons i is ih =>
      intro best hbest
      rw [List.foldl_cons]
      refine ih _ fun g hg => ?_
      dsimp only at hg
      split_ifs at hg with hlonger
      · obtain rfl := Option.some.inj hg
        rw [Bool.and_eq_true,decide_eq_true_eq] at hlonger
        exact ⟨hlonger.1,rfl⟩
      · exact hbest g hg
  exact hfold _ none (by simp) _ (Option.mem_def.mpr h)

lemma take_zerosFrom (ns : List ℕ) : ns.take (zerosFrom ns) = List.replicate (zerosFrom ns) 0 := by
  induction ns with
  | nil => rfl
  | cons n ns ih =>
    by_cases hn : n = 0
    · subst hn
      have hzeros : zerosFrom (0::ns) = zerosFrom ns+1 := by simp [zerosFrom]
      rw [hzeros,List.take_succ_cons,List.replicate_succ,ih]
    · have hzeros : zerosFrom (n::ns) = 0 := by simp [zerosFrom,hn]
      rw [hzeros]
      rfl

/-- An address is read back as it was written. -/
theorem parse_write (h : IsAddress ns) : parse (write ns) = .ok ns := by
  have hparse : parse? (write ns) = some ns := by
    unfold write
    split
    · have hgap : splitGap (writePieces ns) = none := by
        have := splitGap_writePieces ns []
        rwa [List.append_nil] at this
      simp only [parse?,hgap,side?_writePieces true h.small]
      simp [h.length]
    · rename_i start k hgap
      obtain ⟨hk,hzeros⟩ := gap?_spec hgap
      have hfit : start+k ≤ 8 := by
        have hle : zerosFrom (ns.drop start) ≤ (ns.drop start).length := (List.takeWhile_prefix _).length_le
        rw [List.length_drop,h.length] at hle
        omega
      have hsplit : splitGap (writePieces (ns.take start) ++ ':' :: ':' :: writePieces (ns.drop (start+k))) =
          some (writePieces (ns.take start),writePieces (ns.drop (start+k))) := by
        rw [splitGap_writePieces]
        simp [splitGap,before]
      have hmiddle : (ns.drop start).take k = List.replicate k 0 := by rw [hzeros,take_zerosFrom]
      have hlen : (ns.take start).length = start := by rw [List.length_take,h.length]; omega
      have hlen' : (ns.drop (start+k)).length = 8-(start+k) := by rw [List.length_drop,h.length]
      have hcount : 8-start-(8-(start+k)) = k := by omega
      simp only [parse?,hsplit,side?_writePieces false fun n hn => h.small n (List.mem_of_mem_take hn),
        side?_writePieces true fun n hn => h.small n (List.mem_of_mem_drop hn),Option.bind_eq_bind,Option.bind_some,
        hlen,hlen',hcount]
      rw [if_pos (by omega),← hmiddle,← List.drop_drop,List.append_assoc,List.take_append_drop,List.take_append_drop]
  rw [parse,hparse]

/-! What is read is an address. -/

lemma hexValue?_lt {c : Char} {d : ℕ} (h : hexValue? c = some d) : d < 16 := by
  have h₀ : '0'.toNat = 48 ∧ '9'.val.toNat = 57 ∧ 'a'.toNat = 97 ∧ 'f'.val.toNat = 102 ∧ 'A'.toNat = 65 ∧
      'F'.val.toNat = 70 := by decide
  have hval : c.toNat = c.val.toNat := rfl
  simp only [hexValue?,Char.isDigit,Char.le_def,UInt32.le_iff_toNat_le,Bool.and_eq_true,decide_eq_true_eq] at h
  split_ifs at h with hdigit hlower hupper
  all_goals
    obtain rfl := Option.some.inj h
    omega

lemma piece?_lt {cs : List Char} (h : piece? cs = some n) : n < 65536 := by
  unfold piece? at h
  split_ifs at h with hshort
  obtain ⟨ds,hds,rfl⟩ := Option.map_eq_some_iff.mp h
  have hforall := forall₂_of_mapM hds
  have hsmall : ∀ d ∈ ds, d < 16 := by
    intro d hd
    obtain ⟨i,hi,rfl⟩ := List.mem_iff_getElem.mp hd
    exact hexValue?_lt (hforall.get (by rw [hforall.length_eq]; exact hi) hi)
  have hlen : ds.length ≤ 4 := by
    rw [← hforall.length_eq]
    exact (by simpa using hshort : cs ≠ [] ∧ cs.length ≤ 4).2
  calc ofDigits 16 ds < 16^ds.length := ofDigits_lt hsmall
    _ ≤ 16^4 := Nat.pow_le_pow_right (by decide) hlen

lemma byte?_lt {cs : List Char} (h : byte? cs = some n) : n < 256 := by
  unfold byte? at h
  split_ifs at h
  dsimp only at h
  split_ifs at h with hlarge
  obtain rfl := Option.some.inj h
  omega

lemma dotted?_lt {cs : List Char} (h : dotted? cs = some ns) : ∀ n ∈ ns, n < 65536 := by
  unfold dotted? at h
  split at h
  · rename_i a b c d hbytes
    obtain rfl := Option.some.inj h
    have hforall := forall₂_of_mapM hbytes
    have hbyte : ∀ x ∈ [a,b,c,d], x < 256 := by
      intro x hx
      obtain ⟨i,hi,rfl⟩ := List.mem_iff_getElem.mp hx
      exact byte?_lt (hforall.get (by rw [hforall.length_eq]; exact hi) hi)
    simp only [List.forall_mem_cons] at hbyte ⊢
    refine ⟨?_,?_,by simp⟩ <;> omega
  · cases h

lemma pieces?_lt {dotted : Bool} {ps : List (List Char)} (h : pieces? dotted ps = some ns) : ∀ n ∈ ns, n < 65536 := by
  induction ps generalizing ns with
  | nil =>
    obtain rfl := Option.some.inj h
    simp
  | cons cs ps ih =>
    cases ps with
    | nil =>
      simp only [pieces?] at h
      split_ifs at h
      · exact dotted?_lt h
      · obtain ⟨n,hn,rfl⟩ := Option.map_eq_some_iff.mp h
        simpa using piece?_lt hn
    | cons cs' ps =>
      simp only [pieces?] at h
      obtain ⟨n,hn,h⟩ := Option.bind_eq_some_iff.mp h
      obtain ⟨ns',hns',h⟩ := Option.bind_eq_some_iff.mp h
      obtain rfl := Option.some.inj h
      exact List.forall_mem_cons.mpr ⟨piece?_lt hn,ih hns'⟩

lemma side?_lt {dotted : Bool} {cs : List Char} (h : side? dotted cs = some ns) : ∀ n ∈ ns, n < 65536 := by
  unfold side? at h
  split_ifs at h
  · obtain rfl := Option.some.inj h
    simp
  · exact pieces?_lt h

/-- What was read is an address. -/
theorem parse_isAddress {cs : List Char} (h : parse cs = .ok ns) : IsAddress ns := by
  have hparse : parse? cs = some ns := by
    unfold parse at h
    split at h
    · rw [‹parse? cs = some _›,Except.ok.inj h]
    · cases h
  unfold parse? at hparse
  split at hparse
  · obtain ⟨ms,hms,hparse⟩ := Option.bind_eq_some_iff.mp hparse
    split_ifs at hparse with hlen
    obtain rfl := Option.some.inj hparse
    exact ⟨hlen,side?_lt hms⟩
  · obtain ⟨front,hfront,hparse⟩ := Option.bind_eq_some_iff.mp hparse
    obtain ⟨back,hback,hparse⟩ := Option.bind_eq_some_iff.mp hparse
    split_ifs at hparse with hlen
    obtain rfl := Option.some.inj hparse
    refine ⟨?_,?_⟩
    · simp only [List.length_append,List.length_replicate]
      omega
    · intro n hn
      simp only [List.mem_append] at hn
      rcases hn with (hn | hn) | hn
      · exact side?_lt hfront n hn
      · rw [List.eq_of_mem_replicate hn]
        decide
      · exact side?_lt hback n hn

/-- An address is written with digits and colons. -/
lemma write_free (p : Char → Bool) (hdigits : ∀ d < 16, p (Nat.digitChar d) = false) (hcolon : p ':' = false) :
    Free p (write ns) := by
  have hpieces (ms : List ℕ) : Free p (writePieces ms) := by
    cases ms with
    | nil => exact free_nil
    | cons m ms =>
      rw [writePieces_cons]
      refine (free_digits p hdigits m).append fun c hc => ?_
      obtain ⟨k,-,hc⟩ := List.mem_flatMap.mp hc
      rcases List.mem_cons.mp hc with rfl | hc
      · exact hcolon
      · exact free_digits p hdigits k c hc
  unfold write
  split
  · exact hpieces ns
  · exact (hpieces _).append (free_cons.mpr ⟨hcolon,free_cons.mpr ⟨hcolon,hpieces _⟩⟩)

end Url.Ipv6
end PageTelemetry
