import PageTelemetry.Proofs.Url.Address
import PageTelemetry.Proofs.Url.Percent

/-! Hosts. A host is read back as it was written, if it is an address or a name that ToASCII leaves as it is; and it
is written without the characters at which URLs are cut. -/
namespace PageTelemetry.Url
open Text

/-- ASCII. -/
def isAscii (c : Char) : Bool := c.toNat < 0x80

lemma isAscii_ofNat {n : ℕ} (h : n < 0x80) : isAscii (Char.ofNat n) = true := by
  have hall : ∀ n < 0x80, isAscii (Char.ofNat n) = true := by decide +kernel
  exact hall n h

namespace Punycode

lemma isAscii_digitOf {d : ℕ} (h : d < 36) : isAscii (digitOf d) = true := by
  have hall : ∀ d < 36, isAscii (digitOf d) = true := by decide
  exact hall d h

lemma writeDelta_ascii (bias k q : ℕ) : ∀ c ∈ writeDelta bias k q, isAscii c = true := by
  have hthreshold (k : ℕ) : threshold k bias ≤ 26 := Nat.min_le_left ..
  induction k, q using writeDelta.induct bias with
  | case1 k q t hq =>
    have ht : t ≤ 26 := hthreshold k
    rw [writeDelta,if_pos hq]
    intro c hc
    rw [List.mem_singleton.mp hc]
    exact isAscii_digitOf (by omega)
  | case2 k q t hq ih =>
    have ht : t ≤ 26 := hthreshold k
    have hmod : (q-t)%(36-t) < 36-t := Nat.mod_lt _ (by omega)
    rw [writeDelta,if_neg hq]
    intro c hc
    rcases List.mem_cons.mp hc with rfl | hc
    · change isAscii (digitOf (t + (q-t)%(36-t))) = true
      exact isAscii_digitOf (by omega)
    · exact ih c hc

/-- What is written so far is ASCII. -/
def Encoder.Ascii (e : Encoder) : Prop := ∀ c ∈ e.written, isAscii c = true

lemma Encoder.Ascii.meet {e : Encoder} (h : e.Ascii) (basic m n : ℕ) : (e.meet basic m n).Ascii := by
  unfold Encoder.meet
  split_ifs
  · exact h
  · intro c hc
    rcases List.mem_append.mp hc with hc | hc
    · exact h c hc
    · exact writeDelta_ascii _ _ _ c hc
  · exact h

lemma Encoder.Ascii.passes {e : Encoder} (h : e.Ascii) (text : List ℕ) (basic next : ℕ) (ms : List ℕ) :
    (Encoder.passes text basic next ms e).Ascii := by
  induction ms generalizing next e with
  | nil => exact h
  | cons m ms ih =>
    refine ih (e := { (text.foldl (Encoder.meet basic m) { e with
      delta := e.delta + (m-next)*(e.handled+1) }) with delta := _ }) ?_ (m+1)
    have hfold : (text.foldl (Encoder.meet basic m) { e with delta := e.delta + (m-next)*(e.handled+1) }).Ascii :=
      List.foldlRecOn text _ (motive := Encoder.Ascii) h fun e he n _ => he.meet basic m n
    exact hfold

theorem encode_ascii (text : List ℕ) : ∀ c ∈ encode text, isAscii c = true := by
  intro c hc
  simp only [encode,List.mem_append] at hc
  rcases hc with (hc | hc) | hc
  · obtain ⟨n,hn,rfl⟩ := List.mem_map.mp hc
    exact isAscii_ofNat (by simpa using (List.mem_filter.mp hn).2)
  · split_ifs at hc
    · cases hc
    · rw [List.mem_singleton.mp hc]
      rfl
  · exact Encoder.Ascii.passes (e := ⟨0,72,_,[]⟩) (fun c hc => absurd hc List.not_mem_nil) _ _ _ _ c hc

end Punycode

namespace Domain

/-- A name that no table has to be asked about: ASCII in lower case, and no label is encoded. -/
def isSimple (name : List Char) : Bool := isPlain name && name.all fun c => c.toLower == c

lemma map_toLower {cs : List Char} (h : ∀ c ∈ cs, c.toLower = c) : cs.map Char.toLower = cs := by
  conv_rhs => rw [← List.map_id cs]
  exact List.map_congr_left h

/-- A name that has been made ASCII stays as it is. -/
def Settled (name : List Char) : Prop := toAscii? name = some name

lemma settled_of_isSimple {name : List Char} (h : isSimple name = true) : Settled name := by
  obtain ⟨hplain,hlower⟩ := Bool.and_eq_true_iff.mp h
  have hsame := map_toLower fun c hc => by simpa using List.all_eq_true.mp hlower c hc
  rw [Settled,toAscii?,if_pos hplain,hsame]

lemma isAscii_toLower {c : Char} (h : isAscii c = true) : isAscii c.toLower = true := by
  have hall : ∀ n < 128, isAscii (Char.ofNat n).toLower = true := by decide +kernel
  exact forall_ascii (P := fun c => isAscii c.toLower = true) hall (by simpa [isAscii] using h)

lemma writeLabel_ascii (ns : List ℕ) : ∀ c ∈ writeLabel ns, isAscii c = true := by
  unfold writeLabel
  split_ifs with hall
  · intro c hc
    obtain ⟨n,hn,rfl⟩ := List.mem_map.mp hc
    exact isAscii_ofNat (by simpa using List.all_eq_true.mp hall n hn)
  · intro c hc
    rcases List.mem_append.mp hc with hc | hc
    · exact List.all_eq_true.mp (by decide : ['x','n','-','-'].all isAscii = true) c hc
    · exact Punycode.encode_ascii ns c hc

lemma mem_of_mem_intersperse {α : Type} {x sep : α} {l : List α} (h : x ∈ l.intersperse sep) : x = sep ∨ x ∈ l := by
  induction l using List.twoStepInduction with
  | nil => cases h
  | singleton => exact .inr h
  | cons_cons y z l _ ih =>
    rw [List.intersperse_cons_cons,List.mem_cons,List.mem_cons] at h
    rcases h with rfl | rfl | h
    · exact .inr List.mem_cons_self
    · exact .inl rfl
    · exact (ih z h).imp_right (List.mem_cons_of_mem y)

/-- The form in ASCII is ASCII. -/
theorem toAscii?_ascii {cs name : List Char} (h : toAscii? cs = some name) : ∀ c ∈ name, isAscii c = true := by
  unfold toAscii? at h
  split_ifs at h with hplain
  · obtain rfl := Option.some.inj h
    intro c hc
    obtain ⟨d,hd,rfl⟩ := List.mem_map.mp hc
    exact isAscii_toLower (List.all_eq_true.mp (Bool.and_eq_true_iff.mp hplain).1 d hd)
  · obtain ⟨mapped,-,h⟩ := Option.bind_eq_some_iff.mp h
    obtain ⟨labels,-,h⟩ := Option.bind_eq_some_iff.mp h
    split_ifs at h
    obtain rfl := Option.some.inj h
    intro c hc
    obtain ⟨part,hpart,hc⟩ := List.mem_flatten.mp hc
    rcases mem_of_mem_intersperse hpart with rfl | hpart
    · rw [List.mem_singleton.mp hc]
      rfl
    · obtain ⟨ns,-,rfl⟩ := List.mem_map.mp hpart
      exact writeLabel_ascii ns c hc

end Domain

/-! Reading a name. -/

/-- ASCII without percent signs is read as it is. -/
lemma decodeLossy_decode {cs : List Char} (hascii : ∀ c ∈ cs, isAscii c = true) (hpercent : '%' ∉ cs) :
    Utf8.decodeLossy (Percent.decode cs) = cs := by
  induction cs with
  | nil => rfl
  | cons c cs ih =>
    obtain ⟨hc,hcs⟩ := List.forall_mem_cons.mp hascii
    have hne : c ≠ '%' := fun h => hpercent (h ▸ List.mem_cons_self)
    have hsmall : c.val.toNat < 128 := by simpa [isAscii] using hc
    have hdecode : Percent.decode (c::cs) = UInt8.ofNat c.val.toNat::Percent.decode cs := by
      rw [Percent.decode]
      · rw [String.utf8EncodeChar,if_pos (by omega : c.val.toNat ≤ 127)]
        rfl
      · rintro a b rest rfl
        exact absurd rfl hne
    have hbyte : (UInt8.ofNat c.val.toNat).toNat = c.val.toNat := by
      simp only [UInt8.toNat_ofNat']
      omega
    have hlead : Utf8.lead (UInt8.ofNat c.val.toNat).toNat = .error c := by
      rw [hbyte,Utf8.lead,if_pos hsmall]
      exact congrArg Except.error c.ofNat_toNat
    rw [hdecode,Utf8.decodeLossy,Utf8.decodeFrom,hlead]
    exact congrArg (c::·) (ih hcs fun h => hpercent (List.mem_cons_of_mem c h))

/-- The characters at which the text of a URL is cut behind a host. -/
def endsHost (c : Char) : Bool := c == '/' || c == '\\' || c == '?' || c == '#' || c == '@'

/-- The characters that a host without brackets does not hold. -/
def splitsHost (c : Char) : Bool := c == ':' || c == '[' || c == ']'

/-- A host as it stands in a URL that was read. -/
structure IsHost (special : Bool) (h : Host) : Prop where
  parse : Host.parse special h.write = .ok h
  unended : Free endsHost h.write
  visible : ∀ c ∈ h.write, 0x20 < c.toNat
  /-- A port behind it is told from it. -/
  split : ∀ rest : List Char, (∀ c ∈ rest.head?, c = ':') →
    splitPort false (h.write ++ rest) = (h.write,rest.tail?)
  notDrive : isDriveLetter h.write = false

lemma splitPort_name {x : List Char} (hx : Free splitsHost x) {rest : List Char} (hrest : ∀ c ∈ rest.head?, c = ':') :
    splitPort false (x ++ rest) = (x,rest.tail?) := by
  induction x with
  | nil =>
    cases rest with
    | nil => rfl
    | cons c rest =>
      obtain rfl := hrest c rfl
      rfl
  | cons c x ih =>
    obtain ⟨hc,hx⟩ := free_cons.mp hx
    simp only [splitsHost,Bool.or_eq_false_iff,beq_eq_false_iff_ne] at hc
    rw [List.cons_append,splitPort,if_neg (by simp [hc]),if_neg (by simp [hc]),if_neg (by simp [hc]),ih hx]

lemma splitPort_brackets {x : List Char} (hx : Free (fun c => c == '[' || c == ']') x) {rest : List Char}
    (hrest : ∀ c ∈ rest.head?, c = ':') : splitPort true (x ++ ']'::rest) = (x ++ [']'],rest.tail?) := by
  induction x with
  | nil =>
    have hbehind := splitPort_name (x := []) free_nil hrest
    rw [List.nil_append] at hbehind
    rw [List.nil_append,splitPort,if_neg (by decide),if_neg (by decide),if_pos (by decide),hbehind]
    rfl
  | cons c x ih =>
    obtain ⟨hc,hx⟩ := free_cons.mp hx
    simp only [Bool.or_eq_false_iff,beq_eq_false_iff_ne] at hc
    rw [List.cons_append,splitPort,if_neg (by simp),if_neg (by simp [hc]),if_neg (by simp [hc]),ih hx]
    rfl

lemma free_of_forbidden {cs : List Char} (h : Free Host.isForbidden cs) : Free endsHost cs ∧ Free splitsHost cs := by
  refine ⟨fun c hc => ?_,fun c hc => ?_⟩
  all_goals
    have hforbidden := h c hc
    simp only [Host.isForbidden,Bool.or_eq_false_iff] at hforbidden
    simp only [endsHost,splitsHost,hforbidden,Bool.or_false]

lemma visible_of_forbidden {cs : List Char} (hforbidden : Free Host.isForbidden cs)
    (hcontrol : ∀ c ∈ cs, 0x1f < c.toNat) : ∀ c ∈ cs, 0x20 < c.toNat := by
  intro c hc
  have hlarge := hcontrol c hc
  have hspace : c ≠ ' ' := by
    rintro rfl
    exact absurd (hforbidden ' ' hc) (by decide)
  have hne : c.toNat ≠ 0x20 := fun h => hspace (by rw [← c.ofNat_toNat,h])
  omega

/-- A name without forbidden characters is told from what stands around it. -/
lemma isHost_of_name {special : Bool} {h : Host} (hparse : Host.parse special h.write = .ok h)
    (hforbidden : Free Host.isForbidden h.write) (hcontrol : ∀ c ∈ h.write, 0x1f < c.toNat) : IsHost special h := by
  obtain ⟨hends,hsplits⟩ := free_of_forbidden hforbidden
  refine ⟨hparse,hends,visible_of_forbidden hforbidden hcontrol,fun rest hrest => splitPort_name hsplits hrest,?_⟩
  unfold isDriveLetter
  split
  · rename_i c d heq
    have hd : Host.isForbidden d = false := hforbidden d (by rw [heq]; simp)
    simp only [Host.isForbidden,Bool.or_eq_false_iff] at hd
    simp [hd]
  · rfl

/-- Only a bracket begins an address in brackets. -/
lemma parse_of_forbidden {special : Bool} {cs : List Char} (h : Free Host.isForbidden cs) :
    Host.parse special cs = if special then Host.ofDomain cs else Host.ofName cs := by
  unfold Host.parse
  split
  · exact absurd (h '[' List.mem_cons_self) (by decide)
  · rfl

lemma isHost_empty : IsHost false .empty := isHost_of_name rfl free_nil (by simp [Host.write])

/-- An address in brackets. -/
lemma isHost_ipv6 {special : Bool} {ns : List ℕ} (h : Ipv6.IsAddress ns) : IsHost special (.ipv6 ns) := by
  have hbrackets : Free (fun c => c == '[' || c == ']') (Ipv6.write ns) := Ipv6.write_free _ (by decide) (by decide)
  have hends : Free endsHost (Ipv6.write ns) := Ipv6.write_free _ (by decide) (by decide)
  have hvisible : Free (fun c => decide (c.toNat ≤ 0x20)) (Ipv6.write ns) := Ipv6.write_free _ (by decide) (by decide)
  refine ⟨?_,?_,?_,fun rest hrest => ?_,?_⟩
  · have hreverse : (Ipv6.write ns ++ [']']).reverse = ']'::(Ipv6.write ns).reverse := by simp
    simp only [Host.write,Host.parse,hreverse,List.reverse_reverse,Ipv6.parse_write h]
    rfl
  · exact free_cons.mpr ⟨by decide,hends.append (free_cons.mpr ⟨by decide,free_nil⟩)⟩
  · intro c hc
    simp only [Host.write,List.mem_cons,List.mem_append,List.not_mem_nil,or_false] at hc
    rcases hc with rfl | hc | rfl
    · decide
    · simpa using hvisible c hc
    · decide
  · have hinside := splitPort_brackets hbrackets hrest
    rw [Host.write,List.cons_append,List.append_assoc,List.singleton_append,splitPort,if_neg (by decide),
      if_pos (by decide),hinside]
  · unfold isDriveLetter
    split
    · rename_i c d heq
      rw [← (List.cons.inj heq).1]
      rfl
    · rfl

/-- A text that no scheme takes apart. -/
lemma isHost_verbatim {cs : List Char} {h : Host} (hparse : Host.ofName cs = .ok h) : IsHost false h := by
  unfold Host.ofName at hparse
  split_ifs at hparse with hempty hforbidden
  · obtain rfl := Except.ok.inj hparse
    exact isHost_empty
  · obtain rfl := Except.ok.inj hparse
    have hmarks : Free Host.isForbidden Percent.marks := by decide
    have hcs : Free Host.isForbidden cs := by
      intro c hc
      exact Bool.eq_false_iff.mpr fun h => hforbidden (List.any_eq_true.mpr ⟨c,hc,h⟩)
    have hfree : Free Host.isForbidden (Percent.encode Percent.isControl cs) :=
      Percent.free_encode hmarks fun c hc _ => hcs c hc
    have hclean : Free Percent.isControl (Percent.encode Percent.isControl cs) :=
      Percent.encode_free Percent.free_marks.1 cs
    refine isHost_of_name ?_ hfree fun c hc => ?_
    · have hany : (Percent.encode Percent.isControl cs).any Host.isForbidden = false :=
        List.any_eq_false.mpr fun c hc => by simpa using hfree c hc
      have hne : (Percent.encode Percent.isControl cs).isEmpty = false := by
        rw [List.isEmpty_eq_false_iff,Ne,Percent.encode_eq_nil]
        simpa using hempty
      rw [Host.write,parse_of_forbidden hfree,if_neg (by simp),Host.ofName,hne,hany,Percent.encode_of_free hclean]
      rfl
    · have := hclean c hc
      simp only [Percent.isControl,Bool.or_eq_false_iff,decide_eq_false_iff_not] at this
      omega

/-- What a name becomes that special schemes take. -/
lemma ofDomain_eq {cs name : List Char} (hname : Domain.toAscii? (Utf8.decodeLossy (Percent.decode cs)) = some name)
    (hne : name ≠ []) : Host.ofDomain cs =
      if name.any Host.isForbiddenInDomain then .error .internationalDomain
      else if Ipv4.endsInNumber name then (Ipv4.parse name).map .ipv4
      else .ok (.domain name) := by
  obtain ⟨c,name,rfl⟩ := List.exists_cons_of_ne_nil hne
  simp only [Host.ofDomain,hname]

lemma ofDomain_ok {cs : List Char} {h : Host} (hparse : Host.ofDomain cs = .ok h) :
    ∃ name, Domain.toAscii? (Utf8.decodeLossy (Percent.decode cs)) = some name ∧ name ≠ [] ∧
      Free Host.isForbiddenInDomain name ∧ ((∃ n, Ipv4.parse name = .ok n ∧ h = .ipv4 n) ∨
        Ipv4.endsInNumber name = false ∧ h = .domain name) := by
  cases hname : Domain.toAscii? (Utf8.decodeLossy (Percent.decode cs)) with
  | none => simp [Host.ofDomain,hname] at hparse
  | some name =>
    cases name with
    | nil => simp [Host.ofDomain,hname] at hparse
    | cons c name =>
      refine ⟨c::name,rfl,by simp,?_⟩
      rw [ofDomain_eq hname (by simp)] at hparse
      split_ifs at hparse with hforbidden hnumber
      · refine ⟨fun d hd => Bool.eq_false_iff.mpr fun h => hforbidden (List.any_eq_true.mpr ⟨d,hd,h⟩),.inl ?_⟩
        cases hn : Ipv4.parse (c::name) with
        | error e => rw [hn] at hparse; cases hparse
        | ok n =>
          rw [hn] at hparse
          exact ⟨n,rfl,(Except.ok.inj hparse).symm⟩
      · refine ⟨fun d hd => Bool.eq_false_iff.mpr fun h => hforbidden (List.any_eq_true.mpr ⟨d,hd,h⟩),.inr ?_⟩
        exact ⟨by simpa using hnumber,(Except.ok.inj hparse).symm⟩

/-- A settled name that holds nothing forbidden is what it becomes. -/
lemma ofDomain_settled {name : List Char} (hsettled : Domain.Settled name) (hne : name ≠ [])
    (hfree : Free Host.isForbiddenInDomain name) : Host.ofDomain name =
      if Ipv4.endsInNumber name then (Ipv4.parse name).map .ipv4 else .ok (.domain name) := by
  have hpercent : '%' ∉ name := fun hmem => absurd (hfree '%' hmem) (by decide)
  have hany : name.any Host.isForbiddenInDomain = false :=
    List.any_eq_false.mpr fun c hc => by simpa using hfree c hc
  have hname : Domain.toAscii? (Utf8.decodeLossy (Percent.decode name)) = some name := by
    rw [decodeLossy_decode (Domain.toAscii?_ascii hsettled) hpercent,hsettled]
  rw [ofDomain_eq hname hne,if_neg (by simp [hany])]

lemma free_of_forbiddenInDomain {cs : List Char} (h : Free Host.isForbiddenInDomain cs) :
    Free Host.isForbidden cs ∧ ∀ c ∈ cs, 0x1f < c.toNat := by
  refine ⟨fun c hc => ?_,fun c hc => ?_⟩
  all_goals
    have hallowed := h c hc
    simp only [Host.isForbiddenInDomain,Bool.or_eq_false_iff,decide_eq_false_iff_not] at hallowed
  · exact hallowed.1.1.1
  · omega

/-- The digits of an IPv4 address. -/
lemma isHost_ipv4 {n : ℕ} (h : n < 2^32) : IsHost true (.ipv4 n) := by
  have hchars (p : Char → Bool) (hdigits : ∀ c, c.isDigit = true → p c = false) (hpoint : p '.' = false) :
      Free p (Ipv4.write n) := by
    intro c hc
    rcases Ipv4.write_chars n c hc with hdigit | rfl
    · exact hdigits c hdigit
    · exact hpoint
  have hdigit {P : Char → Prop} (hP : ∀ n < 128, (Char.ofNat n).isDigit = true → P (Char.ofNat n)) (c : Char)
      (hc : c.isDigit = true) : P c :=
    forall_ascii (P := fun c => c.isDigit = true → P c) hP (ascii_of_isDigit hc) hc
  have hfree : Free Host.isForbiddenInDomain (Ipv4.write n) := hchars _ (hdigit (by decide +kernel)) (by decide)
  have hne : Ipv4.write n ≠ [] := by simp [Ipv4.write]
  have hsettled : Domain.Settled (Ipv4.write n) := by
    have hlower : ∀ c ∈ Ipv4.write n, c.toLower = c := by
      have := hchars (fun c => c.toLower != c) (hdigit (by decide +kernel)) (by decide)
      exact fun c hc => by simpa using this c hc
    have hsame := Domain.map_toLower hlower
    have hlabels : ∀ label ∈ pieces (· == '.') (Ipv4.write n), ['x','n','-','-'].isPrefixOf label = false := by
      intro label hlabel
      have hx : Free (· == 'x') (Ipv4.write n) := hchars _ (hdigit (by decide +kernel)) (by decide)
      cases label with
      | nil => rfl
      | cons c label =>
        have hc : c ≠ 'x' := by simpa using hx c ((mem_of_mem_pieces hlabel).2 c List.mem_cons_self)
        simp [List.isPrefixOf,Ne.symm hc]
    refine Domain.settled_of_isSimple (Bool.and_eq_true_iff.mpr ⟨Bool.and_eq_true_iff.mpr ⟨?_,?_⟩,?_⟩)
    · have := hchars (fun c => !isAscii c) (hdigit (by decide +kernel)) (by decide)
      exact List.all_eq_true.mpr fun c hc => by simpa [isAscii] using this c hc
    · rw [hsame]
      exact List.all_eq_true.mpr fun label hlabel => by simpa using hlabels label hlabel
    · exact List.all_eq_true.mpr fun c hc => by simpa using hlower c hc
  obtain ⟨hforbidden,hcontrol⟩ := free_of_forbiddenInDomain hfree
  refine isHost_of_name ?_ hforbidden hcontrol
  rw [Host.write,parse_of_forbidden hforbidden,if_pos rfl,ofDomain_settled hsettled hne hfree,
    if_pos (Ipv4.endsInNumber_write n),Ipv4.parse_write h]
  rfl

/-- A host that was read, where its name, if it is one, is settled. -/
theorem isHost_of_parse {special : Bool} {cs : List Char} {h : Host} (hparse : Host.parse special cs = .ok h)
    (hsettled : ∀ name, h = .domain name → Domain.Settled name) : IsHost special h := by
  unfold Host.parse at hparse
  split at hparse
  · split at hparse
    · rename_i inner _
      cases hns : Ipv6.parse inner.reverse with
      | error e => rw [hns] at hparse; cases hparse
      | ok ns =>
        rw [hns] at hparse
        obtain rfl := Except.ok.inj hparse
        exact isHost_ipv6 (Ipv6.parse_isAddress hns)
    · cases hparse
  · split_ifs at hparse with hspecial
    · subst hspecial
      obtain ⟨name,-,hne,hfree,⟨n,hn,rfl⟩ | ⟨hnumber,rfl⟩⟩ := ofDomain_ok hparse
      · exact isHost_ipv4 (Ipv4.parse_lt hn)
      · obtain ⟨hforbidden,hcontrol⟩ := free_of_forbiddenInDomain hfree
        refine isHost_of_name ?_ hforbidden hcontrol
        rw [Host.write,parse_of_forbidden hforbidden,if_pos rfl,ofDomain_settled (hsettled name rfl) hne hfree,
          if_neg (by simp [hnumber])]
    · obtain rfl : special = false := by simpa using hspecial
      exact isHost_verbatim hparse

end PageTelemetry.Url
