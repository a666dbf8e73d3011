import PageTelemetry.Proofs.Url.Host

/-! Authorities: credentials, host and port are read back as they were written. -/
namespace PageTelemetry.Url
open Text Percent
variable {u : Url} {h : Host} {a b cs scheme : List Char}

lemma splitCredentials_append (hb : Free (· == '@') b) : splitCredentials (a ++ '@'::b) = some (a,b) := by
  have hreverse : (a ++ '@'::b).reverse = b.reverse ++ '@'::a.reverse := by simp
  have hfree : Free (· == '@') b.reverse := fun c hc => hb c (List.mem_reverse.mp hc)
  rw [splitCredentials,hreverse,cut?_append hfree rfl]
  simp

lemma splitCredentials_free (h : Free (· == '@') cs) : splitCredentials cs = none := by
  rw [splitCredentials,cut?_free fun c hc => h c (List.mem_reverse.mp hc)]
  rfl

/-- A port that is not the one that its scheme has by default. -/
def IsPort (scheme : List Char) (port : Option ℕ) : Prop := ∀ n ∈ port, n ≤ 65535 ∧ defaultPort? scheme ≠ some n

lemma readPort_toDigits {n : ℕ} (h : IsPort scheme (some n)) : readPort scheme (Nat.toDigits 10 n) = .ok (some n) := by
  obtain ⟨hle,hdefault⟩ := h n rfl
  have hdigits : (Nat.toDigits 10 n).all Char.isDigit = true :=
    List.all_eq_true.mpr (mem_toDigits (P := fun c => c.isDigit = true) (by decide) (by decide))
  have hdefault' : (defaultPort? scheme == some n) = false := by simpa using hdefault
  simp only [readPort,ofDecimal_toDigits,hdefault']
  rw [if_neg (by simp),if_neg (by simp [hdigits]),if_neg (by omega)]
  rfl

lemma readPort_isPort {port : Option ℕ} (h : readPort scheme cs = .ok port) : IsPort scheme port := by
  unfold readPort at h
  split_ifs at h
  · obtain rfl := Except.ok.inj h
    simp [IsPort]
  · dsimp only at h
    split_ifs at h with hlarge hdefault
    · obtain rfl := Except.ok.inj h
      simp [IsPort]
    · obtain rfl := Except.ok.inj h
      rintro _ ⟨⟩
      exact ⟨by omega,by simpa using hdefault⟩

/-- Credentials, host and port as they stand in a URL that was read. -/
structure HasAuthority (u : Url) (h : Host) : Prop where
  host : IsHost (isSpecialScheme u.scheme) h
  username : Free inUserinfo u.username
  password : Free inUserinfo u.password
  port : IsPort u.scheme u.port
  /-- Without a host there is nothing else. -/
  bare : h.write = [] →
    isSpecialScheme u.scheme = false ∧ u.username = [] ∧ u.password = [] ∧ u.port = none

/-- The text of an authority. -/
def authorityText (u : Url) (h : Host) : List Char := u.writeCredentials ++ h.write ++ u.writePort

lemma free_writePort (p : Char → Bool) (hdigits : ∀ d < 10, p (Nat.digitChar d) = false) (hcolon : p ':' = false)
    (u : Url) : Free p u.writePort := by
  unfold writePort
  split
  · exact free_nil
  · exact free_cons.mpr ⟨hcolon,mem_toDigits (by decide) hdigits⟩

lemma free_writeCredentials (p : Char → Bool) (hcolon : p ':' = false) (hat : p '@' = false)
    (husername : Free p u.username) (hpassword : Free p u.password) : Free p u.writeCredentials := by
  unfold writeCredentials
  split_ifs
  · exact free_nil
  · exact (husername.append free_nil).append (free_cons.mpr ⟨hat,free_nil⟩)
  · exact (husername.append (free_cons.mpr ⟨hcolon,hpassword⟩)).append (free_cons.mpr ⟨hat,free_nil⟩)

/-- The characters that end an authority, or that no part of a URL holds. -/
def endsAuthority (c : Char) : Bool := c == '/' || c == '\\' || c == '?' || c == '#' || !isVisible c

lemma free_endsAuthority (hends : Free endsHost cs) (hvisible : ∀ c ∈ cs, 0x20 < c.toNat) : Free endsAuthority cs := by
  intro c hc
  have hkept := hends c hc
  simp only [endsHost,Bool.or_eq_false_iff] at hkept
  simp only [endsAuthority,hkept,isVisible,hvisible c hc]
  rfl

/-- An authority is not ended by what it holds if its host does not end it. -/
lemma free_authorityText (hhost : Free endsAuthority h.write) (husername : Free inUserinfo u.username)
    (hpassword : Free inUserinfo u.password) : Free endsAuthority (authorityText u h) := by
  have huserinfo {x : List Char} (hx : Free inUserinfo x) : Free endsAuthority x := by
    intro c hc
    have hvisible := isVisible_of_inQuery (inQuery_of_inPath (inPath_of_inUserinfo (hx c hc)))
    have hkept := hx c hc
    simp only [inUserinfo,inPath,inQuery,Bool.or_eq_false_iff] at hkept
    simp only [endsAuthority,hkept,hvisible]
    rfl
  exact ((free_writeCredentials _ (by decide) (by decide) (huserinfo husername) (huserinfo hpassword)).append
    hhost).append (free_writePort _ (by decide) (by decide) u)

lemma HasAuthority.unended (ha : HasAuthority u h) : Free endsAuthority (authorityText u h) :=
  free_authorityText (free_endsAuthority ha.host.unended ha.host.visible) ha.username ha.password

/-- The credentials of an authority, and what stands behind them. -/
def credentials? (cs : List Char) : Option (List Char) × List Char :=
  match splitCredentials cs with
  | none => (none,cs)
  | some (c,rest) => (some c,rest)

/-- How an authority is read that has been cut into its parts. -/
def readParts (scheme : List Char) (credentials : Option (List Char)) (host : List Char) (port : Option (List Char)) :
    Except Error Authority := do
  if host.isEmpty && (isSpecialScheme scheme || credentials.isSome || port.isSome) then throw .emptyHost
  let h ← Host.parse (isSpecialScheme scheme) host
  let n ← readPort scheme (port.getD [])
  let (username,password) := cut (· == ':') (credentials.getD [])
  return ⟨encode inUserinfo username,encode inUserinfo password,h,n⟩

lemma readAuthority_eq (scheme cs : List Char) : readAuthority scheme cs =
    readParts scheme (credentials? cs).1 (splitPort false (credentials? cs).2).1
      (splitPort false (credentials? cs).2).2 := by
  unfold readAuthority credentials?
  cases splitCredentials cs <;> rfl

/-- No credentials are read from host and port. -/
lemma HasAuthority.free_at (ha : HasAuthority u h) : Free (· == '@') (h.write ++ u.writePort) := by
  refine Free.append (fun c hc => ?_) (free_writePort _ (by decide) (by decide) u)
  have hends := ha.host.unended c hc
  simp only [endsHost,Bool.or_eq_false_iff] at hends
  exact hends.2

lemma HasAuthority.split (ha : HasAuthority u h) :
    splitPort false (h.write ++ u.writePort) = (h.write,u.writePort.tail?) := by
  refine ha.host.split _ fun c hc => ?_
  unfold writePort at hc
  split at hc
  · cases hc
  · exact (Option.some.inj hc).symm

lemma IsPort.read (hu : IsPort u.scheme u.port) : readPort u.scheme (u.writePort.tail?.getD []) = .ok u.port := by
  unfold writePort
  cases hp : u.port with
  | none => rfl
  | some n =>
    rw [hp] at hu
    exact readPort_toDigits hu

lemma free_colon {cs : List Char} (h : Free inUserinfo cs) : Free (· == ':') cs := by
  intro c hc
  have hkept := h c hc
  simp only [inUserinfo,Bool.or_eq_false_iff] at hkept
  exact hkept.1.1.1.1.1.1.1.1.2

/-- User and password as they stand in front of the at sign. -/
def userinfoText (u : Url) : List Char := u.username ++ if u.password.isEmpty then [] else ':'::u.password

lemma HasAuthority.cut_userinfo (ha : HasAuthority u h) :
    cut (· == ':') (userinfoText u) = (u.username,u.password) := by
  unfold userinfoText
  cases hp : u.password with
  | nil =>
    rw [List.isEmpty_nil,if_pos rfl,List.append_nil]
    exact cut_free (free_colon ha.username)
  | cons c rest => exact cut_append (free_colon ha.username) rfl

/-- An authority is read back as it was written. -/
theorem HasAuthority.read (ha : HasAuthority u h) :
    readAuthority u.scheme (authorityText u h) = .ok ⟨u.username,u.password,h,u.port⟩ := by
  by_cases hnone : u.username = [] ∧ u.password = []
  · have htext : authorityText u h = h.write ++ u.writePort := by simp [authorityText,writeCredentials,hnone]
    have hcredentials : credentials? (h.write ++ u.writePort) = (none,h.write ++ u.writePort) := by
      rw [credentials?,splitCredentials_free ha.free_at]
    have hbare : ¬(h.write.isEmpty && (isSpecialScheme u.scheme || u.writePort.tail?.isSome)) = true := by
      rintro hbare
      obtain ⟨hempty,hmore⟩ := Bool.and_eq_true_iff.mp hbare
      obtain ⟨hspecial,-,-,hport⟩ := ha.bare (List.isEmpty_iff.mp hempty)
      simp [hspecial,writePort,hport] at hmore
    rw [readAuthority_eq,htext,hcredentials,ha.split,readParts,Option.isSome_none,Bool.or_false,if_neg hbare,
      ha.host.parse,ha.port.read,hnone.1,hnone.2]
    rfl
  · -- With a user or a password the at sign stands, and the host is not empty.
    have htext : authorityText u h = userinfoText u ++ '@'::(h.write ++ u.writePort) := by
      rw [authorityText,writeCredentials,if_neg (by simpa using hnone),userinfoText]
      simp
    have hcredentials : credentials? (userinfoText u ++ '@'::(h.write ++ u.writePort)) =
        (some (userinfoText u),h.write ++ u.writePort) := by
      rw [credentials?,splitCredentials_append ha.free_at]
    have hhosted : h.write ≠ [] := fun hempty => hnone ⟨(ha.bare hempty).2.1,(ha.bare hempty).2.2.1⟩
    rw [readAuthority_eq,htext,hcredentials,ha.split,readParts,if_neg (by simp [hhosted]),ha.host.parse,ha.port.read]
    change Except.ok (⟨encode inUserinfo (cut (· == ':') (userinfoText u)).1,
      encode inUserinfo (cut (· == ':') (userinfoText u)).2,h,u.port⟩ : Authority) = _
    rw [ha.cut_userinfo,encode_of_free ha.username,encode_of_free ha.password]

/-- A host without text comes of no text. -/
lemma write_ne_nil_of_parse {special : Bool} (hparse : Host.parse special cs = .ok h) (hcs : cs ≠ []) :
    h.write ≠ [] := by
  unfold Host.parse at hparse
  split at hparse
  · split at hparse
    · rename_i inner _
      cases hns : Ipv6.parse inner.reverse with
      | error e => rw [hns] at hparse; cases hparse
      | ok ns =>
        rw [hns] at hparse
        obtain rfl := Except.ok.inj hparse
        simp [Host.write]
    · cases hparse
  · split_ifs at hparse
    · obtain ⟨name,-,hne,-,⟨n,-,rfl⟩ | ⟨-,rfl⟩⟩ := ofDomain_ok hparse
      · simp [Host.write,Ipv4.write]
      · exact hne
    · unfold Host.ofName at hparse
      split_ifs at hparse with hempty
      · exact absurd (List.isEmpty_iff.mp hempty) hcs
      · obtain rfl := Except.ok.inj hparse
        exact fun hnil => hcs (encode_eq_nil.mp hnil)

/-- The parts of an authority that was read. -/
lemma readParts_ok {credentials portText : Option (List Char)} {hostText : List Char} {a : Authority}
    (hread : readParts scheme credentials hostText portText = .ok a) :
    (hostText = [] → isSpecialScheme scheme = false ∧ credentials = none ∧ portText = none) ∧
    Host.parse (isSpecialScheme scheme) hostText = .ok a.host ∧ readPort scheme (portText.getD []) = .ok a.port ∧
    a.username = encode inUserinfo (cut (· == ':') (credentials.getD [])).1 ∧
    a.password = encode inUserinfo (cut (· == ':') (credentials.getD [])).2 := by
  unfold readParts at hread
  split_ifs at hread with hempty
  · cases hread
  · cases hhost : Host.parse (isSpecialScheme scheme) hostText with
    | error e => rw [hhost] at hread; cases hread
    | ok host =>
      cases hport : readPort scheme (portText.getD []) with
      | error e => rw [hhost,hport] at hread; cases hread
      | ok port =>
        rw [hhost,hport] at hread
        obtain rfl := Except.ok.inj hread
        refine ⟨fun hnil => ?_,rfl,rfl,rfl,rfl⟩
        simpa [hnil,and_assoc] using hempty

/-- An authority that was read, where its name, if it is one, is settled. -/
theorem readAuthority_ok {a : Authority} (hread : readAuthority u.scheme cs = .ok a)
    (husername : u.username = a.username) (hpassword : u.password = a.password) (hport : u.port = a.port)
    (hsettled : ∀ name, a.host = .domain name → Domain.Settled name) : HasAuthority u a.host := by
  rw [readAuthority_eq] at hread
  obtain ⟨hempty,hhost,hread,hname,hword⟩ := readParts_ok hread
  refine ⟨isHost_of_parse hhost hsettled,?_,?_,hport ▸ readPort_isPort hread,fun hnil => ?_⟩
  · rw [husername,hname]
    exact encode_free free_marks.2.2.2.2.2 _
  · rw [hpassword,hword]
    exact encode_free free_marks.2.2.2.2.2 _
  · have hnone : (splitPort false (credentials? cs).2).1 = [] := by
      by_contra hne
      exact write_ne_nil_of_parse hhost hne hnil
    obtain ⟨hspecial,hcredentials,hporttext⟩ := hempty hnone
    rw [hcredentials] at hname hword
    rw [hporttext] at hread
    refine ⟨hspecial,husername.trans hname,hpassword.trans hword,?_⟩
    rw [hport]
    exact (Except.ok.inj hread).symm

end PageTelemetry.Url
