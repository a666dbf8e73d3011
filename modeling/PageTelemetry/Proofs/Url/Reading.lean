import PageTelemetry.Proofs.Url.Segments

/-! How that is read which follows the scheme of an absolute URL, by the rules that the scheme has. -/
namespace PageTelemetry.Url
open Text Percent
variable {scheme cs rest : List Char} {c d : Char}

lemma isSpecialScheme_of_isFileScheme {scheme : List Char} (h : isFileScheme scheme = true) :
    isSpecialScheme scheme = true := by
  rw [isSpecialScheme,h,Bool.or_true]

/-- The URL of a file. -/
def fileUrl (host : Host) (path : List Char) (r : Reference) : Url where
  scheme := "file".toList
  username := []
  password := []
  host := some host
  port := none
  path := readPath "file".toList [] path
  query := readQuery "file".toList r.query
  fragment := readFragment r.fragment

/-- Where a host of files is local, it is none. -/
def localised (host : Host) : Host := if host = .domain "localhost".toList then .empty else host

lemma readFileHost_eq (cs : List Char) (r : Reference) : readFileHost cs r =
    if isDriveLetter (cs.takeWhile fun c => !isSlash true c) then .ok (fileUrl .empty cs r)
    else if (cs.takeWhile fun c => !isSlash true c).isEmpty then
      .ok (fileUrl .empty (cs.dropWhile fun c => !isSlash true c) r)
    else (Host.parse true (cs.takeWhile fun c => !isSlash true c)).map fun host =>
      fileUrl (localised host) (cs.dropWhile fun c => !isSlash true c) r := by
  unfold readFileHost
  dsimp only
  split_ifs
  · rfl
  · rfl
  · cases Host.parse true (cs.takeWhile fun c => !isSlash true c) <;> rfl

/-- A URL without an authority. -/
def plainUrl (scheme : List Char) (path : Path) (r : Reference) : Url where
  scheme := scheme
  username := []
  password := []
  host := none
  port := none
  path := path
  query := readQuery scheme r.query
  fragment := readFragment r.fragment

/-- The URL of an authority. -/
def hostedUrl (scheme : List Char) (a : Authority) (path : List Char) (r : Reference) : Url where
  scheme := scheme
  username := a.username
  password := a.password
  host := some a.host
  port := a.port
  path := readPath scheme [] path
  query := readQuery scheme r.query
  fragment := readFragment r.fragment

/-- Nothing but the authority decides whether what stands behind two slashes is read. -/
lemma readBehindSlashes_eq_ok {r : Reference} {u : Url} : readBehindSlashes scheme cs r = .ok u ↔
    ∃ a, readAuthority scheme (cs.takeWhile fun c => !isSlash (isSpecialScheme scheme) c) = .ok a ∧
      hostedUrl scheme a (cs.dropWhile fun c => !isSlash (isSpecialScheme scheme) c) r = u := by
  unfold readBehindSlashes
  dsimp only
  cases readAuthority scheme (cs.takeWhile fun c => !isSlash (isSpecialScheme scheme) c) with
  | error e =>
    constructor
    · intro h
      cases h
    · rintro ⟨_,h,-⟩
      cases h
  | ok a =>
    constructor
    · intro h
      exact ⟨a,rfl,Except.ok.inj h⟩
    · rintro ⟨_,ha,rfl⟩
      obtain rfl := Except.ok.inj ha
      rfl

/-! Files. -/

lemma readScheme_file (hfile : isFileScheme scheme = true) (cs : List Char) (r : Reference) :
    readScheme none scheme cs r = readFile none r cs := by
  unfold readScheme
  rw [if_pos hfile]
  rfl

lemma readFile_slashes (hc : isSlash true c = true) (hd : isSlash true d = true) (rest : List Char) (r : Reference) :
    readFile none r (c::d::rest) = readFileHost rest r := by
  unfold readFile
  dsimp only
  rw [if_pos hc]
  exact if_pos hd

/-- Whether a text begins with two slashes. -/
def startsWithSlashes (special : Bool) : List Char → Bool
  | c::d::_ => isSlash special c && isSlash special d
  | _ => false

/-- Without two slashes there is no host, and all is path. -/
lemma readFile_path (h : startsWithSlashes true cs = false) (r : Reference) :
    readFile none r cs = .ok (fileUrl .empty cs r) := by
  unfold readFile
  cases cs with
  | nil => rfl
  | cons c rest =>
    dsimp only
    split_ifs with hc hrest
    · cases rest with
      | nil => cases hrest
      | cons d rest =>
        rw [startsWithSlashes,hc,Bool.true_and] at h
        rw [startsWithSlash,h] at hrest
        cases hrest
    · rfl
    · rfl

/-! Other schemes. -/

lemma readScheme_special (hfile : isFileScheme scheme = false) (hspecial : isSpecialScheme scheme = true)
    (cs : List Char) (r : Reference) :
    readScheme none scheme cs r = readBehindSlashes scheme (cs.dropWhile (isSlash true)) r := by
  unfold readScheme
  rw [if_neg (by simp [hfile]),if_pos hspecial]

lemma isFileScheme_of_not_isSpecialScheme (h : isSpecialScheme scheme = false) : isFileScheme scheme = false :=
  (Bool.or_eq_false_iff.mp h).2

/-- A text begins with two slashes, with one, or with none. -/
lemma slashes_cases (cs : List Char) : (∃ rest, cs = '/' :: '/' :: rest) ∨
    (∃ rest, cs = '/'::rest ∧ ∀ c ∈ rest.head?, c ≠ '/') ∨ ∀ c ∈ cs.head?, c ≠ '/' := by
  match cs with
  | [] => exact .inr (.inr (by simp))
  | [c] => by_cases hc : c = '/' <;> simp [hc]
  | c::d::rest => by_cases hc : c = '/' <;> by_cases hd : d = '/' <;> simp [hc,hd]

lemma readScheme_slashes (hspecial : isSpecialScheme scheme = false) (rest : List Char) (r : Reference) :
    readScheme none scheme ('/' :: '/' :: rest) r = readBehindSlashes scheme rest r := by
  unfold readScheme
  rw [if_neg (by simp [isFileScheme_of_not_isSpecialScheme hspecial]),if_neg (by simp [hspecial])]
  rfl

lemma readScheme_slash (hspecial : isSpecialScheme scheme = false) (hhead : ∀ c ∈ rest.head?, c ≠ '/')
    (r : Reference) :
    readScheme none scheme ('/'::rest) r = .ok (plainUrl scheme (readPath scheme [] ('/'::rest)) r) := by
  unfold readScheme
  rw [if_neg (by simp [isFileScheme_of_not_isSpecialScheme hspecial]),if_neg (by simp [hspecial])]
  split
  · rename_i heq
    rw [(List.cons.inj heq).2] at hhead
    exact absurd rfl (hhead '/' rfl)
  · rfl
  · rename_i heq
    exact absurd rfl (heq rest)

lemma readScheme_rootless (hspecial : isSpecialScheme scheme = false) (hhead : ∀ c ∈ cs.head?, c ≠ '/')
    (r : Reference) :
    readScheme none scheme cs r = .ok (plainUrl scheme (.rootless (encode isControl cs)) r) := by
  unfold readScheme
  rw [if_neg (by simp [isFileScheme_of_not_isSpecialScheme hspecial]),if_neg (by simp [hspecial])]
  split
  · exact absurd rfl (hhead '/' rfl)
  · exact absurd rfl (hhead '/' rfl)
  · rfl

end PageTelemetry.Url
