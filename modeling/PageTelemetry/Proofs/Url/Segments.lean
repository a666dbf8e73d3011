import PageTelemetry.Proofs.Url.Percent

/-! Paths of segments. Reading adds one piece after the other, and a path that has been read is read again as it is
written. -/
namespace PageTelemetry.Url
open Text Percent
variable {scheme : List Char} {special file : Bool} {ss ps names : List (List Char)} {s piece : List Char}

/-- A segment as it stands in a path that was read. -/
structure IsSegment (special : Bool) (s : List Char) : Prop where
  clean : Free inPath s
  unbroken : Free (isSlash special) s
  notDot : isSingleDot s = false
  notDots : isDoubleDot s = false

/-- Whether a segment has to be read as a drive letter. -/
def isBarredDrive : List Char → Bool
  | [c,'|'] => c.isAlpha
  | _ => false

/-- The segments of a path that was read. -/
structure IsPath (special file : Bool) (ss : List (List Char)) : Prop where
  segments : ∀ s ∈ ss, IsSegment special s
  drive : file = true → ∀ s ∈ ss.head?, isBarredDrive s = false

lemma isSegment_nil : IsSegment special [] := ⟨free_nil,free_nil,rfl,rfl⟩

lemma isPath_nil (special file : Bool) : IsPath special file [] := ⟨by simp,by simp⟩

lemma IsPath.append (h : IsPath special file ss) (hps : IsPath special file ps) : IsPath special file (ss ++ ps) := by
  refine ⟨fun s hs => (List.mem_append.mp hs).elim (h.segments s) (hps.segments s),fun hfile s hs => ?_⟩
  cases ss with
  | nil => exact hps.drive hfile s hs
  | cons first others => exact h.drive hfile s hs

lemma IsPath.append_segment (h : IsPath special file ss) (hs : IsSegment special s)
    (hdrive : file = true → ss = [] → isBarredDrive s = false) : IsPath special file (ss ++ [s]) := by
  cases ss with
  | nil => exact ⟨by simpa using hs,fun hfile => by simpa using hdrive hfile rfl⟩
  | cons first others =>
    refine ⟨fun x hx => ?_,h.drive⟩
    rcases List.mem_append.mp hx with hx | hx
    · exact h.segments x hx
    · exact List.mem_singleton.mp hx ▸ hs

lemma IsPath.dropLast (h : IsPath special file ss) : IsPath special file ss.dropLast := by
  refine ⟨fun s hs => h.segments s (List.dropLast_subset ss hs),fun hfile s hs => h.drive hfile s ?_⟩
  cases ss with
  | nil => cases hs
  | cons first others =>
    cases others with
    | nil => cases hs
    | cons => exact hs

lemma IsPath.shorten (h : IsPath special file ss) : IsPath special file (shorten file ss) := by
  unfold Url.shorten
  split
  · split_ifs
    · exact h
    · exact isPath_nil special true
  · exact h.dropLast

/-! Adding a piece that is not the last one. -/

/-- Whether a piece only moves through the path. -/
def isDots (piece : List Char) : Bool := isDoubleDot piece || isSingleDot piece

/-- The segment that a piece becomes behind others. -/
def segmentOf (file : Bool) (ss : List (List Char)) (piece : List Char) : List Char :=
  match file,ss,piece with
  | true,[],[c,'|'] => if c.isAlpha then [c,':'] else encode inPath piece
  | _,_,_ => encode inPath piece

def addPiece (file : Bool) (ss : List (List Char)) (piece : List Char) : List (List Char) :=
  if isDoubleDot piece then shorten file ss
  else if isSingleDot piece then ss
  else ss ++ [segmentOf file ss piece]

lemma addSegments_cons (file : Bool) (ss : List (List Char)) (piece : List Char) (rest : List (List Char)) :
    addSegments file ss (piece::rest) =
      addSegments file (addPiece file ss piece ++ if rest.isEmpty && isDots piece then [[]] else []) rest := by
  change (if isDoubleDot piece then _ else if isSingleDot piece then _ else _) = _
  rw [addPiece,isDots]
  cases isDoubleDot piece <;> cases isSingleDot piece <;> cases rest <;>
    simp only [List.isEmpty_nil,List.isEmpty_cons,List.append_nil,Bool.or_false,Bool.or_true,Bool.and_false,
      Bool.and_true,if_true,if_false,Bool.false_eq_true] <;> rfl

/-- All pieces are added alike, but dots at the end leave an empty segment. -/
theorem addSegments_concat (file : Bool) (ss front : List (List Char)) (last : List Char) :
    addSegments file ss (front ++ [last]) =
      (front ++ [last]).foldl (addPiece file) ss ++ if isDots last then [[]] else [] := by
  induction front generalizing ss with
  | nil => rw [List.nil_append,addSegments_cons]; rfl
  | cons piece front ih =>
    have hmore : (front ++ [last]).isEmpty = false := by simp
    rw [List.cons_append,addSegments_cons,hmore,Bool.false_and,if_neg (by simp),List.append_nil,ih]
    rfl

/-! What pieces become. -/

lemma slash_free_marks (special : Bool) : Free (isSlash special) marks := by
  cases special <;> decide

lemma isSegment_encode (hfree : Free (isSlash special) piece) (hdots : isDots piece = false) :
    IsSegment special (encode inPath piece) := by
  obtain ⟨hdouble,hsingle⟩ := Bool.or_eq_false_iff.mp hdots
  refine ⟨encode_free free_marks.2.2.2.2.1 piece,free_encode (slash_free_marks special) fun c hc _ => hfree c hc,?_,?_⟩
  · exact Bool.eq_false_iff.mpr fun h => by rw [isSingleDot_of_encode h] at hsingle; cases hsingle
  · exact Bool.eq_false_iff.mpr fun h => by rw [isDoubleDot_of_encode h] at hdouble; cases hdouble

lemma alpha_facts (special : Bool) {c : Char} (h : c.isAlpha = true) :
    c ≠ '%' ∧ c ≠ '.' ∧ inPath c = false ∧ isSlash special c = false := by
  have hall : ∀ n < 128, (Char.ofNat n).isAlpha = true → Char.ofNat n ≠ '%' ∧ Char.ofNat n ≠ '.' ∧
      inPath (Char.ofNat n) = false ∧ ∀ special, isSlash special (Char.ofNat n) = false := by decide +kernel
  obtain ⟨hpercent,hdot,hpath,hslash⟩ := forall_ascii (P := fun c => c.isAlpha = true → c ≠ '%' ∧ c ≠ '.' ∧
    inPath c = false ∧ ∀ special, isSlash special c = false) hall (ascii_of_isAlpha h) h
  exact ⟨hpercent,hdot,hpath,hslash special⟩

lemma isSegment_drive {c : Char} (h : c.isAlpha = true) : IsSegment special [c,':'] := by
  obtain ⟨hpercent,hdot,hpath,hslash⟩ := alpha_facts special h
  have hcolon : inPath ':' = false ∧ isSlash special ':' = false := by cases special <;> decide
  have hdots : dots [c,':'] = [c,':'] := by rw [dots_cons_of_ne hpercent,dots_cons_of_ne (by decide)]; rfl
  refine ⟨?_,?_,?_,?_⟩
  · exact free_cons.mpr ⟨hpath,free_cons.mpr ⟨hcolon.1,free_nil⟩⟩
  · exact free_cons.mpr ⟨hslash,free_cons.mpr ⟨hcolon.2,free_nil⟩⟩
  · simp [isSingleDot,hdots]
  · simp [isDoubleDot,hdots]

lemma segmentOf_cases (file : Bool) (ss : List (List Char)) (piece : List Char) :
    segmentOf file ss piece = encode inPath piece ∧ (file = true → ss = [] → isBarredDrive piece = false) ∨
      ∃ c, c.isAlpha = true ∧ segmentOf file ss piece = [c,':'] := by
  unfold segmentOf
  split
  · rename_i c
    split_ifs with hc
    · exact .inr ⟨c,hc,rfl⟩
    · exact .inl ⟨rfl,fun _ _ => by simpa [isBarredDrive] using hc⟩
  · rename_i hne
    refine .inl ⟨rfl,fun hfile hss => ?_⟩
    unfold isBarredDrive
    split
    · exact absurd rfl (hne _ hfile hss)
    · rfl

/-- Encoding makes no drive letter. -/
lemma isBarredDrive_encode (h : isBarredDrive (encode inPath piece) = true) : isBarredDrive piece = true := by
  unfold isBarredDrive at h
  split at h
  · rename_i c heq
    obtain ⟨rest,rfl,hrest⟩ := encode_eq_cons heq (alpha_facts true h).1
    obtain ⟨rest',rfl,hrest'⟩ := encode_eq_cons hrest (by decide)
    obtain rfl := encode_eq_nil.mp hrest'
    exact h
  · cases h

lemma isSegment_segmentOf (hfree : Free (isSlash special) piece) (hdots : isDots piece = false) :
    IsSegment special (segmentOf file ss piece) := by
  rcases segmentOf_cases file ss piece with ⟨e,-⟩ | ⟨c,hc,e⟩ <;> rw [e]
  · exact isSegment_encode hfree hdots
  · exact isSegment_drive hc

lemma isBarredDrive_segmentOf (hfile : file = true) (hss : ss = []) :
    isBarredDrive (segmentOf file ss piece) = false := by
  rcases segmentOf_cases file ss piece with ⟨e,hbarred⟩ | ⟨c,hc,e⟩ <;> rw [e]
  · refine Bool.eq_false_iff.mpr fun h => ?_
    rw [isBarredDrive_encode h] at hbarred
    cases hbarred hfile hss
  · rfl

lemma IsPath.addPiece (h : IsPath special file ss) (hfree : Free (isSlash special) piece) :
    IsPath special file (addPiece file ss piece) := by
  unfold Url.addPiece
  split_ifs with hdouble hsingle
  · exact h.shorten
  · exact h
  · exact h.append_segment (isSegment_segmentOf hfree (by simp [isDots,hdouble,hsingle])) isBarredDrive_segmentOf

lemma IsPath.foldl (h : IsPath special file ss) (hfree : ∀ s ∈ ps, Free (isSlash special) s) :
    IsPath special file (ps.foldl (Url.addPiece file) ss) := by
  induction ps generalizing ss with
  | nil => exact h
  | cons piece ps ih =>
    obtain ⟨hpiece,hps⟩ := List.forall_mem_cons.mp hfree
    exact ih (h.addPiece hpiece) hps

/-- What is read behind the segments of a path is such a path, and it ends with a segment. -/
theorem IsPath.addSegments (h : IsPath special file ss) (hps : ps ≠ []) (hfree : ∀ s ∈ ps, Free (isSlash special) s) :
    IsPath special file (addSegments file ss ps) ∧ addSegments file ss ps ≠ [] := by
  obtain ⟨front,last,rfl⟩ := (List.eq_nil_or_concat' ps).resolve_left hps
  have hfold := h.foldl hfree
  rw [addSegments_concat]
  cases hdots : isDots last with
  | true =>
    refine ⟨hfold.append_segment isSegment_nil fun _ _ => rfl,?_⟩
    simp
  | false =>
    obtain ⟨hdouble,hsingle⟩ := Bool.or_eq_false_iff.mp hdots
    rw [if_neg (by simp),List.append_nil]
    refine ⟨hfold,?_⟩
    rw [List.foldl_append,List.foldl_cons,List.foldl_nil,Url.addPiece,hdouble,hsingle]
    simp

/-! Reading what was read. -/

lemma IsSegment.isDots (h : IsSegment special s) : isDots s = false := by rw [Url.isDots,h.notDots,h.notDot]; rfl

/-- A segment is added as it is. -/
lemma addPiece_segment (hs : IsSegment special s) (hdrive : file = true → ss = [] → isBarredDrive s = false) :
    addPiece file ss s = ss ++ [s] := by
  have hsegment : segmentOf file ss s = s := by
    unfold segmentOf
    split
    · rename_i c
      rw [if_neg (by simpa [isBarredDrive] using hdrive rfl rfl)]
      exact encode_of_free hs.clean
    · exact encode_of_free hs.clean
  rw [addPiece,hs.notDots,hs.notDot,hsegment]
  rfl

lemma foldl_addPiece (h : IsPath special file (ss ++ ps)) : ps.foldl (addPiece file) ss = ss ++ ps := by
  induction ps generalizing ss with
  | nil => simp
  | cons s ps ih =>
    have hs : addPiece file ss s = ss ++ [s] := by
      refine addPiece_segment (h.segments s (by simp)) fun hfile hss => h.drive hfile s ?_
      rw [hss]
      rfl
    rw [List.foldl_cons,hs,ih (by simpa using h)]
    simp

/-- Segments of a path are added as they are, whatever was read in front of them. -/
theorem addSegments_append (h : IsPath special file (ps.foldl (addPiece file) ss ++ names)) (hnames : names ≠ []) :
    addSegments file ss (ps ++ names) = ps.foldl (addPiece file) ss ++ names := by
  obtain ⟨front,last,rfl⟩ := (List.eq_nil_or_concat' names).resolve_left hnames
  rw [← List.append_assoc,addSegments_concat,List.append_assoc,List.foldl_append,foldl_addPiece h,
    (h.segments last (by simp)).isDots]
  simp

/-! Whole paths. -/

lemma isSlash_slash (special : Bool) : isSlash special '/' = true := by cases special <;> rfl

lemma ne_slash {c : Char} (h : isSlash special c = false) : c ≠ '/' := by
  rintro rfl
  rw [isSlash_slash] at h
  cases h

lemma mem_write {c : Char} (hc : c ∈ (Path.segments ss).write) : c = '/' ∨ ∃ s ∈ ss, c ∈ s := by
  obtain ⟨s,hs,hc⟩ := List.mem_flatMap.mp hc
  exact (List.mem_cons.mp hc).imp_right fun hc => ⟨s,hs,hc⟩

/-- What stands behind the slash that a path begins with. -/
def pathBody (special : Bool) : List Char → List Char
  | c::rest => if isSlash special c then rest else c::rest
  | [] => []

lemma readPath_eq (scheme : List Char) (ss : List (List Char)) (cs : List Char) : readPath scheme ss cs =
    if cs.isEmpty && !isSpecialScheme scheme then .segments ss
    else .segments (addSegments (isFileScheme scheme) ss
      (pieces (isSlash (isSpecialScheme scheme)) (pathBody (isSpecialScheme scheme) cs))) := by
  cases cs <;> rfl

/-- A path that belongs to a scheme. -/
def SchemePath (scheme : List Char) (ss : List (List Char)) : Prop :=
  IsPath (isSpecialScheme scheme) (isFileScheme scheme) ss

theorem readPath_isPath (h : SchemePath scheme ss) (cs : List Char) : ∃ ss', readPath scheme ss cs = .segments ss' ∧
    SchemePath scheme ss' ∧ (isSpecialScheme scheme = true ∨ cs ≠ [] → ss' ≠ []) := by
  rw [readPath_eq]
  split_ifs with hnone
  · refine ⟨ss,rfl,h,fun hsome => ?_⟩
    simp only [Bool.and_eq_true,List.isEmpty_iff,Bool.not_eq_true'] at hnone
    rcases hsome with hspecial | hcs
    · rw [hspecial] at hnone
      cases hnone.2
    · exact absurd hnone.1 hcs
  · obtain ⟨hpath,hne⟩ := IsPath.addSegments h (pieces_ne_nil _ _) fun s hs => (mem_of_mem_pieces hs).1
    exact ⟨_,rfl,hpath,fun _ => hne⟩

/-- The segments of a path that was read are the pieces of its text. -/
lemma SchemePath.pieces {first : List Char} {others : List (List Char)} (h : SchemePath scheme (first::others)) :
    pieces (isSlash (isSpecialScheme scheme)) (first ++ others.flatMap ('/'::·)) = first::others :=
  pieces_join (isSlash_slash _) (h.segments first (by simp)).unbroken
    fun s hs => (h.segments s (List.mem_cons_of_mem _ hs)).unbroken

lemma SchemePath.read (h : SchemePath scheme ss) (hne : ss ≠ []) :
    addSegments (isFileScheme scheme) [] ss = ss := by
  have hself : IsPath (isSpecialScheme scheme) (isFileScheme scheme)
      (List.foldl (addPiece (isFileScheme scheme)) [] [] ++ ss) := h
  exact addSegments_append hself hne

/-- A path that was read is read again as it is written. -/
theorem readPath_write (h : SchemePath scheme ss) (hne : isSpecialScheme scheme = true → ss ≠ []) :
    readPath scheme [] (Path.segments ss).write = .segments ss := by
  rw [readPath_eq]
  cases ss with
  | nil =>
    have hspecial : isSpecialScheme scheme = false := by simpa using fun hspecial => hne hspecial rfl
    simp [Path.write,hspecial]
  | cons first others =>
    have hbody : pathBody (isSpecialScheme scheme) (Path.segments (first::others)).write =
        first ++ others.flatMap ('/'::·) := by
      simp [Path.write,pathBody,isSlash_slash]
    rw [if_neg (by simp [Path.write]),hbody,h.pieces,h.read (by simp)]

/-- A dot in front of a path changes nothing. -/
lemma readPath_dot (h : SchemePath scheme ss) (hne : ss ≠ []) :
    readPath scheme [] ('/' :: '.' :: (Path.segments ss).write) = .segments ss := by
  obtain ⟨first,others,rfl⟩ := List.exists_cons_of_ne_nil hne
  have hbody : pathBody (isSpecialScheme scheme) ('/' :: '.' :: (Path.segments (first::others)).write) =
      ['.'] ++ '/'::(first ++ others.flatMap ('/'::·)) := by
    simp [Path.write,pathBody,isSlash_slash]
  have hdot : Free (isSlash (isSpecialScheme scheme)) ['.'] := by
    cases isSpecialScheme scheme <;> decide
  rw [readPath_eq,if_neg (by simp),hbody,pieces_append (isSlash_slash _),pieces_free hdot,h.pieces,
    List.singleton_append,addSegments_cons]
  exact congrArg Path.segments (h.read hne)

end PageTelemetry.Url
