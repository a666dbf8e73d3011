import Mathlib.Tactic
import PageTelemetry.Text.Blank

/-! Cutting texts. A text that is put together from parts is cut into the same parts, as long as no part holds what
the cuts are made at. -/
namespace PageTelemetry.Text
variable {p : Char → Bool} {a b cs : List Char} {c : Char}

/-- A text without the characters at which it would be cut. -/
def Free (p : Char → Bool) (cs : List Char) : Prop := ∀ c ∈ cs, p c = false

instance (p : Char → Bool) (cs : List Char) : Decidable (Free p cs) := List.decidableBAll (p · = false) cs

lemma Free.append (ha : Free p a) (hb : Free p b) : Free p (a ++ b) := by
  intro c hc
  rcases List.mem_append.mp hc with hc | hc
  · exact ha c hc
  · exact hb c hc

lemma free_cons : Free p (c::cs) ↔ p c = false ∧ Free p cs := by simp [Free]

lemma free_nil : Free p [] := fun _ hc => absurd hc List.not_mem_nil

lemma Free.of_append_left (h : Free p (a ++ b)) : Free p a := fun c hc => h c (List.mem_append_left b hc)

lemma Free.of_append_right (h : Free p (a ++ b)) : Free p b := fun c hc => h c (List.mem_append_right a hc)

/-! Before and behind the first such character. -/

lemma takeWhile_free (ha : Free p a) (hb : ∀ c ∈ b.head?, p c = true) :
    (a ++ b).takeWhile (fun c => !p c) = a := by
  induction a with
  | nil =>
    cases b with
    | nil => rfl
    | cons c b => simp [hb c rfl]
  | cons c a ih =>
    obtain ⟨hc,ha⟩ := free_cons.mp ha
    simp [hc,ih ha]

lemma dropWhile_free (ha : Free p a) (hb : ∀ c ∈ b.head?, p c = true) :
    (a ++ b).dropWhile (fun c => !p c) = b := by
  induction a with
  | nil =>
    cases b with
    | nil => rfl
    | cons c b => simp [hb c rfl]
  | cons c a ih =>
    obtain ⟨hc,ha⟩ := free_cons.mp ha
    simp [hc,ih ha]

lemma free_takeWhile (p : Char → Bool) (cs : List Char) : Free p (cs.takeWhile fun c => !p c) := by
  intro c hc
  simpa using List.all_eq_true.mp List.all_takeWhile c hc

lemma head_dropWhile (p : Char → Bool) (cs : List Char) : ∀ c ∈ (cs.dropWhile fun c => !p c).head?, p c = true := by
  intro c hc
  have hhead := List.head?_dropWhile_not (fun c => !p c) cs
  rw [Option.mem_def.mp hc] at hhead
  simpa using hhead

lemma cut?_append (ha : Free p a) (hc : p c = true) : cut? p (a ++ c::b) = some (a,b) := by
  have hhead : ∀ d ∈ (c::b).head?, p d = true := by simpa using hc
  simp only [cut?,takeWhile_free ha hhead,dropWhile_free ha hhead]

lemma cut?_free (ha : Free p a) : cut? p a = none := by
  have hdrop := dropWhile_free (b := []) ha (by simp)
  rw [List.append_nil] at hdrop
  simp only [cut?,hdrop]

lemma cut_append (ha : Free p a) (hc : p c = true) : cut p (a ++ c::b) = (a,b) := by
  have hhead : ∀ d ∈ (c::b).head?, p d = true := by simpa using hc
  simp only [cut,takeWhile_free ha hhead,dropWhile_free ha hhead,List.drop_one,List.tail_cons]

lemma cut_free (ha : Free p a) : cut p a = (a,[]) := by
  have htake := takeWhile_free (b := []) ha (by simp)
  have hdrop := dropWhile_free (b := []) ha (by simp)
  rw [List.append_nil] at htake hdrop
  simp only [cut,htake,hdrop,List.drop_nil]

/-- What is cut off stands behind the first such character. -/
lemma eq_of_cut? (h : cut? p cs = some (a,b)) : ∃ c, p c = true ∧ cs = a ++ c::b ∧ Free p a := by
  unfold cut? at h
  split at h
  · cases h
  · rename_i c rest hdrop
    obtain ⟨rfl,rfl⟩ := Prod.mk.inj (Option.some.inj h)
    refine ⟨c,head_dropWhile p cs c (by rw [hdrop]; rfl),?_,free_takeWhile p cs⟩
    rw [← hdrop,List.takeWhile_append_dropWhile]

lemma free_of_cut? (h : cut? p cs = none) : Free p cs := by
  unfold cut? at h
  split at h
  · rename_i hdrop
    have hcs := List.takeWhile_append_dropWhile (p := fun c => !p c) (l := cs)
    rw [hdrop,List.append_nil] at hcs
    rw [← hcs]
    exact free_takeWhile p cs
  · cases h

/-! Pieces. -/

lemma pieces_ne_nil (p : Char → Bool) (cs : List Char) : pieces p cs ≠ [] := by
  cases cs with
  | nil => simp [pieces]
  | cons c cs =>
    simp only [pieces]
    split_ifs
    · simp
    · split <;> simp

lemma pieces_free (ha : Free p a) : pieces p a = [a] := by
  induction a with
  | nil => rfl
  | cons c a ih =>
    obtain ⟨hc,ha⟩ := free_cons.mp ha
    simp [pieces,hc,ih ha]

lemma pieces_append (hc : p c = true) (a b : List Char) : pieces p (a ++ c::b) = pieces p a ++ pieces p b := by
  induction a with
  | nil => simp [pieces,hc]
  | cons d a ih =>
    simp only [List.cons_append,pieces,ih]
    split_ifs
    · rfl
    · cases h : pieces p a with
      | nil => exact absurd h (pieces_ne_nil p a)
      | cons => rfl

/-- Pieces hold nothing but what the text holds, and no character at which it is cut. -/
lemma mem_of_mem_pieces {s : List Char} (hs : s ∈ pieces p cs) : Free p s ∧ ∀ c ∈ s, c ∈ cs := by
  induction cs generalizing s with
  | nil =>
    obtain rfl : s = [] := by simpa [pieces] using hs
    exact ⟨free_nil,by simp⟩
  | cons c cs ih =>
    simp only [pieces] at hs
    split_ifs at hs with hc
    · rcases List.mem_cons.mp hs with rfl | hs
      · exact ⟨free_nil,by simp⟩
      · exact ⟨(ih hs).1,fun d hd => List.mem_cons_of_mem _ ((ih hs).2 d hd)⟩
    · cases hp : pieces p cs with
      | nil => exact absurd hp (pieces_ne_nil p cs)
      | cons first others =>
        rw [hp] at hs ih
        rcases List.mem_cons.mp hs with rfl | hs
        · have hfirst := ih List.mem_cons_self
          refine ⟨free_cons.mpr ⟨by simpa using hc,hfirst.1⟩,?_⟩
          exact fun d hd => List.mem_cons.mpr ((List.mem_cons.mp hd).imp_right (hfirst.2 d))
        · have hother := ih (List.mem_cons_of_mem _ hs)
          exact ⟨hother.1,fun d hd => List.mem_cons_of_mem _ (hother.2 d hd)⟩

/-- The last piece is empty only behind a character at which the text is cut. -/
lemma last_pieces (hcs : cs ≠ []) (hlast : ∀ c ∈ cs.getLast?, p c = false) : ∀ s ∈ (pieces p cs).getLast?, s ≠ [] := by
  induction cs with
  | nil => exact absurd rfl hcs
  | cons c cs ih =>
    have hbehind (hne : cs ≠ []) : ∀ s ∈ (pieces p cs).getLast?, s ≠ [] := by
      refine ih hne fun d hd => hlast d ?_
      rw [List.getLast?_cons,Option.mem_def.mp hd]
      rfl
    intro s hs
    simp only [pieces] at hs
    split_ifs at hs with hc
    · have hne : cs ≠ [] := by
        rintro rfl
        rw [hlast c rfl] at hc
        cases hc
      rw [List.getLast?_cons_of_ne_nil (pieces_ne_nil p cs)] at hs
      exact hbehind hne s hs
    · cases hp : pieces p cs with
      | nil => exact absurd hp (pieces_ne_nil p cs)
      | cons first others =>
        rw [hp] at hs
        cases others with
        | nil =>
          obtain rfl := Option.some.inj hs
          simp
        | cons second others =>
          have hne : cs ≠ [] := by
            rintro rfl
            cases hp
          exact hbehind hne s (by rw [hp]; exact hs)

/-- Texts that are joined by a character come apart at it. -/
lemma pieces_join (hc : p c = true) {first : List Char} {others : List (List Char)} (hfirst : Free p first)
    (hothers : ∀ s ∈ others, Free p s) : pieces p (first ++ others.flatMap (c::·)) = first::others := by
  induction others generalizing first with
  | nil => simpa using pieces_free hfirst
  | cons s others ih =>
    obtain ⟨hs,hothers⟩ := List.forall_mem_cons.mp hothers
    rw [List.flatMap_cons,List.cons_append,pieces_append hc,pieces_free hfirst,ih hs hothers]
    rfl

/-! Stripping. -/

lemma dropWhile_of_head (h : ∀ c ∈ cs.head?, p c = false) : cs.dropWhile p = cs := by
  cases cs with
  | nil => rfl
  | cons c cs => simp [h c rfl]

/-- Nothing is stripped from a text that neither begins nor ends with what is stripped. -/
lemma strip_of_ends (hhead : ∀ c ∈ cs.head?, p c = false) (hlast : ∀ c ∈ cs.getLast?, p c = false) :
    strip p cs = cs := by
  rw [strip,dropWhile_of_head hhead,dropWhile_of_head (by rwa [List.head?_reverse]),List.reverse_reverse]

/-- Only the beginning is stripped of a text that does not end with what is stripped. -/
lemma strip_of_last (hlast : ∀ c ∈ cs.getLast?, p c = false) : strip p cs = cs.dropWhile p := by
  have hsuffix : ∀ c ∈ (cs.dropWhile p).getLast?, p c = false := by
    intro c hc
    obtain ⟨front,hfront⟩ := List.dropWhile_suffix p (l := cs)
    refine hlast c ?_
    rw [← hfront,List.getLast?_append,Option.mem_def.mp hc]
    rfl
  rw [strip,dropWhile_of_head (by rwa [List.head?_reverse]),List.reverse_reverse]

lemma dropWhile_concat (hc : p c = false) (a b : List Char) : (a ++ c::b).dropWhile p = a.dropWhile p ++ c::b := by
  induction a with
  | nil => simp [hc]
  | cons d a ih =>
    rw [List.cons_append,List.dropWhile_cons,List.dropWhile_cons]
    split_ifs
    · exact ih
    · rfl

lemma strip_concat (hc : p c = false) (a : List Char) (hb : ∀ d ∈ b, p d = true) :
    strip p (a ++ c::b) = a.dropWhile p ++ [c] := by
  have hreverse : (a.dropWhile p ++ c::b).reverse = b.reverse ++ c::(a.dropWhile p).reverse := by simp
  rw [strip,dropWhile_concat hc,hreverse,List.dropWhile_append_of_pos (by simpa using hb),
    List.dropWhile_cons_of_neg (by simp [hc])]
  simp

/-! ASCII. -/

/-- What 128 characters are, every character of ASCII is. -/
lemma forall_ascii {P : Char → Prop} (h : ∀ n < 128, P (Char.ofNat n)) (hc : c.toNat < 128) : P c := by
  have hP := h c.toNat hc
  rwa [Char.ofNat_toNat] at hP

lemma ascii_of_isAlphanum (h : c.isAlphanum = true) : c.toNat < 128 := by
  have hends : 'Z'.val.toNat = 90 ∧ 'z'.val.toNat = 122 ∧ '9'.val.toNat = 57 := by decide
  have hval : c.toNat = c.val.toNat := rfl
  have hranges : (decide ('A'.val ≤ c.val ∧ c.val ≤ 'Z'.val) || (decide ('a'.val ≤ c.val) && decide (c.val ≤ 'z'.val)) ||
      (decide ('0'.val ≤ c.val) && decide (c.val ≤ '9'.val))) = true := h
  simp only [Bool.or_eq_true,Bool.and_eq_true,decide_eq_true_eq,UInt32.le_iff_toNat_le] at hranges
  omega

lemma ascii_of_isAlpha (h : c.isAlpha = true) : c.toNat < 128 := ascii_of_isAlphanum (by simp [Char.isAlphanum,h])

lemma ascii_of_isDigit (h : c.isDigit = true) : c.toNat < 128 := ascii_of_isAlphanum (by simp [Char.isAlphanum,h])

end PageTelemetry.Text
