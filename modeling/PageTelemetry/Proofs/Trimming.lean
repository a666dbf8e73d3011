import Mathlib.Data.List.DropRight
import PageTelemetry.Proofs.Url.Pieces

/-! What is cut off a text at its ends, and what is left: the blanks around it, and the slashes behind it. -/
namespace PageTelemetry.Text
variable {p : Char → Bool} {cs ds front back : List Char} {s t : String}

/-! Characters at the ends. -/

lemma stripped_head (p : Char → Bool) (cs : List Char) : ∀ c ∈ (cs.dropWhile p).head?, p c = false := by
  intro c hc
  have hhead := List.head?_dropWhile_not p cs
  rwa [Option.mem_def.mp hc] at hhead

lemma stripEnd_last (p : Char → Bool) (cs : List Char) : ∀ c ∈ (stripEnd p cs).getLast?, p c = false := by
  intro c hc
  rw [stripEnd,List.getLast?_reverse] at hc
  exact stripped_head p _ c hc

lemma strip_eq (p : Char → Bool) (cs : List Char) : strip p cs = stripEnd p (cs.dropWhile p) := rfl

lemma strip_head (p : Char → Bool) (cs : List Char) : ∀ c ∈ (strip p cs).head?, p c = false := by
  intro c hc
  have hfront : strip p cs <+: cs.dropWhile p := List.rdropWhile_prefix p _
  obtain ⟨behind,hbehind⟩ := hfront
  exact stripped_head p cs c (by rw [← hbehind,List.head?_append,Option.mem_def.mp hc]; rfl)

lemma strip_last (p : Char → Bool) (cs : List Char) : ∀ c ∈ (strip p cs).getLast?, p c = false :=
  stripEnd_last p _

lemma stripEnd_of_last (hlast : ∀ c ∈ cs.getLast?, p c = false) : stripEnd p cs = cs := by
  rw [stripEnd,dropWhile_of_head (by rwa [List.head?_reverse]),List.reverse_reverse]

/-! What is cut off. -/

/-- Whatever is cut off at the end satisfies the predicate. -/
lemma exists_stripEnd_append (p : Char → Bool) (cs : List Char) :
    ∃ back, cs = stripEnd p cs ++ back ∧ ∀ c ∈ back, p c = true := by
  refine ⟨(cs.reverse.takeWhile p).reverse,?_,fun c hc => List.mem_takeWhile_imp (List.mem_reverse.mp hc)⟩
  rw [stripEnd,← List.reverse_append,List.takeWhile_append_dropWhile,List.reverse_reverse]

lemma exists_append_strip (p : Char → Bool) (cs : List Char) :
    ∃ front back, cs = front ++ strip p cs ++ back ∧ ∀ c ∈ front ++ back, p c = true := by
  obtain ⟨back,hback,hall⟩ := exists_stripEnd_append p (cs.dropWhile p)
  refine ⟨cs.takeWhile p,back,?_,fun c hc => ?_⟩
  · rw [List.append_assoc,strip_eq,← hback,List.takeWhile_append_dropWhile]
  · exact (List.mem_append.mp hc).elim List.mem_takeWhile_imp (hall c)

lemma stripEnd_append (hlast : ∀ c ∈ ds.getLast?, p c = false) (hback : ∀ c ∈ back, p c = true) :
    stripEnd p (ds ++ back) = ds := by
  rw [stripEnd,List.reverse_append,List.dropWhile_append_of_pos (by simpa using hback)]
  exact stripEnd_of_last hlast

/-- A text between characters that are stripped is what is left. -/
lemma strip_append (hne : ds ≠ []) (hhead : ∀ c ∈ ds.head?, p c = false) (hlast : ∀ c ∈ ds.getLast?, p c = false)
    (haround : ∀ c ∈ front ++ back, p c = true) : strip p (front ++ ds ++ back) = ds := by
  obtain ⟨hfront,hback⟩ := List.forall_mem_append.mp haround
  have hhead' : ∀ c ∈ (ds ++ back).head?, p c = false := by rwa [List.head?_append_of_ne_nil _ hne]
  rw [strip_eq,List.append_assoc,List.dropWhile_append_of_pos hfront,dropWhile_of_head hhead',
    stripEnd_append hlast hback]

/-- Nothing is left of a text exactly if all of it is stripped. -/
lemma strip_eq_nil_iff : strip p cs = [] ↔ ∀ c ∈ cs, p c = true := by
  constructor
  · intro hnil
    obtain ⟨front,back,hcs,hall⟩ := exists_append_strip p cs
    rw [hnil,List.append_nil] at hcs
    rwa [hcs]
  · intro hall
    rw [strip_eq,List.dropWhile_eq_nil_iff.mpr hall]
    rfl

/-! Blanks. -/

/-- One text is what is left of another without the blanks around it, and is not empty. -/
structure Trims (s t : String) : Prop where
  around : ∃ front back, s.toList = front ++ t.toList ++ back ∧ ∀ c ∈ front ++ back, isBlank c = true
  head : ∀ c ∈ t.toList.head?, isBlank c = false
  last : ∀ c ∈ t.toList.getLast?, isBlank c = false
  nonempty : t ≠ ""

/-- A text of blanks only. -/
def Blank (s : String) : Prop := ∀ c ∈ s.toList, isBlank c = true

lemma trimmed?_eq_none_iff : trimmed? s = none ↔ Blank s := by
  have hempty : (trim s).isEmpty = true ↔ strip isBlank s.toList = [] := by
    rw [String.isEmpty_iff,trim,← String.toList_inj,String.toList_ofList,String.toList_empty]
  rw [trimmed?,Blank,← strip_eq_nil_iff,← hempty]
  simp

lemma trimmed?_eq_some_iff : trimmed? s = some t ↔ Trims s t := by
  constructor
  · intro h
    unfold trimmed? at h
    dsimp only at h
    split_ifs at h with hempty
    obtain rfl := Option.some.inj h
    have htext : (trim s).toList = strip isBlank s.toList := String.toList_ofList
    refine ⟨?_,?_,?_,fun hnil => hempty (String.isEmpty_iff.mpr hnil)⟩
    · rw [htext]
      exact exists_append_strip isBlank s.toList
    · rw [htext]
      exact strip_head isBlank s.toList
    · rw [htext]
      exact strip_last isBlank s.toList
  · rintro ⟨⟨front,back,hs,haround⟩,hhead,hlast,hne⟩
    have hlist : t.toList ≠ [] := fun hnil => hne (String.toList_inj.mp hnil)
    have htrim : trim s = t := by
      rw [trim,hs,strip_append hlist hhead hlast haround,String.ofList_toList]
    have hsome : ¬t.isEmpty = true := fun hempty => hne (String.isEmpty_iff.mp hempty)
    rw [trimmed?,htrim]
    exact if_neg hsome

lemma trimmed?_trimmed (h : trimmed? s = some t) : trimmed? t = some t := by
  obtain ⟨-,hhead,hlast,hne⟩ := trimmed?_eq_some_iff.mp h
  exact trimmed?_eq_some_iff.mpr ⟨⟨[],[],by simp,by simp⟩,hhead,hlast,hne⟩

/-! Slashes. -/

/-- One text is what is left of another without the slashes behind it. -/
structure Unslashes (s t : String) : Prop where
  behind : ∃ slashes, s.toList = t.toList ++ slashes ∧ ∀ c ∈ slashes, c = '/'
  last : t.toList.getLast? ≠ some '/'

lemma trimEndSlashes_eq_iff : trimEndSlashes s = t ↔ Unslashes s t := by
  constructor
  · rintro rfl
    have htext : (trimEndSlashes s).toList = stripEnd (· == '/') s.toList := String.toList_ofList
    obtain ⟨slashes,hs,hall⟩ := exists_stripEnd_append (· == '/') s.toList
    refine ⟨⟨slashes,by rwa [htext],fun c hc => beq_iff_eq.mp (hall c hc)⟩,fun hlast => ?_⟩
    rw [htext] at hlast
    cases stripEnd_last (· == '/') s.toList '/' hlast
  · rintro ⟨⟨slashes,hs,hall⟩,hlast⟩
    have hkept : ∀ c ∈ t.toList.getLast?, (c == '/') = false := by
      rintro c hc
      rw [beq_eq_false_iff_ne]
      rintro rfl
      exact hlast hc
    rw [trimEndSlashes,hs,stripEnd_append hkept fun c hc => beq_iff_eq.mpr (hall c hc),String.ofList_toList]

lemma trimEndSlashes_eq_self_iff : trimEndSlashes s = s ↔ s.toList.getLast? ≠ some '/' := by
  rw [trimEndSlashes_eq_iff]
  exact ⟨Unslashes.last,fun hlast => ⟨⟨[],by simp,by simp⟩,hlast⟩⟩

end PageTelemetry.Text
