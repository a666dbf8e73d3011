import PageTelemetry.Json
import Mathlib.Data.List.Induction
import Mathlib.Data.List.Lex
import Mathlib.Data.List.Nodup

/-! The members of an object. Each name stands once, and they are in the order of their names; so an object is known by
what stands under each name. -/
namespace PageTelemetry.Json.Members
variable {ms ms' : Members} {name other : String} {v : Json}

/-! The order of names. -/

lemma precedes_iff : precedes name other = true ↔ name.toList.map Char.toNat < other.toList.map Char.toNat := by
  unfold precedes
  generalize name.toList = cs
  generalize other.toList = ds
  induction cs generalizing ds with
  | nil => cases ds <;> simp
  | cons c cs ih =>
    cases ds with
    | nil => simp
    | cons d ds =>
      have heq : c == d ↔ c.toNat = d.toNat := by rw [beq_iff_eq,Char.toNat_inj]
      simp only [List.cons_lex_cons,List.map_cons,List.cons_lt_cons_iff,Bool.or_eq_true,Bool.and_eq_true,
        decide_eq_true_eq,heq,ih]

lemma precedes_trans {last : String} (h : precedes name other = true) (h' : precedes other last = true) :
    precedes name last = true := precedes_iff.mpr ((precedes_iff.mp h).trans (precedes_iff.mp h'))

lemma ne_of_precedes (h : precedes name other = true) : name ≠ other := by
  rintro rfl
  exact lt_irrefl _ (precedes_iff.mp h)

lemma precedes_of_not (hne : other ≠ name) (h : ¬precedes name other = true) : precedes other name = true := by
  have hchars : other.toList.map Char.toNat ≠ name.toList.map Char.toNat := fun he =>
    hne (String.toList_inj.mp (List.map_injective_iff.mpr (fun c d => Char.toNat_inj.mp) he))
  rw [precedes_iff] at h ⊢
  exact lt_of_le_of_ne (not_lt.mp h) hchars

/-! Objects. -/

/-- The members stand in the order of their names, each once. -/
def Ordered (ms : Members) : Prop := ms.Pairwise fun m n => precedes m.1 n.1 = true

/-- The last value that stands under a name in a list. -/
def lastOf (name : String) (ms : List (String × Json)) : Option Json :=
  (ms.filterMap fun m => if m.1 = name then some m.2 else none).getLast?

@[simp] lemma lastOf_nil : lastOf name [] = none := rfl

lemma lastOf_concat (m : String × Json) :
    lastOf name (ms ++ [m]) = if m.1 = name then some m.2 else lastOf name ms := by
  rw [lastOf,List.filterMap_append]
  split_ifs with h <;> simp [h,lastOf]

lemma lastOf_cons (m : String × Json) (rest : List (String × Json)) :
    lastOf name (m::rest) = (lastOf name rest).or (if m.1 = name then some m.2 else none) := by
  rw [lastOf,lastOf,List.filterMap_cons]
  split_ifs with h
  · rw [List.getLast?_cons]
    cases (rest.filterMap fun m => if m.1 = name then some m.2 else none).getLast? <;> rfl
  · exact (Option.or_none ..).symm

lemma lastOf_eq_none_iff {ms : List (String × Json)} : lastOf name ms = none ↔ ∀ m ∈ ms, m.1 ≠ name := by
  rw [lastOf,List.getLast?_eq_none_iff,List.filterMap_eq_nil_iff]
  simp

/-- The last value is that of a member behind which none has its name. -/
lemma lastOf_eq_some_iff {ms : List (String × Json)} : lastOf name ms = some v ↔
    ∃ before after, ms = before ++ (name,v)::after ∧ ∀ m ∈ after, m.1 ≠ name := by
  induction ms using List.reverseRecOn with
  | nil => simp
  | append_singleton ms m ih =>
    rw [lastOf_concat]
    split_ifs with hname
    · constructor
      · rintro ⟨rfl⟩
        exact ⟨ms,[],by rw [← hname],by simp⟩
      · rintro ⟨before,after,hms,hlast⟩
        rcases List.eq_nil_or_concat after with rfl | ⟨after,last,rfl⟩
        · obtain ⟨-,hm⟩ := List.append_inj' hms rfl
          rw [List.singleton_inj.mp hm]
        · rw [List.concat_eq_append,← List.cons_append,← List.append_assoc] at hms
          obtain ⟨-,hm⟩ := List.append_inj' hms rfl
          exact absurd hname (hlast m (by simp [List.singleton_inj.mp hm]))
    · rw [ih]
      constructor
      · rintro ⟨before,after,rfl,hlast⟩
        exact ⟨before,after ++ [m],by simp,List.forall_mem_append.mpr ⟨hlast,by simpa using hname⟩⟩
      · rintro ⟨before,after,hms,hlast⟩
        rcases List.eq_nil_or_concat after with rfl | ⟨after,last,rfl⟩
        · obtain ⟨-,hm⟩ := List.append_inj' hms rfl
          exact absurd (by rw [List.singleton_inj.mp hm]) hname
        · rw [List.concat_eq_append,← List.cons_append,← List.append_assoc] at hms
          obtain ⟨hms,-⟩ := List.append_inj' hms rfl
          exact ⟨before,after,hms,fun n hn => hlast n (by simp [hn])⟩

lemma get?_insert : get? other (insert name v ms) = if other = name then some v else get? other ms := by
  split_ifs with h
  · rw [h,get?_insert_self]
  · exact get?_insert_of_ne v ms h

lemma mem_insert {m : String × Json} (h : m ∈ insert name v ms) : m = (name,v) ∨ m ∈ ms := by
  induction ms with
  | nil => exact .inl (List.mem_singleton.mp h)
  | cons x rest ih =>
    obtain ⟨n,u⟩ := x
    simp only [insert] at h
    split_ifs at h
    · exact (List.mem_cons.mp h).imp_right (List.mem_cons_of_mem _)
    · exact List.mem_cons.mp h
    · rcases List.mem_cons.mp h with rfl | hrest
      · exact .inr List.mem_cons_self
      · exact (ih hrest).imp_right (List.mem_cons_of_mem _)

/-- A member that is set keeps the order. -/
lemma Ordered.insert (h : ms.Ordered) : (insert name v ms).Ordered := by
  induction ms with
  | nil => exact List.pairwise_singleton ..
  | cons x rest ih =>
    obtain ⟨n,u⟩ := x
    obtain ⟨hfirst,hrest⟩ := List.pairwise_cons.mp h
    simp only [Members.insert]
    split_ifs with hname hbefore
    · subst hname
      exact List.pairwise_cons.mpr ⟨hfirst,hrest⟩
    · refine List.pairwise_cons.mpr ⟨List.forall_mem_cons.mpr ⟨hbefore,fun m hm => ?_⟩,h⟩
      exact precedes_trans hbefore (hfirst m hm)
    · refine List.pairwise_cons.mpr ⟨fun m hm => ?_,ih hrest⟩
      rcases mem_insert hm with rfl | hold
      · exact precedes_of_not hname hbefore
      · exact hfirst m hold

/-- Members that are set one after the other. -/
lemma foldl_insert (ms : List (String × Json)) (base : Members) :
    (base.Ordered → (ms.foldl (fun acc m => acc.insert m.1 m.2) base).Ordered) ∧
    ∀ name, get? name (ms.foldl (fun acc m => acc.insert m.1 m.2) base) =
      (lastOf name ms).or (get? name base) := by
  induction ms using List.reverseRecOn with
  | nil => simp
  | append_singleton ms m ih =>
    obtain ⟨hordered,hget⟩ := ih
    rw [List.foldl_append,List.foldl_cons,List.foldl_nil]
    refine ⟨fun h => (hordered h).insert,fun name => ?_⟩
    rw [get?_insert,lastOf_concat,hget]
    split_ifs with h h' h'
    · rfl
    · exact absurd h.symm h'
    · exact absurd h'.symm h
    · rfl

lemma ordered_ofList (ms : List (String × Json)) : (ofList ms).Ordered := (foldl_insert ms []).1 .nil

lemma get?_ofList (name : String) (ms : List (String × Json)) : get? name (ofList ms) = lastOf name ms :=
  ((foldl_insert ms []).2 name).trans (Option.or_none ..)

lemma mem_of_get? (h : get? name ms = some v) : (name,v) ∈ ms := by
  induction ms with
  | nil => cases h
  | cons m rest ih =>
    obtain ⟨n,u⟩ := m
    rw [get?] at h
    split_ifs at h with hname
    · obtain rfl := Option.some.inj h
      exact hname ▸ List.mem_cons_self
    · exact List.mem_cons_of_mem _ (ih h)

lemma get?_eq_none (h : ∀ v, (name,v) ∉ ms) : get? name ms = none :=
  Option.eq_none_iff_forall_ne_some.mpr fun v hv => h v (mem_of_get? hv)

lemma Ordered.nodup (h : ms.Ordered) : (ms.map Prod.fst).Nodup :=
  List.pairwise_map.mpr (h.imp ne_of_precedes)

/-- What stands under a name is what is a member. -/
lemma Ordered.get?_iff (h : ms.Ordered) : get? name ms = some v ↔ (name,v) ∈ ms := by
  refine ⟨mem_of_get?,fun hmem => ?_⟩
  induction ms with
  | nil => cases hmem
  | cons m rest ih =>
    obtain ⟨n,u⟩ := m
    obtain ⟨hfirst,hrest⟩ := List.pairwise_cons.mp h
    rw [get?]
    rcases List.mem_cons.mp hmem with he | hold
    · cases he
      exact if_pos rfl
    · rw [if_neg (ne_of_precedes (hfirst _ hold))]
      exact ih hrest hold

/-- An object is known by what stands under each name. -/
theorem Ordered.ext (h : ms.Ordered) (h' : ms'.Ordered) (hget : ∀ name, get? name ms = get? name ms') : ms = ms' := by
  have hmem (m : String × Json) : m ∈ ms ↔ m ∈ ms' := by rw [← h.get?_iff,← h'.get?_iff,hget]
  have hperm : ms.Perm ms' :=
    (List.perm_ext_iff_of_nodup (h.nodup.of_map Prod.fst) (h'.nodup.of_map Prod.fst)).mpr hmem
  refine hperm.eq_of_pairwise (fun m n _ _ hmn hnm => ?_) h h'
  exact absurd rfl (ne_of_precedes (precedes_trans hmn hnm))

lemma Ordered.lastOf_eq (h : ms.Ordered) : lastOf name ms = get? name ms := by
  induction ms with
  | nil => rfl
  | cons m rest ih =>
    obtain ⟨hfirst,hrest⟩ := List.pairwise_cons.mp h
    rw [lastOf_cons,ih hrest,get?]
    split_ifs with hname
    · have hnone : get? name rest = none :=
        get?_eq_none fun v hv => ne_of_precedes (hfirst _ hv) hname
      rw [hnone,Option.none_or]
    · exact Option.or_none ..

/-- Members that are in order already stay as they are. -/
lemma Ordered.ofList_eq (h : ms.Ordered) : ofList ms = ms := by
  refine (ordered_ofList ms).ext h fun name => ?_
  rw [get?_ofList]
  exact h.lastOf_eq

end PageTelemetry.Json.Members
