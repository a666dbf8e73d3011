import PageTelemetry.Proofs.Loading.Marks

/-! Where nothing but listeners are added and the document is completed, by whomever, there is less left to be done
after every step. -/
namespace PageTelemetry

/-- Calls of the two entry points that concern those who wait. -/
def Act.isLoading : Act → Bool
  | .onLoad _ _ _ | .finishLoading => true
  | _ => false

/-- Nobody calls anything but these, and any tracker may begin. -/
def Rules.loading : Rules where
  act a := a.isLoading = true
  start _ _ := True
  place _ _ := True

namespace Task

/-- A task of those who wait. -/
def IsLoading : Task → Prop
  | .call l _ => Rules.loading.AllowsListener l
  | .start _ _ => True
  | .act a => Rules.loading.Allows a
  | _ => False

/-- A bound on what a task of those who wait can still cause. -/
noncomputable def weight : Task → ℕ
  | .call l _ => sizeOf l.acts
  | .act a => sizeOf a
  | _ => 1

lemma sum_weight_lt (acts : List Act) : ((acts.map Task.act).map weight).sum < sizeOf acts := by
  induction acts with
  | nil => simp
  | cons a rest ih =>
    simp only [List.map_cons,List.sum_cons,weight,List.cons.sizeOf_spec]
    omega

lemma IsLoading.discards {t : Task} (h : t.IsLoading) : t.discards = false := by
  cases t with
  | act a =>
    have hown : a.isLoading = true := Rules.Allows.own h
    cases a <;> first | rfl | cases hown
  | _ => rfl

end Task

namespace World
variable {w : World}

structure OnlyLoads (w : World) : Prop where
  onLoad : ∀ c ∈ w.page.onLoad, Rules.loading.AllowsLoad c
  agenda : ∀ t ∈ w.agenda, t.IsLoading

/-- All that those who wait can still cause. -/
noncomputable def burden (w : World) : ℕ := ((w.agenda ++ w.page.onLoad.map loadTask).map Task.weight).sum

lemma OnlyLoads.enqueue (h : w.OnlyLoads) {tasks : List Task} (ht : ∀ t ∈ tasks, t.IsLoading) :
    (w.enqueue tasks).OnlyLoads := ⟨h.onLoad,List.forall_mem_append.mpr ⟨ht,h.agenda⟩⟩

lemma burden_enqueue (w : World) (tasks : List Task) :
    (w.enqueue tasks).burden = (tasks.map Task.weight).sum + w.burden := by
  simp [burden,World.enqueue]

lemma loadTask_isLoading {x : LoadCallback} (h : Rules.loading.AllowsLoad x) : (loadTask x).IsLoading := by
  cases x with
  | start t source => trivial
  | listener l => exact h

/-- An operation of those that are allowed leaves less to be done than itself. -/
lemma act_burden (h : w.OnlyLoads) {b : Act} (hb : Rules.loading.Allows b) :
    (w.act b).OnlyLoads ∧ (w.act b).burden < sizeOf b + w.burden := by
  cases hb with
  | intro own reaction =>
    cases b with
    | onLoad label ending acts =>
      have hlistener : Rules.loading.AllowsListener ⟨label,ending,acts⟩ := reaction
      by_cases hready : w.page.ready = .complete
      · rw [act_onLoad_complete hready,burden_enqueue]
        refine ⟨h.enqueue (by simpa [Task.IsLoading] using hlistener),?_⟩
        simp [Task.weight]
      · rw [act_onLoad_loading hready]
        refine ⟨⟨List.forall_mem_append.mpr ⟨h.onLoad,by simpa [Rules.AllowsLoad] using hlistener⟩,h.agenda⟩,?_⟩
        simp [burden,modifyPage,loadTask,Task.weight]
        omega
    | finishLoading =>
      by_cases hready : w.page.ready = .complete
      · rw [act_finishLoading_complete hready]
        exact ⟨h,by simp⟩
      · have hcompleted : (w.modifyPage fun p => { p with ready := .complete, onLoad := [] }).OnlyLoads :=
          ⟨by simp [modifyPage],h.agenda⟩
        rw [act_finishLoading_loading hready]
        refine ⟨hcompleted.enqueue (List.forall_mem_map.mpr fun x hx => loadTask_isLoading (h.onLoad x hx)),?_⟩
        simp [burden,modifyPage,World.enqueue]
        omega
    | _ => cases own

lemma perform_burden (h : w.OnlyLoads) {t : Task} (ht : t.IsLoading) :
    (w.perform t).OnlyLoads ∧ (w.perform t).burden < t.weight + w.burden := by
  cases t with
  | call l o =>
    have hnoted : (w.note (.heard l.label o w.ambient.href)).OnlyLoads := ⟨h.onLoad,h.agenda⟩
    have hless := Task.sum_weight_lt l.acts
    simp only [perform,call,Task.weight]
    split_ifs
    · refine ⟨hnoted.enqueue (List.forall_mem_map.mpr ht),?_⟩
      rw [burden_enqueue]
      exact Nat.add_lt_add_right hless _
    · exact ⟨hnoted,Nat.lt_add_left_iff_pos.mpr (Nat.zero_lt_of_lt hless)⟩
  | start t source =>
    have hwaiting := (start_unconcerned w t source).onLoad
    have hagenda := start_agenda w t source
    refine ⟨⟨by simpa [perform,hwaiting] using h.onLoad,by simpa [perform,hagenda] using h.agenda⟩,?_⟩
    simp [perform,burden,hwaiting,hagenda,Task.weight]
  | act b => exact act_burden h ht
  | hook | relay | signal => cases ht

lemma step_burden (h : w.OnlyLoads) (hagenda : w.agenda ≠ []) :
    w.step.OnlyLoads ∧ w.step.burden < w.burden := by
  obtain ⟨t,rest,hcons⟩ := List.exists_cons_of_ne_nil hagenda
  have htasks : ∀ u ∈ t::rest, u.IsLoading := hcons ▸ h.agenda
  rw [step_of_agenda_cons hcons]
  have hrest : ({ w with agenda := rest } : World).OnlyLoads := ⟨h.onLoad,fun u hu => htasks u (.tail _ hu)⟩
  have hburden : w.burden = t.weight + ({ w with agenda := rest } : World).burden := by
    simp [burden,hcons]
  rw [hburden]
  exact perform_burden hrest (htasks t List.mem_cons_self)

end World
end PageTelemetry
