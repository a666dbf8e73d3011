import PageTelemetry.Proofs.Loading.Burden

/-! Those who wait for the document to be complete: listeners, and trackers that are to begin. Whatever else happens
on the page, short of its being discarded, they are called as by a small machine that knows who waits. While the
document loads nobody is called; then all are, in the order in which they asked; and whoever asks later is called at
once. -/
namespace PageTelemetry.World
variable {w w' w₀ : World} {a : Waiting} {marks : List LoadMark} {acts : List Act}

/-- A run in which the page is not discarded: the operations that are performed from outside, each only when all that
the one before caused is done, and what concerns those who wait, whether it is done from outside or by a listener.
What leaves all of them alone may happen in between. -/
inductive Loads (w₀ : World) : List Act → List LoadMark → World → Prop
  | refl : Loads w₀ [] [] w₀
  | act {acts : List Act} {marks : List LoadMark} {w : World} (h : Loads w₀ acts marks w) (hidle : w.agenda = [])
    {a : Act} (ha : a.discards = false) : Loads w₀ (acts ++ [a]) (marks ++ w.actMarks a) (w.act a)
  | step {acts : List Act} {marks : List LoadMark} {w : World} (h : Loads w₀ acts marks w)
    (hnext : w.agenda.head?.any Task.discards = false) : Loads w₀ acts (marks ++ w.nextMarks) w.step
  | aside {acts : List Act} {marks : List LoadMark} {w w' : World} (h : Loads w₀ acts marks w)
    (hready : w'.page.ready = w.page.ready) (hwaiting : w'.page.onLoad = w.page.onLoad)
    (hagenda : w'.agenda = w.agenda) (hloaded : w'.loaded = w.loaded) : Loads w₀ acts marks w'

/-! One step. -/

/-- The page and the agenda of those who wait: nobody has a turn while the document loads, and nobody is left on the
page once it is complete. -/
inductive Awaits (w : World) : Waiting → Prop
  | loading (hready : w.page.ready ≠ .complete) (hturns : w.turns = []) : Awaits w (.loading w.page.onLoad)
  | complete (hready : w.page.ready = .complete) (hwaiting : w.page.onLoad = []) : Awaits w (.complete w.turns)
  | asked {l : Listener} {rest : List Task} (hready : w.page.ready = .complete) (hwaiting : w.page.onLoad = [])
    (hagenda : w.agenda = .call l .load::rest) : Awaits w (.asked (.listener l) (rest.filterMap Task.turn?))

lemma Awaits.unconcerned (h : w.Awaits a) (ha : a.Unasked) (hw : w.Unconcerned w') : w'.Awaits a := by
  cases h with
  | loading hready hturns =>
    rw [← hw.onLoad]
    exact .loading (by rwa [hw.ready]) (hw.turns.trans hturns)
  | complete hready hwaiting =>
    rw [← hw.turns]
    exact .complete (hw.ready.trans hready) (hw.onLoad.trans hwaiting)
  | asked => exact absurd rfl (ha _ _)

lemma onLoad_awaits (h : w.Awaits a) (ha : a.Unasked) (label ending : String) (reaction : List Act) :
    ∃ a', a.Takes (.asked (.listener ⟨label,ending,reaction⟩)) a' ∧
      (w.act (.onLoad label ending reaction)).Awaits a' := by
  cases h with
  | loading hready hturns =>
    rw [act_onLoad_loading hready]
    exact ⟨_,.register,.loading hready hturns⟩
  | complete hready hwaiting =>
    rw [act_onLoad_complete hready]
    exact ⟨_,.ask,.asked hready hwaiting rfl⟩
  | asked => exact absurd rfl (ha _ _)

/-- Those who wait on the page get their turns when the document is completed, and nobody does when it is again. -/
lemma finishLoading_awaits (h : w.Awaits a) (ha : a.Unasked) :
    ∃ a', a.Takes .finished a' ∧ (w.act .finishLoading).Awaits a' := by
  cases h with
  | loading hready hnone =>
    have hmap : (w.page.onLoad.map loadTask).filterMap Task.turn? = w.page.onLoad := by simp [List.filterMap_map]
    have hturns : (w.act .finishLoading).turns = w.page.onLoad := by
      rw [act_finishLoading_loading hready]
      change (w.page.onLoad.map loadTask ++ w.agenda).filterMap Task.turn? = _
      rw [List.filterMap_append,hmap]
      exact (congrArg _ hnone).trans (List.append_nil _)
    have hcomplete : (w.act .finishLoading).Awaits (.complete (w.act .finishLoading).turns) := by
      rw [act_finishLoading_loading hready]
      exact .complete rfl rfl
    rw [hturns] at hcomplete
    exact ⟨_,.complete,hcomplete⟩
  | complete hready hwaiting =>
    rw [act_finishLoading_complete hready]
    exact ⟨_,.again,.complete hready hwaiting⟩
  | asked => exact absurd rfl (ha _ _)

/-- Unless somebody has only just asked, an operation takes those who wait along. -/
theorem act_awaits (h : w.Awaits a) (ha : a.Unasked) {b : Act} (hb : b.discards = false) :
    ∃ a', a.Course (w.actMarks b) a' ∧ (w.act b).Awaits a' := by
  by_cases hmarks : w.actMarks b = []
  · rw [hmarks]
    exact ⟨a,.nil,h.unconcerned ha (act_unconcerned w hb hmarks)⟩
  · cases b with
    | onLoad label ending reaction =>
      obtain ⟨a',htakes,hawaits⟩ := onLoad_awaits h ha label ending reaction
      exact ⟨a',htakes.course,hawaits⟩
    | finishLoading =>
      obtain ⟨a',htakes,hawaits⟩ := finishLoading_awaits h ha
      exact ⟨a',htakes.course,hawaits⟩
    | install c source outlet =>
      rcases w.install_concerns c source outlet with ⟨hnone,-⟩ | ⟨hloading,x,hx,hready,hwaiting,hturns⟩
      · exact absurd (by simp [actMarks,hnone]) hmarks
      · have hasked : w.actMarks (.install c source outlet) = [.asked x] := by simp [actMarks,hx]
        rw [hasked]
        cases h with
        | loading _ hnone =>
          have hwaits : (w.act (.install c source outlet)).Awaits (.loading (w.page.onLoad ++ [x])) := by
            rw [← hwaiting]
            exact .loading (hready ▸ hloading) (hturns.trans hnone)
          exact ⟨_,Waiting.Takes.register.course,hwaits⟩
        | complete hcomplete => exact absurd hcomplete hloading
        | asked hcomplete => exact absurd hcomplete hloading
    | _ => exact absurd rfl hmarks

lemma nextMarks_cons {t : Task} {rest : List Task} (h : w.agenda = t::rest) :
    w.nextMarks = ({ w with agenda := rest } : World).taskMarks t := by
  rw [nextMarks,h]
  cases t <;> rfl

/-- A turn is that of the first who waits, or of somebody who has only just asked. -/
lemma turn_awaits (h : w.Awaits a) {x : LoadCallback} {rest : List Task} (hagenda : w.agenda = loadTask x::rest) :
    ∃ a', a.Takes (.called x) a' ∧ (({ w with agenda := rest } : World).perform (loadTask x)).Awaits a' := by
  have hplain : (loadTask x).discards = false := by cases x <;> rfl
  have hcalled := perform_unconcerned { w with agenda := rest } hplain fun b hb => by cases x <;> cases hb
  have hafter (hready : w.page.ready = .complete) (hwaiting : w.page.onLoad = []) :
      (({ w with agenda := rest } : World).perform (loadTask x)).Awaits (.complete (rest.filterMap Task.turn?)) := by
    have hawaits : ({ w with agenda := rest } : World).Awaits (.complete (rest.filterMap Task.turn?)) :=
      .complete hready hwaiting
    exact hawaits.unconcerned (fun _ _ h => by cases h) hcalled
  have hturns : w.turns = x::rest.filterMap Task.turn? := by simp [turns,hagenda]
  cases h with
  | loading _ hnone =>
    rw [hturns] at hnone
    cases hnone
  | complete hready hwaiting =>
    rw [hturns]
    exact ⟨_,.turn,hafter hready hwaiting⟩
  | @asked l _ hready hwaiting hagenda' =>
    obtain ⟨htask,rfl⟩ := List.cons.inj (hagenda.symm.trans hagenda')
    have hx : some x = some (LoadCallback.listener l) := (Task.turn?_loadTask x).symm.trans (congrArg Task.turn? htask)
    obtain rfl := Option.some.inj hx
    exact ⟨_,.answer,hafter hready hwaiting⟩

/-- A step takes those who wait along: it is somebody's turn, or somebody asks, or it does not concern them. -/
theorem step_awaits (h : w.Awaits a) (hnext : w.agenda.head?.any Task.discards = false) :
    ∃ a', a.Course w.nextMarks a' ∧ w.step.Awaits a' := by
  cases hagenda : w.agenda with
  | nil =>
    rw [step_of_agenda_nil hagenda,nextMarks,hagenda]
    exact ⟨a,.nil,h⟩
  | cons t rest =>
    have ht : t.discards = false := by simpa [hagenda] using hnext
    rw [step_of_agenda_cons hagenda,nextMarks_cons hagenda]
    cases hturn : t.turn? with
    | some x =>
      obtain rfl := Task.turn?_eq_some hturn
      have hmarks : ({ w with agenda := rest } : World).taskMarks (loadTask x) = [.called x] := by cases x <;> rfl
      obtain ⟨a',htakes,hawaits⟩ := turn_awaits h hagenda
      rw [hmarks]
      exact ⟨a',htakes.course,hawaits⟩
    | none =>
      have hrest : w.Unconcerned { w with agenda := rest } := ⟨rfl,rfl,by simp [turns,hagenda,hturn]⟩
      have ha : a.Unasked := by
        rintro x waiting rfl
        cases h with
        | asked _ _ hagenda' =>
          obtain ⟨rfl,-⟩ := List.cons.inj (hagenda.symm.trans hagenda')
          cases hturn
      by_cases hact : ∃ b, t = .act b
      · obtain ⟨b,rfl⟩ := hact
        exact act_awaits (h.unconcerned ha hrest) ha ht
      · have hmarks : ({ w with agenda := rest } : World).taskMarks t = [] :=
          taskMarks_eq_nil hturn fun b hb => hact ⟨b,hb⟩
        have hperform := perform_unconcerned { w with agenda := rest } ht fun b hb => absurd ⟨b,hb⟩ hact
        rw [hmarks]
        exact ⟨a,.nil,(h.unconcerned ha hrest).unconcerned ha hperform⟩

/-! Runs. -/

lemma step_loaded (w : World) : w.step.loaded = w.loaded ++ w.nextMarks.filterMap LoadMark.label? := by
  cases hagenda : w.agenda with
  | nil =>
    rw [step_of_agenda_nil hagenda,nextMarks,hagenda]
    exact (List.append_nil _).symm
  | cons t rest =>
    rw [step_of_agenda_cons hagenda,nextMarks_cons hagenda]
    exact perform_loaded _ t

/-- Nobody has only just asked as long as nothing is left to be done. -/
lemma Awaits.idle (h : w.Awaits a) (hidle : w.agenda = []) : a.Unasked := by
  rintro x waiting rfl
  cases h with
  | asked _ _ hagenda =>
    rw [hagenda] at hidle
    cases hidle

lemma Awaits.aside (h : w.Awaits a) (hready : w'.page.ready = w.page.ready) (hwaiting : w'.page.onLoad = w.page.onLoad)
    (hagenda : w'.agenda = w.agenda) : w'.Awaits a := by
  cases h with
  | loading hloading hturns =>
    rw [← hwaiting]
    exact .loading (by rwa [hready]) (by rw [turns,hagenda]; exact hturns)
  | complete hcomplete hnone =>
    have hturns : w'.turns = w.turns := by rw [turns,hagenda,turns]
    rw [← hturns]
    exact .complete (hready.trans hcomplete) (hwaiting.trans hnone)
  | asked hcomplete hnone htask => exact .asked (hready.trans hcomplete) (hwaiting.trans hnone) (hagenda.trans htask)

/-- A world before anything is done to its page. -/
structure Blank (w : World) : Prop where
  waiting : w.page.onLoad = []
  idle : w.agenda = []

lemma Blank.awaits (h : w.Blank) : w.Awaits (.nobody w.page.ready) := by
  have hturns : w.turns = [] := by rw [turns,h.idle]; rfl
  by_cases hready : w.page.ready = .complete
  · have hcomplete := Awaits.complete hready h.waiting
    rw [hturns] at hcomplete
    rwa [hready]
  · have hloading := Awaits.loading hready hturns
    rw [h.waiting] at hloading
    cases hr : w.page.ready with
    | complete => exact absurd hr hready
    | loading | interactive => exact hloading

/-- Over every run those who wait are called as by the machine, by induction on the run. -/
theorem Loads.course (h : w₀.Loads acts marks w) (h₀ : w₀.Blank) :
    ∃ a, (Waiting.nobody w₀.page.ready).Course marks a ∧ w.Awaits a := by
  induction h with
  | refl => exact ⟨_,.nil,h₀.awaits⟩
  | act _ hidle hb ih =>
    obtain ⟨a,hcourse,hawaits⟩ := ih
    obtain ⟨a',hmarks,hawaits'⟩ := act_awaits hawaits (hawaits.idle hidle) hb
    exact ⟨a',hcourse.trans hmarks,hawaits'⟩
  | step _ hnext ih =>
    obtain ⟨a,hcourse,hawaits⟩ := ih
    obtain ⟨a',hmarks,hawaits'⟩ := step_awaits hawaits hnext
    exact ⟨a',hcourse.trans hmarks,hawaits'⟩
  | aside _ hready hwaiting hagenda _ ih =>
    obtain ⟨a,hcourse,hawaits⟩ := ih
    exact ⟨a,hcourse,hawaits.aside hready hwaiting hagenda⟩

lemma Loads.loaded (h : w₀.Loads acts marks w) : w.loaded = w₀.loaded ++ marks.filterMap LoadMark.label? := by
  induction h with
  | refl => exact (List.append_nil _).symm
  | act _ _ _ ih => rw [act_loaded,ih,List.filterMap_append,actMarks_label?,List.append_nil]
  | step _ _ ih => rw [step_loaded,ih,List.filterMap_append,List.append_assoc]
  | aside _ _ _ _ hloaded ih => exact hloaded.trans ih

lemma Loads.finished (h : w₀.Loads acts marks w) (hfinish : .finishLoading ∈ acts) : .finished ∈ marks := by
  induction h with
  | refl => cases hfinish
  | @act acts marks w _ _ a _ ih =>
    rcases List.mem_append.mp hfinish with hbefore | hlast
    · exact List.mem_append_left _ (ih hbefore)
    · obtain rfl := List.mem_singleton.mp hlast
      exact List.mem_append_right _ (List.mem_singleton_self _)
  | step _ _ ih => exact List.mem_append_left _ (ih hfinish)
  | aside _ _ _ _ _ ih => exact ih hfinish

lemma Awaits.complete_iff (h : w.Awaits a) : w.page.ready = .complete ↔ a.IsComplete := by
  cases h with
  | loading hready => simp [hready,Waiting.IsComplete]
  | complete hready => simp [hready,Waiting.IsComplete]
  | asked hready => simp [hready,Waiting.IsComplete]

lemma Awaits.still (h : w.Awaits a) : a.still = if w.page.ready = .complete then w.turns else w.page.onLoad := by
  cases h with
  | loading hready => exact (if_neg hready).symm
  | complete hready => exact (if_pos hready).symm
  | asked hready _ hagenda =>
    rw [if_pos hready,turns,hagenda]
    rfl

/-- By induction on all that can still be caused. -/
theorem Loads.ends (h : w₀.Loads acts marks w) (hw : w.OnlyLoads) :
    ∃ marks' w', w₀.Loads acts marks' w' ∧ w.Settles w' ∧ w'.OnlyLoads := by
  induction hn : w.burden using Nat.strongRecOn generalizing w marks with
  | ind n ih =>
    by_cases hagenda : w.agenda = []
    · exact ⟨marks,w,h,settles_of_agenda_nil hagenda,hw⟩
    · obtain ⟨honly,hless⟩ := step_burden hw hagenda
      have hnext : w.agenda.head?.any Task.discards = false := by
        obtain ⟨t,rest,hcons⟩ := List.exists_cons_of_ne_nil hagenda
        rw [hcons]
        exact (hw.agenda t (hcons ▸ List.mem_cons_self)).discards
      obtain ⟨marks',w',hloads,hsettles,hw'⟩ := ih _ (hn ▸ hless) (h.step hnext) honly rfl
      exact ⟨marks',w',hloads,(settles_step_iff w w').mp hsettles,hw'⟩

lemma loads_exists (h₀ : w₀.Blank) (hacts : ∀ b ∈ acts, Rules.loading.Allows b) :
    ∃ marks w, w₀.Loads acts marks w ∧ w.agenda = [] ∧ w.OnlyLoads := by
  induction acts using List.reverseRecOn with
  | nil => exact ⟨[],w₀,.refl,h₀.idle,by simp [h₀.waiting],by simp [h₀.idle]⟩
  | append_singleton acts b ih =>
    obtain ⟨marks,w,hloads,hidle,hw⟩ := ih fun b hb => hacts b (List.mem_append_left _ hb)
    have hb : Rules.loading.Allows b := hacts b (List.mem_append_right _ (List.mem_singleton_self b))
    obtain ⟨marks',w',hloads',hsettles,hw'⟩ :=
      (hloads.act hidle (Task.IsLoading.discards (t := .act b) hb)).ends (act_burden hw hb).1
    exact ⟨marks',w',hloads',hsettles.agenda,hw'⟩

/-- A listener that is added once the document is complete is called before anything else. -/
lemma onLoad_complete (h : w.page.ready = .complete) (label ending : String) (reaction : List Act) :
    (w.act (.onLoad label ending reaction)).agenda = .call ⟨label,ending,reaction⟩ .load::w.agenda ∧
      (w.act (.onLoad label ending reaction)).step.loaded = w.loaded ++ [label] := by
  rw [act_onLoad_complete h]
  exact ⟨rfl,step_loaded _⟩

/-- Whoever waits for a document is called exactly once when it is complete. In every run, whatever else happens on
the page, they are called as by the machine, and the log says so. While the document loads, all that has happened is
that those who wait have asked. Once it is complete, whoever has asked was called once or still has a turn, and has had
it when nothing is left to be done; those who asked before come first, in their order; a listener that is added is
called before anything else; and to complete the document again does nothing. Where nothing but listeners are added and
the document is completed, from outside or by listeners, every call comes to an end. -/
theorem load_listeners_once (h₀ : w₀.Blank) :
    (∀ acts marks w, w₀.Loads acts marks w →
      (∃ a, (Waiting.nobody w₀.page.ready).Course marks a ∧ w.Awaits a) ∧
      w.loaded = w₀.loaded ++ marks.filterMap LoadMark.label? ∧
      (w.page.ready = .complete ↔ w₀.page.ready = .complete ∨ .finished ∈ marks) ∧
      (w.page.ready ≠ .complete → marks = w.page.onLoad.map .asked) ∧
      (w.page.ready = .complete →
        (marks.filterMap LoadMark.asked?).Perm (marks.filterMap LoadMark.called? ++ w.turns) ∧
        (w.agenda = [] → w.turns = []) ∧
        (w₀.page.ready ≠ .complete → ∃ (first : List LoadCallback) (after : List LoadMark),
          marks = first.map .asked ++ .finished::after ∧
          first.Sublist (after.filterMap LoadMark.called? ++ w.turns)) ∧
        (∀ label ending reaction,
          (w.act (.onLoad label ending reaction)).agenda = .call ⟨label,ending,reaction⟩ .load::w.agenda ∧
          (w.act (.onLoad label ending reaction)).step.loaded = w.loaded ++ [label]) ∧
        w.act .finishLoading = w)) ∧
    ∀ acts, (∀ b ∈ acts, Rules.loading.Allows b) → ∃ marks w, w₀.Loads acts marks w ∧ w.agenda = [] ∧
      (.finishLoading ∈ acts → w.page.ready = .complete) := by
  have hcomplete {acts : List Act} {marks : List LoadMark} {w : World} (h : w₀.Loads acts marks w) :
      w.page.ready = .complete ↔ w₀.page.ready = .complete ∨ .finished ∈ marks := by
    obtain ⟨a,hcourse,hawaits⟩ := h.course h₀
    exact hawaits.complete_iff.trans hcourse.complete_iff
  constructor
  · intro acts marks w h
    obtain ⟨a,hcourse,hawaits⟩ := h.course h₀
    have hstill := hawaits.still
    refine ⟨⟨a,hcourse,hawaits⟩,h.loaded,hcomplete h,?_,?_⟩
    · intro hready
      cases hawaits with
      | loading => exact hcourse.early
      | complete hready' => exact absurd hready' hready
      | asked hready' => exact absurd hready' hready
    · intro hready
      rw [if_pos hready] at hstill
      refine ⟨hstill ▸ hcourse.ledger,fun hidle => by rw [turns,hidle]; rfl,?_,onLoad_complete hready,
        act_finishLoading_complete hready⟩
      intro hloading
      have hnobody : Waiting.nobody w₀.page.ready = .loading [] := by
        cases hr : w₀.page.ready with
        | complete => exact absurd hr hloading
        | loading | interactive => rfl
      rw [hnobody] at hcourse
      rw [← hstill]
      exact hcourse.ordered (hawaits.complete_iff.mp hready)
  · intro acts hacts
    obtain ⟨marks,w,h,hidle,-⟩ := loads_exists h₀ hacts
    exact ⟨marks,w,h,hidle,fun hfinish => (hcomplete h).mpr (.inr (h.finished hfinish))⟩

def opening : World where
  page := { history := .ofHref "https://a.io/" }

/-- A listener that adds another and completes the document again, and one behind it. -/
def nestedListeners : List Act :=
  [.onLoad "a" "" [.onLoad "b" "" [],.finishLoading],.onLoad "c" "" [],.finishLoading,.finishLoading,.onLoad "d" "" []]

theorem load_listeners_once_nested : ∃ (marks : List LoadMark) (w : World), opening.Blank ∧
    (∀ b ∈ nestedListeners, Rules.loading.Allows b) ∧ opening.Loads nestedListeners marks w ∧
    (marks.filterMap LoadMark.asked?).Perm (marks.filterMap LoadMark.called?) ∧ w.loaded = ["a","b","c","d"] := by
  have h₀ : opening.Blank := ⟨rfl,rfl⟩
  have hleaf {b : Act} (hb : b.isLoading = true) (hnone : b.reaction = []) : Rules.loading.Allows b :=
    .intro hb (by simp [hnone])
  have hallows : ∀ b ∈ nestedListeners, Rules.loading.Allows b := by
    simp only [nestedListeners,List.forall_mem_cons]
    refine ⟨.intro rfl ?_,hleaf rfl rfl,hleaf rfl rfl,hleaf rfl rfl,hleaf rfl rfl,by simp⟩
    exact List.forall_mem_cons.mpr ⟨hleaf rfl rfl,List.forall_mem_singleton.mpr (hleaf rfl rfl)⟩
  have hfirst := (Loads.refl : opening.Loads [] [] opening).act (by rfl)
    (a := .onLoad "a" "" [.onLoad "b" "" [],.finishLoading]) rfl
  have hadded := hfirst.act (by rfl) (a := .onLoad "c" "" []) rfl
  have hasked := ((hadded.act (by rfl) (a := .finishLoading) rfl).step (by decide +kernel)).step (by decide +kernel)
  have hcompleted := ((hasked.step (by decide +kernel)).step (by decide +kernel)).step (by decide +kernel)
  have hagain := hcompleted.act ((isSettled_iff _).mp (by decide +kernel)) (a := .finishLoading) rfl
  have hrun := (hagain.act ((isSettled_iff _).mp (by decide +kernel)) (a := .onLoad "d" "" []) rfl).step
    (by decide +kernel)
  obtain ⟨-,-,-,-,hcalled⟩ := (load_listeners_once h₀).1 _ _ _ hrun
  obtain ⟨hperm,hturns,-⟩ := hcalled (by decide +kernel)
  rw [hturns ((isSettled_iff _).mp (by decide +kernel)),List.append_nil] at hperm
  exact ⟨_,_,h₀,hallows,hrun,hperm,by decide +kernel⟩

end PageTelemetry.World
