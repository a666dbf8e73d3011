import PageTelemetry.Proofs.Paths
import PageTelemetry.Proofs.Sources

/-! Who sends. Every operation and every task has at most one tracker report, and says which one that can be. -/
namespace PageTelemetry

/-- The tracker that a handler tells. -/
def Handler.speakers : Handler → List TrackerId
  | .tracker id => [id]
  | .log _ => []

/-- The trackers that an operation can have report, before anything that it causes. -/
def Act.speakers (w : World) : Act → List TrackerId
  | .track _ => (w.page.global? Page.namespaceName).toList
  | .install _ _ _ => [w.trackers.length]
  | _ => []

def Task.speakers (w : World) : Task → List TrackerId
  | .relay _ h _ | .signal h _ => h.speakers
  | .start t _ => [t]
  | .act a => a.speakers w
  | .hook _ _ | .call _ _ => []

namespace World
variable {w w' w'' : World} {ids : List TrackerId}

/-- From one world to another these trackers have sent, each at most as often as it is named, and no others. -/
def Sends (ids : List TrackerId) (w w' : World) : Prop :=
  ∃ new, w'.sent = w.sent ++ new ∧ (new.map Delivery.tracker).Sublist ids

lemma Sends.of_same (h : w'.sent = w.sent) : w.Sends ids w' :=
  ⟨[],by rw [h,List.append_nil],List.nil_sublist _⟩

lemma Sends.frame (h : w.Sends ids w') (hsame : w''.sent = w'.sent) : w.Sends ids w'' := by
  rw [Sends,hsame]
  exact h

lemma Sends.none (h : w.Sends [] w') : w'.sent = w.sent := by
  obtain ⟨new,hsent,hsub⟩ := h
  rw [hsent,List.map_eq_nil_iff.mp (List.sublist_nil.mp hsub),List.append_nil]

lemma Sends.once {t : TrackerId} (h : w.Sends [t] w') :
    w'.sent = w.sent ∨ ∃ d, w'.sent = w.sent ++ [d] ∧ d.tracker = t := by
  obtain ⟨new,hsent,hsub⟩ := h
  rcases List.sublist_singleton.mp hsub with hnone | hone
  · exact .inl (by rw [hsent,List.map_eq_nil_iff.mp hnone,List.append_nil])
  · obtain ⟨d,rfl,hd⟩ := List.map_eq_singleton_iff.mp hone
    exact .inr ⟨d,hsent,hd⟩

lemma report_sends (w : World) (t : TrackerId)
    (f : Tracker → Payload.Ambient → Int → Option Payload × Tracker) : w.Sends [t] (w.report t f).2 := by
  cases hi : w.trackers[t]? with
  | none => exact .of_same (by simp [report,hi])
  | some i =>
    rcases report_sent (f := f) hi with hsent | ⟨p,-,hsent⟩
    · exact .of_same hsent
    · exact ⟨_,hsent,.refl _⟩

lemma signal_sends (w : World) (h : Handler) (s : Signal) : w.Sends h.speakers (w.signal h s) := by
  cases h with
  | tracker id =>
    simp only [signal]
    split_ifs
    · exact w.report_sends id _
    · exact .of_same rfl
  | log label => exact .of_same rfl

lemma subscribe_sent (w : World) (s : SourceId) (h : Handler) : (w.subscribe s h).2.sent = w.sent := by
  rcases w.subscribe_cases s h with ⟨-,e⟩ | ⟨-,e⟩ | e <;> rw [e] <;> rfl

lemma restore_sent (w : World) (s : SourceId) : (w.restore s).2.sent = w.sent := by
  cases hi : w.interception? s with
  | none => rw [restore_free hi]
  | some i => rw [restore_installed hi]; rfl

lemma start_sends (w : World) (t : TrackerId) (source : Option SourceId) : w.Sends [t] (w.start t source) := by
  refine start_invariant (w.report_sends t _) ?_ ?_ source
  · exact fun u hu => hu.frame rfl
  · exact fun u s hu => hu.frame (subscribe_sent ..)

/-- A tracker that is installed may report at once. -/
lemma install_sends (w : World) (c : Config) (source : Option SourceId) (outlet : OutletId) :
    w.Sends [w.trackers.length] (w.install c source outlet).2 := by
  rcases w.install_cases c source outlet with e | ⟨-,st,e | e⟩
  · exact .of_same (by rw [e])
  · rw [e]
    exact (w.enroll st outlet).start_sends _ source
  · exact .of_same (by rw [e]; rfl)

lemma moveTo_sent (w : World) (target : Option History) : (w.moveTo target).2.sent = w.sent := by
  cases target <;> rfl

theorem act_sends (w : World) (a : Act) : w.Sends (a.speakers w) (w.act a) := by
  cases a with
  | push | replace | setHref | setTitle | setWidth | reveal | unload | discard | addPopState | addLifecycle
  | removePopState | removeLifecycle | wrapHook | removeHook => exact .of_same rfl
  | back => exact .of_same (w.moveTo_sent _)
  | forward => exact .of_same (w.moveTo_sent _)
  | hide =>
    simp only [act,hide]
    split_ifs <;> exact .of_same rfl
  | finishLoading =>
    simp only [act,finishLoading]
    split_ifs <;> exact .of_same rfl
  | track name =>
    simp only [act,trackExposed,Act.speakers]
    cases w.page.global? Page.namespaceName with
    | none => exact .of_same rfl
    | some id => exact w.report_sends id _
  | install c source outlet => exact w.install_sends c source outlet
  | subscribe s h => exact .of_same (w.subscribe_sent s h)
  | restore s => exact .of_same (w.restore_sent s)
  | onLoad label ending acts =>
    simp only [act,onLoad]
    split_ifs <;> exact .of_same rfl

theorem perform_sends (w : World) (task : Task) : w.Sends (task.speakers w) (w.perform task) := by
  cases task with
  | hook k kind => cases k <;> exact .of_same rfl
  | relay id h kind =>
    simp only [perform]
    split_ifs
    · exact w.signal_sends h _
    · exact .of_same rfl
  | call l o =>
    simp only [perform,call]
    split_ifs <;> exact .of_same rfl
  | signal h s => exact w.signal_sends h s
  | start t source => exact w.start_sends t source
  | act a => exact w.act_sends a

end World
end PageTelemetry
