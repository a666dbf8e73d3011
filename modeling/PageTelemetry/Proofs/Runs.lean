import Mathlib.Logic.Relation
import PageTelemetry.Proofs.Rules

/-! What can happen to a world at any time, between two tasks of a dispatch as well as between dispatches. -/
namespace PageTelemetry.World

/-- One thing that happens: the next task is done, someone operates on the page, or the embedder does what
concerns no hook and no listener. -/
inductive Happens (allowed : Act → Prop) : World → World → Prop
  | step (w : World) : Happens allowed w w.step
  | act (w : World) {a : Act} (ha : allowed a) : Happens allowed w (w.act a)
  /-- A tracker reports, or someone writes into the log. -/
  | report {w w' : World} (h : w.Reported w') : Happens allowed w w'
  | keep (w : World) (pageHeld : Bool) (clock : ManualClock) (handles : List TrackerId) (outlets : List Outlet) :
    Happens allowed w { w with pageHeld := pageHeld, clock := clock, handles := handles, outlets := outlets }
  /-- The embedder keeps a source, or gives it up. -/
  | hold (w : World) (id : SourceId) (held : Bool) :
    Happens allowed w { w with sources := w.sources.modify id fun x => { x with held := held } }
  | addTracker (w : World) (s : Settings) (outlet : OutletId) : Happens allowed w (w.addTracker s outlet).2
  | addSource (w : World) {kind : SourceKind} (hfree : ∀ i, kind ≠ .history (some i)) (held : Bool) :
    Happens allowed w (w.addSource kind held).2

/-- Any number of things that happen one after the other, none of which leads out of some worlds. -/
def Runs (allowed : Act → Prop) (within : World → Prop) : World → World → Prop :=
  Relation.ReflTransGen fun w w' => Happens allowed w w' ∧ within w'

variable {R : Rules} {allowed : Act → Prop} {within : World → Prop} {w w' : World}

/-- What everything that happens keeps holds after a run. -/
theorem Runs.invariant {P : World → Prop} (h : Runs allowed within w w') (hw : P w)
    (hstep : ∀ u u', P u → Happens allowed u u' → within u' → P u') : P w' := by
  induction h with
  | refl => exact hw
  | tail _ hlast ih => exact hstep _ _ ih hlast.1 hlast.2

lemma Runs.stays (h : Runs allowed within w w') (hw : within w) : within w' :=
  h.invariant hw fun _ _ _ _ hu => hu

lemma sourceKind?_hold (w : World) (id : SourceId) (held : Bool) (s : SourceId) :
    ({ w with sources := w.sources.modify id fun x => { x with held := held } } : World).sourceKind? s =
      w.sourceKind? s := by
  simp only [sourceKind?,List.getElem?_modify]
  cases w.sources[s]? with
  | none => rfl
  | some x =>
    rw [Option.map_eq_map,Option.map_some,Option.map_some,Option.map_some]
    split_ifs <;> rfl

lemma interception?_hold (w : World) (id : SourceId) (held : Bool) (s : SourceId) :
    ({ w with sources := w.sources.modify id fun x => { x with held := held } } : World).interception? s =
      w.interception? s := by
  rw [interception?,sourceKind?_hold]
  rfl

/-- What happens keeps the rules, if the operations do. -/
theorem Obeys.happens (h : w.Obeys R) (hR : R.Sound w.trackers.length)
    (hact : ∀ a, allowed a → (w.act a).Obeys R) (hw : Happens allowed w w') : w'.Obeys R := by
  cases hw with
  | step => exact h.step hR
  | act ha => exact hact _ ha
  | report hr => exact h.reported hr
  | keep => exact h.of_same
  | hold id held =>
    refine ⟨h.hook,h.popState,h.lifecycle,h.onLoad,h.agenda,fun s i hi => ?_⟩
    rw [interception?_hold] at hi
    exact h.previous s i hi
  | addTracker => exact h.of_same
  | addSource hfree held =>
    refine ⟨h.hook,h.popState,h.lifecycle,h.onLoad,h.agenda,fun s i hi => ?_⟩
    rw [interception?_addSource w hfree] at hi
    exact h.previous s i hi

end PageTelemetry.World
