import PageTelemetry.Page
import Mathlib.Data.List.Perm.Basic

/-! Those who wait for a document, by themselves: a small machine that knows who waits and whose turn it is. -/
namespace PageTelemetry

/-- What concerns those who wait for a document. -/
inductive LoadMark
  /-- Somebody asks to be called once it is complete. -/
  | asked (c : LoadCallback)
  /-- It is said to be complete. -/
  | finished
  | called (c : LoadCallback)

namespace LoadMark

def asked? : LoadMark → Option LoadCallback
  | .asked c => some c
  | .finished | .called _ => none

def called? : LoadMark → Option LoadCallback
  | .called c => some c
  | .finished | .asked _ => none

/-- The label under which a listener that is called says so. -/
def label? : LoadMark → Option String
  | .called (.listener l) => some l.label
  | _ => none

end LoadMark

/-- Who waits: for a document that loads, or for a turn once it is complete, there possibly behind somebody who has
only just asked. -/
inductive Waiting
  | loading (waiting : List LoadCallback)
  | complete (waiting : List LoadCallback)
  | asked (c : LoadCallback) (waiting : List LoadCallback)

namespace Waiting
open LoadMark

/-- Nobody waits. -/
def nobody : ReadyState → Waiting
  | .complete => .complete []
  | .loading | .interactive => .loading []

/-- Those who are still to be called, in the order of their turns. -/
def still : Waiting → List LoadCallback
  | .loading waiting | .complete waiting => waiting
  | .asked c waiting => c::waiting

/-- Nobody has only just asked. -/
def Unasked (a : Waiting) : Prop := ∀ c waiting, a ≠ .asked c waiting

def IsComplete (a : Waiting) : Prop := ∀ waiting, a ≠ .loading waiting

/-- While a document loads, those who ask wait one behind the other, and nobody is called. Once it is complete it is
the turn of the first; but whoever asks then is called before anything else that concerns those who wait. To say again
that it is complete changes nothing. -/
inductive Takes : Waiting → LoadMark → Waiting → Prop
  | register {waiting : List LoadCallback} {c : LoadCallback} :
    Takes (.loading waiting) (.asked c) (.loading (waiting ++ [c]))
  | complete {waiting : List LoadCallback} : Takes (.loading waiting) .finished (.complete waiting)
  | turn {waiting : List LoadCallback} {c : LoadCallback} :
    Takes (.complete (c::waiting)) (.called c) (.complete waiting)
  | ask {waiting : List LoadCallback} {c : LoadCallback} : Takes (.complete waiting) (.asked c) (.asked c waiting)
  | answer {waiting : List LoadCallback} {c : LoadCallback} :
    Takes (.asked c waiting) (.called c) (.complete waiting)
  | again {waiting : List LoadCallback} : Takes (.complete waiting) .finished (.complete waiting)

inductive Course (a : Waiting) : List LoadMark → Waiting → Prop
  | nil : Course a [] a
  | concat {marks : List LoadMark} {b c : Waiting} {m : LoadMark} (h : Course a marks b) (hm : b.Takes m c) :
    Course a (marks ++ [m]) c

variable {a b c : Waiting} {marks marks' : List LoadMark} {waiting : List LoadCallback} {r : ReadyState}

lemma Takes.course {m : LoadMark} (h : a.Takes m b) : a.Course [m] b := Course.nil.concat h

lemma Course.trans (h : a.Course marks b) (h' : b.Course marks' c) : a.Course (marks ++ marks') c := by
  induction h' with
  | nil => rwa [List.append_nil]
  | concat _ hm ih =>
    rw [← List.append_assoc]
    exact ih.concat hm

lemma still_nobody (r : ReadyState) : (nobody r).still = [] := by cases r <;> rfl

lemma filterMap_concat {α β : Type} (f : α → Option β) (l : List α) (x : α) :
    (l ++ [x]).filterMap f = l.filterMap f ++ (f x).toList := by
  rw [List.filterMap_append]
  cases hx : f x <;> simp [hx]

/-- Whoever has asked was called once, or is still to be called. -/
theorem Course.ledger (h : (nobody r).Course marks b) :
    (marks.filterMap asked?).Perm (marks.filterMap called? ++ b.still) := by
  induction h with
  | nil => simp [still_nobody]
  | concat _ hm ih =>
    rw [filterMap_concat,filterMap_concat]
    cases hm with
    | register => simpa [still,asked?,called?] using ih.append_right _
    | complete | again | turn | answer => simpa [still,asked?,called?] using ih
    | @ask waiting c =>
      have hlast : (waiting ++ [c]).Perm (c::waiting) := List.perm_append_singleton c waiting
      have hasked := (ih.append_right [c]).trans ((List.append_assoc ..).symm ▸ hlast.append_left _)
      simpa [still,asked?,called?] using hasked

/-- While a document loads all that has happened is that those who wait have asked, in their order. -/
theorem Course.early (h : (nobody r).Course marks (.loading waiting)) : marks = waiting.map .asked := by
  generalize hb : Waiting.loading waiting = b at h
  induction h generalizing waiting with
  | nil =>
    cases r <;> cases hb
    all_goals rfl
  | concat _ hm ih =>
    cases hm with
    | register =>
      cases hb
      rw [ih rfl,List.map_append]
      rfl
    | complete | turn | ask | answer | again => cases hb

/-- Those who asked while the document was loading are called, or are still to be called, in the order in which they
asked; others may come in between. -/
theorem Course.ordered (h : (Waiting.loading []).Course marks b) (hb : b.IsComplete) :
    ∃ (first : List LoadCallback) (after : List LoadMark), marks = first.map .asked ++ .finished::after ∧
      first.Sublist (after.filterMap called? ++ b.still) := by
  induction h with
  | nil => exact absurd rfl (hb [])
  | @concat marks b c m h hm ih =>
    cases hm with
    | register => exact absurd rfl (hb _)
    | @complete waiting => exact ⟨waiting,[],by rw [Course.early (r := .loading) h],.refl _⟩
    | turn | answer | ask | again =>
      obtain ⟨first,after,rfl,hsub⟩ := ih fun waiting h => by cases h
      refine ⟨first,after ++ [_],by rw [List.append_assoc,List.cons_append],hsub.trans ?_⟩
      simp [still,called?]

/-- A document that is complete remains so, and none becomes complete but by being finished. -/
lemma Course.complete_iff (h : (nobody r).Course marks b) :
    b.IsComplete ↔ r = .complete ∨ .finished ∈ marks := by
  induction h with
  | nil => cases r <;> simp [nobody,IsComplete]
  | concat _ hm ih =>
    rw [List.mem_append,← or_assoc,← ih]
    cases hm <;> simp [IsComplete]

end Waiting

end PageTelemetry
