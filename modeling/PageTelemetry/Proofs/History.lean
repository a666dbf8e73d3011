import Mathlib.Tactic
import PageTelemetry.Page.History

/-! A session history seen from its current entry: what lies behind, nearest first, and what lies ahead.
Each operation on the entries is a local one on this view. -/
namespace PageTelemetry.History

def ofZipper (behind : List String) (current : String) (ahead : List String) : History :=
  ⟨behind.reverse ++ current::ahead,behind.length⟩

variable (behind ahead : List String) (current href : String)

@[simp] lemma href_ofZipper : (ofZipper behind current ahead).href = current := by
  simp [ofZipper,History.href]

@[simp] lemma push_ofZipper :
    (ofZipper behind current ahead).push href = ofZipper (current::behind) href [] := by
  have ht : (behind.reverse ++ current::ahead).take (behind.length+1) = behind.reverse ++ [current] := by
    rw [show behind.length+1 = (behind.reverse ++ [current]).length by simp,
      show behind.reverse ++ current::ahead = (behind.reverse ++ [current]) ++ ahead by simp]
    exact List.take_left' rfl
  simp [ofZipper,push,ht]

@[simp] lemma replace_ofZipper :
    (ofZipper behind current ahead).replace href = ofZipper behind href ahead := by
  simp [ofZipper,replace]

lemma back?_ofZipper_nil : (ofZipper [] current ahead).back? = none := rfl

lemma back?_ofZipper_cons :
    (ofZipper (href::behind) current ahead).back? = some (ofZipper behind href (current::ahead)) := by
  simp [ofZipper,back?]

lemma forward?_ofZipper_nil : (ofZipper behind current []).forward? = none := by
  simp [ofZipper,forward?]

lemma forward?_ofZipper_cons :
    (ofZipper behind current (href::ahead)).forward? = some (ofZipper (current::behind) href ahead) := by
  simp [ofZipper,forward?]

end PageTelemetry.History
