/-! The session history of a page: its entries and which of them is current. -/
namespace PageTelemetry

structure History where
  entries : List String
  index : Nat
  deriving DecidableEq, Repr, Inhabited

namespace History

def ofHref (href : String) : History := ⟨[href],0⟩

/-- The location of the current entry. -/
def href (h : History) : String := h.entries[h.index]?.getD ""

def size (h : History) : Nat := h.entries.length

/-- A new entry behind the current one; those that were behind it are gone. -/
def push (h : History) (href : String) : History :=
  ⟨h.entries.take (h.index + 1) ++ [href],h.index + 1⟩

/-- Another location in the current entry. -/
def replace (h : History) (href : String) : History := { h with entries := h.entries.set h.index href }

def back? (h : History) : Option History :=
  if h.index = 0 then none else some { h with index := h.index - 1 }

def forward? (h : History) : Option History :=
  if h.index + 1 < h.entries.length then some { h with index := h.index + 1 } else none

theorem href_push (h : History) (href : String) (inside : h.index < h.entries.length) :
    (h.push href).href = href := by
  have len : (h.entries.take (h.index + 1)).length = h.index + 1 := by
    rw [List.length_take]
    omega
  simp [push,History.href,len]

theorem href_replace (h : History) (href : String) (inside : h.index < h.entries.length) :
    (h.replace href).href = href := by
  simp [replace,History.href,inside]

theorem size_push (h : History) (href : String) (inside : h.index < h.entries.length) :
    (h.push href).size = h.index + 2 := by
  simp only [push,size,List.length_append,List.length_take,List.length_singleton]
  omega

theorem size_replace (h : History) (href : String) : (h.replace href).size = h.size := by
  simp [replace,size]

/-- Back from a new entry the location is the one it was pushed from. -/
theorem back?_push (h : History) (href : String) (inside : h.index < h.entries.length) :
    ((h.push href).back?).map History.href = some h.href := by
  have len : h.index < (h.entries.take (h.index + 1)).length := by
    rw [List.length_take]
    omega
  simp [push,back?,History.href,List.getElem?_append_left len]

end History

end PageTelemetry
