import PageTelemetry.Binary64

/-! Clocks in milliseconds, and how long a page view has lasted. -/
namespace PageTelemetry

/-- The 64-bit integer that is congruent to an integer. -/
def wrapInt64 (i : Int) : Int := Int.bmod i 0x10000000000000000

/-- The 64-bit integer nearest to an integer. -/
def clampInt64 (i : Int) : Int := max (-0x8000000000000000) (min 0x7fffffffffffffff i)

theorem wrapInt64_eq_self {i : Int} (low : -0x8000000000000000 ≤ i) (high : i < 0x8000000000000000) :
    wrapInt64 i = i := by
  simp only [wrapInt64,Int.bmod]
  omega

/-- A span of time, never negative. -/
structure Span where
  nanoseconds : Nat
  deriving DecidableEq, Repr

namespace Span

def ofParts (seconds nanoseconds : Nat) : Span := ⟨seconds * 1000000000 + nanoseconds⟩

def ofMilliseconds (ms : Nat) : Span := ⟨ms * 1000000⟩

/-- Whole milliseconds. -/
def milliseconds (s : Span) : Nat := s.nanoseconds / 1000000

/-- The span of so many seconds to the nearest nanosecond; less than none is none. A span of 2 ^ 64
seconds or more is refused. -/
def ofSeconds? : Binary64 → Option Span
  | .nan => some ⟨0⟩
  | .infinity negative => if negative then some ⟨0⟩ else none
  | .finite negative m e =>
    if negative then some ⟨0⟩
    else
      let (n,d) := Binary64.ratio m e
      let span := Binary64.divEven (n * 1000000000) d
      if span < 0x10000000000000000 * 1000000000 then some ⟨span⟩ else none

end Span

/-- A clock moved by hand. -/
structure ManualClock where
  now : Int
  deriving DecidableEq, Repr, Inhabited

namespace ManualClock

/-- Moves a clock by whole milliseconds; the reading wraps. -/
def advance (c : ManualClock) (span : Span) : ManualClock :=
  ⟨wrapInt64 (c.now + min (span.milliseconds : Int) 0x7fffffffffffffff)⟩

def set (_ : ManualClock) (now : Int) : ManualClock := ⟨now⟩

end ManualClock

/-- When the current page view began, if it has. -/
structure DwellClock where
  start : Option Int := none
  deriving DecidableEq, Repr, Inhabited

namespace DwellClock

/-- A page view of this many seconds or more is not reported. -/
def limit : Nat := 3600

def reset (_ : DwellClock) (now : Int) : DwellClock := ⟨some now⟩

/-- Whole seconds since the start, computed in doubles from the clamped difference. -/
def seconds? (start now : Int) : Option Int :=
  ((Binary64.ofInt (clampInt64 (now - start))).div (.ofNat 1000)).round?

/-- The seconds on the page, if there is at least one and they stay below the limit. -/
def leaveDuration (c : DwellClock) (now : Int) : Option Nat :=
  match c.start with
  | none => none
  | some start =>
    match seconds? start now with
    | none => none
    | some s => if 0 < s ∧ s < limit then some s.toNat else none

end DwellClock

end PageTelemetry
