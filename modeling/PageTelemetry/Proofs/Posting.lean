import Mathlib.Tactic
import PageTelemetry.Delivery.Beacon

/-! What a beacon posts. In whatever order callers, the worker and the attempts take their turns, a request that was
handed in before the first close is queued, under way or done with, and is so exactly once; no other ever is. After
the first close everything comes to its end, and when a close returns all that was accepted has been posted and
none of it is under way. -/
namespace PageTelemetry.Beacon

variable {b b' : Beacon} {e : Event} {events : List Event} {log : List Request}

/-- Whether an event is one with which a caller turns to the beacon. -/
def Event.isCall : Event → Bool
  | .send _ | .close => true
  | .join | .joined | .receive | .finish _ | .reap _ | .drain | .stop => false

/-- What an event adds to the requests that the beacon has taken on. -/
def added (b : Beacon) : Event → List Request
  | .send r => if b.isOpen then [r] else []
  | .close | .join | .joined | .receive | .finish _ | .reap _ | .drain | .stop => []

/-- The callers whose close has not returned. -/
def waiting (b : Beacon) : ℕ := b.closing+if b.handle = .joining then 1 else 0

/-- How much is left to do until every close has returned. -/
def left (b : Beacon) : ℕ :=
  3*b.queued.length+2*b.inFlight.length+b.ended.length+
    (match b.worker with | .receiving => 2 | .draining => 1 | .stopped => 0)+
    2*b.closing+if b.handle = .joining then 1 else 0

/-- How a beacon stands that has taken on these requests. -/
structure Keeps (log : List Request) (b : Beacon) : Prop where
  ledger : (b.queued ++ b.posted).Perm log
  idle : b.worker ≠ .receiving → b.isOpen = false ∧ b.queued = []
  stopped : b.worker = .stopped → b.inFlight = [] ∧ b.ended = []
  spent : b.handle = .spent → b.worker = .stopped
  closed : 0 < b.closed → b.handle = .spent

/-! What an event does. -/

lemma step?_join (h : b.step? .join = some b') :
    (b.handle = .ready ∧ b' = { b with closing := b.closing-1, handle := .joining } ∨
      b.handle = .spent ∧ b' = { b with closing := b.closing-1, closed := b.closed+1 }) ∧ 0 < b.closing := by
  simp only [step?] at h
  split at h
  · rename_i n hclosing hhandle
    obtain rfl := Option.some.inj h
    exact ⟨.inl ⟨hhandle,by simp [hclosing]⟩,by omega⟩
  · rename_i n hclosing hhandle
    obtain rfl := Option.some.inj h
    exact ⟨.inr ⟨hhandle,by simp [hclosing]⟩,by omega⟩
  · cases h

lemma step?_joined (h : b.step? .joined = some b') : b.handle = .joining ∧ b.worker = .stopped ∧
    b' = { b with handle := .spent, closed := b.closed+1 } := by
  simp only [step?] at h
  split_ifs at h with hcan
  exact ⟨hcan.1,hcan.2,(Option.some.inj h).symm⟩

lemma step?_receive (h : b.step? .receive = some b') : ∃ r rest, b.worker = .receiving ∧ b.queued = r::rest ∧
    b' = { b with queued := rest, inFlight := b.inFlight ++ [r] } := by
  simp only [step?] at h
  split at h
  · rename_i r rest hworker hqueued
    exact ⟨r,rest,hworker,hqueued,(Option.some.inj h).symm⟩
  · cases h

lemma step?_finish {place : ℕ} (h : b.step? (.finish place) = some b') : ∃ r, b.inFlight[place]? = some r ∧
    b' = { b with inFlight := b.inFlight.eraseIdx place, ended := b.ended ++ [r] } := by
  simp only [step?] at h
  split at h
  · rename_i r hr
    exact ⟨r,hr,(Option.some.inj h).symm⟩
  · cases h

lemma step?_reap {place : ℕ} (h : b.step? (.reap place) = some b') : ∃ r, b.ended[place]? = some r ∧
    b' = { b with ended := b.ended.eraseIdx place, reaped := b.reaped ++ [r] } := by
  simp only [step?] at h
  split at h
  · rename_i r hr
    exact ⟨r,hr,(Option.some.inj h).symm⟩
  · cases h

lemma step?_drain (h : b.step? .drain = some b') :
    (b.worker = .receiving ∧ b.queued = [] ∧ b.isOpen = false) ∧ b' = { b with worker := .draining } := by
  simp only [step?] at h
  split_ifs at h with hcan
  exact ⟨hcan,(Option.some.inj h).symm⟩

lemma step?_stop (h : b.step? .stop = some b') :
    (b.worker = .draining ∧ b.inFlight = [] ∧ b.ended = []) ∧ b' = { b with worker := .stopped } := by
  simp only [step?] at h
  split_ifs at h with hcan
  exact ⟨hcan,(Option.some.inj h).symm⟩

/-- A beacon is open until somebody closes it. -/
lemma step?_isOpen (h : b.step? e = some b') : b'.isOpen = (b.isOpen && !(e == .close)) := by
  cases e with
  | send r =>
    obtain rfl := Option.some.inj h
    simp only [apply_ite Beacon.isOpen]
    split_ifs <;> simp_all
  | close =>
    obtain rfl := Option.some.inj h
    simp
  | join => obtain ⟨⟨-,rfl⟩ | ⟨-,rfl⟩,-⟩ := step?_join h <;> simp
  | joined => obtain ⟨-,-,rfl⟩ := step?_joined h; simp
  | receive => obtain ⟨_,_,-,-,rfl⟩ := step?_receive h; simp
  | finish place => obtain ⟨_,-,rfl⟩ := step?_finish h; simp
  | reap place => obtain ⟨_,-,rfl⟩ := step?_reap h; simp
  | drain => obtain ⟨-,rfl⟩ := step?_drain h; simp
  | stop => obtain ⟨-,rfl⟩ := step?_stop h; simp

/-! The ledger. -/

lemma perm_eraseIdx_concat {α : Type} {l : List α} {place : ℕ} {a : α} (h : l[place]? = some a) :
    (l.eraseIdx place ++ [a]).Perm l := by
  obtain ⟨hlt,rfl⟩ := List.getElem?_eq_some_iff.mp h
  exact (List.perm_append_singleton _ _).trans (List.getElem_cons_eraseIdx_perm hlt)

/-- Every event keeps the books: a request that is taken on is entered once, and then only changes its place. -/
theorem Keeps.step (hb : b.Keeps log) (h : b.step? e = some b') : b'.Keeps (log ++ b.added e) := by
  cases e with
  | send r =>
    obtain rfl := Option.some.inj h
    cases hopen : b.isOpen with
    | false => simpa [added,hopen] using hb
    | true =>
      have hreceiving : b.worker = .receiving := by
        by_contra hne
        simp [(hb.idle hne).1] at hopen
      simp only [added,hopen,if_true]
      refine ⟨?_,fun hne => absurd hreceiving hne,hb.stopped,hb.spent,hb.closed⟩
      have hmoved : (b.queued ++ [r] ++ b.posted).Perm (b.queued ++ b.posted ++ [r]) := by
        rw [List.append_assoc,List.append_assoc]
        exact List.perm_append_comm.append_left _
      exact hmoved.trans (hb.ledger.append_right [r])
  | close =>
    obtain rfl := Option.some.inj h
    rw [added,List.append_nil]
    exact ⟨hb.ledger,fun hne => ⟨rfl,(hb.idle hne).2⟩,hb.stopped,hb.spent,hb.closed⟩
  | join =>
    rw [added,List.append_nil]
    obtain ⟨⟨hready,rfl⟩ | ⟨hspent,rfl⟩,-⟩ := step?_join h
    · refine ⟨hb.ledger,hb.idle,hb.stopped,by simp,fun hclosed => ?_⟩
      simp [hb.closed hclosed] at hready
    · exact ⟨hb.ledger,hb.idle,hb.stopped,hb.spent,fun _ => hspent⟩
  | joined =>
    rw [added,List.append_nil]
    obtain ⟨-,hstopped,rfl⟩ := step?_joined h
    exact ⟨hb.ledger,hb.idle,hb.stopped,fun _ => hstopped,fun _ => rfl⟩
  | receive =>
    rw [added,List.append_nil]
    obtain ⟨r,rest,hworker,hqueued,rfl⟩ := step?_receive h
    refine ⟨.trans ?_ hb.ledger,fun hne => absurd hworker hne,by simp [hworker],hb.spent,hb.closed⟩
    refine List.perm_iff_count.mpr fun q => ?_
    simp only [posted,hqueued,List.count_append,List.count_cons,List.count_nil]
    omega
  | finish place =>
    rw [added,List.append_nil]
    obtain ⟨r,hr,rfl⟩ := step?_finish h
    refine ⟨.trans ?_ hb.ledger,hb.idle,fun hstopped => ?_,hb.spent,hb.closed⟩
    · refine List.perm_iff_count.mpr fun q => ?_
      have hq := List.perm_iff_count.mp (perm_eraseIdx_concat hr) q
      simp only [posted,List.count_append] at hq ⊢
      omega
    · simp [(hb.stopped hstopped).1] at hr
  | reap place =>
    rw [added,List.append_nil]
    obtain ⟨r,hr,rfl⟩ := step?_reap h
    refine ⟨.trans ?_ hb.ledger,hb.idle,fun hstopped => ?_,hb.spent,hb.closed⟩
    · refine List.perm_iff_count.mpr fun q => ?_
      have hq := List.perm_iff_count.mp (perm_eraseIdx_concat hr) q
      simp only [posted,List.count_append] at hq ⊢
      omega
    · simp [(hb.stopped hstopped).2] at hr
  | drain =>
    rw [added,List.append_nil]
    obtain ⟨⟨hworker,hqueued,hshut⟩,rfl⟩ := step?_drain h
    refine ⟨hb.ledger,fun _ => ⟨hshut,hqueued⟩,by simp,fun hspent => ?_,hb.closed⟩
    simp [hb.spent hspent] at hworker
  | stop =>
    rw [added,List.append_nil]
    obtain ⟨⟨hworker,hnone⟩,rfl⟩ := step?_stop h
    exact ⟨hb.ledger,fun _ => hb.idle (by simp [hworker]),fun _ => hnone,fun _ => rfl,hb.closed⟩

/-- A beacon takes on what is handed in before it is closed. -/
lemma accepted_cons (h : b.step? e = some b') : (if b.isOpen then accepted (e::events) else []) =
    b.added e ++ if b'.isOpen then accepted events else [] := by
  rw [step?_isOpen h]
  cases hopen : b.isOpen <;> cases e <;> simp [accepted,added,hopen]

/-- Over every run, by induction on its events. -/
theorem Keeps.run (hb : b.Keeps log) (h : b.run? events = some b') :
    b'.Keeps (log ++ if b.isOpen then accepted events else []) := by
  induction events generalizing b log with
  | nil =>
    obtain rfl := Option.some.inj h
    simpa [accepted] using hb
  | cons e rest ih =>
    obtain ⟨b₁,hstep,hrun⟩ := Option.bind_eq_some_iff.mp h
    have hrest := ih (hb.step hstep) hrun
    rwa [List.append_assoc,← accepted_cons hstep] at hrest

/-- A beacon that nobody has used. -/
lemma keeps_nil : ({} : Beacon).Keeps [] := ⟨.nil,by simp,by simp,by simp,by simp⟩

/-! How it comes to an end. -/

/-- Whatever is not a caller's doing leaves less to do. -/
theorem step?_left (hcall : e.isCall = false) (h : b.step? e = some b') : b'.left < b.left := by
  cases e with
  | send | close => cases hcall
  | join =>
    obtain ⟨⟨hready,rfl⟩ | ⟨hspent,rfl⟩,hclosing⟩ := step?_join h
    · simp only [left,hready,if_true,reduceCtorEq,if_false]
      omega
    · simp only [left,hspent,reduceCtorEq,if_false]
      omega
  | joined =>
    obtain ⟨hjoining,-,rfl⟩ := step?_joined h
    simp only [left,hjoining,if_true,reduceCtorEq,if_false]
    omega
  | receive =>
    obtain ⟨r,rest,-,hqueued,rfl⟩ := step?_receive h
    simp only [left,hqueued,List.length_cons,List.length_append,List.length_nil]
    omega
  | finish place =>
    obtain ⟨r,hr,rfl⟩ := step?_finish h
    have hlength := (perm_eraseIdx_concat hr).length_eq
    simp only [left,List.length_append,List.length_singleton] at hlength ⊢
    omega
  | reap place =>
    obtain ⟨r,hr,rfl⟩ := step?_reap h
    have hlength := (perm_eraseIdx_concat hr).length_eq
    simp only [left,List.length_append,List.length_singleton] at hlength ⊢
    omega
  | drain =>
    obtain ⟨⟨hworker,-⟩,rfl⟩ := step?_drain h
    simp only [left,hworker]
    omega
  | stop =>
    obtain ⟨⟨hworker,-⟩,rfl⟩ := step?_stop h
    simp only [left,hworker]
    omega

/-- A beacon that is shut goes on by itself until its worker has stopped and every close has returned. -/
theorem stopped_of_stuck (hshut : b.isOpen = false) (h : ∀ e, e.isCall = false → b.step? e = none) :
    b.worker = .stopped ∧ b.waiting = 0 := by
  have hworker : b.worker = .stopped := by
    cases hworker : b.worker with
    | receiving =>
      cases hqueued : b.queued with
      | nil => simpa [step?,hworker,hqueued,hshut] using h .drain rfl
      | cons => simpa [step?,hworker,hqueued] using h .receive rfl
    | draining =>
      cases hinFlight : b.inFlight with
      | cons => simpa [step?,hinFlight] using h (.finish 0) rfl
      | nil =>
        cases hended : b.ended with
        | cons => simpa [step?,hended] using h (.reap 0) rfl
        | nil => simpa [step?,hworker,hinFlight,hended] using h .stop rfl
    | stopped => rfl
  have hhandle : b.handle ≠ .joining := by
    intro hjoining
    simpa [step?,hjoining,hworker] using h .joined rfl
  refine ⟨hworker,?_⟩
  rw [waiting,if_neg hhandle]
  cases hclosing : b.closing with
  | zero => rfl
  | succ n =>
    have hjoin := h .join rfl
    cases hready : b.handle with
    | ready => simp [step?,hclosing,hready] at hjoin
    | joining => exact absurd hready hhandle
    | spent => simp [step?,hclosing,hready] at hjoin

/-- Once a close has returned, the attempts for all that was taken on have ended. -/
lemma Keeps.done (hb : b.Keeps log) (h : 0 < b.closed) :
    b.reaped.Perm log ∧ b.queued = [] ∧ b.inFlight = [] := by
  have hstopped := hb.spent (hb.closed h)
  obtain ⟨hinFlight,hended⟩ := hb.stopped hstopped
  have hqueued := (hb.idle (by simp [hstopped])).2
  refine ⟨?_,hqueued,hinFlight⟩
  simpa [posted,hqueued,hinFlight,hended] using hb.ledger

/-- In every run of a beacon what was handed in before the first close is what is queued, under way and done with,
each as often as it was handed in. Once somebody has closed the beacon nothing is ever posted but that; another
close only adds a caller that waits; whatever happens next, but for calls, leaves less to do, and only when the
worker has stopped and every close has returned can nothing happen any more. And once a close has returned, all
attempts for what was handed in before the first one have ended. -/
theorem run_posts (h : run? {} events = some b) :
    (b.queued ++ (b.reaped ++ b.ended ++ b.inFlight)).Perm (accepted events) ∧
    (b.isOpen = false →
      (∀ later b', b.run? later = some b' → (b'.queued ++ b'.posted).Perm (accepted events)) ∧
      b.step? .close = some { b with closing := b.closing+1 } ∧
      (∀ e b', e.isCall = false → b.step? e = some b' → b'.left < b.left) ∧
      ((∀ e, e.isCall = false → b.step? e = none) → b.worker = .stopped ∧ b.waiting = 0)) ∧
    (0 < b.closed → b.reaped.Perm (accepted events) ∧ b.queued = [] ∧ b.inFlight = []) := by
  have hb : b.Keeps (accepted events) := keeps_nil.run h
  refine ⟨hb.ledger,fun hshut => ⟨fun later b' hlater => ?_,?_,fun _ _ => step?_left,stopped_of_stuck hshut⟩,hb.done⟩
  · have hledger := (hb.run hlater).ledger
    rwa [hshut,if_neg Bool.false_ne_true,List.append_nil] at hledger
  · simp [step?,hshut]

def early : Request := ⟨"https://a.io/api/collect?site_key=k","{}"⟩

def late : Request := ⟨"https://a.io/api/event?site_key=k","{}"⟩

/-- Two callers close a beacon, which takes on one request twice and another one not at all. -/
def contended : List Event :=
  [.send early,.receive,.send early,.close,.send late,.close,.finish 0,.join,.receive,.drain,.finish 0,.reap 1,.reap 0,
    .stop,.joined,.join]

/-- Both closes return, and by then the one request has been posted twice. -/
theorem run_posts_contended : ∃ b, run? {} contended = some b ∧ b.closed = 2 ∧ b.reaped.Perm [early,early] := by
  have hrun : ∃ b, run? {} contended = some b ∧ b.closed = 2 := ⟨_,rfl,rfl⟩
  obtain ⟨b,hb,hclosed⟩ := hrun
  obtain ⟨-,-,hdone⟩ := run_posts hb
  exact ⟨b,hb,hclosed,(hdone (by omega)).1⟩

end PageTelemetry.Beacon
