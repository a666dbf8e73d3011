import PageTelemetry.Payload.TrackInput
import PageTelemetry.Proofs.Json.Members
import PageTelemetry.Proofs.Overriding
import PageTelemetry.Session
import Mathlib.Data.List.DropRight

/-! Overrides that are put together call by call. The last call that writes a key counts; but properties may be set one
by one, over those that were written last. What the page has is left out only where a call has written something else,
and it makes no difference whether an event is put together, given as an object or by its name and properties. -/
namespace PageTelemetry

/-- A field is what is written, as it is; what is written as properties has a text. -/
def Payload.Field.Verbatim : (f : Field) → Json → f.Value → Prop
  | width | duration => fun v n => v = .int n
  | properties => IsWritten
  | name | path | title | referrer | source | medium | campaign => fun v s => v = .string s

namespace TrackInput
open Json.Members (lastOf lastOf_concat)
open Payload (Field)

namespace Call

/-- What a call makes of a key: something is written, or nothing is there any more as the overrides are begun anew. A
call that leaves the key alone, or sets a single property, makes nothing of it. -/
def writes? (key : String) : Call → Option (Option Json)
  | .pageView => some none
  | .event name => some (if key = "name" then some (.string name) else none)
  | .path text => if key = "path" then some (some (.string text)) else none
  | .referrer text => if key = "referrer" then some (some (.string text)) else none
  | .screenWidth n => if key = "screen_width" then some (some (.int n)) else none
  | .properties v => if key = "properties" then some (some v) else none
  | .field name v => if key = name then some (some v) else none
  | .property _ _ => none

def property? : Call → Option (String × Json)
  | .property name v => some (name,v)
  | _ => none

/-- A call that writes a value of the type of its field. -/
inductive IsTyped : Call → Prop
  | pageView : IsTyped .pageView
  | event (name : String) : IsTyped (.event name)
  | path (text : String) : IsTyped (.path text)
  | referrer (text : String) : IsTyped (.referrer text)
  | screenWidth {n : ℕ} (h : n < 0x100000000) : IsTyped (.screenWidth n)
  | properties (v : Json) : IsTyped (.properties v)
  | property (name : String) (v : Json) : IsTyped (.property name v)

end Call

/-- The last value written to a key, if it is still there. -/
def last? (key : String) (calls : List Call) : Option Json := (calls.filterMap (Call.writes? key)).getLast?.join

/-- The properties that have been set one by one since properties were last written. -/
def sinceWritten (calls : List Call) : List (String × Json) :=
  (calls.rtakeWhile fun c => (c.writes? "properties").isNone).filterMap Call.property?

/-- Properties with one of them set; an object takes the place of what is none. -/
def setProperty (v : Option Json) (m : String × Json) : Option Json :=
  some (.object (((v.bind Json.members?).getD []).insert m.1 m.2))

def replay (v : Option Json) (ms : List (String × Json)) : Option Json := ms.foldl setProperty v

/-- What stands under a key after calls. -/
def written? (key : String) (calls : List Call) : Option Json :=
  if key = "properties" then replay (last? key calls) (sinceWritten calls) else last? key calls

variable {calls : List Call} {key : String} {v : Option Json}

/-! One call. -/

lemma last?_concat (c : Call) : last? key (calls ++ [c]) = (c.writes? key).getD (last? key calls) := by
  rw [last?,List.filterMap_append]
  cases h : c.writes? key <;> simp [h,last?]

lemma sinceWritten_concat (c : Call) : sinceWritten (calls ++ [c]) =
    if (c.writes? "properties").isNone then sinceWritten calls ++ c.property?.toList else [] := by
  rw [sinceWritten,List.rtakeWhile_concat]
  split_ifs
  · rw [List.filterMap_append]
    cases h : c.property? <;> simp [h,sinceWritten]
  · rfl

lemma get?_insert_fields (t : TrackInput) (name : String) (v : Json) :
    Json.Members.get? key (t.field name v).fields = if key = name then some v else t.fields.get? key :=
  Json.Members.get?_insert

/-- A call writes a key, or sets a property, or leaves what is there. -/
lemma get?_apply (t : TrackInput) (c : Call) : (t.apply c).fields.get? key =
    (c.writes? key).getD (if key = "properties" then replay (t.fields.get? key) c.property?.toList
      else t.fields.get? key) := by
  have hkept : (if key = "properties" then replay (t.fields.get? key) [] else t.fields.get? key) =
      t.fields.get? key := ite_self _
  cases c with
  | pageView => rfl
  | event name => exact get?_insert_fields ..
  | property name v =>
    refine (get?_insert_fields ..).trans ?_
    split_ifs with hkey
    · subst hkey
      rfl
    · rfl
  | path | referrer | screenWidth | properties | field =>
    refine (get?_insert_fields ..).trans ?_
    simp only [Call.writes?,Call.property?,Option.toList_none,hkept]
    split_ifs <;> rfl

/-! Calls one after the other. -/

lemma ofCalls_concat (c : Call) : ofCalls (calls ++ [c]) = (ofCalls calls).apply c := List.foldl_concat ..

/-- By induction on the calls, from the last one. -/
theorem get?_ofCalls (calls : List Call) (key : String) : (ofCalls calls).fields.get? key = written? key calls := by
  induction calls using List.reverseRecOn with
  | nil => exact (ite_self none).symm
  | append_singleton calls c ih =>
    rw [ofCalls_concat,get?_apply,ih,written?,written?,last?_concat,sinceWritten_concat]
    split_ifs with hkey hkeeps
    · subst hkey
      rw [Option.isNone_iff_eq_none] at hkeeps
      rw [hkeeps,replay,replay,replay,List.foldl_append]
      rfl
    · subst hkey
      obtain ⟨x,hx⟩ := Option.ne_none_iff_exists'.mp fun hnone => hkeeps (Option.isNone_iff_eq_none.mpr hnone)
      rw [hx]
      rfl
    · rfl

lemma ordered_ofCalls (calls : List Call) : (ofCalls calls).fields.Ordered := by
  induction calls using List.reverseRecOn with
  | nil => exact .nil
  | append_singleton calls c ih =>
    rw [ofCalls_concat]
    cases c with
    | pageView => exact .nil
    | event => exact Json.Members.Ordered.insert .nil
    | path | referrer | screenWidth | properties | property | field => exact ih.insert

/-- Under each key stands the last property that was set there, or what stood there before. -/
lemma get?_replay (v : Option Json) (ms : List (String × Json)) (key : String) :
    (replay v ms).bind (Json.get? key) = (lastOf key ms).or (v.bind (Json.get? key)) := by
  induction ms using List.reverseRecOn with
  | nil => rfl
  | append_singleton ms m ih =>
    have hbase (u : Option Json) :
        Json.Members.get? key ((u.bind Json.members?).getD []) = u.bind (Json.get? key) := by
      rcases u with - | u
      · rfl
      · cases u <;> rfl
    rw [replay,List.foldl_concat,lastOf_concat,setProperty,Option.bind_some,Json.get?,Json.Members.get?_insert,hbase]
    split_ifs with h h' h'
    · rfl
    · exact absurd h.symm h'
    · exact absurd h'.symm h
    · exact ih

lemma replay_object (v : Option Json) {ms : List (String × Json)} (h : ms ≠ []) :
    ∃ fields, replay v ms = some (.object fields) := by
  rw [← List.dropLast_append_getLast h,replay,List.foldl_concat]
  exact ⟨_,rfl⟩

/-! What is built from typed calls. -/

/-- What typed calls can leave under a key. -/
inductive Holds : String → Json → Prop
  | name (s : String) : Holds "name" (.string s)
  | path (s : String) : Holds "path" (.string s)
  | referrer (s : String) : Holds "referrer" (.string s)
  | width {n : ℕ} (h : n < 0x100000000) : Holds "screen_width" (.int n)
  | properties (v : Json) : Holds "properties" v

lemma holds_apply {t : TrackInput} (h : ∀ key v, t.fields.get? key = some v → Holds key v) {c : Call}
    (hc : c.IsTyped) : ∀ key v, (t.apply c).fields.get? key = some v → Holds key v := by
  have hfield {u : TrackInput} (hu : ∀ key v, u.fields.get? key = some v → Holds key v) {name : String} {x : Json}
      (hx : Holds name x) : ∀ key v, (u.field name x).fields.get? key = some v → Holds key v := by
    intro key v hv
    rw [get?_insert_fields] at hv
    split_ifs at hv with hkey
    · obtain rfl := Option.some.inj hv
      exact hkey ▸ hx
    · exact hu key v hv
  cases hc with
  | pageView => exact fun key v hv => by cases hv
  | event name => exact hfield (fun key v hv => by cases hv) (.name name)
  | path text => exact hfield h (.path text)
  | referrer text => exact hfield h (.referrer text)
  | screenWidth hn => exact hfield h (.width hn)
  | properties v => exact hfield h (.properties v)
  | property name v => exact hfield h (.properties _)

lemma holds_ofCalls (h : ∀ c ∈ calls, c.IsTyped) :
    ∀ key v, (ofCalls calls).fields.get? key = some v → Holds key v := by
  induction calls using List.reverseRecOn with
  | nil => exact fun key v hv => by cases hv
  | append_singleton calls c ih =>
    rw [ofCalls_concat]
    exact holds_apply (ih fun c hc => h c (List.mem_append_left _ hc)) (h c (by simp))

/-- What typed calls leave is read as it is. -/
lemma read_of_holds {f : Field} {v : Json} (h : Holds f.key v) : f ≠ .duration ∧
    ∃ x, f.read v = some x ∧ f.Verbatim v x := by
  generalize hkey : f.key = key at h
  cases h with
  | @width n hn =>
    obtain rfl : f = .width := by cases f <;> simp [Field.key] at hkey ⊢
    have hcount : Payload.IsCount (.int n) n := .whole (by omega)
    exact ⟨by simp,n,Field.read_iff.mpr ⟨hcount,hn⟩,rfl⟩
  | properties v =>
    obtain rfl : f = .properties := by cases f <;> simp [Field.key] at hkey ⊢
    exact ⟨by simp,_,rfl,Payload.isWritten_iff.mp rfl⟩
  | name s | path s | referrer s =>
    cases f <;> simp [Field.key] at hkey
    exact ⟨by simp,s,rfl,rfl⟩

lemma value_ofCalls (h : ∀ c ∈ calls, c.IsTyped) (siteKey : String) (includeQuery : Bool) (a : Payload.Ambient)
    (f : Field) :
    (∀ v, written? f.key calls = some v →
      f.Verbatim v (f.value (Payload.build siteKey includeQuery a (some (ofCalls calls).toJson)))) ∧
    (written? f.key calls = none →
      f.value (Payload.build siteKey includeQuery a (some (ofCalls calls).toJson)) = f.ambient includeQuery a) := by
  have hgranted : f.granted? (some (ofCalls calls).toJson) = (written? f.key calls).bind f.read := by
    rw [← get?_ofCalls]
    rfl
  constructor
  · intro v hv
    obtain ⟨hf,x,hread,hx⟩ := read_of_holds (holds_ofCalls h f.key v ((get?_ofCalls ..).trans hv))
    rw [Payload.value_build hf,hgranted,hv,Option.bind_some,hread]
    exact hx
  · intro hnone
    rw [hnone,Option.bind_none] at hgranted
    by_cases hf : f = .duration
    · subst hf
      refine Payload.duration_build.trans ?_
      rw [hgranted]
      exact ite_self _
    · rw [Payload.value_build hf,hgranted]
      rfl

/-! Events. -/

lemma event_fields (name : String) (v : Json) :
    (ofCalls [.event name,.properties v]).toJson = .object [("name",.string name),("properties",v)] ∧
      Tracker.callOverrides (some name) (some v) = .object [("name",.string name),("properties",v)] := by
  have horder : Json.Members.precedes "properties" "name" = false := by decide
  constructor
  · simp [ofCalls,apply,TrackInput.event,TrackInput.pageView,field,toJson,Json.Members.insert,horder]
  · simp [Tracker.callOverrides,Json.Members.ofList,Json.Members.insert,horder]

/-- The last call that writes a key counts. An object of overrides is the one with what was last written under each
key; among its properties stands what was last set one by one, or what was written with them. Where typed calls have
written something the payload has it as it is, and elsewhere it has what the page has. And an event that is put
together does what it does as an object and by its name and properties. -/
theorem ofCalls_lastWritten :
    (∀ (calls : List Call) (fields : Json.Members), (ofCalls calls).toJson = .object fields ↔
      fields.Ordered ∧ ∀ key, fields.get? key = written? key calls) ∧
    (∀ v ms, (ms ≠ [] → ∃ fields, replay v ms = some (.object fields)) ∧
      ∀ key, (replay v ms).bind (Json.get? key) = (lastOf key ms).or (v.bind (Json.get? key))) ∧
    (∀ calls, (∀ c ∈ calls, Call.IsTyped c) → ∀ siteKey includeQuery a (f : Field),
      (∀ v, written? f.key calls = some v →
        f.Verbatim v (f.value (Payload.build siteKey includeQuery a (some (ofCalls calls).toJson)))) ∧
      (written? f.key calls = none →
        f.value (Payload.build siteKey includeQuery a (some (ofCalls calls).toJson)) = f.ambient includeQuery a)) ∧
    ∀ name v,
      (∀ (w : World) (id : TrackerId), w.track id (some (ofCalls [.event name,.properties v]).toJson) =
        w.track id (some (Tracker.callOverrides (some name) (some v)))) ∧
      ∀ (s : Session) (api : Option ℕ),
        s.perform (.trackInput api (.object [("name",.string name),("properties",v)])) =
          s.perform (.track api (some name) (some v)) ∧
        s.perform (.trackInput api (ofCalls [.event name,.properties v]).toJson) =
          s.perform (.track api (some name) (some v)) := by
  refine ⟨fun calls fields => ?_,fun v ms => ⟨replay_object v,get?_replay v ms⟩,fun calls h => value_ofCalls h,
    fun name v => ?_⟩
  · constructor
    · intro h
      cases h
      exact ⟨ordered_ofCalls calls,get?_ofCalls calls⟩
    · rintro ⟨hordered,hget⟩
      have hfields := (ordered_ofCalls calls).ext hordered fun key => (get?_ofCalls calls key).trans (hget key).symm
      exact congrArg Json.object hfields
  · obtain ⟨hcomposed,hcalled⟩ := event_fields name v
    rw [hcomposed]
    refine ⟨fun w id => by rw [hcalled],fun s api => ?_⟩
    have hperform : s.perform (.trackInput api (.object [("name",.string name),("properties",v)])) =
        s.perform (.track api (some name) (some v)) := by
      simp only [Session.perform,Tracker.inputOverrides,hcalled]
    exact ⟨hperform,hperform⟩

/-- Text, a property over it, and a path that is written twice. -/
def mixed : List Call :=
  [.event "e",.properties (.string "text"),.path "/p",.property "k" (.int 1),.property "k" (.int 2),.path "/q"]

theorem ofCalls_lastWritten_mixed : (∀ c ∈ mixed, c.IsTyped) ∧
    (Payload.build "k" false { width := 7 } (some (ofCalls mixed).toJson)).path = "/q" ∧
    (Payload.build "k" false { width := 7 } (some (ofCalls mixed).toJson)).screenWidth = 7 ∧
    written? "properties" mixed = some (.object [("k",.int 2)]) := by
  have htyped : ∀ c ∈ mixed, c.IsTyped := by
    simp only [mixed,List.forall_mem_cons]
    exact ⟨.event _,.properties _,.path _,.property _ _,.property _ _,.path _,by simp⟩
  obtain ⟨-,-,hbuilt,-⟩ := ofCalls_lastWritten
  have hpath := (hbuilt mixed htyped "k" false { width := 7 } .path).1 (.string "/q") rfl
  have hwidth := (hbuilt mixed htyped "k" false { width := 7 } .width).2 rfl
  exact ⟨htyped,(Json.string.inj hpath).symm,hwidth,rfl⟩

end TrackInput
end PageTelemetry
