import PageTelemetry.Proofs.Durations

/-! What a caller sets over a page. Each field of a payload is what the overrides hold under its key, if that is of the
type of the field, and what the page has otherwise. No field depends on another, but that a name leaves no duration. -/
namespace PageTelemetry.Payload

/-- The overrides are an object that holds a value under a key. -/
def Sets (overrides : Option Json) (key : String) (v : Json) : Prop :=
  ∃ fields, overrides = some (.object fields) ∧ Json.Members.get? key fields = some v

/-- A number that is read as a double: a literal with a fraction or an exponent, or an integer of more than 64 bits. -/
inductive IsDouble : Json → Binary64 → Prop
  | double (x : Binary64) : IsDouble (.double x) x
  | large {i : ℤ} (h : 0x10000000000000000 ≤ i) : IsDouble (.int i) (.ofInt i)

/-- A count is an integer of 64 bits without a sign, or a finite double that is not negative, rounded half up and clamped
to 64 bits. -/
inductive IsCount : Json → ℕ → Prop
  | whole {n : ℕ} (h : n < 0x10000000000000000) : IsCount (.int n) n
  | rounded {v : Json} {x : Binary64} {q : ℚ} (hv : IsDouble v x) (hx : x.value? = some q) (hq : 0 ≤ q) :
    IsCount v (min ⌊q+1/2⌋₊ 0xffffffffffffffff)

/-- The text of a value. -/
inductive IsWritten : Json → String → Prop
  | null : IsWritten .null ""
  | text (s : String) : IsWritten (.string s) s
  | other {v : Json} (hnull : v ≠ .null) (htext : ∀ s, v ≠ .string s) : IsWritten v v.render

/-- The fields that a caller may set. -/
inductive Field
  | name | path | title | properties | referrer | width | duration | source | medium | campaign

namespace Field

abbrev Value : Field → Type
  | width | duration => ℕ
  | name | path | title | properties | referrer | source | medium | campaign => String

def key : Field → String
  | name => "name"
  | path => "path"
  | title => "title"
  | properties => "properties"
  | referrer => "referrer"
  | width => "screen_width"
  | duration => "duration"
  | source => "utm_source"
  | medium => "utm_medium"
  | campaign => "utm_campaign"

/-- A value is of the type of a field, and this is what it sets the field to. -/
def Accepts : (f : Field) → Json → f.Value → Prop
  | width => fun v n => IsCount v n ∧ n < 0x100000000
  | duration => IsCount
  | properties => IsWritten
  | name | path | title | referrer | source | medium | campaign => fun v s => v = .string s

/-- What a field is on a page as it stands. -/
def ambient (includeQuery : Bool) (a : Ambient) : (f : Field) → f.Value
  | name | properties => ""
  | path => Location.path a.href includeQuery
  | title => a.title
  | referrer => Location.normalizeReferrer a.referrer a.href
  | width => a.width
  | duration => (0 : ℕ)
  | source => (Campaign.ofHref a.href).source
  | medium => (Campaign.ofHref a.href).medium
  | campaign => (Campaign.ofHref a.href).campaign

def value (p : Payload) : (f : Field) → f.Value
  | name => p.name
  | path => p.path
  | title => p.title
  | properties => p.properties
  | referrer => p.referrer
  | width => p.screenWidth
  | duration => p.duration
  | source => p.campaign.source
  | medium => p.campaign.medium
  | campaign => p.campaign.campaign

/-- The overrides set a field. -/
def Grants (f : Field) (overrides : Option Json) (x : f.Value) : Prop := ∃ v, Sets overrides f.key v ∧ f.Accepts v x

/-- A field is what the overrides set it to, or else what it is anyway. -/
def Chosen (f : Field) (overrides : Option Json) (anyway x : f.Value) : Prop :=
  f.Grants overrides x ∨ (∀ y, ¬f.Grants overrides y) ∧ x = anyway

end Field

/-- The payload of a page with overrides. -/
structure Overridden (siteKey : String) (includeQuery : Bool) (a : Ambient) (overrides : Option Json) (p : Payload) :
    Prop where
  siteKey : p.siteKey = siteKey
  chosen : ∀ f : Field, f ≠ .duration → f.Chosen overrides (f.ambient includeQuery a) (f.value p)
  unnamed : p.name = "" → Field.duration.Chosen overrides (0 : ℕ) p.duration
  named : p.name ≠ "" → p.duration = 0

variable {siteKey : String} {includeQuery : Bool} {a : Ambient} {overrides overrides' : Option Json} {p : Payload}
  {key : String} {v : Json} {f : Field}

/-! What is accepted is what is read. -/

lemma sets_iff : Sets overrides key v ↔ Json.Members.get? key (overriding overrides) = some v := by
  unfold Sets overriding
  constructor
  · rintro ⟨fields,rfl,hv⟩
    exact hv
  · intro hv
    cases overrides with
    | none => cases hv
    | some o =>
      cases o with
      | object fields => exact ⟨fields,rfl,hv⟩
      | _ => cases hv

/-- What is no integer of 64 bits is read as a double. -/
lemma number?_eq_some {x : Binary64} (hx : v.number? = some x) (hnat : v.nat64? = none) :
    IsDouble v x ∨ x.isNonneg = false := by
  cases v with
  | int i =>
    obtain rfl := Option.some.inj hx
    rw [Json.nat64?] at hnat
    split_ifs at hnat with hrange
    rcases lt_or_ge i 0 with hi | hi
    · exact .inr (Binary64.isNonneg_ofInt hi)
    · exact .inl (.large (by omega))
  | double y =>
    obtain rfl := Option.some.inj hx
    exact .inl (.double y)
  | _ => cases hx

lemma IsDouble.read {x : Binary64} (h : IsDouble v x) : v.nat64? = none ∧ v.number? = some x := by
  cases h with
  | double x => exact ⟨rfl,rfl⟩
  | large h => exact ⟨if_neg (by omega),rfl⟩

/-- What a double counts. -/
def countOf? (x : Binary64) : Option ℕ :=
  if x.isNonneg then x.round?.map fun i => min i.toNat 0xffffffffffffffff else none

lemma countOf?_iff {x : Binary64} {n : ℕ} : countOf? x = some n ↔
    ∃ q, x.value? = some q ∧ 0 ≤ q ∧ n = min ⌊q+1/2⌋₊ 0xffffffffffffffff := by
  unfold countOf?
  cases hx : x.value? with
  | none => simp [Binary64.round?_eq_none hx]
  | some q =>
    rw [if_congr (Binary64.isNonneg_iff hx) rfl rfl]
    split_ifs with hq
    · obtain ⟨i,hround,hi⟩ := Binary64.round?_eq hx hq
      simp [hround,hi,hq,eq_comm]
    · simp [hq]

lemma nat64?_iff {n : ℕ} : v.nat64? = some n ↔ v = .int n ∧ n < 0x10000000000000000 := by
  cases v with
  | int i =>
    rw [Json.nat64?]
    split_ifs with hrange
    · simp only [Option.some.injEq,Json.int.injEq]
      omega
    · simp only [false_iff,Json.int.injEq]
      omega
  | _ => simp [Json.nat64?]

lemma count?_double {x : Binary64} (hnat : v.nat64? = none) (hx : v.number? = some x) : count? v = countOf? x := by
  rw [count?,hnat,hx]
  rfl

/-- What is counted is what is a count. -/
theorem count?_iff {n : ℕ} : count? v = some n ↔ IsCount v n := by
  constructor
  · intro h
    cases hnat : v.nat64? with
    | some k =>
      rw [count?,hnat] at h
      obtain rfl := Option.some.inj h
      obtain ⟨rfl,hlt⟩ := nat64?_iff.mp hnat
      exact .whole hlt
    | none =>
      cases hx : v.number? with
      | none =>
        rw [count?,hnat,hx] at h
        cases h
      | some x =>
        rw [count?_double hnat hx] at h
        rcases number?_eq_some hx hnat with hdouble | hnegative
        · obtain ⟨q,hq,hnonneg,rfl⟩ := countOf?_iff.mp h
          exact .rounded hdouble hq hnonneg
        · rw [countOf?,hnegative] at h
          cases h
  · rintro (hlt | ⟨hdouble,hq,hnonneg⟩)
    · rw [count?,nat64?_iff.mpr ⟨rfl,hlt⟩]
    · obtain ⟨hnat,hx⟩ := hdouble.read
      rw [count?_double hnat hx]
      exact countOf?_iff.mpr ⟨_,hq,hnonneg,rfl⟩

lemma isWritten_iff {s : String} : propertiesText (some v) = s ↔ IsWritten v s := by
  constructor
  · rintro rfl
    cases v with
    | null => exact .null
    | string s => exact .text s
    | _ => exact .other (by simp) (by simp)
  · intro h
    cases h with
    | null | text => rfl
    | other hnull htext =>
      cases v with
      | null => exact absurd rfl hnull
      | string s => exact absurd rfl (htext s)
      | _ => rfl

namespace Field

/-- What a value sets a field to. -/
def read : (f : Field) → Json → Option f.Value
  | width => fun v => (count? v).filter (· < 0x100000000)
  | duration => count?
  | properties => fun v => some (propertiesText (some v))
  | name | path | title | referrer | source | medium | campaign => Json.string?

lemma read_iff {x : f.Value} : f.read v = some x ↔ f.Accepts v x := by
  have hstring {s : String} : v.string? = some s ↔ v = .string s := by
    cases v <;> simp [Json.string?]
  cases f with
  | width =>
    change (count? v).filter _ = some x ↔ IsCount v x ∧ _
    rw [Option.filter_eq_some_iff,count?_iff]
    simp
  | duration => exact count?_iff
  | properties => exact Option.some_inj.trans isWritten_iff
  | name | path | title | referrer | source | medium | campaign => exact hstring

/-- What the overrides set a field to, if they do. -/
def granted? (f : Field) (overrides : Option Json) : Option f.Value :=
  (Json.Members.get? f.key (overriding overrides)).bind f.read

lemma grants_iff {x : f.Value} : f.Grants overrides x ↔ f.granted? overrides = some x := by
  simp only [Grants,granted?,Option.bind_eq_some_iff,sets_iff,read_iff]

lemma chosen_iff {anyway x : f.Value} :
    f.Chosen overrides anyway x ↔ x = (f.granted? overrides).getD anyway := by
  simp only [Chosen,grants_iff]
  cases f.granted? overrides with
  | none => simp
  | some y => simp [eq_comm]

end Field

/-! What is built. -/

lemma width?_eq (fields : Json.Members) :
    width? fields = (Json.Members.get? "screen_width" fields).bind Field.width.read := by
  unfold width? countField?
  cases Json.Members.get? "screen_width" fields with
  | none => rfl
  | some v =>
    rw [Option.bind_some]
    change _ = (count? v).filter _
    cases count? v with
    | none => rfl
    | some n => simp [Option.filter_some]

/-- Every field that is built but the duration is what it is set to, or what the page has. -/
lemma value_build (hf : f ≠ .duration) : f.value (build siteKey includeQuery a overrides) =
    (f.granted? overrides).getD (f.ambient includeQuery a) := by
  cases f with
  | duration => exact absurd rfl hf
  | properties =>
    change propertiesText (Json.Members.get? "properties" (overriding overrides)) =
      ((Json.Members.get? "properties" (overriding overrides)).bind _).getD ""
    cases Json.Members.get? "properties" (overriding overrides) <;> rfl
  | width =>
    change (width? (overriding overrides)).getD a.width = _
    rw [width?_eq]
    rfl
  | name | path | title | referrer | source | medium | campaign => rfl

/-- A name leaves no duration. -/
lemma duration_build : (build siteKey includeQuery a overrides).duration =
    if (build siteKey includeQuery a overrides).name = "" then (Field.duration.granted? overrides).getD (0 : ℕ)
    else 0 := rfl

lemma overridden_build : Overridden siteKey includeQuery a overrides (build siteKey includeQuery a overrides) where
  siteKey := rfl
  chosen := fun _ hf => Field.chosen_iff.mpr (value_build hf)
  unnamed := fun hname => Field.chosen_iff.mpr (by rw [duration_build,if_pos hname])
  named := build_event

/-- A payload is its site key and its fields. -/
lemma eq_of_fields {p p' : Payload} (hkey : p.siteKey = p'.siteKey) (h : ∀ f : Field, f.value p = f.value p') :
    p = p' := by
  obtain ⟨siteKey,name,path,title,properties,referrer,width,duration,source,medium,campaign⟩ := p
  obtain ⟨siteKey',name',path',title',properties',referrer',width',duration',source',medium',campaign'⟩ := p'
  obtain rfl : siteKey = siteKey' := hkey
  obtain rfl : name = name' := h .name
  obtain rfl : path = path' := h .path
  obtain rfl : title = title' := h .title
  obtain rfl : properties = properties' := h .properties
  obtain rfl : referrer = referrer' := h .referrer
  obtain rfl : width = width' := h .width
  obtain rfl : duration = duration' := h .duration
  obtain rfl : source = source' := h .source
  obtain rfl : medium = medium' := h .medium
  obtain rfl : campaign = campaign' := h .campaign
  rfl

/-- There is but one payload of a page with overrides. -/
lemma Overridden.unique {p p' : Payload} (h : Overridden siteKey includeQuery a overrides p)
    (h' : Overridden siteKey includeQuery a overrides p') : p = p' := by
  have hchosen (f : Field) (hf : f ≠ .duration) : f.value p = f.value p' :=
    (Field.chosen_iff.mp (h.chosen f hf)).trans (Field.chosen_iff.mp (h'.chosen f hf)).symm
  have hname : p.name = p'.name := hchosen .name (by simp)
  refine eq_of_fields (h.siteKey.trans h'.siteKey.symm) fun f => ?_
  by_cases hf : f = .duration
  · subst hf
    change p.duration = p'.duration
    by_cases hempty : p.name = ""
    · have hempty' : p'.name = "" := hname ▸ hempty
      exact (Field.chosen_iff.mp (h.unnamed hempty)).trans (Field.chosen_iff.mp (h'.unnamed hempty')).symm
    · rw [h.named hempty,h'.named (hname ▸ hempty)]
  · exact hchosen f hf

/-- Overrides that set a field alike leave it alike, whatever else they set, as long as its duration has a name in both
or in none. -/
lemma value_frame (hf : f = .duration → ((build siteKey includeQuery a overrides).name = "" ↔
      (build siteKey includeQuery a overrides').name = ""))
    (h : ∀ x, f.Grants overrides x ↔ f.Grants overrides' x) :
    f.value (build siteKey includeQuery a overrides) = f.value (build siteKey includeQuery a overrides') := by
  have hgranted : f.granted? overrides = f.granted? overrides' :=
    Option.ext fun x => by simpa only [Option.mem_def,Field.grants_iff] using h x
  by_cases hduration : f = .duration
  · subst hduration
    change (build ..).duration = (build ..).duration
    rw [duration_build,duration_build,hgranted,if_congr (hf rfl) rfl rfl]
  · rw [value_build hduration,value_build hduration,hgranted]

/-- What is built is the payload of the page with the overrides and no other, and no field of it depends on how another
is set, but a duration on there being a name. -/
theorem build_overridden (siteKey : String) (includeQuery : Bool) (a : Ambient) (overrides : Option Json) :
    (∀ p, p = build siteKey includeQuery a overrides ↔ Overridden siteKey includeQuery a overrides p) ∧
    ∀ (f : Field) (overrides' : Option Json),
      (f = .duration → ((build siteKey includeQuery a overrides).name = "" ↔
        (build siteKey includeQuery a overrides').name = "")) →
      (∀ x, f.Grants overrides x ↔ f.Grants overrides' x) →
      f.value (build siteKey includeQuery a overrides) = f.value (build siteKey includeQuery a overrides') := by
  constructor
  · intro p
    constructor
    · rintro rfl
      exact overridden_build
    · exact fun h => h.unique overridden_build
  · exact fun _ _ => value_frame

/-- Two seconds and a half, with something else that is no name. -/
def unnamed : Json := .object [("duration",.double (.finite false 5 (-1))),("name",.int 5)]

/-- The half goes up, and the name that is none might as well be missing. -/
theorem build_overridden_unnamed : Overridden "k" false {} (some unnamed) (build "k" false {} (some unnamed)) ∧
    (build "k" false {} (some unnamed)).duration = 3 ∧
    Field.duration.value (build "k" false {} (some unnamed)) =
      Field.duration.value (build "k" false {} (some (.object [("duration",.int 3)]))) := by
  obtain ⟨hbuild,hframe⟩ := build_overridden "k" false {} (some unnamed)
  refine ⟨(hbuild _).mp rfl,by decide +kernel,hframe .duration _ (fun _ => ?_) fun x => ?_⟩
  · exact iff_of_true (by decide +kernel) (by decide +kernel)
  · rw [Field.grants_iff,Field.grants_iff]
    have hgranted : Field.duration.granted? (some unnamed) =
        Field.duration.granted? (some (.object [("duration",.int 3)])) := by decide +kernel
    rw [hgranted]

end PageTelemetry.Payload
