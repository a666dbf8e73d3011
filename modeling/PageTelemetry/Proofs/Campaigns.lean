import Mathlib.Tactic
import PageTelemetry.Location

/-! Which values of a query make the campaign. A slot that holds nothing yet cannot be told from one that holds the
empty text, so each parameter is the first of its values that is not empty. -/
namespace PageTelemetry.Campaign

/-- What a query can say of a campaign. -/
inductive Parameter
  | source | medium | campaign
  deriving DecidableEq

namespace Parameter

def key : Parameter → String
  | source => "utm_source"
  | medium => "utm_medium"
  | campaign => "utm_campaign"

def value (c : Campaign) : Parameter → String
  | source => c.source
  | medium => c.medium
  | campaign => c.campaign

def set (c : Campaign) (text : String) : Parameter → Campaign
  | source => { c with source := text }
  | medium => { c with medium := text }
  | campaign => { c with campaign := text }

/-- The values of a parameter in query pairs, in their order. -/
def values (p : Parameter) (pairs : List (List Char × List Char)) : List String :=
  (pairs.filter fun pair => pair.1 = p.key.toList).map fun pair => String.ofList pair.2

lemma value_set (c : Campaign) (text : String) (p q : Parameter) :
    p.value (q.set c text) = if p = q then text else p.value c := by
  cases p <;> cases q <;> rfl

lemma key_injective : Function.Injective fun p : Parameter => p.key.toList := by
  intro p q h
  cases p <;> cases q <;> first | rfl | exact absurd h (by decide)

lemma values_cons (p : Parameter) (pair : List Char × List Char) (pairs : List (List Char × List Char)) :
    p.values (pair::pairs) =
      if pair.1 = p.key.toList then String.ofList pair.2::p.values pairs else p.values pairs := by
  unfold values
  split_ifs with h
  · rw [List.filter_cons_of_pos (by simpa using h),List.map_cons]
  · rw [List.filter_cons_of_neg (by simpa using h)]

end Parameter

open Parameter
variable {c : Campaign} {p q : Parameter} {pair : List Char × List Char} {u : Url} {href : String}

/-- A slot that holds something keeps it. -/
def fill (c : Campaign) (text : String) (q : Parameter) : Campaign := if (q.value c).isEmpty then q.set c text else c

lemma note_eq (c : Campaign) (pair : List Char × List Char) : c.note pair =
    if pair.1 = Parameter.source.key.toList then c.fill (String.ofList pair.2) .source
    else if pair.1 = Parameter.medium.key.toList then c.fill (String.ofList pair.2) .medium
    else if pair.1 = Parameter.campaign.key.toList then c.fill (String.ofList pair.2) .campaign
    else c := rfl

/-- A pair with the key of a parameter fills the slot of that. -/
lemma note_of_key (h : pair.1 = q.key.toList) : c.note pair = c.fill (String.ofList pair.2) q := by
  have hne {r : Parameter} (hr : r ≠ q) : pair.1 ≠ r.key.toList := fun heq => hr (key_injective (heq.symm.trans h))
  rw [note_eq]
  cases q with
  | source => exact if_pos h
  | medium => rw [if_neg (hne (by decide)),if_pos h]
  | campaign => rw [if_neg (hne (by decide)),if_neg (hne (by decide)),if_pos h]

/-- A pair with any other key is passed over. -/
lemma note_of_other (h : ∀ q : Parameter, pair.1 ≠ q.key.toList) : c.note pair = c := by
  rw [note_eq,if_neg (h .source),if_neg (h .medium),if_neg (h .campaign)]

lemma value_fill (c : Campaign) (text : String) (p q : Parameter) :
    p.value (c.fill text q) = if p = q ∧ p.value c = "" then text else p.value c := by
  unfold fill
  by_cases hpq : p = q
  · subst hpq
    simp only [String.isEmpty_iff,apply_ite p.value,value_set,if_true,true_and]
  · simp only [apply_ite p.value,value_set,hpq,if_false,false_and,ite_self]

/-- Of a pair that is taken in, a parameter takes notice if it has its key, and while its slot is empty. -/
lemma value_note (c : Campaign) (p : Parameter) (pair : List Char × List Char) : p.value (c.note pair) =
    if pair.1 = p.key.toList ∧ p.value c = "" then String.ofList pair.2 else p.value c := by
  by_cases hkey : ∃ q : Parameter, pair.1 = q.key.toList
  · obtain ⟨q,hq⟩ := hkey
    have heq : pair.1 = p.key.toList ↔ p = q :=
      ⟨fun h => key_injective (h.symm.trans hq),fun h => by rw [hq,h]⟩
    simp only [note_of_key hq,value_fill,heq]
  · push Not at hkey
    rw [note_of_other hkey,if_neg fun h => hkey p h.1]

/-- All pairs taken in one after the other, by induction on them with the slots that are already filled. -/
theorem value_foldl (c : Campaign) (p : Parameter) (pairs : List (List Char × List Char)) :
    p.value (pairs.foldl note c) =
      if p.value c = "" then ((p.values pairs).find? (· ≠ "")).getD "" else p.value c := by
  induction pairs generalizing c with
  | nil => simp [values]
  | cons pair pairs ih =>
    rw [List.foldl_cons,ih,value_note,values_cons]
    by_cases hkey : pair.1 = p.key.toList
    · by_cases hempty : p.value c = ""
      · by_cases hvalue : String.ofList pair.2 = "" <;> simp [hkey,hempty,hvalue]
      · simp [hkey,hempty]
    · simp [hkey]

lemma find?_eq_empty_iff (values : List String) : (values.find? (· ≠ "")).getD "" = "" ↔ ∀ v ∈ values, v = "" := by
  cases hfound : values.find? (· ≠ "") with
  | none => simpa using hfound
  | some v =>
    have hv : v ≠ "" := by simpa using List.find?_some hfound
    simp only [Option.getD_some,hv,false_iff,not_forall]
    exact ⟨v,List.mem_of_find?_eq_some hfound,hv⟩

/-- The first value is the first that is not empty, unless it is empty itself and another one is not. -/
lemma find?_eq_head?_iff (values : List String) : (values.find? (· ≠ "")).getD "" = values.head?.getD "" ↔
    (values.head? = some "" → ∀ v ∈ values, v = "") := by
  cases values with
  | nil => simp
  | cons v values =>
    by_cases hv : v = ""
    · subst hv
      simpa using find?_eq_empty_iff values
    · simp [hv]

/-- Each parameter of the campaign of a location is the first of its decoded values in the query that is not empty, and
empty if there is none; no other pair counts. So it is the first of its values, empty or not, unless that one is empty
and another is not. -/
theorem value_ofHref (h : Location.read? href = some u) (p : Parameter) :
    p.value (ofHref href) = ((p.values u.queryPairs).find? (· ≠ "")).getD "" ∧
    (p.value (ofHref href) = (p.values u.queryPairs).head?.getD "" ↔
      ((p.values u.queryPairs).head? = some "" → ∀ v ∈ p.values u.queryPairs, v = "")) := by
  have hvalue : p.value (ofHref href) = ((p.values u.queryPairs).find? (· ≠ "")).getD "" := by
    rw [ofHref,h]
    dsimp only
    rw [ofPairs,value_foldl,if_pos (by cases p <;> rfl)]
  exact ⟨hvalue,by rw [hvalue]; exact find?_eq_head?_iff _⟩

/-- A newsletter that names its source twice, and no medium but an empty one. -/
def newsletter : String := "https://a.io/?utm_source=news&utm_campaign=spring%20sale&utm_source=other&utm_medium="

theorem value_ofHref_newsletter : Parameter.source.value (ofHref newsletter) = "news" ∧
    Parameter.medium.value (ofHref newsletter) = "" ∧
    Parameter.campaign.value (ofHref newsletter) = "spring sale" := by
  obtain ⟨u,hu,hpairs⟩ : ∃ u, Location.read? newsletter = some u ∧
      u.queryPairs = [("utm_source".toList,"news".toList),("utm_campaign".toList,"spring sale".toList),
        ("utm_source".toList,"other".toList),("utm_medium".toList,[])] :=
    ⟨_,rfl,by decide +kernel⟩
  have hvalue (p : Parameter) := value_ofHref hu p
  simp only [hpairs] at hvalue
  exact ⟨(hvalue .source).1.trans (by decide),(hvalue .medium).2.mpr (by decide),(hvalue .campaign).1.trans (by decide)⟩

/-- An empty source gives way to one that comes later. -/
theorem value_ofHref_later : (Location.read? "https://a.io/?utm_source=&utm_source=other").map
      (fun u => Parameter.source.values u.queryPairs) = some ["","other"] ∧
    Parameter.source.value (ofHref "https://a.io/?utm_source=&utm_source=other") = "other" := by
  decide +kernel

end PageTelemetry.Campaign
