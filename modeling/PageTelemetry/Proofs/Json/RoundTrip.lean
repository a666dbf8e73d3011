import PageTelemetry.Json.Parser
import PageTelemetry.Json.Printer
import PageTelemetry.Proofs.Url.Address

/-! Written JSON is read back. A value without doubles, with integers of 64 bits and not nested too deep, is read from
its own text, with the members of its objects in the order of their names. -/
namespace PageTelemetry.Json
open Text

/-! Strings. -/

/-- A control character is read from its number. -/
lemma hexQuad?_control : ∀ n < 0x20, hexQuad? '0' '0' (hexDigit (n/16)) (hexDigit (n%16)) = some n := by
  decide +kernel

lemma readString_plain {c : Char} (hquote : c ≠ '"') (hslash : c ≠ '\\') (hlarge : 0x20 ≤ c.toNat)
    (rest : List Char) : readString (c::rest) = (readString rest).map fun (cs,r) => (c::cs,r) := by
  rw [readString]
  · rw [if_neg (by simp only [hslash,or_false]; omega)]
  · exact hquote
  · exact fun _ _ _ _ _ h _ => hslash h
  · exact fun _ _ h _ => hslash h

/-- A character is read from its escape. -/
lemma readString_escape (c : Char) (rest : List Char) :
    readString (escape c ++ rest) = (readString rest).map fun (cs,r) => (c::cs,r) := by
  unfold escape
  split_ifs with h₁ h₂ h₃ h₄ h₅ h₆ h₇ hcontrol
  iterate 7 (subst c; simp [readString,unescape?])
  · have hhigh : isHighSurrogate c.toNat = false := by simp only [isHighSurrogate]; simp; omega
    have hlow : isLowSurrogate c.toNat = false := by simp only [isLowSurrogate]; simp; omega
    simp only [List.cons_append,List.nil_append,readString,hexQuad?_control c.toNat hcontrol,hhigh,hlow,
      Char.ofNat_toNat]
    rfl
  · exact readString_plain h₁ h₂ (by omega) rest

lemma readString_quoted (cs rest : List Char) : readString (cs.flatMap escape ++ '"'::rest) = some (cs,rest) := by
  induction cs with
  | nil => simp [readString]
  | cons c cs ih =>
    rw [List.flatMap_cons,List.append_assoc,readString_escape,ih]
    rfl

/-! Integers. -/

/-- What may follow a value inside a text. -/
def Ends (rest : List Char) : Prop := ∀ c ∈ rest.head?, c = ',' ∨ c = ']' ∨ c = '\x7d'

lemma ends_nil : Ends [] := fun _ h => by cases h

lemma Ends.not {P : Char → Prop} {rest : List Char} (h : Ends rest) (hP : ¬P ',' ∧ ¬P ']' ∧ ¬P '\x7d') :
    ∀ c ∈ rest.head?, ¬P c := by
  intro c hc
  rcases h c hc with rfl | rfl | rfl
  · exact hP.1
  · exact hP.2.1
  · exact hP.2.2

lemma digits_of_toDigits (n : ℕ) : ∀ c ∈ Nat.toDigits 10 n, c.isDigit = true :=
  mem_toDigits (P := fun c => c.isDigit = true) (by decide) (by decide)

/-- Only zero is written with a zero in front. -/
lemma head_toDigits {n : ℕ} (hn : 0 < n) : (Nat.toDigits 10 n).head? ≠ some '0' := by
  induction n using Nat.strong_induction_on with
  | _ n ih =>
    rw [Nat.toDigits_eq_if (by decide)]
    split_ifs with hsmall
    · have hall : ∀ d < 10, 0 < d → [Nat.digitChar d].head? ≠ some '0' := by decide
      exact hall n hsmall hn
    · rw [List.head?_append_of_ne_nil _ (by simp)]
      exact ih (n/10) (by omega) (by omega)

lemma toDigits_split {rest : List Char} (hrest : Ends rest) (n : ℕ) :
    (Nat.toDigits 10 n ++ rest).takeWhile Char.isDigit = Nat.toDigits 10 n ∧
    (Nat.toDigits 10 n ++ rest).dropWhile Char.isDigit = rest := by
  have hfree : Free (fun c => !c.isDigit) (Nat.toDigits 10 n) := fun c hc => by simp [digits_of_toDigits n c hc]
  have hhead : ∀ c ∈ rest.head?, (!c.isDigit) = true := by
    intro c hc
    have := hrest.not (P := fun c => c.isDigit = true) (by decide) c hc
    simpa using this
  have htake := takeWhile_free hfree hhead
  have hdrop := dropWhile_free hfree hhead
  simp only [Bool.not_not] at htake hdrop
  exact ⟨htake,hdrop⟩

namespace Number

lemma readWhole_toDigits {rest : List Char} (hrest : Ends rest) (n : ℕ) :
    readWhole (Nat.toDigits 10 n ++ rest) = some (Nat.toDigits 10 n,rest) := by
  obtain ⟨htake,hdrop⟩ := toDigits_split hrest n
  unfold readWhole
  rw [htake,hdrop]
  split
  · rename_i hnil
    simp at hnil
  · rename_i c tail hcons
    rcases Nat.eq_zero_or_pos n with rfl | hn
    · simp at hcons
    · exact absurd (by rw [hcons]; rfl) (head_toDigits hn)
  · rfl

lemma readExponent_ends {rest : List Char} (hrest : Ends rest) : readExponent rest = some (none,rest) := by
  have hhead := hrest.not (P := fun c => c = 'e' ∨ c = 'E') (by decide)
  unfold readExponent
  split
  · exact absurd (.inl rfl) (hhead 'e' rfl)
  · exact absurd (.inr rfl) (hhead 'E' rfl)
  · rfl

lemma readUnsigned_toDigits {rest : List Char} (hrest : Ends rest) (negative : Bool) (n : ℕ) :
    readUnsigned negative (Nat.toDigits 10 n ++ rest) =
      (ofWhole? negative (Nat.toDigits 10 n)).map fun v => (v,rest) := by
  have hpoint := hrest.not (P := (· = '.')) (by decide)
  unfold readUnsigned
  rw [readWhole_toDigits hrest]
  split
  · rename_i heq
    cases heq
  · rename_i heq
    obtain ⟨-,rfl⟩ := Prod.mk.inj (Option.some.inj heq)
    exact absurd rfl (hpoint '.' rfl)
  · rename_i heq
    obtain ⟨rfl,rfl⟩ := Prod.mk.inj (Option.some.inj heq)
    rw [readExponent_ends hrest]
    cases ofWhole? negative (Nat.toDigits 10 n) <;> rfl

/-- An integer of 64 bits is read back as it was written. -/
lemma read_ofInt {i : ℤ} (hlow : -0x8000000000000000 ≤ i) (hhigh : i < 0x10000000000000000) {rest : List Char}
    (hrest : Ends rest) : read (ofInt i ++ rest) = some (.int i,rest) := by
  unfold ofInt
  split_ifs with hsign
  · have hvalue : ofWhole? true (Nat.toDigits 10 i.natAbs) = some (.int i) := by
      have hfits : fits i.natAbs = true := by simp only [fits,decide_eq_true_eq]; omega
      simp only [ofWhole?,ofDecimal_toDigits,hfits]
      rw [if_pos trivial,if_neg (by simp; omega)]
      congr 2
      omega
    rw [List.cons_append,read,readUnsigned_toDigits hrest,hvalue]
    rfl
  · have hvalue : ofWhole? false (Nat.toDigits 10 i.natAbs) = some (.int i) := by
      have hfits : fits i.natAbs = true := by simp only [fits,decide_eq_true_eq]; omega
      simp only [ofWhole?,ofDecimal_toDigits,hfits,if_true,Bool.false_eq_true,if_false]
      congr 2
      omega
    obtain ⟨c,tail,hcons⟩ := List.exists_cons_of_ne_nil (show Nat.toDigits 10 i.natAbs ≠ [] by simp)
    have hdigit : c.isDigit = true := digits_of_toDigits i.natAbs c (by simp [hcons])
    have hread : read (Nat.toDigits 10 i.natAbs ++ rest) = readUnsigned false (Nat.toDigits 10 i.natAbs ++ rest) := by
      rw [hcons,List.cons_append,read]
      rintro tail' heq
      obtain ⟨rfl,-⟩ := List.cons.inj heq
      cases hdigit
    rw [hread,readUnsigned_toDigits hrest,hvalue]
    rfl

end Number

/-! Values. -/

mutual

/-- A value as it is read: the members of objects in the order of their names, of each name the last. -/
def sorted : Json → Json
  | .array items => .array (sortedItems items)
  | .object ms => .object (Members.ofList (sortedMembers ms))
  | v => v

def sortedItems : List Json → List Json
  | [] => []
  | v::vs => sorted v::sortedItems vs

def sortedMembers : List (String × Json) → List (String × Json)
  | [] => []
  | (name,v)::ms => (name,sorted v)::sortedMembers ms

end

/-- A value that its text does not change: nested no deeper than so, without doubles, and with integers of 64 bits. -/
inductive IsExact : ℕ → Json → Prop
  | null (depth : ℕ) : IsExact depth .null
  | bool (depth : ℕ) (b : Bool) : IsExact depth (.bool b)
  | int (depth : ℕ) {i : ℤ} (hlow : -0x8000000000000000 ≤ i) (hhigh : i < 0x10000000000000000) :
    IsExact depth (.int i)
  | string (depth : ℕ) (s : String) : IsExact depth (.string s)
  | array {depth : ℕ} {items : List Json} (h : ∀ v ∈ items, IsExact depth v) : IsExact (depth+1) (.array items)
  | object {depth : ℕ} {ms : List (String × Json)} (h : ∀ m ∈ ms, IsExact depth m.2) :
    IsExact (depth+1) (.object ms)

/-- The text of a value is read back in front of whatever may follow it. -/
def ReadsBack (depth : ℕ) (v : Json) : Prop := ∀ ⦃fuel limit : ℕ⦄ ⦃rest : List Char⦄, depth ≤ limit →
  2*(write v).length ≤ fuel → Ends rest → readValue fuel limit (write v ++ rest) = some (sorted v,rest)

lemma ends_writeItems (vs : List Json) (rest : List Char) : Ends (writeItems vs ++ rest) := by
  cases vs <;> simp [Ends,writeItems]

lemma ends_writeMembers (ms : List (String × Json)) (rest : List Char) : Ends (writeMembers ms ++ rest) := by
  obtain _ | ⟨⟨name,v⟩,ms⟩ := ms <;> simp [Ends,writeMembers]

/-- Items are read one after the other, by induction on them. -/
lemma readItems_write {depth fuel limit : ℕ} {v : Json} {vs : List Json} {rest : List Char}
    (h : ∀ x ∈ v::vs, ReadsBack depth x) (hlimit : depth ≤ limit)
    (hfuel : 2*((write v).length + (writeItems vs).length) ≤ fuel) :
    readItems fuel limit (write v ++ (writeItems vs ++ rest)) = some (sortedItems (v::vs),rest) := by
  induction vs generalizing v fuel with
  | nil =>
    obtain ⟨fuel,rfl⟩ : ∃ n, fuel = n+1 := ⟨fuel-1,by simp [writeItems] at hfuel; omega⟩
    simp only [writeItems,List.length_singleton] at hfuel
    rw [readItems,h v List.mem_cons_self hlimit (by omega) (ends_writeItems [] rest)]
    simp [writeItems,skipSpace,isSpace,sortedItems]
  | cons x vs ih =>
    simp only [writeItems,List.length_cons,List.length_append] at hfuel
    obtain ⟨fuel,rfl⟩ : ∃ n, fuel = n+1 := ⟨fuel-1,by omega⟩
    have hv := h v List.mem_cons_self hlimit (by omega : 2*(write v).length ≤ fuel) (ends_writeItems (x::vs) rest)
    have hvs : readItems fuel limit (write x ++ (writeItems vs ++ rest)) = some (sortedItems (x::vs),rest) :=
      ih (fun y hy => h y (List.mem_cons_of_mem v hy)) (by omega)
    rw [readItems,hv]
    simp [writeItems,skipSpace,isSpace,sortedItems,hvs]

/-- Sets members one after the other, each as it is read. -/
def insertAll (acc : Members) (ms : List (String × Json)) : Members :=
  (sortedMembers ms).foldl (fun acc (name,v) => Members.insert name v acc) acc

lemma skipSpace_cons {c : Char} (hc : isSpace c = false) (rest : List Char) : skipSpace (c::rest) = c::rest := by
  simp [skipSpace,hc]

/-- A member whose value is read is set, and a comma leads to more of them. -/
lemma readMembers_more {fuel limit : ℕ} {name : String} {v : Json} {text rest more : List Char} (acc : Members)
    (hv : readValue fuel limit text = some (v,rest)) (hrest : skipSpace rest = ','::more) :
    readMembers (fuel+1) limit acc (quote name ++ ':'::text) =
      readMembers fuel limit (Members.insert name v acc) more := by
  rw [readMembers]
  simp [quote,skipSpace_cons (show isSpace '"' = false by decide),skipSpace_cons (show isSpace ':' = false by decide),
    readString_quoted,hv,hrest]

/-- Behind the last one the object ends. -/
lemma readMembers_last {fuel limit : ℕ} {name : String} {v : Json} {text rest behind : List Char} (acc : Members)
    (hv : readValue fuel limit text = some (v,rest)) (hrest : skipSpace rest = '\x7d'::behind) :
    readMembers (fuel+1) limit acc (quote name ++ ':'::text) = some (Members.insert name v acc,behind) := by
  rw [readMembers]
  simp [quote,skipSpace_cons (show isSpace '"' = false by decide),skipSpace_cons (show isSpace ':' = false by decide),
    readString_quoted,hv,hrest]

/-- Members are read one after the other, by induction on them. -/
lemma readMembers_write {depth fuel limit : ℕ} {name : String} {v : Json} {ms : List (String × Json)}
    {acc : Members} {rest : List Char} (h : ∀ m ∈ (name,v)::ms, ReadsBack depth m.2) (hlimit : depth ≤ limit)
    (hfuel : 2*((quote name).length + (write v).length + (writeMembers ms).length) ≤ fuel) :
    readMembers fuel limit acc (quote name ++ ':'::(write v ++ (writeMembers ms ++ rest))) =
      some (insertAll acc ((name,v)::ms),rest) := by
  induction ms generalizing name v fuel acc with
  | nil =>
    obtain ⟨fuel,rfl⟩ : ∃ n, fuel = n+1 := ⟨fuel-1,by simp [writeMembers] at hfuel; omega⟩
    simp only [writeMembers,List.length_singleton] at hfuel
    have hv : readValue fuel limit (write v ++ (writeMembers [] ++ rest)) = _ :=
      h (name,v) List.mem_cons_self hlimit (by omega : 2*(write v).length ≤ fuel) (ends_writeMembers [] rest)
    rw [readMembers_last acc hv (skipSpace_cons (by decide) rest)]
    simp [sortedMembers,insertAll]
  | cons m ms ih =>
    simp only [writeMembers,List.length_cons,List.length_append] at hfuel
    obtain ⟨fuel,rfl⟩ : ∃ n, fuel = n+1 := ⟨fuel-1,by omega⟩
    have hv : readValue fuel limit (write v ++ (writeMembers (m::ms) ++ rest)) = _ :=
      h (name,v) List.mem_cons_self hlimit (by omega : 2*(write v).length ≤ fuel) (ends_writeMembers (m::ms) rest)
    have hms : readMembers fuel limit (Members.insert name (sorted v) acc)
        (quote m.1 ++ ':'::(write m.2 ++ (writeMembers ms ++ rest))) =
          some (insertAll (Members.insert name (sorted v) acc) ((m.1,m.2)::ms),rest) :=
      ih (fun y hy => h y (List.mem_cons_of_mem _ hy)) (by omega)
    have hrest : skipSpace (writeMembers (m::ms) ++ rest) =
        ','::(quote m.1 ++ ':'::(write m.2 ++ (writeMembers ms ++ rest))) := by
      simp [writeMembers,skipSpace_cons (show isSpace ',' = false by decide)]
    rw [readMembers_more acc hv hrest,hms]
    simp [insertAll,sortedMembers]

/-- A value that begins with no character of a name, a string or a bracket is a number. -/
lemma readValue_number {fuel limit : ℕ} {c : Char} {rest : List Char} (hc : c = '-' ∨ c.isDigit = true) :
    readValue (fuel+1) limit (c::rest) = Number.read (c::rest) := by
  have hne {d : Char} (hd : d ≠ '-' ∧ d.isDigit = false) : c ≠ d := by
    rintro rfl
    rcases hc with hc | hc
    · exact hd.1 hc
    · rw [hd.2] at hc
      cases hc
  have hspace : isSpace c = false := by
    simp [isSpace,hne (show ' ' ≠ '-' ∧ _ by decide),hne (show '\t' ≠ '-' ∧ _ by decide),
      hne (show '\n' ≠ '-' ∧ _ by decide),hne (show '\r' ≠ '-' ∧ _ by decide)]
  rw [readValue,skipSpace_cons hspace]
  split
  all_goals try (rename_i heq; exact absurd (List.cons.inj heq).1 (hne (by decide)))
  rfl

lemma ofInt_cons (i : ℤ) : ∃ c rest, Number.ofInt i = c::rest ∧ (c = '-' ∨ c.isDigit = true) := by
  unfold Number.ofInt
  split_ifs
  · exact ⟨_,_,rfl,.inl rfl⟩
  · obtain ⟨c,rest,hcons⟩ := List.exists_cons_of_ne_nil (show Nat.toDigits 10 i.natAbs ≠ [] by simp)
    exact ⟨c,rest,hcons,.inr (digits_of_toDigits i.natAbs c (by simp [hcons]))⟩

/-- No space stands in front of a value, and none begins as an array ends. -/
lemma IsExact.head {depth : ℕ} {v : Json} (hv : IsExact depth v) :
    ∃ c rest, write v = c::rest ∧ isSpace c = false ∧ c ≠ ']' := by
  cases hv with
  | null => exact ⟨_,_,rfl,rfl,by decide⟩
  | bool _ b => cases b <;> exact ⟨_,_,rfl,rfl,by decide⟩
  | int =>
    rename_i i _ _
    have hdigits : ∀ n < 128, (Char.ofNat n).isDigit = true →
        isSpace (Char.ofNat n) = false ∧ Char.ofNat n ≠ ']' := by decide +kernel
    obtain ⟨c,rest,hcons,hc⟩ := ofInt_cons i
    refine ⟨c,rest,hcons,?_⟩
    rcases hc with rfl | hc
    · decide
    · exact forall_ascii (P := fun c => c.isDigit = true → isSpace c = false ∧ c ≠ ']') hdigits
        (ascii_of_isDigit hc) hc
  | string => exact ⟨_,_,rfl,rfl,by decide⟩
  | @array _ items => cases items <;> exact ⟨_,_,rfl,rfl,by decide⟩
  | @object _ ms => obtain _ | ⟨⟨name,v⟩,ms⟩ := ms <;> exact ⟨_,_,rfl,rfl,by decide⟩

/-- Behind its bracket an array that is not empty is read item by item. -/
lemma readValue_items {fuel limit : ℕ} {c : Char} {rest : List Char} (hspace : isSpace c = false) (hc : c ≠ ']') :
    readValue (fuel+1) (limit+1) ('['::c::rest) =
      (readItems fuel limit (c::rest)).map fun (items,r) => (.array items,r) := by
  rw [readValue,skipSpace_cons (by decide)]
  simp only [skipSpace_cons hspace,Nat.succ_ne_zero,if_false]
  split
  · rename_i heq
    exact absurd (List.cons.inj heq).1 hc
  · rfl

/-- Behind its brace an object that is not empty is read member by member. -/
lemma readValue_members (fuel limit : ℕ) (name : String) (rest : List Char) :
    readValue (fuel+1) (limit+1) ('\x7b'::(quote name ++ rest)) =
      (readMembers fuel limit [] (quote name ++ rest)).map fun (ms,r) => (.object ms,r) := by
  rw [readValue]
  rfl

lemma readsBack_array {depth : ℕ} {items : List Json} (hhead : ∀ v ∈ items, IsExact depth v)
    (h : ∀ v ∈ items, ReadsBack depth v) : ReadsBack (depth+1) (.array items) := by
  intro fuel limit rest hlimit hfuel _
  obtain ⟨limit,rfl⟩ : ∃ n, limit = n+1 := ⟨limit-1,by omega⟩
  cases items with
  | nil =>
    obtain ⟨fuel,rfl⟩ : ∃ n, fuel = n+1 := ⟨fuel-1,by simp [write] at hfuel; omega⟩
    simp [write,readValue,skipSpace,isSpace,sorted,sortedItems]
  | cons v vs =>
    simp only [write,List.length_cons,List.length_append] at hfuel
    obtain ⟨fuel,rfl⟩ : ∃ n, fuel = n+1 := ⟨fuel-1,by omega⟩
    obtain ⟨c,tail,hcons,hspace,hc⟩ := (hhead v List.mem_cons_self).head
    have hitems : readItems fuel limit (write v ++ (writeItems vs ++ rest)) = some (sortedItems (v::vs),rest) :=
      readItems_write h (by omega) (by omega)
    rw [hcons,List.cons_append] at hitems
    rw [write,hcons,List.cons_append,List.append_assoc,List.cons_append,readValue_items hspace hc,hitems]
    rfl

/-- Values are read back as they are sorted, by induction on their nesting. -/
theorem IsExact.readsBack {depth : ℕ} {v : Json} (hv : IsExact depth v) : ReadsBack depth v := by
  induction hv with
  | null =>
    intro fuel limit rest _ hfuel _
    obtain ⟨fuel,rfl⟩ : ∃ n, fuel = n+1 := ⟨fuel-1,by simp [write] at hfuel; omega⟩
    simp [write,readValue,skipSpace,isSpace,sorted]
  | bool _ b =>
    intro fuel limit rest _ hfuel _
    obtain ⟨fuel,rfl⟩ : ∃ n, fuel = n+1 := ⟨fuel-1,by cases b <;> simp [write] at hfuel <;> omega⟩
    cases b <;> simp [write,readValue,skipSpace,isSpace,sorted]
  | int _ hlow hhigh =>
    rename_i i
    intro fuel limit rest _ hfuel hrest
    obtain ⟨c,tail,hcons,hc⟩ := ofInt_cons i
    obtain ⟨fuel,rfl⟩ : ∃ n, fuel = n+1 := ⟨fuel-1,by simp [write,hcons] at hfuel; omega⟩
    rw [write,sorted,← Number.read_ofInt hlow hhigh hrest,hcons]
    · exact readValue_number hc
    all_goals simp
  | string _ s =>
    intro fuel limit rest _ hfuel _
    obtain ⟨fuel,rfl⟩ : ∃ n, fuel = n+1 := ⟨fuel-1,by simp [write,quote] at hfuel; omega⟩
    simp [write,quote,readValue,skipSpace,isSpace,readString_quoted,sorted]
  | array h ih => exact readsBack_array h ih
  | @object depth ms h ih =>
    intro fuel limit rest hlimit hfuel _
    obtain ⟨limit,rfl⟩ : ∃ n, limit = n+1 := ⟨limit-1,by omega⟩
    obtain _ | ⟨⟨name,v⟩,ms⟩ := ms
    · obtain ⟨fuel,rfl⟩ : ∃ n, fuel = n+1 := ⟨fuel-1,by simp [write] at hfuel; omega⟩
      simp [write,readValue,skipSpace,isSpace,sorted,sortedMembers,Members.ofList]
    · simp only [write,List.length_cons,List.length_append] at hfuel
      obtain ⟨fuel,rfl⟩ : ∃ n, fuel = n+1 := ⟨fuel-1,by omega⟩
      have hmembers : readMembers fuel limit [] (quote name ++ ':'::(write v ++ (writeMembers ms ++ rest))) =
          some (insertAll [] ((name,v)::ms),rest) := readMembers_write ih (by omega) (by omega)
      have htext : write (.object ((name,v)::ms)) ++ rest =
          '\x7b'::(quote name ++ ':'::(write v ++ (writeMembers ms ++ rest))) := by simp [write]
      rw [htext,readValue_members,hmembers]
      rfl

/-- A value that its text does not change is read back from it, as it is sorted. -/
theorem parse?_render {v : Json} (hv : IsExact greatestDepth v) : parse? v.render = some v.sorted := by
  have hread := hv.readsBack le_rfl (by omega : 2*(write v).length ≤ 2*(write v).length+2) ends_nil
  rw [List.append_nil] at hread
  rw [parse?,render,String.toList_ofList,parseChars?,hread]
  rfl

/-! Lines. -/

/-- Control characters, ends of lines among them. -/
def isLow (c : Char) : Bool := c.toNat < 0x20

lemma free_escape (c : Char) : Free isLow (escape c) := by
  have hdigits : ∀ n < 16, isLow (hexDigit n) = false := by decide +kernel
  unfold escape
  split_ifs with _ _ _ _ _ _ _ hcontrol
  iterate 7 decide
  · have hhigh := hdigits (c.toNat/16) (by omega)
    have hdigit := hdigits (c.toNat%16) (by omega)
    have hfront : Free isLow ['\\','u','0','0'] := by decide
    exact hfront.append (free_cons.mpr ⟨hhigh,free_cons.mpr ⟨hdigit,free_nil⟩⟩)
  · exact free_cons.mpr ⟨decide_eq_false hcontrol,free_nil⟩

lemma free_quote (s : String) : Free isLow (quote s) := by
  have hbody : Free isLow (s.toList.flatMap escape) := by
    intro c hc
    obtain ⟨d,-,hd⟩ := List.mem_flatMap.mp hc
    exact free_escape d c hd
  exact free_cons.mpr ⟨rfl,hbody.append (by decide)⟩

lemma free_ofInt (i : ℤ) : Free isLow (Number.ofInt i) := by
  have hdigits (n : ℕ) : Free isLow (Nat.toDigits 10 n) := Url.Ipv4.free_toDigits isLow (by decide) n
  unfold Number.ofInt
  split_ifs
  · exact free_cons.mpr ⟨rfl,hdigits _⟩
  · exact hdigits _

lemma free_writeItems {vs : List Json} (h : ∀ v ∈ vs, Free isLow (write v)) : Free isLow (writeItems vs) := by
  induction vs with
  | nil => decide
  | cons v vs ih =>
    obtain ⟨hv,hvs⟩ := List.forall_mem_cons.mp h
    exact free_cons.mpr ⟨rfl,hv.append (ih hvs)⟩

lemma free_writeMembers {ms : List (String × Json)} (h : ∀ m ∈ ms, Free isLow (write m.2)) :
    Free isLow (writeMembers ms) := by
  induction ms with
  | nil => decide
  | cons m ms ih =>
    obtain ⟨hm,hms⟩ := List.forall_mem_cons.mp h
    exact free_cons.mpr ⟨rfl,(free_quote m.1).append (free_cons.mpr ⟨rfl,hm.append (ih hms)⟩)⟩

/-- A value is written on one line. -/
theorem IsExact.free_write {depth : ℕ} {v : Json} (hv : IsExact depth v) : Free isLow (write v) := by
  induction hv with
  | null => decide
  | bool _ b => cases b <;> decide
  | @int _ i => exact free_ofInt i
  | string _ s => exact free_quote s
  | @array _ items _ ih =>
    cases items with
    | nil => decide
    | cons v vs =>
      obtain ⟨hv,hvs⟩ := List.forall_mem_cons.mp ih
      exact free_cons.mpr ⟨rfl,hv.append (free_writeItems hvs)⟩
  | @object _ ms _ ih =>
    obtain _ | ⟨⟨name,v⟩,ms⟩ := ms
    · decide
    · obtain ⟨hv,hms⟩ := List.forall_mem_cons.mp ih
      exact free_cons.mpr ⟨rfl,(free_quote name).append (free_cons.mpr ⟨rfl,hv.append (free_writeMembers hms)⟩)⟩

end PageTelemetry.Json
