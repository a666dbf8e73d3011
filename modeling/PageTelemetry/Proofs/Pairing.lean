import PageTelemetry.Proofs.Bodies
import PageTelemetry.Proofs.Composing
import PageTelemetry.Proofs.Json.Members
import PageTelemetry.Proofs.Rehearsing

/-! Properties that are given to a command one by one, as a key and a text around the first equals sign. One that has
no such sign stops the command before anything is sent. Otherwise one request is, and the properties of an event are
read back from it as the object of the pairs, of which the last one counts for each key. -/
namespace PageTelemetry

/-- What is left of an outlet that was handed requests and closed. -/
def Outlet.handed (o : Outlet) (rs : List Request) : Traffic := ⟨o.close,rs.filter fun _ => o.accepts⟩

namespace Command.Send
variable {s : Send} {files : Config.Files} {e : Config.Environment} {st : Settings} {pairs before after : List String}
  {pair : String}

/-- The text in front of the first equals sign. -/
def key (pair : String) : String := .ofList (pair.toList.takeWhile (· != '='))

/-- The text behind the first equals sign. -/
def text (pair : String) : String := .ofList ((pair.toList.dropWhile (· != '=')).drop 1)

/-- A pair as a member of an object. -/
def entry (pair : String) : String × Json := (key pair,.string (text pair))

/-- The members of an object of pairs: its keys are those of the pairs, each once, and under each is the text of the
last pair with that key. -/
structure Gathers (pairs : List String) (ms : Json.Members) : Prop where
  nodup : (ms.map Prod.fst).Nodup
  keys : ∀ k, k ∈ ms.map Prod.fst ↔ ∃ pair ∈ pairs, key pair = k
  last : ∀ k v, (k,v) ∈ ms ↔ ∃ before pair after, pairs = before ++ pair::after ∧ key pair = k ∧
    v = .string (text pair) ∧ ∀ later ∈ after, key later ≠ k

/-- A request whose body and whose line are read back, the body with the name of an event and the text of its
properties. -/
structure CarriesEvent (r : Request) (name written : String) : Prop where
  body : Json.parse? r.body = some r.bodyJson
  line : Json.parse? r.line = some (.object [("body",r.bodyJson),("url",.string r.url)])
  name : r.bodyJson.get? "name" = some (.string name)
  properties : r.bodyJson.get? "properties" = some (.string written)

/-- The object of pairs. -/
def pairsObject (pairs : List String) : Json.Members := .ofList (pairs.map entry)

/-! Reading pairs. -/

lemma pair?_eq (h : '=' ∈ pair.toList) : pair? pair = some (entry pair) := by
  cases hcut : Text.cut? (· == '=') pair.toList with
  | none =>
    have hfree := Text.free_of_cut? hcut '=' h
    cases hfree
  | some cut =>
    obtain ⟨c,hc,hpair,hfree⟩ := Text.eq_of_cut? (a := cut.1) (b := cut.2) hcut
    have hhead : ∀ d ∈ (c::cut.2).head?, (d == '=') = true := by simpa using hc
    have hkey : pair.toList.takeWhile (fun c => !(c == '=')) = cut.1 := by rw [hpair,Text.takeWhile_free hfree hhead]
    have htext : pair.toList.dropWhile (fun c => !(c == '=')) = c::cut.2 := by
      rw [hpair,Text.dropWhile_free hfree hhead]
    have hread : pair? pair = some (.ofList cut.1,.string (.ofList cut.2)) := by
      rw [pair?,hcut]
      rfl
    have hkey' : key pair = .ofList cut.1 := congrArg String.ofList hkey
    have htext' : text pair = .ofList cut.2 := congrArg (fun cs : List Char => String.ofList (cs.drop 1)) htext
    rw [hread,entry,hkey',htext']

lemma pair?_eq_none (h : '=' ∉ pair.toList) : pair? pair = none := by
  have hfree : Text.Free (· == '=') pair.toList := by
    intro c hc
    rw [beq_eq_false_iff_ne]
    rintro rfl
    exact h hc
  rw [pair?,Text.cut?_free hfree,Option.map_none]

/-- Pairs are read up to the first that is none, by induction on them. -/
lemma members?_append (h : ∀ pair ∈ before, '=' ∈ pair.toList) (rest : List String) :
    members? (before ++ rest) = (members? rest).map (before.map entry ++ ·) := by
  induction before with
  | nil => cases hrest : members? rest <;> simp [hrest,Except.map]
  | cons pair before ih =>
    obtain ⟨hpair,hbefore⟩ := List.forall_mem_cons.mp h
    rw [List.cons_append,members?,pair?_eq hpair]
    dsimp only
    rw [ih hbefore]
    cases members? rest <;> rfl

lemma members?_error (h : ∀ pair ∈ before, '=' ∈ pair.toList) (hpair : '=' ∉ pair.toList) :
    members? (before ++ pair::after) = .error (.invalidProperty pair) := by
  rw [members?_append h,members?,pair?_eq_none hpair]
  rfl

lemma members?_ok (h : ∀ pair ∈ pairs, '=' ∈ pair.toList) :
    members? pairs = .ok (pairs.map entry) := by
  have hread := members?_append h []
  rw [List.append_nil] at hread
  rw [hread,members?,Except.map,List.append_nil]

/-- The first argument that is no pair. -/
lemma exists_first (h : ∃ pair ∈ pairs, '=' ∉ pair.toList) : ∃ before pair after, pairs = before ++ pair::after ∧
    (∀ pair ∈ before, '=' ∈ pair.toList) ∧ '=' ∉ pair.toList := by
  have hfound : (pairs.find? fun pair => decide ('=' ∉ pair.toList)).isSome = true :=
    List.find?_isSome.mpr (by simpa using h)
  obtain ⟨pair,hpair⟩ := Option.isSome_iff_exists.mp hfound
  obtain ⟨hnone,before,after,rfl,hbefore⟩ := List.find?_eq_some_iff_append.mp hpair
  exact ⟨before,pair,after,rfl,by simpa using hbefore,by simpa using hnone⟩

/-- The properties of an event that has some. -/
def pairsProperties (pairs : List String) : Option Json :=
  if pairs = [] then none else some (.object (pairsObject pairs))

lemma properties?_pairs (hwhole : s.properties = none) (h : ∀ pair ∈ s.pairs, '=' ∈ pair.toList) :
    s.properties? = .ok (pairsProperties s.pairs) := by
  rw [properties?,hwhole,pairsProperties]
  dsimp only
  simp only [List.isEmpty_iff]
  split_ifs
  · rfl
  · rw [members?_ok h]
    rfl

/-! The object of pairs. -/

/-- The last of the pairs with a key. -/
lemma lastOf_pairs {name : String} {v : Json} :
    Json.Members.lastOf name (pairs.map entry) = some v ↔
      ∃ before pair after, pairs = before ++ pair::after ∧ key pair = name ∧ v = .string (text pair) ∧
        ∀ later ∈ after, key later ≠ name := by
  rw [Json.Members.lastOf_eq_some_iff]
  constructor
  · rintro ⟨front,rest,hpairs,hlast⟩
    obtain ⟨before,behind,rfl,-,hbehind⟩ := List.map_eq_append_iff.mp hpairs
    obtain ⟨pair,after,rfl,hpair,rfl⟩ := List.map_eq_cons_iff.mp hbehind
    obtain ⟨hkey,htext⟩ := Prod.mk.inj hpair
    exact ⟨before,pair,after,rfl,hkey,htext.symm,fun later hlater => hlast _ (List.mem_map_of_mem hlater)⟩
  · rintro ⟨before,pair,after,rfl,rfl,rfl,hlast⟩
    exact ⟨_,_,List.map_append,List.forall_mem_map.mpr hlast⟩

lemma ordered_pairsObject (pairs : List String) : (pairsObject pairs).Ordered := Json.Members.ordered_ofList _

lemma gathers_pairsObject (pairs : List String) : Gathers pairs (pairsObject pairs) := by
  have hordered := ordered_pairsObject pairs
  refine ⟨hordered.nodup,fun k => ?_,fun k v => ?_⟩
  · have hget : k ∈ (pairsObject pairs).map Prod.fst ↔ ∃ v, Json.Members.get? k (pairsObject pairs) = some v := by
      simp [hordered.get?_iff]
    rw [hget,← Option.ne_none_iff_exists',pairsObject,Json.Members.get?_ofList,ne_eq,Json.Members.lastOf_eq_none_iff]
    simp [entry]
  · rw [← hordered.get?_iff,pairsObject,Json.Members.get?_ofList,lastOf_pairs]

lemma texts_pairsObject (pairs : List String) : ∀ m ∈ pairsObject pairs, ∃ t, m.2 = .string t := by
  intro m hm
  obtain ⟨-,pair,-,-,-,htext,-⟩ := ((gathers_pairsObject pairs).last m.1 m.2).mp hm
  exact ⟨text pair,htext⟩

lemma sortedMembers_texts {ms : List (String × Json)} (h : ∀ m ∈ ms, ∃ t, m.2 = .string t) :
    Json.sortedMembers ms = ms := by
  induction ms with
  | nil => rfl
  | cons m ms ih =>
    obtain ⟨⟨t,ht⟩,hms⟩ := List.forall_mem_cons.mp h
    obtain ⟨name,v⟩ := m
    obtain rfl : v = .string t := ht
    rw [Json.sortedMembers,ih hms]
    rfl

/-- An object of texts is read back from its own text. -/
lemma parse?_pairsObject (pairs : List String) :
    Json.parse? (Json.object (pairsObject pairs)).render = some (.object (pairsObject pairs)) := by
  have hexact : Json.IsExact (126+1) (.object (pairsObject pairs)) := by
    refine .object fun m hm => ?_
    obtain ⟨t,ht⟩ := texts_pairsObject pairs m hm
    rw [ht]
    exact .string 126 t
  rw [Json.parse?_render hexact,Json.sorted,sortedMembers_texts (texts_pairsObject pairs),
    (ordered_pairsObject pairs).ofList_eq]

/-! The request. -/

/-- Whatever outlet stands there, it is handed one request. -/
lemma sendWith_handed (s : Send) (st : Settings) (now : ℤ) (properties : Option Json) :
    s.sendWith st now properties = (Outlet.ofSettings st s.dryRun).handed [s.request st properties] := by
  cases h : (Outlet.ofSettings st s.dryRun).accepts with
  | true =>
    rw [s.sendWith_eq st h now properties,Outlet.handed,h]
    rfl
  | false =>
    simp [sendWith,World.addTracker,World.track,World.report,World.deliver,World.shutdown,World.traffic,
      Outlet.handed,h]

/-! An event. -/

lemma input_event {name : String} (hname : s.name = some name) (properties : Option Json) :
    s.input properties = .ofCalls (.event name::(properties.map .properties).toList) := by
  unfold input
  rw [hname]
  cases properties <;> rfl

/-- An event has its name and the text of its properties. -/
lemma payload_event {name : String} (hname : s.name = some name) (siteKey : String) (includeQuery : Bool)
    (a : Payload.Ambient) (pairs : List String) :
    (Payload.build siteKey includeQuery a (some (s.input (pairsProperties pairs)).toJson)).name = name ∧
    (Payload.build siteKey includeQuery a (some (s.input (pairsProperties pairs)).toJson)).properties =
      if pairs = [] then "" else (Json.object (pairsObject pairs)).render := by
  rw [input_event hname,pairsProperties]
  split_ifs
  · have htyped : ∀ c ∈ [TrackInput.Call.event name], c.IsTyped := by simpa using TrackInput.Call.IsTyped.event name
    have hfield := TrackInput.value_ofCalls htyped siteKey includeQuery a
    exact ⟨(Json.string.inj ((hfield .name).1 (.string name) rfl)).symm,(hfield .properties).2 rfl⟩
  · have htyped : ∀ c ∈ [TrackInput.Call.event name,.properties (.object (pairsObject pairs))], c.IsTyped := by
      simpa using ⟨TrackInput.Call.IsTyped.event name,TrackInput.Call.IsTyped.properties _⟩
    have hfield := TrackInput.value_ofCalls htyped siteKey includeQuery a
    refine ⟨(Json.string.inj ((hfield .name).1 (.string name) rfl)).symm,?_⟩
    exact (Payload.isWritten_iff.mpr ((hfield .properties).1 (.object (pairsObject pairs)) rfl)).symm

/-- Neither width nor duration are sent of an event, so its body is read back whatever they are. -/
lemma bodyJson_event (st : Settings) {p : Payload} (hname : p.name ≠ "") : (Request.ofPayload st p).CarriesPayload ∧
    (Request.ofPayload st p).bodyJson =
      .object [("name",.string p.name),("path",.string p.path),("properties",.string p.properties)] := by
  obtain ⟨sent,hsame,hpath,hproperties,hrange⟩ : ∃ sent : Payload, sent.name = p.name ∧ sent.path = p.path ∧
      sent.properties = p.properties ∧ sent.InRange :=
    ⟨{ name := p.name, path := p.path, properties := p.properties },rfl,rfl,rfl,Nat.zero_lt_succ _,Nat.zero_lt_succ _⟩
  have hevent : sent.endpoint = .event := Payload.endpoint_event (by rwa [hsame])
  have hagrees : p.Agrees sent := by
    refine ⟨(Payload.endpoint_event hname).trans hevent.symm,?_⟩
    rw [Payload.endpoint_event hname]
    exact ⟨hsame.symm,hpath.symm,hproperties.symm⟩
  have hbody : (Request.ofPayload st p).body = sent.body := hagrees.body
  refine ⟨⟨sent,hrange,hbody⟩,?_⟩
  rw [Request.bodyJson,hbody,Payload.parse?_body hrange,Payload.fields,hevent,← hsame,← hpath,← hproperties]
  rfl

/-- What the request of an event carries as its properties is read back. -/
lemma request_event (st : Settings) {name : String} (hname : s.name = some name) (hne : name ≠ "") :
    ∃ written, CarriesEvent (s.request st (pairsProperties s.pairs)) name written ∧
      (s.pairs = [] → written = "") ∧
      (s.pairs ≠ [] → ∃ ms, Json.parse? written = some (.object ms) ∧ Gathers s.pairs ms) := by
  obtain ⟨hpayload,hwritten⟩ := payload_event hname st.siteKey st.includeQuery s.page.ambient s.pairs
  obtain ⟨hcarries,hbody⟩ := bodyJson_event st (hpayload.trans_ne hne)
  obtain ⟨-,-,hread,-⟩ := hcarries.bodyJson_eq
  rw [hpayload,hwritten] at hbody
  refine ⟨if s.pairs = [] then "" else (Json.object (pairsObject s.pairs)).render,
    ⟨hread,Request.parse?_line hcarries,?_,?_⟩,fun hnone => if_pos hnone,fun hsome => ?_⟩
  · rw [request,hbody]
    rfl
  · rw [request,hbody]
    rfl
  · rw [if_neg hsome]
    exact ⟨_,parse?_pairsObject s.pairs,gathers_pairsObject s.pairs⟩

/-! Arguments. -/

lemma longOption?_prop (pair : String) : Arguments.longOption? ("--prop=" ++ pair) = some ("prop",some pair) := by
  have hchars : ("--prop=" ++ pair).toList = ['-','-'] ++ (['p','r','o','p'] ++ '='::pair.toList) := by simp
  have hfree : Text.Free (· == '=') ['p','r','o','p'] := by decide
  have hcut : Text.cut? (· == '=') (['p','r','o','p'] ++ '='::pair.toList) = some (['p','r','o','p'],pair.toList) :=
    Text.cut?_append hfree rfl
  rw [Arguments.longOption?,hchars]
  simp only [List.cons_append,List.nil_append] at hcut ⊢
  simp only [hcut,String.ofList_toList]

lemma scan?_prop (args : List String) (pair : String) : Arguments.scan? sendOptions (("--prop=" ++ pair)::args) =
    (Arguments.scan? sendOptions args).map fun g => { g with values := ("prop",pair)::g.values } := by
  have hdashes : "--prop=" ++ pair ≠ "--" := by
    intro h
    simpa using congrArg (fun t : String => t.toList.length) h
  rw [Arguments.scan?,longOption?_prop]
  · rfl
  · exact hdashes

lemma read?_prop {args : List String} {g : Arguments} (h : Arguments.read? sendOptions args = some g) (pair : String) :
    Arguments.read? sendOptions (("--prop=" ++ pair)::args) = some { g with values := ("prop",pair)::g.values } := by
  obtain ⟨hscan,hcounts⟩ := Option.filter_eq_some_iff.mp h
  rw [Arguments.read?,scan?_prop,hscan,Option.map_some,Option.filter_some]
  refine if_pos (List.all_eq_true.mpr fun k hk => ?_)
  have hkinds : ∀ k ∈ sendOptions, k.2 = .repeated ∨ k.1 ≠ "prop" := by decide
  have hcount := List.all_eq_true.mp hcounts k hk
  rcases hkinds k hk with hrepeated | hother
  · simp [hrepeated]
  · simp only [Arguments.count,List.map_cons,List.count_cons_of_ne hother.symm] at hcount ⊢
    exact hcount

/-- Properties as a whole leave no place for pairs. -/
lemma properties_or_pairs {args : List String} (h : sendOf? args = some s) : s.properties = none ∨ s.pairs = [] := by
  simp only [sendOf?,Option.bind_eq_bind,Option.bind_eq_some_iff] at h
  obtain ⟨g,-,url,-,source,-,width,-,h⟩ := h
  split_ifs at h with hexclude
  obtain rfl := Option.some.inj h
  by_contra hboth
  push Not at hboth
  refine hexclude (Bool.or_eq_true_iff.mpr (.inr ?_))
  simpa [Option.isSome_iff_ne_none] using hboth

lemma value?_prop (g : Arguments) (pair : String) {name : String} (hname : name ≠ "prop") :
    ({ g with values := ("prop",pair)::g.values } : Arguments).value? name = g.value? name := by
  rw [Arguments.value?,List.lookup_cons,beq_false_of_ne hname]
  rfl

/-- An argument in front that gives a pair. -/
lemma sendOf?_prop {args : List String} (h : sendOf? args = some s) (hwhole : s.properties = none) (pair : String) :
    sendOf? (("--prop=" ++ pair)::args) = some { s with pairs := pair::s.pairs } := by
  simp only [sendOf?,Option.bind_eq_bind,Option.bind_eq_some_iff] at h ⊢
  obtain ⟨g,hread,url,hurl,source,hsource,width,hwidth,h⟩ := h
  split_ifs at h with hexclude
  obtain rfl := Option.some.inj h
  have hnone : g.value? "properties" = none := hwhole
  have hoperands : g.operands.isEmpty = true := by simpa [hnone] using hexclude
  have hpairs : ({ g with values := ("prop",pair)::g.values } : Arguments).valuesOf "prop" =
      pair::g.valuesOf "prop" := by
    simp [Arguments.valuesOf]
  have hflag (name : String) : ({ g with values := ("prop",pair)::g.values } : Arguments).flag name = g.flag name :=
    rfl
  refine ⟨_,read?_prop hread pair,url,?_,source,?_,width,?_,?_⟩
  · rwa [value?_prop g pair (by decide)]
  · rwa [value?_prop g pair (by decide)]
  · rwa [value?_prop g pair (by decide)]
  · have hsome (name : String) (hname : name ≠ "prop") := value?_prop g pair hname
    simp [hsome,hnone,hoperands,hpairs,hflag]

lemma sendOf?_props {args : List String} (h : sendOf? args = some s) (hwhole : s.properties = none)
    (pairs : List String) :
    sendOf? (pairs.map ("--prop=" ++ ·) ++ args) = some { s with pairs := pairs ++ s.pairs } := by
  induction pairs with
  | nil => exact h
  | cons pair pairs ih => exact sendOf?_prop (s := { s with pairs := pairs ++ s.pairs }) ih hwhole pair

/-! Runs. -/

lemma accepts_ofSettings (st : Settings) (dryRun spawns : Bool) : (Outlet.ofSettings st dryRun spawns).accepts = true ↔
    dryRun = true ∨ st.debug = true ∨ st.transport ≠ .keepAlive ∧ spawns = true := by
  cases dryRun <;> cases spawns <;> cases hdebug : st.debug <;> cases htransport : st.transport <;>
    simp [Outlet.ofSettings,Outlet.accepts,Transport.select,hdebug,htransport]

/-- An argument that is no pair stops the command. -/
lemma run_invalid (hst : s.settings files e = .ok st) (hwhole : s.properties = none)
    (hpairs : s.pairs = before ++ pair::after) (hbefore : ∀ pair ∈ before, '=' ∈ pair.toList)
    (hpair : '=' ∉ pair.toList) (now : ℤ) : s.run files e now = .error (.invalidProperty pair) := by
  have hsome : s.pairs.isEmpty = false := by simp [hpairs]
  have hproperties : s.properties? = .error (.invalidProperty pair) := by
    rw [properties?,hwhole]
    dsimp only
    rw [hsome,hpairs,members?_error hbefore hpair]
    rfl
  rw [run,hst,hproperties]

lemma run_pairs (hst : s.settings files e = .ok st) (hwhole : s.properties = none)
    (hpairs : ∀ pair ∈ s.pairs, '=' ∈ pair.toList) (now : ℤ) : s.run files e now =
      .ok ((Outlet.ofSettings st s.dryRun).handed [s.request st (pairsProperties s.pairs)]) := by
  rw [run,hst,properties?_pairs hwhole hpairs]
  dsimp only
  rw [sendWith_handed]

/-- Each argument that gives a property has to be a pair. If one is none, the first such argument is reported, nothing
is printed and no outlet is handed anything. Otherwise, at whatever time, the outlet is handed one request, which it
takes unless it is to send keep-alive requests and finds no runtime, and a dry run prints just its line. The request of
an event and that line are read back with the text of its properties, which is empty if none are given and else is read
back as an object: its keys are those in front of the first equals signs, each once, and under each is the text behind
the first equals sign of the last argument with that key. Any such arguments can be given, unless the properties are
given as a whole. -/
theorem send_pairs :
    (∀ (s : Send) files e st, s.properties = none → s.settings files e = .ok st →
      ((∃ pair ∈ s.pairs, '=' ∉ pair.toList) → ∃ before pair after, s.pairs = before ++ pair::after ∧
        (∀ pair ∈ before, '=' ∈ pair.toList) ∧ '=' ∉ pair.toList ∧
        ∀ now script, s.run files e now = .error (.invalidProperty pair) ∧
          (Command.send s).run ⟨files,e,script,now⟩ =
            ⟨1,"","Error: " ++ ("Invalid property '" ++ pair ++ "', expected KEY=VALUE") ++ "\n"⟩) ∧
      ((∀ pair ∈ s.pairs, '=' ∈ pair.toList) → ∃ r : Request,
        (∀ now, s.run files e now = .ok ((Outlet.ofSettings st s.dryRun).handed [r])) ∧
        ((Outlet.ofSettings st s.dryRun).accepts = true ↔
          s.dryRun = true ∨ st.debug = true ∨ st.transport ≠ .keepAlive) ∧
        (∀ now script, s.dryRun = true →
          (Command.send s).run ⟨files,e,script,now⟩ = ⟨0,r.line ++ "\n",""⟩) ∧
        ∀ name, s.name = some name → name ≠ "" → ∃ written, CarriesEvent r name written ∧
          (s.pairs = [] → written = "") ∧
          (s.pairs ≠ [] → ∃ ms, Json.parse? written = some (.object ms) ∧ Gathers s.pairs ms))) ∧
    ∀ args s, sendOf? args = some s → (s.properties = none ∨ s.pairs = []) ∧
      (s.properties = none → ∀ pairs, sendOf? (pairs.map ("--prop=" ++ ·) ++ args) =
        some { s with pairs := pairs ++ s.pairs }) := by
  refine ⟨fun s files e st hwhole hst => ⟨fun hinvalid => ?_,fun hpairs => ?_⟩,fun args s h => ?_⟩
  · obtain ⟨before,pair,after,hsplit,hbefore,hpair⟩ := exists_first hinvalid
    refine ⟨before,pair,after,hsplit,hbefore,hpair,fun now script => ?_⟩
    have hrun := run_invalid hst hwhole hsplit hbefore hpair now
    refine ⟨hrun,?_⟩
    simp only [Command.run,hrun]
    rfl
  · have hrun := run_pairs hst hwhole hpairs
    refine ⟨_,hrun,by simpa using accepts_ofSettings st s.dryRun true,fun now script hdry => ?_,
      fun name hname hne => ?_⟩
    · simp only [Command.run,hrun now,hdry]
      simp [Result.ofTraffic,Traffic.recorded,Traffic.shown,Outlet.handed,Outlet.accepts,Outlet.close,
        Outlet.ofSettings]
    · exact request_event st hname hne
  · exact ⟨properties_or_pairs h,fun hwhole => sendOf?_props h hwhole⟩

/-- An event with a key that is given twice, and one that is empty. -/
def listed : Send :=
  { rehearsed with name := some "signup", pairs := ["plan=a=b","=","plan=pro"], dryRun := true }

theorem send_pairs_listed : listed.properties = none ∧ (∃ st, listed.settings {} {} = .ok st) ∧
    (∀ pair ∈ listed.pairs, '=' ∈ pair.toList) ∧
    (∃ r written ms, (Command.send listed).run {} = ⟨0,r.line ++ "\n",""⟩ ∧ CarriesEvent r "signup" written ∧
      Json.parse? written = some (.object ms) ∧ ("plan",.string "pro") ∈ ms ∧ ("",.string "") ∈ ms) ∧
    (∀ now, { listed with pairs := ["plan=pro","beta"] }.run {} {} now = .error (.invalidProperty "beta")) ∧
    sendOf? (["plan=pro","beta"].map ("--prop=" ++ ·) ++ ["--url=https://a.io/x","--src=https://a.io/p.js"]) =
      some { url := "https://a.io/x", source := "https://a.io/p.js", pairs := ["plan=pro","beta"] } := by
  obtain ⟨hsend,hargs⟩ := send_pairs
  have hall : ∀ pair ∈ listed.pairs, '=' ∈ pair.toList := by decide +kernel
  have hresolved : (listed.settings {} {}).toOption.isSome = true := by decide +kernel
  obtain ⟨st,hst⟩ : ∃ st, listed.settings {} {} = .ok st := by
    cases hst : listed.settings {} {} with
    | error err => simp [hst,Except.toOption] at hresolved
    | ok st => exact ⟨st,rfl⟩
  refine ⟨rfl,⟨st,hst⟩,hall,?_,fun now => ?_,?_⟩
  · obtain ⟨r,-,-,hprinted,hevent⟩ := (hsend listed {} {} st rfl hst).2 hall
    obtain ⟨written,hcarries,-,hread⟩ := hevent "signup" rfl (by decide)
    obtain ⟨ms,hms,hgathers⟩ := hread (by decide)
    refine ⟨r,written,ms,hprinted 0 .missing rfl,hcarries,hms,(hgathers.last _ _).mpr ?_,(hgathers.last _ _).mpr ?_⟩
    · exact ⟨["plan=a=b","="],"plan=pro",[],rfl,by decide +kernel,congrArg Json.string (by decide +kernel),by simp⟩
    · exact ⟨["plan=a=b"],"=",["plan=pro"],rfl,by decide +kernel,congrArg Json.string (by decide +kernel),
        by decide +kernel⟩
  · have hst' : { listed with pairs := ["plan=pro","beta"] }.settings {} {} = .ok st := hst
    obtain ⟨before,pair,after,hsplit,hbefore,hpair,hrun⟩ :=
      (hsend { listed with pairs := ["plan=pro","beta"] } {} {} st rfl hst').1 ⟨"beta",by decide,by decide +kernel⟩
    have hsplit : ["plan=pro","beta"] = before ++ pair::after := hsplit
    have hmem : pair ∈ ["plan=pro","beta"] := by simp [hsplit]
    rcases List.mem_pair.mp hmem with rfl | rfl
    · exact absurd (by decide +kernel) hpair
    · exact (hrun now .missing).1
  · have hread : sendOf? ["--url=https://a.io/x","--src=https://a.io/p.js"] =
        some { url := "https://a.io/x", source := "https://a.io/p.js" } := by decide +kernel
    exact (hargs _ _ hread).2 rfl ["plan=pro","beta"]

end Command.Send
end PageTelemetry
