import PageTelemetry.Command
import PageTelemetry.Proofs.Json.RoundTrip

/-! The bodies of requests. A body is read back as one object, with the fields that its payload has for the endpoint and
no others; and a dry run prints one line for each request, from which its URL and its body are read back. -/
namespace PageTelemetry
open Json

namespace Payload
variable {p p' : Payload}

/-- Width and seconds are numbers of 32 and of 64 bits. -/
structure InRange (p : Payload) : Prop where
  width : p.screenWidth < 0x100000000
  duration : p.duration < 0x10000000000000000

/-- The fields that are sent of a payload. An event has three; all else has no name, and neither a title that is empty
nor a duration of zero is sent. -/
inductive HasField (p : Payload) : String → Json → Prop
  | path : HasField p "path" (.string p.path)
  | name (hname : p.name ≠ "") : HasField p "name" (.string p.name)
  | properties (hname : p.name ≠ "") : HasField p "properties" (.string p.properties)
  | title (hname : p.name = "") (htitle : p.title ≠ "") : HasField p "title" (.string p.title)
  | referrer (hname : p.name = "") : HasField p "referrer" (.string p.referrer)
  | screenWidth (hname : p.name = "") : HasField p "screen_width" (.int p.screenWidth)
  | duration (hname : p.name = "") (hduration : p.duration ≠ 0) : HasField p "duration" (.int p.duration)
  | utmSource (hname : p.name = "") : HasField p "utm_source" (.string p.campaign.source)
  | utmMedium (hname : p.name = "") : HasField p "utm_medium" (.string p.campaign.medium)
  | utmCampaign (hname : p.name = "") : HasField p "utm_campaign" (.string p.campaign.campaign)

lemma HasField.of_duration {v : Json} (h : p.HasField "duration" v) :
    p.name = "" ∧ p.duration ≠ 0 ∧ v = .int p.duration := by
  generalize hkey : "duration" = key at h
  cases h with
  | duration hname hduration => exact ⟨hname,hduration,rfl⟩
  | _ => exact absurd hkey (by decide)

lemma HasField.of_title {v : Json} (h : p.HasField "title" v) : p.title ≠ "" ∧ v = .string p.title := by
  generalize hkey : "title" = key at h
  cases h with
  | title _ htitle => exact ⟨htitle,rfl⟩
  | _ => exact absurd hkey (by decide)

/-- Two payloads for one endpoint with the same in all that is sent there. -/
def Agrees (p p' : Payload) : Prop :=
  p.endpoint = p'.endpoint ∧ match p.endpoint with
    | .event => p.name = p'.name ∧ p.path = p'.path ∧ p.properties = p'.properties
    | .collect => p.path = p'.path ∧ p.title = p'.title ∧ p.referrer = p'.referrer ∧
        p.screenWidth = p'.screenWidth ∧ p.duration = p'.duration ∧ p.campaign = p'.campaign

/-- The members of a body in the order of their names. -/
def fields (p : Payload) : Members :=
  match p.endpoint with
  | .event => [("name",.string p.name),("path",.string p.path),("properties",.string p.properties)]
  | .collect =>
    (if p.duration = 0 then [] else [("duration",.int p.duration)]) ++
      [("path",.string p.path),("referrer",.string p.referrer),("screen_width",.int p.screenWidth)] ++
      (if p.title = "" then [] else [("title",.string p.title)]) ++
      [("utm_campaign",.string p.campaign.campaign),("utm_medium",.string p.campaign.medium),
        ("utm_source",.string p.campaign.source)]

lemma endpoint_event (h : p.name ≠ "") : p.endpoint = .event := by simp [endpoint,kind,h]

lemma endpoint_collect (h : p.name = "") : p.endpoint = .collect := by
  unfold endpoint kind
  rw [if_neg (by simp [h])]
  split_ifs <;> rfl

/-- Nothing that is sent is changed by its text. -/
lemma HasField.isExact {key : String} {v : Json} (h : p.HasField key v) (hp : p.InRange) (depth : ℕ) :
    IsExact depth v := by
  cases h with
  | screenWidth => exact .int depth (by omega) (by have := hp.width; omega)
  | duration => exact .int depth (by omega) (by have := hp.duration; omega)
  | _ => exact .string depth _

lemma hasField_of_mem_members : ∀ m ∈ p.members, p.HasField m.1 m.2 := by
  intro m hm
  by_cases hname : p.name = ""
  · rw [members,endpoint_collect hname] at hm
    simp only [collectMembers,List.mem_cons,List.mem_append,List.mem_ite_nil_left,List.not_mem_nil,or_false] at hm
    rcases hm with rfl | ⟨htitle,rfl⟩ | rfl | rfl | ⟨hduration,rfl⟩ | rfl | rfl | rfl
    · exact .path
    · exact .title hname htitle
    · exact .referrer hname
    · exact .screenWidth hname
    · exact .duration hname hduration
    · exact .utmSource hname
    · exact .utmMedium hname
    · exact .utmCampaign hname
  · rw [members,endpoint_event hname] at hm
    simp only [eventMembers,List.mem_cons,List.not_mem_nil,or_false] at hm
    rcases hm with rfl | rfl | rfl
    · exact .name hname
    · exact .path
    · exact .properties hname

lemma ofList_members (p : Payload) : Members.ofList (sortedMembers p.members) = p.fields := by
  by_cases hname : p.name = ""
  · rw [members,fields,endpoint_collect hname]
    dsimp only
    rw [collectMembers]
    split_ifs <;> simp +decide [sortedMembers,sorted,Members.ofList,Members.insert]
  · rw [members,fields,endpoint_event hname]
    simp +decide [eventMembers,sortedMembers,sorted,Members.ofList,Members.insert]

lemma mem_fields {key : String} {v : Json} : (key,v) ∈ p.fields ↔ p.HasField key v := by
  by_cases hname : p.name = ""
  · rw [fields,endpoint_collect hname]
    constructor
    · intro h
      simp only [List.mem_cons,List.mem_append,List.mem_ite_nil_left,List.not_mem_nil,or_false,Prod.mk.injEq] at h
      rcases h with ((⟨hduration,rfl,rfl⟩ | ⟨rfl,rfl⟩ | ⟨rfl,rfl⟩ | ⟨rfl,rfl⟩) | ⟨htitle,rfl,rfl⟩) |
        ⟨rfl,rfl⟩ | ⟨rfl,rfl⟩ | ⟨rfl,rfl⟩
      · exact .duration hname hduration
      · exact .path
      · exact .referrer hname
      · exact .screenWidth hname
      · exact .title hname htitle
      · exact .utmCampaign hname
      · exact .utmMedium hname
      · exact .utmSource hname
    · intro h
      cases h <;> simp_all
  · rw [fields,endpoint_event hname]
    constructor
    · intro h
      simp only [List.mem_cons,List.not_mem_nil,or_false,Prod.mk.injEq] at h
      rcases h with ⟨rfl,rfl⟩ | ⟨rfl,rfl⟩ | ⟨rfl,rfl⟩
      · exact .name hname
      · exact .path
      · exact .properties hname
    · intro h
      cases h <;> simp_all

/-- No two fields have one name. -/
lemma nodup_fields (p : Payload) : (p.fields.map Prod.fst).Nodup := by
  unfold fields
  split
  · simp +decide
  · split_ifs <;> simp +decide

lemma sorted_fields (p : Payload) : sorted (.object p.fields) = .object p.fields := by
  by_cases hname : p.name = ""
  · rw [fields,endpoint_collect hname]
    dsimp only
    split_ifs <;> simp +decide [sortedMembers,sorted,Members.ofList,Members.insert]
  · rw [fields,endpoint_event hname]
    simp +decide [sortedMembers,sorted,Members.ofList,Members.insert]

/-- A body reads back as the fields of its payload. -/
lemma parse?_body (hp : p.InRange) : parse? p.body = some (.object p.fields) := by
  have hexact : IsExact (126+1) (.object p.members) :=
    .object fun m hm => (hasField_of_mem_members m hm).isExact hp 126
  rw [body,parse?_render hexact,sorted,ofList_members]

lemma campaign_eq_iff (c c' : Campaign) :
    c = c' ↔ c.source = c'.source ∧ c.medium = c'.medium ∧ c.campaign = c'.campaign := by
  cases c
  cases c'
  simp

/-- A member that is left out is one that is empty or zero, so fields that are the same come from what is the same. -/
lemma agrees_of_fields (hendpoint : p.endpoint = p'.endpoint) (hfields : p.fields = p'.fields) : p.Agrees p' := by
  refine ⟨hendpoint,?_⟩
  unfold fields at hfields
  rw [← hendpoint] at hfields
  cases hp : p.endpoint with
  | event =>
    rw [hp] at hfields
    simpa using hfields
  | collect =>
    rw [hp] at hfields
    dsimp only at hfields ⊢
    split_ifs at hfields <;> simp_all [campaign_eq_iff]

lemma Agrees.body (h : p.Agrees p') : p.body = p'.body := by
  obtain ⟨hendpoint,h⟩ := h
  unfold Payload.body members
  rw [← hendpoint]
  cases hp : p.endpoint with
  | event =>
    rw [hp] at h
    obtain ⟨hname,hpath,hproperties⟩ := h
    simp only [eventMembers,hname,hpath,hproperties]
  | collect =>
    rw [hp] at h
    obtain ⟨hpath,htitle,hreferrer,hwidth,hduration,hcampaign⟩ := h
    simp only [collectMembers,hpath,htitle,hreferrer,hwidth,hduration,hcampaign]

/-- Bodies for one endpoint are the same just where all that is sent is. -/
lemma body_eq_iff (hp : p.InRange) (hp' : p'.InRange) :
    p.endpoint = p'.endpoint ∧ p.body = p'.body ↔ p.Agrees p' := by
  constructor
  · rintro ⟨hendpoint,hbody⟩
    have hread := (parse?_body hp).symm.trans ((congrArg parse? hbody).trans (parse?_body hp'))
    exact agrees_of_fields hendpoint (Json.object.inj (Option.some.inj hread))
  · exact fun h => ⟨h.1,h.body⟩

end Payload

namespace Request
variable {r : Request} {rs : List Request}

/-- A request with the body of a payload. -/
def CarriesPayload (r : Request) : Prop := ∃ p : Payload, p.InRange ∧ r.body = p.body

lemma CarriesPayload.bodyJson_eq (h : r.CarriesPayload) :
    ∃ p : Payload, p.InRange ∧ Json.parse? r.body = some r.bodyJson ∧ r.bodyJson = .object p.fields := by
  obtain ⟨p,hp,hbody⟩ := h
  have hread : Json.parse? r.body = some (.object p.fields) := by rw [hbody,Payload.parse?_body hp]
  refine ⟨p,hp,?_,?_⟩ <;> rw [bodyJson,hread] <;> rfl

/-- What a line shows is not nested deep, so its text does not change it. -/
lemma isExact_line (h : r.CarriesPayload) :
    IsExact greatestDepth (.object [("body",r.bodyJson),("url",.string r.url)]) := by
  obtain ⟨p,hp,-,hjson⟩ := h.bodyJson_eq
  have hbody : IsExact (125+1) r.bodyJson := by
    rw [hjson]
    exact .object fun m hm => (Payload.mem_fields.mp hm).isExact hp 125
  change IsExact (126+1) _
  refine .object fun m hm => ?_
  simp only [List.mem_cons,List.not_mem_nil,or_false] at hm
  rcases hm with rfl | rfl
  · exact hbody
  · exact .string 126 r.url

lemma parse?_line (h : r.CarriesPayload) :
    Json.parse? r.line = some (.object [("body",r.bodyJson),("url",.string r.url)]) := by
  obtain ⟨p,-,-,hjson⟩ := h.bodyJson_eq
  have hsorted : sorted r.bodyJson = r.bodyJson := by rw [hjson,Payload.sorted_fields]
  rw [line,parse?_render (isExact_line h)]
  simp +decide only [sorted,sortedMembers,hsorted,Members.ofList,Members.insert,List.foldl_cons,List.foldl_nil,if_false]

/-- A line holds no end of a line. -/
lemma free_line (h : r.CarriesPayload) : Text.Free (· == '\n') r.line.toList := by
  intro c hc
  rw [line,render,String.toList_ofList] at hc
  have hhigh := (isExact_line h).free_write c hc
  rw [beq_eq_false_iff_ne]
  rintro rfl
  cases hhigh

/-- What is printed is cut at its ends of lines into one line for each request, by induction on them. -/
lemma pieces_lines (h : ∀ r ∈ rs, r.CarriesPayload) :
    Text.pieces (· == '\n') (String.join (rs.map fun r => r.line ++ "\n")).toList =
      rs.map (fun r => r.line.toList) ++ [[]] := by
  induction rs with
  | nil => rfl
  | cons r rs ih =>
    obtain ⟨hr,hrs⟩ := List.forall_mem_cons.mp h
    have htext : (String.join ((r::rs).map fun r => r.line ++ "\n")).toList =
        r.line.toList ++ '\n'::(String.join (rs.map fun r => r.line ++ "\n")).toList := by
      simp [String.join_cons]
    rw [htext,Text.pieces_append rfl,Text.pieces_free (free_line hr),ih hrs]
    rfl

end Request

/-- A body reads back as one object with just the fields that are sent of its payload, each once; two bodies are the
same just where what is sent is; and what a dry run prints is cut into one line for each request, in their order, each
of which reads back as the URL of its request and what its body reads back as. -/
theorem Payload.body_reads_back :
    (∀ p : Payload, p.InRange → ∃ ms, Json.parse? p.body = some (.object ms) ∧ (ms.map Prod.fst).Nodup ∧
      ∀ key v, (key,v) ∈ ms ↔ p.HasField key v) ∧
    (∀ p p' : Payload, p.InRange → p'.InRange → (p.endpoint = p'.endpoint ∧ p.body = p'.body ↔ p.Agrees p')) ∧
    ∀ t : Traffic, t.outlet.transport = .recording → (∀ r ∈ t.requests, r.CarriesPayload) →
      Text.pieces (· == '\n') (Command.Result.ofTraffic t).output.toList =
        t.requests.map (fun r => r.line.toList) ++ [[]] ∧
      ∀ r ∈ t.requests, ∃ v, Json.parse? r.body = some v ∧
        Json.parse? r.line = some (.object [("body",v),("url",.string r.url)]) := by
  refine ⟨?_,fun p p' => body_eq_iff,?_⟩
  · exact fun p hp => ⟨p.fields,parse?_body hp,p.nodup_fields,fun _ _ => mem_fields⟩
  · intro t ht hrs
    constructor
    · rw [Command.Result.ofTraffic,Traffic.recorded,if_pos ht]
      exact Request.pieces_lines hrs
    · intro r hr
      obtain ⟨-,-,hread,-⟩ := (hrs r hr).bodyJson_eq
      exact ⟨r.bodyJson,hread,Request.parse?_line (hrs r hr)⟩

/-- A leave whose path holds a quote and the end of a line. -/
def Payload.departing : Payload := { path := "/\"a\"\n", screenWidth := 1280, duration := 30 }

/-- An event with properties that are JSON themselves. -/
def Payload.buying : Payload := { name := "buy", path := "/", properties := "[\"a\\n\"]" }

theorem Payload.body_reads_back_departing :
    (∃ ms, Json.parse? departing.body = some (.object ms) ∧ ("duration",.int 30) ∈ ms ∧ ∀ v, ("title",v) ∉ ms) ∧
    ¬(departing.endpoint = buying.endpoint ∧ departing.body = buying.body) ∧
    ∃ rs : List Request, rs.map Request.body = [departing.body,buying.body] ∧
      (Text.pieces (· == '\n') (Command.Result.ofTraffic ⟨{ transport := .recording },rs⟩).output.toList).length = 3 ∧
      ∀ r ∈ rs, ∃ v, Json.parse? r.line = some (.object [("body",v),("url",.string r.url)]) := by
  have hdeparting : departing.InRange := ⟨by decide,by decide⟩
  have hbuying : buying.InRange := ⟨by decide,by decide⟩
  obtain ⟨hread,hinjective,hprinted⟩ := body_reads_back
  refine ⟨?_,fun h => absurd ((hinjective _ _ hdeparting hbuying).mp h).1 (by decide),
    [⟨"https://a.io/api/collect?site_key=k",departing.body⟩,⟨"https://a.io/api/event?site_key=k",buying.body⟩],rfl,?_⟩
  · obtain ⟨ms,hms,-,hfields⟩ := hread departing hdeparting
    exact ⟨ms,hms,(hfields _ _).mpr (.duration rfl (by decide)),fun v hv => ((hfields _ _).mp hv).of_title.1 rfl⟩
  · have hcarries : ∀ r ∈ [⟨"https://a.io/api/collect?site_key=k",departing.body⟩,
        (⟨"https://a.io/api/event?site_key=k",buying.body⟩ : Request)], r.CarriesPayload := by
      simp only [List.forall_mem_cons,List.not_mem_nil,false_imp_iff,implies_true,and_true]
      exact ⟨⟨_,hdeparting,rfl⟩,⟨_,hbuying,rfl⟩⟩
    obtain ⟨hlines,heach⟩ := hprinted ⟨{ transport := .recording },_⟩ rfl hcarries
    refine ⟨by rw [hlines]; rfl,fun r hr => ?_⟩
    obtain ⟨v,-,hv⟩ := heach r hr
    exact ⟨v,hv⟩

end PageTelemetry
