import Mathlib.Tactic
import PageTelemetry.Config.Layers
import PageTelemetry.Proofs.Trimming

/-! The layers of a configuration, field by field. A file counts by its table only, so one that is broken counts
as one that is not there, and what names the site and the collector comes from the tag alone. -/
namespace PageTelemetry

namespace ScriptTag

/-- The site key of a tag, unless it is blank. -/
def siteKey? (tag : ScriptTag) : Option String := (tag.attribute? siteKeyAttribute).bind Text.trimmed?

/-- The collector that a tag names, unless it is blank. -/
def collector? (tag : ScriptTag) : Option String := (tag.attribute? apiUrlAttribute).bind Text.trimmed?

/-- A value that says yes: nothing but blanks, or a word for yes in any case, with blanks around it or not. -/
def SaysYes (value : String) : Prop :=
  Text.Blank value ∨ ∃ word, Text.Trims value word ∧ Text.lowerAscii word ∈ ["true","1","yes"]

/-- A tag that names no collector, or has but blanks for one. -/
def Unnamed (tag : ScriptTag) : Prop := ∀ value, tag.attribute? apiUrlAttribute = some value → Text.Blank value

/-- Where a tag sends to: the collector that it names, without the blanks around it and the slashes at its end, or else
the directory of its script. -/
inductive SendsTo (tag : ScriptTag) (url : String) : Prop
  | named {value collector : String} (h : tag.attribute? apiUrlAttribute = some value)
    (htrims : Text.Trims value collector) (hunslashes : Text.Unslashes collector url)
  | directory (h : tag.Unnamed) (hdir : ScriptTag.directory tag.source = .ok url)

lemma siteKey?_eq_some_iff {tag : ScriptTag} {key : String} : tag.siteKey? = some key ↔
    ∃ value, tag.attribute? siteKeyAttribute = some value ∧ Text.Trims value key := by
  simp only [siteKey?,Option.bind_eq_some_iff,Text.trimmed?_eq_some_iff]

lemma collector?_eq_none_iff {tag : ScriptTag} : tag.collector? = none ↔ tag.Unnamed := by
  simp only [collector?,Option.bind_eq_none_iff,Text.trimmed?_eq_none_iff,Unnamed]

lemma collector?_eq_some_iff {tag : ScriptTag} {collector : String} : tag.collector? = some collector ↔
    ∃ value, tag.attribute? apiUrlAttribute = some value ∧ Text.Trims value collector := by
  simp only [collector?,Option.bind_eq_some_iff,Text.trimmed?_eq_some_iff]

lemma parseFlag_iff (value : String) : parseFlag value = true ↔ SaysYes value := by
  have hword (word : String) : Text.trimmed? value = some word ↔ Text.Trims value word := Text.trimmed?_eq_some_iff
  simp only [SaysYes,← Text.trimmed?_eq_none_iff,← hword,parseFlag]
  cases htrimmed : Text.trimmed? value with
  | none =>
    have hnil : Text.trim value = "" := by
      by_contra hne
      simp [Text.trimmed?,hne] at htrimmed
    rw [hnil]
    exact iff_of_true (by decide +kernel) (.inl rfl)
  | some word =>
    obtain ⟨hne,rfl⟩ : Text.trim value ≠ "" ∧ Text.trim value = word := by simpa [Text.trimmed?] using htrimmed
    have hlower : Text.lowerAscii (Text.trim value) ≠ "" := by simpa [Text.lowerAscii] using hne
    simp [hlower]

lemma eq_includeQuery_iff {tag : ScriptTag} {answer below : Bool} : answer = tag.includeQuery?.getD below ↔
    (∀ value, tag.attribute? includeQueryAttribute = some value → (answer = true ↔ SaysYes value)) ∧
    (tag.attribute? includeQueryAttribute = none → answer = below) := by
  cases h : tag.attribute? includeQueryAttribute with
  | none => simp [includeQuery?,h]
  | some value =>
    have hanswer : answer = parseFlag value ↔ (answer = true ↔ SaysYes value) := by
      rw [← parseFlag_iff]
      exact Bool.eq_iff_iff
    simp [includeQuery?,h,hanswer]

lemma apiUrl_of_named {tag : ScriptTag} {collector : String} (h : tag.collector? = some collector) :
    tag.apiUrl = .ok (Text.trimEndSlashes collector) := by
  unfold collector? at h
  rw [apiUrl,h]

lemma apiUrl_of_unnamed {tag : ScriptTag} (h : tag.collector? = none) :
    tag.apiUrl = ScriptTag.directory tag.source := by
  unfold collector? at h
  rw [apiUrl,h]

lemma apiUrl_eq_ok_iff (tag : ScriptTag) (url : String) : tag.apiUrl = .ok url ↔ tag.SendsTo url := by
  cases hcollector : tag.collector? with
  | none =>
    rw [apiUrl_of_unnamed hcollector]
    refine ⟨.directory (collector?_eq_none_iff.mp hcollector),fun hsends => ?_⟩
    cases hsends with
    | named h htrims =>
      rw [collector?_eq_some_iff.mpr ⟨_,h,htrims⟩] at hcollector
      cases hcollector
    | directory _ hdir => exact hdir
  | some collector =>
    rw [apiUrl_of_named hcollector,Except.ok.injEq,Text.trimEndSlashes_eq_iff]
    constructor
    · intro hunslashes
      obtain ⟨value,h,htrims⟩ := collector?_eq_some_iff.mp hcollector
      exact .named h htrims hunslashes
    · intro hsends
      cases hsends with
      | named h htrims hunslashes =>
        rw [collector?_eq_some_iff.mpr ⟨_,h,htrims⟩] at hcollector
        exact Option.some.inj hcollector ▸ hunslashes
      | directory h =>
        rw [collector?_eq_none_iff.mpr h] at hcollector
        cases hcollector

lemma apiUrl_eq_error_iff (tag : ScriptTag) (err : Config.Error) :
    tag.apiUrl = .error err ↔ tag.Unnamed ∧ ScriptTag.directory tag.source = .error err := by
  rw [← collector?_eq_none_iff]
  cases hcollector : tag.collector? with
  | none => simp [apiUrl_of_unnamed hcollector]
  | some collector => simp [apiUrl_of_named hcollector]

end ScriptTag

namespace Config

/-- The table of a file; all defaults for a file without one, and for one that is missing or broken. -/
def FileContent.table (content : FileContent) : Config := content.config?.getD {}

lemma mergeFile_eq (base : Config) (content : FileContent) :
    mergeFile base content = merge base { content.table with siteKey := none } := by
  unfold mergeFile FileContent.table
  cases content.config? with
  | none => exact (merge_default base).symm
  | some c => rfl

/-- The files below a tag, laid over each other. -/
lemma mergeFiles_eq (files : Files) : mergeFile (mergeFile {} files.user) files.project =
    merge { files.user.table with siteKey := none } { files.project.table with siteKey := none } := by
  rw [mergeFile_eq,mergeFile_eq,default_merge]

lemma applyEnvironment_eq (e : Environment) (c : Config) : applyEnvironment e c = { c with
    enabled := c.enabled && !e.optsOut
    debug := c.debug || e.debug && !e.optsOut } := by
  unfold applyEnvironment
  cases e.optsOut <;> cases e.debug <;> simp

/-- A configuration is what tag, files and environment make of it. -/
structure Layered (tag : ScriptTag) (files : Files) (e : Environment) (c : Config) : Prop where
  siteKey : ∀ key, c.siteKey = some key ↔
    ∃ value, tag.attribute? ScriptTag.siteKeyAttribute = some value ∧ Text.Trims value key
  apiUrl : ∃ url, tag.SendsTo url ∧ c.apiUrl = some url
  enabled : c.enabled =
    (files.user.table.enabled && files.project.table.enabled && !e.disabled && !e.doNotTrack)
  debug : c.debug =
    (files.user.table.debug || files.project.table.debug || e.debug && !e.disabled && !e.doNotTrack)
  dedupeLeave : c.dedupeLeave = (files.user.table.dedupeLeave || files.project.table.dedupeLeave)
  transport : c.transport =
    if files.project.table.transport = .auto then files.user.table.transport else files.project.table.transport
  asked : ∀ value, tag.attribute? ScriptTag.includeQueryAttribute = some value →
    (c.includeQuery = true ↔ ScriptTag.SaysYes value)
  unasked : tag.attribute? ScriptTag.includeQueryAttribute = none →
    c.includeQuery = (files.user.table.includeQuery || files.project.table.includeQuery)

/-- What becomes of the files below a tag that sends to a URL, in one piece. -/
lemma layered_of_apiUrl {tag : ScriptTag} {url : String} (h : tag.apiUrl = .ok url) (files : Files)
    (e : Environment) : layered tag files e = .ok {
      siteKey := tag.siteKey?
      apiUrl := some url
      enabled := files.user.table.enabled && files.project.table.enabled && !e.optsOut
      debug := files.user.table.debug || files.project.table.debug || e.debug && !e.optsOut
      dedupeLeave := files.user.table.dedupeLeave || files.project.table.dedupeLeave
      transport := if files.project.table.transport = .auto then files.user.table.transport
        else files.project.table.transport
      includeQuery :=
        tag.includeQuery?.getD (files.user.table.includeQuery || files.project.table.includeQuery) } := by
  simp only [layered,ScriptTag.config,h,mergeFiles_eq,applyEnvironment_eq]
  cases hquery : tag.includeQuery? <;> simp [merge,ScriptTag.siteKey?]

lemma layered_of_apiUrl_error {tag : ScriptTag} {err : Error} (h : tag.apiUrl = .error err) (files : Files)
    (e : Environment) : layered tag files e = .error err := by
  simp [layered,ScriptTag.config,h]

/-- A broken file has the table of one that is missing. -/
lemma FileContent.table_of_broken {content : FileContent} (h : content.config? = none) :
    content.table = FileContent.missing.table := by
  rw [FileContent.table,h]
  rfl

/-- Files count by their tables only. -/
lemma layered_congr (tag : ScriptTag) {files files' : Files} (huser : files.user.table = files'.user.table)
    (hproject : files.project.table = files'.project.table) (e : Environment) :
    layered tag files e = layered tag files' e := by
  simp only [layered,mergeFiles_eq,huser,hproject]

lemma layered_eq_ok_iff (tag : ScriptTag) (files : Files) (e : Environment) (c : Config) :
    layered tag files e = .ok c ↔ Layered tag files e c := by
  constructor
  · intro hc
    cases h : tag.apiUrl with
    | error err => simp [layered_of_apiUrl_error h] at hc
    | ok url =>
      rw [layered_of_apiUrl h] at hc
      obtain rfl := Except.ok.inj hc
      obtain ⟨hasked,hunasked⟩ := ScriptTag.eq_includeQuery_iff.mp (Eq.refl (tag.includeQuery?.getD
        (files.user.table.includeQuery || files.project.table.includeQuery)))
      exact {
        siteKey := fun key => ScriptTag.siteKey?_eq_some_iff
        apiUrl := ⟨url,(tag.apiUrl_eq_ok_iff url).mp h,rfl⟩
        enabled := by simp [Environment.optsOut,Bool.and_assoc]
        debug := by simp [Environment.optsOut,Bool.and_assoc]
        dedupeLeave := rfl
        transport := rfl
        asked := hasked
        unasked := hunasked }
  · rintro ⟨hkey,⟨url,hurl,hapi⟩,henabled,hdebug,hdedupe,htransport,hasked,hunasked⟩
    have hquery := ScriptTag.eq_includeQuery_iff.mpr ⟨hasked,hunasked⟩
    have hkey' : c.siteKey = tag.siteKey? := Option.ext fun key => (hkey key).trans ScriptTag.siteKey?_eq_some_iff.symm
    rw [layered_of_apiUrl ((tag.apiUrl_eq_ok_iff url).mpr hurl)]
    cases c
    simp_all [Environment.optsOut,Bool.and_assoc]

lemma layered_eq_error_iff (tag : ScriptTag) (files : Files) (e : Environment) (err : Error) :
    layered tag files e = .error err ↔ tag.Unnamed ∧ ScriptTag.directory tag.source = .error err := by
  rw [← tag.apiUrl_eq_error_iff]
  cases h : tag.apiUrl with
  | error err' => simp [layered_of_apiUrl_error h]
  | ok url => simp [layered_of_apiUrl h]

/-- A tag can be configured unless it names no collector and has a source without a directory, whatever the files
and the environment are. A configuration has the site key of its tag, without the blanks around it, and the collector
of its tag, without the slashes at its end either; an opt-out of any layer disables it; what the tag says of queries
counts whatever the files say; the rest is laid over each other field by field; and a broken file is like one that is
not there. -/
theorem layered_iff (tag : ScriptTag) (files : Files) (e : Environment) :
    (∀ err, layered tag files e = .error err ↔
      tag.Unnamed ∧ ScriptTag.directory tag.source = .error err) ∧
    (∀ c, layered tag files e = .ok c ↔ Layered tag files e c) ∧
    ∀ content : FileContent, content.config? = none →
      layered tag { files with user := content } e = layered tag { files with user := .missing } e ∧
      layered tag { files with project := content } e = layered tag { files with project := .missing } e := by
  refine ⟨layered_eq_error_iff tag files e,layered_eq_ok_iff tag files e,fun content hbroken => ?_⟩
  have htable := content.table_of_broken hbroken
  exact ⟨layered_congr tag (by exact htable) (by rfl) e,layered_congr tag (by rfl) (by exact htable) e⟩

/-- A tag that says no to queries and names a collector with slashes at its end, above files of which one is broken and
the other says yes. -/
def refusing : ScriptTag where
  source := "https://a.io/js/t.js?v=1"
  attributes := [("data-site-key"," k "),("data-api-url"," https://h.io/in// "),("data-include-query","false")]

def halfBroken : Files where
  user := .bytes "[tracker\ndedupe_leave = true\n".toUTF8
  project := .bytes "[tracker]\ninclude_query = true\ntransport = \"beacon\"\n".toUTF8

/-- A tag that says yes to queries and nothing else. -/
def asking : ScriptTag where
  source := "https://a.io/js/t.js"
  attributes := [("data-include-query"," YES ")]

theorem layered_iff_refusing : halfBroken.user.config? = none ∧
    layered refusing halfBroken { debug := true } =
      layered refusing { halfBroken with user := .missing } { debug := true } ∧
    layered refusing halfBroken { debug := true } = .ok {
      siteKey := some "k", apiUrl := some "https://h.io/in", debug := true, transport := .beacon } ∧
    layered { refusing with attributes := [] } halfBroken {} = .ok {
      apiUrl := some "https://a.io/js", includeQuery := true, transport := .beacon } ∧
    layered asking {} { debug := true, doNotTrack := true } = .ok {
      apiUrl := some "https://a.io/js", includeQuery := true, enabled := false } ∧
    ∃ err, layered ⟨"t.js",[("data-api-url"," ")]⟩ halfBroken {} = .error err := by
  have hbroken : halfBroken.user.config? = none := by decide +kernel
  obtain ⟨-,hok,hsame⟩ := layered_iff refusing halfBroken { debug := true }
  refine ⟨hbroken,(hsame _ hbroken).1,(hok _).mpr ?_,?_,?_,?_⟩
  · have hkey : Text.Trims " k " "k" := Text.trimmed?_eq_some_iff.mp (by decide +kernel)
    have hnamed : Text.Trims " https://h.io/in// " "https://h.io/in//" :=
      Text.trimmed?_eq_some_iff.mp (by decide +kernel)
    have hunslashed : Text.Unslashes "https://h.io/in//" "https://h.io/in" :=
      ⟨⟨['/','/'],by decide +kernel,by simp⟩,by decide +kernel⟩
    have hno : ¬ScriptTag.SaysYes "false" := (ScriptTag.parseFlag_iff _).not.mp (by decide +kernel)
    refine ⟨fun key => ?_,⟨_,.named rfl hnamed hunslashed,rfl⟩,?_,?_,?_,?_,?_,?_⟩
    · rw [← ScriptTag.siteKey?_eq_some_iff,ScriptTag.siteKey?_eq_some_iff.mpr ⟨" k ",rfl,hkey⟩]
    · decide +kernel
    · decide +kernel
    · decide +kernel
    · decide +kernel
    · rintro value ⟨⟩
      exact iff_of_false Bool.false_ne_true hno
    · intro hnone
      cases hnone
  · refine ((layered_iff _ _ _).2.1 _).mpr ⟨fun key => ?_,⟨_,.directory ?_ ?_,rfl⟩,?_,?_,?_,?_,?_,?_⟩
    · simp [ScriptTag.attribute?]
    · simp [ScriptTag.Unnamed,ScriptTag.attribute?]
    · decide +kernel
    · decide +kernel
    · decide +kernel
    · decide +kernel
    · decide +kernel
    · intro value hvalue
      cases hvalue
    · exact fun _ => by decide +kernel
  · have hyes : ScriptTag.SaysYes " YES " := (ScriptTag.parseFlag_iff _).mp (by decide +kernel)
    refine ((layered_iff _ _ _).2.1 _).mpr ⟨fun key => ?_,⟨_,.directory ?_ ?_,rfl⟩,rfl,rfl,rfl,rfl,?_,?_⟩
    · simp [ScriptTag.attribute?,asking,ScriptTag.siteKeyAttribute]
    · simp [ScriptTag.Unnamed,ScriptTag.attribute?,asking,ScriptTag.apiUrlAttribute]
    · decide +kernel
    · rintro value ⟨⟩
      exact iff_of_true rfl hyes
    · intro hnone
      cases hnone
  · obtain ⟨err,herr⟩ : ∃ err, ScriptTag.directory "t.js" = .error err := ⟨_,by rfl⟩
    refine ⟨err,((layered_iff _ _ _).1 err).mpr ⟨?_,herr⟩⟩
    rintro value ⟨⟩
    simp [Text.Blank,Text.isBlank]

end Config
end PageTelemetry
