import PageTelemetry.Command
import PageTelemetry.Proofs.Layering
import PageTelemetry.World.Embedding

/-! Opting out. A variable of the environment, or a file whose table is a configuration that is not enabled, keeps
every tracker away, however it is to be made: by a script tag, by sending or by a replay. -/
namespace PageTelemetry

namespace Config

/-- Every entry that a configuration knows has a value of its type; others may have any. -/
structure Shaped (entries : Toml.Entries) : Prop where
  texts : ∀ key ∈ ["site_key","api_url"], ∀ v ∈ entries.get? key, v.string?.isSome = true
  flags : ∀ key ∈ ["include_query","enabled","debug","dedupe_leave"], ∀ v ∈ entries.get? key, v.boolean?.isSome = true
  transport : ∀ v ∈ entries.get? "transport", (readTransport? v).isSome = true

instance (entries : Toml.Entries) : Decidable (Shaped entries) :=
  decidable_of_iff
    ((∀ key ∈ ["site_key","api_url"], ∀ v ∈ entries.get? key, v.string?.isSome = true) ∧
      (∀ key ∈ ["include_query","enabled","debug","dedupe_leave"], ∀ v ∈ entries.get? key,
        v.boolean?.isSome = true) ∧
      ∀ v ∈ entries.get? "transport", (readTransport? v).isSome = true)
    ⟨fun ⟨texts,flags,transport⟩ => ⟨texts,flags,transport⟩,fun h => ⟨h.texts,h.flags,h.transport⟩⟩

/-- What a table says about being enabled. -/
def enabledIn? (entries : Toml.Entries) : Option Bool := (entries.get? "enabled").bind Toml.boolean?

variable {entries : Toml.Entries}

lemma withDefault_of_forall {α : Type} {name : String} (place : ℕ) {read : Toml → Option α} (default : α)
    (h : ∀ v ∈ entries.get? name, (read v).isSome = true) :
    ∃ a, (Toml.Record.named entries).withDefault name place read default = some a := by
  simp only [Toml.Record.withDefault,Toml.Record.get?]
  cases hv : entries.get? name with
  | none => exact ⟨_,rfl⟩
  | some v => exact Option.isSome_iff_exists.mp (h v hv)

lemma Shaped.text (h : Shaped entries) (key : String) (hkey : key ∈ ["site_key","api_url"]) (place : ℕ) :
    ∃ a, (Toml.Record.named entries).withDefault key place (fun v => v.string?.map some) none = some a :=
  withDefault_of_forall place none fun v hv => by rw [Option.isSome_map]; exact h.texts key hkey v hv

lemma Shaped.flag (h : Shaped entries) (key : String)
    (hkey : key ∈ ["include_query","enabled","debug","dedupe_leave"]) (place : ℕ) (default : Bool) :
    ∃ a, (Toml.Record.named entries).withDefault key place Toml.boolean? default = some a :=
  withDefault_of_forall place default (h.flags key hkey)

/-- A table of that shape is a configuration, which is enabled unless the table says otherwise. -/
theorem Shaped.ofToml? (h : Shaped entries) : ∃ c, Config.ofToml? (.table entries) = some c ∧
    c.enabled = (enabledIn? entries).getD true := by
  obtain ⟨siteKey,hsiteKey⟩ := h.text "site_key" (by simp) 0
  obtain ⟨apiUrl,hapiUrl⟩ := h.text "api_url" (by simp) 1
  obtain ⟨includeQuery,hincludeQuery⟩ := h.flag "include_query" (by simp) 2 false
  obtain ⟨enabled,henabled⟩ := h.flag "enabled" (by simp) 3 true
  obtain ⟨debug,hdebug⟩ := h.flag "debug" (by simp) 4 false
  obtain ⟨transport,htransport⟩ :=
    withDefault_of_forall 5 TransportPreference.auto h.transport
  obtain ⟨dedupeLeave,hdedupeLeave⟩ := h.flag "dedupe_leave" (by simp) 6 false
  refine ⟨⟨siteKey,apiUrl,includeQuery,enabled,debug,transport,dedupeLeave⟩,?_,?_⟩
  · simp [Config.ofToml?,Toml.record?,hsiteKey,hapiUrl,hincludeQuery,henabled,hdebug,htransport,hdedupeLeave]
  · simp only [Toml.Record.withDefault,Toml.Record.get?] at henabled
    unfold enabledIn?
    cases hv : entries.get? "enabled" with
    | none => simpa [hv] using henabled.symm
    | some v => simp only [hv] at henabled; simp [henabled]

namespace FileContent
variable {content : FileContent}

/-- The entries of the `tracker` table of a file, if the file is a document with one. -/
def entries? (content : FileContent) : Option Toml.Entries := do
  let document ← Toml.parse? (← content.text?)
  match document.get? "tracker" with
  | some (.table entries) => some entries
  | _ => none

lemma config?_of_entries? (h : content.entries? = some entries) :
    content.config? = Config.ofToml? (.table entries) := by
  simp only [entries?,Option.bind_eq_bind,Option.bind_eq_some_iff] at h
  obtain ⟨text,htext,document,hparse,htracker⟩ := h
  split at htracker
  · rename_i found hfound
    obtain rfl := Option.some.inj htracker
    simp [config?,ofDocument?,htext,hparse,hfound]
  · cases htracker

/-- A file opts out: its table is a configuration and says that it is not enabled. -/
def OptsOut (content : FileContent) : Prop :=
  ∃ entries ∈ content.entries?, Shaped entries ∧ enabledIn? entries = some false

instance : Decidable content.OptsOut := by unfold OptsOut; infer_instance

lemma OptsOut.table_enabled (h : content.OptsOut) : content.table.enabled = false := by
  obtain ⟨entries,hentries,hshaped,hno⟩ := h
  obtain ⟨c,hc,henabled⟩ := hshaped.ofToml?
  rw [table,config?_of_entries? hentries,hc,Option.getD_some,henabled,hno]
  rfl

end FileContent

/-- Someone opts out: in the environment, or by the file of the user or of the project. -/
def OptedOut (files : Files) (e : Environment) : Prop :=
  e.disabled = true ∨ e.doNotTrack = true ∨ files.user.OptsOut ∨ files.project.OptsOut

variable {files : Files} {e : Environment}

lemma OptedOut.disabled (h : OptedOut files e) {tag : ScriptTag} {c : Config} (hc : layered tag files e = .ok c) :
    c.enabled = false := by
  rw [((layered_eq_ok_iff tag files e c).mp hc).enabled]
  rcases h with h | h | h | h
  · simp [h]
  · simp [h]
  · simp [h.table_enabled]
  · simp [h.table_enabled]

end Config

namespace World

/-- A configuration that is disabled changes nothing, whatever is on the page. -/
lemma install_disabled (w : World) {c : Config} (h : c.enabled = false) (source : Option SourceId)
    (outlet : OutletId) : w.install c source outlet = (none,w) := by
  simp [install,h]

end World

open Config

variable {files : Files} {e : Environment}

lemma Config.OptedOut.embed (h : OptedOut files e) (w : World) (tag : ScriptTag) (spawns : Bool) :
    w.embed tag files e spawns = (none,w) := by
  unfold World.embed
  cases hc : layered tag files e with
  | error err => rfl
  | ok c =>
    have hnone : w.newcomer? c = none := by simp [World.newcomer?,h.disabled hc]
    dsimp only
    rw [World.install_disabled _ (h.disabled hc),hnone]
    simp

lemma Config.OptedOut.send (h : OptedOut files e) (s : Command.Send) (now : ℤ) :
    ∃ err, s.run files e now = .error err := by
  have hsettings : ∃ err, s.settings files e = .error err := by
    unfold Command.Send.settings
    cases hc : layered s.tag files e with
    | error err => exact ⟨_,rfl⟩
    | ok c => exact ⟨.disabled,by simp [h.disabled hc]⟩
  obtain ⟨err,herr⟩ := hsettings
  exact ⟨err,by simp [Command.Send.run,herr]⟩

lemma Config.OptedOut.replay (h : OptedOut files e) (s : Replay.Script) (now : ℤ) (dryRun : Bool) :
    (∃ err, (Replay.run s files e now dryRun).error = some err) ∧
      (Replay.run s files e now dryRun).traffic.requests = [] := by
  unfold Replay.run
  cases hc : layered s.tag files e with
  | error err => exact ⟨⟨_,rfl⟩,rfl⟩
  | ok c =>
    have hbegin : Replay.begin s c now dryRun =
        (none,{ page := s.page, clock := ⟨now⟩, outlets := [Replay.outlet c dryRun] }) :=
      World.install_disabled _ (h.disabled hc) _ _
    simp only [Replay.runWith,hbegin]
    exact ⟨⟨_,rfl⟩,rfl⟩

/-- Whoever has opted out is not tracked. No tag can be configured as enabled; embedding one leaves everything as it
is; and sending and replaying fail with nothing printed and no request handed on. -/
theorem optedOut_silent (h : OptedOut files e) :
    (∀ tag c, layered tag files e = .ok c → c.enabled = false) ∧
    (∀ (w : World) tag spawns, w.embed tag files e spawns = (none,w)) ∧
    (∀ (s : Command.Send) now, ∃ err, s.run files e now = .error err) ∧
    (∀ (s : Replay.Script) now dryRun, (∃ err, (Replay.run s files e now dryRun).error = some err) ∧
      (Replay.run s files e now dryRun).traffic.requests = []) ∧
    ∀ c around, c ≠ .version → around.files = files → around.environment = e →
      (Command.run c around).status = 1 ∧ (Command.run c around).output = "" := by
  refine ⟨fun _ _ => h.disabled,h.embed,h.send,h.replay,?_⟩
  rintro (_ | s | ⟨path,dryRun⟩) around hversion rfl rfl
  · exact absurd rfl hversion
  · obtain ⟨err,herr⟩ := h.send s around.now
    simp [Command.run,herr,Command.Result.failed]
  · simp only [Command.run,Command.runReplay]
    cases hscript : Replay.Script.load path around.script with
    | error err => exact ⟨rfl,rfl⟩
    | ok script =>
      obtain ⟨⟨err,herr⟩,-⟩ := h.replay script around.now dryRun
      simp [herr,Command.Result.failed]

/-- A script that is served with a site key. -/
def keyedTag : ScriptTag := ⟨"https://a.io/js/t.js",[("data-site-key","k")]⟩

/-- The user has opted out, and the project asks for a transport. -/
def declined : Files where
  user := .bytes "[tracker]\nenabled = false\nnote = 1\n".toUTF8
  project := .bytes "[tracker]\ntransport = \"beacon\"\n".toUTF8

theorem optedOut_silent_declined : OptedOut declined {} ∧
    (∀ tag c, layered tag declined {} = .ok c → c.enabled = false) ∧
    ∃ c, layered keyedTag declined {} = .ok c ∧ c.transport = .beacon ∧ c.enabled = false := by
  have hdeclined : OptedOut declined {} := .inr (.inr (.inl (by decide +kernel)))
  obtain ⟨hdisabled,-⟩ := optedOut_silent hdeclined
  have hbeacon : (layered keyedTag declined {}).toOption.map Config.transport = some .beacon := by decide +kernel
  cases hc : layered keyedTag declined {} with
  | error err => simp [hc,Except.toOption] at hbeacon
  | ok c =>
    rw [hc] at hbeacon
    exact ⟨hdeclined,hdisabled,c,rfl,Option.some.inj hbeacon,hdisabled _ _ hc⟩

/-- The user means to opt out, with a flag that is no flag beside it. -/
def misshapen : Files where
  user := .bytes "[tracker]\nenabled = false\ndebug = 1\n".toUTF8

/-- A file whose table says that it is not enabled, but is no configuration, does not count: the tag of a script is
embedded, and reports. -/
theorem misshapen_tracked : (∃ entries ∈ misshapen.user.entries?, enabledIn? entries = some false) ∧
    (layered keyedTag misshapen {}).toOption.map Config.enabled = some true ∧
    (({ page := { history := .ofHref "https://a.io/", ready := .complete } } : World).embed keyedTag misshapen
      {}).2.sent.length = 1 := by
  refine ⟨?_,?_,?_⟩
  all_goals decide +kernel

end PageTelemetry
