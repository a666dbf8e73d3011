import PageTelemetry.Replay.Script

/-! A visit as one flat record: where the visitor can go back and forward to, how long the visit has
lasted, and what was reported last. There are no hooks, no listeners and nothing to be called. -/
namespace PageTelemetry.Replay

/-- What stays the same during a visit. -/
structure Visit where
  settings : Settings
  referrer : String
  width : Nat

structure Flat where
  /-- Nearest first, as the locations ahead. -/
  behind : List String := []
  current : String
  ahead : List String := []
  title : String
  visible : Bool := true
  loaded : Bool := false
  /-- Milliseconds since the start. -/
  elapsed : Nat := 0
  lastPath : Option String := none
  pageStart : Option Nat := none
  leaving : Bool := false

namespace Flat
variable (v : Visit) (f : Flat)

def path : String := Location.path f.current v.settings.includeQuery

/-- What the page shows at the moment. -/
def viewPayload : Payload :=
  { siteKey := v.settings.siteKey
    path := f.path v
    title := f.title
    referrer := Location.normalizeReferrer v.referrer f.current
    screenWidth := v.width
    campaign := Campaign.ofHref f.current }

def leavePayload (seconds : Nat) : Payload := { f.viewPayload v with title := "", duration := seconds }

def trackPayload (name : Option String) (properties : Option Json) : Payload :=
  { f.viewPayload v with name := name.getD "", properties := Payload.propertiesText properties }

/-- A page view is reported if the path is not that of the last one. -/
def view : List Payload × Flat :=
  if f.lastPath = some (f.path v) then ([],f)
  else ([f.viewPayload v],
    { f with lastPath := some (f.path v), pageStart := some f.elapsed, leaving := false })

/-- A leave is reported with the rounded seconds since the start of the page, if there are some and less
than an hour of them; only one for each page view if the settings say so. -/
def leave : List Payload × Flat :=
  match f.pageStart with
  | none => ([],f)
  | some start =>
    let seconds := (f.elapsed-start+500)/1000
    if 0 < seconds ∧ seconds < 3600 ∧ ¬(v.settings.dedupeLeave ∧ f.leaving) then
      ([f.leavePayload v seconds],{ f with leaving := true })
    else ([],f)

/-- Nothing is reported before the document is complete. -/
def observed (report : Flat → List Payload × Flat) : List Payload × Flat :=
  if f.loaded then report f else ([],f)

/-- What `track` reports always counts as the start of the page; without a name it is a page view. -/
def track (name : Option String) (properties : Option Json) : List Payload × Flat :=
  ([f.trackPayload v name properties],
    if name.getD "" = "" then
      { f with lastPath := some (f.path v), pageStart := some f.elapsed, leaving := false }
    else { f with pageStart := some f.elapsed })

/-- Whole milliseconds of a span in seconds. -/
def milliseconds (seconds : Binary64) : Nat := ((Span.ofSeconds? seconds).map Span.milliseconds).getD 0

def step : Step → List Payload × Flat
  | .push url =>
    { f with behind := f.current::f.behind, current := Page.resolveFrom f.current url, ahead := [] }.observed
      (view v)
  | .replace url => { f with current := Page.resolveFrom f.current url }.observed (view v)
  | .back =>
    match f.behind with
    | [] => ([],f)
    | href::rest => { f with behind := rest, current := href, ahead := f.current::f.ahead }.observed (view v)
  | .forward =>
    match f.ahead with
    | [] => ([],f)
    | href::rest => { f with behind := f.current::f.behind, current := href, ahead := rest }.observed (view v)
  | .advance seconds => ([],{ f with elapsed := f.elapsed+milliseconds seconds })
  | .track name properties => f.track v name properties
  | .title title => ([],{ f with title := title })
  | .hide =>
    if f.visible then { f with visible := false }.observed (leave v) else ([],f)
  | .reveal => ([],{ f with visible := true })
  | .unload => f.observed (leave v)
  | .load => if f.loaded then ([],f) else { f with loaded := true }.view v

def play : Flat → List Step → List Payload
  | _,[] => []
  | f,a::rest => (f.step v a).1 ++ play (f.step v a).2 rest

/-- Before anything has happened. -/
def ofScene (s : Scene) : Flat := { current := s.url, title := s.title }

/-- The requests of a script. A page that starts loaded is one that is loaded at once. -/
def requests (s : Script) : List Request :=
  (play v (ofScene s.scene) (if s.scene.loaded then Step.load::s.steps else s.steps)).map
    (Request.ofPayload v.settings)

end Flat
end PageTelemetry.Replay
