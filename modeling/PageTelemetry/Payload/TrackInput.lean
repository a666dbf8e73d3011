import PageTelemetry.Json

/-! Overrides put together call by call. -/
namespace PageTelemetry

/-- The fields set so far. -/
structure TrackInput where
  fields : Json.Members := []
  deriving Inhabited

namespace TrackInput

def pageView : TrackInput := {}

def field (t : TrackInput) (name : String) (v : Json) : TrackInput := ⟨t.fields.insert name v⟩

def event (name : String) : TrackInput := pageView.field "name" (.string name)

/-- The members of the properties, if they are an object. -/
def structured (t : TrackInput) : Json.Members :=
  ((t.fields.get? "properties").bind Json.members?).getD []

/-- Sets one property; properties that are no object are replaced by one. -/
def property (t : TrackInput) (name : String) (v : Json) : TrackInput :=
  t.field "properties" (.object (t.structured.insert name v))

/-- One call on the fields set so far. -/
inductive Call
  | pageView
  | event (name : String)
  | path (text : String)
  | referrer (text : String)
  | screenWidth (n : Nat)
  | properties (v : Json)
  | property (name : String) (v : Json)
  | field (name : String) (v : Json)

def apply (t : TrackInput) : Call → TrackInput
  | .pageView => TrackInput.pageView
  | .event name => TrackInput.event name
  | .path text => t.field "path" (.string text)
  | .referrer text => t.field "referrer" (.string text)
  | .screenWidth n => t.field "screen_width" (.int n)
  | .properties v => t.field "properties" v
  | .property name v => t.property name v
  | .field name v => t.field name v

def ofCalls (calls : List Call) : TrackInput := calls.foldl apply pageView

def toJson (t : TrackInput) : Json := .object t.fields

end TrackInput

end PageTelemetry
