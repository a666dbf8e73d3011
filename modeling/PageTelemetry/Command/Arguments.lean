import PageTelemetry.Text.Blank

/-! Reading the arguments of a command: options by their long names, and operands. -/
namespace PageTelemetry.Command

/-- How an option is given. -/
inductive OptionKind
  /-- Without a value, at most once. -/
  | flag
  /-- With a value, at most once. -/
  | single
  /-- With a value each time. -/
  | repeated
  deriving DecidableEq, Repr

/-- What arguments say, each list in their order. -/
structure Arguments where
  flags : List String := []
  values : List (String × String) := []
  operands : List String := []
  deriving DecidableEq, Repr

namespace Arguments

/-- The name of a long option, and the value attached to it. -/
def longOption? (a : String) : Option (String × Option String) :=
  match a.toList with
  | '-' :: '-' :: cs =>
    match Text.cut? (· == '=') cs with
    | some (name,value) => some (String.ofList name,some (String.ofList value))
    | none => some (String.ofList cs,none)
  | _ => none

/-- A dash in front makes an option, unless nothing follows it. -/
def isDashed (a : String) : Bool :=
  match a.toList with
  | '-'::_::_ => true
  | _ => false

/-- Reads arguments. A value stands behind its option or is attached to it; a dashed one has to be
attached. Two dashes alone end the options. -/
def scan? (kinds : List (String × OptionKind)) : List String → Option Arguments
  | [] => some {}
  | "--"::rest => some { operands := rest }
  | a::rest =>
    match longOption? a with
    | none =>
      if isDashed a then none
      else (scan? kinds rest).map fun g => { g with operands := a::g.operands }
    | some (name,attached) =>
      match kinds.lookup name, attached, rest with
      | none, _, _ => none
      | some .flag, none, rest => (scan? kinds rest).map fun g => { g with flags := name::g.flags }
      | some .flag, some _, _ => none
      | some _, some v, rest =>
        (scan? kinds rest).map fun g => { g with values := (name,v)::g.values }
      | some _, none, v::rest =>
        if isDashed v then none
        else (scan? kinds rest).map fun g => { g with values := (name,v)::g.values }
      | some _, none, [] => none

/-- How often an option is given. -/
def count (g : Arguments) (name : String) : Nat :=
  g.flags.count name + (g.values.map Prod.fst).count name

/-- Arguments in which no option is given too often. -/
def read? (kinds : List (String × OptionKind)) (args : List String) : Option Arguments :=
  (scan? kinds args).filter fun g =>
    kinds.all fun (name,kind) => kind == .repeated || g.count name ≤ 1

def flag (g : Arguments) (name : String) : Bool := g.flags.contains name

def value? (g : Arguments) (name : String) : Option String := g.values.lookup name

def valuesOf (g : Arguments) (name : String) : List String :=
  (g.values.filter (·.1 == name)).map Prod.snd

end Arguments

end PageTelemetry.Command
