import BootChain.Trial

namespace BootChain

/-- Something that happened in a run. Events never carry what a program printed. -/
structure Event where
  name : String
  generation : Option Generation := none
  fixture : Option FixtureId := none
  step : Option Step := none
  outcome : Option String := none
  elapsedMs : Option Nat := none
  detail : Option String := none
  deriving DecidableEq, Repr

namespace Event

/-- The document of an event at a moment, given in milliseconds. -/
def json (event : Event) (momentMs : Nat) : Json :=
  .obj [("event", .str event.name), ("timestamp_ms", .nat momentMs),
    ("generation", .opt (fun g => .nat g.number) event.generation),
    ("fixture", .opt (fun id => .str id.text) event.fixture),
    ("step", .opt (fun step => .str step.label) event.step),
    ("outcome", .opt .str event.outcome), ("duration_ms", .opt .nat event.elapsedMs),
    ("detail", .opt .str event.detail)]

/-- The line of an event in a log. -/
def line (event : Event) (momentMs : Nat) : String :=
  (event.json momentMs).compact ++ "\n"

end Event

end BootChain
