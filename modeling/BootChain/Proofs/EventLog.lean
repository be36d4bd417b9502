import BootChain.EventLog
import BootChain.Proofs.FileSystem.Appending
import BootChain.Proofs.Json.Reading
import BootChain.Proofs.Text.Utf8.RoundTrip

namespace BootChain

namespace Json

/-- The value of a member of an object. -/
def member? (name : String) : Json → Option Json
  | obj members => members.lookup name
  | _ => none

def text? : Json → Option String
  | str text => some text
  | _ => none

def nat? : Json → Option Nat
  | int (.ofNat n) => some n
  | _ => none

@[simp]
theorem text?_str (text : String) : text? (str text) = some text := rfl

@[simp]
theorem nat?_nat (n : Nat) : nat? (nat n) = some n := rfl

/-- Reads a value that may be absent. -/
def opt? {α : Type} (read : Json → Option α) : Json → Option (Option α)
  | null => some none
  | document => (read document).map some

/-- A value that may be absent is read back, as long as no value looks absent. -/
theorem opt?_opt {α : Type} (read : Json → Option α) (encode : α → Json)
    (hread : ∀ value, read (encode value) = some value) (hnull : ∀ value, encode value ≠ null)
    (value : Option α) : opt? read (opt encode value) = some value := by
  cases value with
  | none => rfl
  | some value =>
    rw [opt, opt?, hread]
    · rfl
    · exact hnull value

end Json

def Generation.ofJson? (document : Json) : Option Generation :=
  document.nat?.bind ofNat?

def FixtureId.ofJson? (document : Json) : Option FixtureId :=
  document.text?.map mk

def Step.ofJson? (document : Json) : Option Step :=
  document.text?.bind fun label => all.find? (·.label = label)

theorem Step.ofJson?_label (step : Step) : ofJson? (.str step.label) = some step := by
  cases step <;> decide

namespace Event

/-- The event that a document is of, and its moment. -/
def ofJson? (document : Json) : Option (Event × Nat) := do
  let name ← (← document.member? "event").text?
  let momentMs ← (← document.member? "timestamp_ms").nat?
  let generation ← (← document.member? "generation").opt? Generation.ofJson?
  let fixture ← (← document.member? "fixture").opt? FixtureId.ofJson?
  let step ← (← document.member? "step").opt? Step.ofJson?
  let outcome ← (← document.member? "outcome").opt? Json.text?
  let elapsedMs ← (← document.member? "duration_ms").opt? Json.nat?
  let detail ← (← document.member? "detail").opt? Json.text?
  return ({ name, generation, fixture, step, outcome, elapsedMs, detail }, momentMs)

/-- The event that a line of a log tells, and its moment. -/
def ofLine? (line : Bytes) : Option (Event × Nat) := do
  let text ← Utf8.text? line
  let document ← Json.parse? text
  ofJson? document

/-- The octets of the line of an event, without the one that ends it. -/
def octets (event : Event) (momentMs : Nat) : Bytes :=
  Utf8.encode (event.json momentMs).compact

/-- The octet that ends a line. -/
def newline : UInt8 := 0x0A

variable (event : Event) (momentMs : Nat)

theorem ofJson?_json : ofJson? (event.json momentMs) = some (event, momentMs) := by
  have hgeneration := Json.opt?_opt Generation.ofJson? (fun g => .nat g.number)
    Generation.ofNat?_number nofun event.generation
  have hfixture := Json.opt?_opt FixtureId.ofJson? (fun id => .str id.text) (fun _ => rfl) nofun
    event.fixture
  have hstep := Json.opt?_opt Step.ofJson? (fun step => .str step.label) Step.ofJson?_label nofun
    event.step
  have htext := Json.opt?_opt Json.text? .str Json.text?_str nofun
  have helapsed := Json.opt?_opt Json.nat? .nat Json.nat?_nat nofun event.elapsedMs
  simp [ofJson?, json, Json.member?, List.lookup_cons, hgeneration, hfixture, hstep, htext,
    helapsed]

theorem encode_line :
    Utf8.encode (event.line momentMs) = event.octets momentMs ++ [newline] := by
  rw [line, Utf8.encode_append]
  rfl

/-- No text in an event ends its line early. -/
theorem newline_notMem_octets : newline ∉ event.octets momentMs := by
  refine Utf8.notMem_encode (c := '\n') (by decide) rfl fun hmem => ?_
  rw [Json.compact, String.toList_ofList] at hmem
  exact absurd (Json.le_toNat_of_mem_compactChars _ _ hmem) (by decide)

theorem ofLine?_octets : ofLine? (event.octets momentMs) = some (event, momentMs) := by
  rw [ofLine?, octets, Utf8.text?_encode]
  dsimp only [bind, Option.bind]
  rw [Json.parse?_compact]
  exact ofJson?_json event momentMs

end Event

namespace EventLog

open Event (newline)

/-- What is done with a log, by whoever has it open. -/
inductive Action where
  | opened
  | recorded (events : List (Event × Nat))

namespace Action

/-- The events that come into a log, each with its moment. -/
def events : Action → List (Event × Nat)
  | opened => []
  | recorded events => events

def perform (log : Path) (files : FileSystem) : Action → Except IoError FileSystem
  | opened => openAt files log
  | recorded events => record files log events

end Action

/-- The files after some actions on a log, one after the other. -/
def run (log : Path) (files : FileSystem) (actions : List Action) : Except IoError FileSystem :=
  actions.foldlM (Action.perform log) files

/-- The line that an event leaves in a log, up to its end. -/
def lineOf (entry : Event × Nat) : Bytes := entry.1.octets entry.2

/-- The text that some events leave in a log. -/
def linesOf (entries : List (Event × Nat)) : Bytes :=
  entries.flatMap fun entry => lineOf entry ++ [newline]

theorem linesOf_append (first second : List (Event × Nat)) :
    linesOf (first ++ second) = linesOf first ++ linesOf second :=
  List.flatMap_append

section

variable {files : FileSystem} {log : Path} {content : Bytes}

/-- Whatever is done with a log, it only comes to hold more at its end. -/
theorem perform_eq (action : Action) :
    action.perform log files = files.append log (linesOf action.events) := by
  cases action with
  | opened => rfl
  | recorded events =>
    have hlines : linesOf events =
        events.flatMap fun entry => Utf8.encode (entry.1.line entry.2) := by
      simp only [linesOf, lineOf, Event.encode_line]
    rw [Action.events, hlines]
    rfl

/-- From where there is a log, actions add their events to it. -/
theorem run_of_hasFile (hfile : files.HasFile log content) (actions : List Action) :
    ∃ later, run log files actions = .ok later ∧
      later.HasFile log (content ++ linesOf (actions.flatMap Action.events)) := by
  induction actions generalizing files content with
  | nil =>
    rw [← List.append_nil content] at hfile
    exact ⟨files, rfl, hfile⟩
  | cons action rest ih =>
    obtain ⟨next, happend, hnext⟩ := (FileSystem.Holds.present hfile).append (linesOf action.events)
    obtain ⟨later, hrest, hlater⟩ := ih hnext
    refine ⟨later, ?_, ?_⟩
    · rw [run, List.foldlM_cons, perform_eq, happend]
      exact hrest
    · rwa [List.flatMap_cons, linesOf_append, ← List.append_assoc]

theorem run_opened (hholds : files.Holds log content) (actions : List Action) :
    ∃ later, run log files (.opened :: actions) = .ok later ∧
      later.HasFile log (content ++ linesOf (actions.flatMap Action.events)) := by
  obtain ⟨opened, happend, hopened⟩ := hholds.append []
  rw [List.append_nil] at hopened
  obtain ⟨later, hrest, hlater⟩ := run_of_hasFile hopened actions
  refine ⟨later, ?_, hlater⟩
  rw [run, List.foldlM_cons, Action.perform, openAt, happend]
  exact hrest

end

/-- The text of some events divides into a line for each, and nothing after the last. -/
theorem splitOn_linesOf (entries : List (Event × Nat)) :
    (linesOf entries).splitOn newline = entries.map lineOf ++ [[]] := by
  induction entries with
  | nil => rfl
  | cons entry rest ih =>
    have hline : newline ∉ lineOf entry := entry.1.newline_notMem_octets entry.2
    rw [linesOf, List.flatMap_cons, List.append_assoc, List.singleton_append,
      List.splitOn_append_cons_self, List.splitOn_eq_singleton hline, ← linesOf, ih]
    rfl

/-- Behind text that is empty or ends with a newline, a new line begins. -/
theorem splitOn_append_of_closed {content added : Bytes}
    (hclosed : content = [] ∨ content.getLast? = some newline) :
    (content ++ added).splitOn newline =
      (content.splitOn newline).dropLast ++ added.splitOn newline := by
  obtain rfl | hlast := hclosed
  · rw [List.splitOn_nil]
    rfl
  · obtain ⟨before, rfl⟩ := List.getLast?_eq_some_iff.1 hlast
    rw [List.append_assoc, List.singleton_append, List.splitOn_append_cons_self,
      List.splitOn_append_cons_self, List.splitOn_nil, List.dropLast_concat]

theorem ofLine?_lineOf (entry : Event × Nat) : Event.ofLine? (lineOf entry) = some entry :=
  entry.1.ofLine?_octets entry.2

theorem lineOf_inj {entry other : Event × Nat} (heq : lineOf entry = lineOf other) :
    entry = other := by
  have hread := congrArg Event.ofLine? heq
  rw [ofLine?_lineOf, ofLine?_lineOf] at hread
  exact Option.some.inj hread

/-- However often a log is opened and whatever events are recorded in it, it keeps what it held, and
    after that has one line for each event, in their order. A line is a document that tells its
    event, and no other event has the same line. -/
theorem run_keeps {files : FileSystem} {log : Path} {content : Bytes}
    (hholds : files.Holds log content)
    (hclosed : content = [] ∨ content.getLast? = some newline) (actions : List Action) :
    ∃ later added, run log files (.opened :: actions) = .ok later ∧
      later.read log = .ok (content ++ added) ∧
      added.splitOn newline = (actions.flatMap Action.events).map lineOf ++ [[]] ∧
      (content ++ added).splitOn newline =
        (content.splitOn newline).dropLast ++ added.splitOn newline ∧
      (∀ entry, ∃ text, Utf8.text? (lineOf entry) = some text ∧
        Json.parse? text = some (entry.1.json entry.2) ∧
        Event.ofJson? (entry.1.json entry.2) = some entry) ∧
      ∀ entry other, lineOf entry = lineOf other → entry = other := by
  obtain ⟨later, hrun, hfile⟩ := run_opened hholds actions
  exact ⟨later, _, hrun, hfile.read_eq, splitOn_linesOf _, splitOn_append_of_closed hclosed,
    fun entry => ⟨_, Utf8.text?_encode _, Json.parse?_compact _, entry.1.ofJson?_json entry.2⟩,
    fun _ _ => lineOf_inj⟩

/-- A log with a line in it, and a link that leads there. -/
def linkedLog : FileSystem where
  nodes := [
    (["d"].map Utf8.encode, .dir),
    (["d", "log"].map Utf8.encode, .file (Utf8.encode "old\n") 0o600),
    (["link"].map Utf8.encode, .link (.ofText "d/../d/log"))]

/-- An event with ends of lines, a quote, a backslash and a control in its texts, and one of which
    there is little to tell, at the last moment that there is. -/
def unusualEvents : List (Event × Nat) :=
  [({ name := "step_finished", generation := some .first, fixture := some ⟨"a\n\"\\"⟩,
      step := some .link, outcome := some "\x00", elapsedMs := some 0, detail := some "\n\n" }, 5),
    ({ name := "" }, 2 ^ 128 - 1)]

theorem run_keeps_unusualEvents :
    linkedLog.HasFile (.ofText "link") (Utf8.encode "old\n") ∧
      (Utf8.encode "old\n").getLast? = some newline ∧
      ∃ later added, run (.ofText "link") linkedLog
          [.opened, .recorded (unusualEvents.take 1), .opened,
            .recorded (unusualEvents.drop 1)] = .ok later ∧
        later.read (.ofText "link") = .ok (Utf8.encode "old\n" ++ added) ∧
        (added.splitOn newline).map Event.ofLine? = unusualEvents.map some ++ [none] := by
  have hfile : linkedLog.HasFile (.ofText "link") (Utf8.encode "old\n") :=
    ⟨["d", "log"].map Utf8.encode, 0o600, rfl⟩
  have hclosed : (Utf8.encode "old\n").getLast? = some newline := by decide
  obtain ⟨later, added, hrun, hread, hlines, -⟩ := run_keeps (.present hfile) (.inr hclosed)
    [.recorded (unusualEvents.take 1), .opened, .recorded (unusualEvents.drop 1)]
  refine ⟨hfile, hclosed, later, added, hrun, hread, ?_⟩
  have hdecoded : Event.ofLine? ∘ lineOf = some := funext ofLine?_lineOf
  rw [hlines, List.map_append, List.map_map, hdecoded]
  rfl

end EventLog

end BootChain
