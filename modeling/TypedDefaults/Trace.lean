import TypedDefaults.Kind
import TypedDefaults.Message

/-!
# The trace of a run

A run makes known what it does by actions: it opens and closes phases, notes
events, and sends messages to the console. The trace records phases and events
in order, each under the phase that was open when it came. Every thread has
phases of its own; where it has none open, the events belong to the phase that
the main thread has open.
-/

namespace TypedDefaults

/-- An event that is no phase. -/
inductive Note where
  | entry (key field template : String) (reused : Bool)
  | skipped (location reason detail : String)
  | transformed (nodeType before after : String)
  | imported (name file : String)
  | warned (text : String)
  deriving DecidableEq, Repr, Inhabited

/-- Something that a run makes known. -/
inductive Action where
  | openPhase (name detail : String)
  | closePhase
  | note (note : Note)
  | send (message : Message)
  deriving DecidableEq, Repr, Inhabited

/-- What a record of the trace is about. -/
inductive Event where
  | phaseStart (name detail : String)
  | phaseEnd
  | note (note : Note)
  deriving DecidableEq, Repr, Inhabited

/-- The types of events. -/
inductive EventType where
  | phaseStart
  | phaseEnd
  | entryRecorded
  | entryReused
  | occurrenceSkipped
  | treeMutation
  | analysisWarning
  | importAction
  deriving DecidableEq, Repr, Inhabited

namespace EventType

/-- Every type of events. -/
def all : List EventType :=
  [phaseStart, phaseEnd, entryRecorded, entryReused, occurrenceSkipped, treeMutation,
   analysisWarning, importAction]

/-- The word for a type. -/
def word : EventType → String
  | phaseStart => "phase_start"
  | phaseEnd => "phase_end"
  | entryRecorded => "entry_recorded"
  | entryReused => "entry_reused"
  | occurrenceSkipped => "occurrence_skipped"
  | treeMutation => "tree_mutation"
  | analysisWarning => "analysis_warning"
  | importAction => "import_action"

/-- The type that a word stands for. -/
def ofWord (text : String) : Except UnknownWord EventType :=
  match all.find? fun type => type.word = text with
  | some type => .ok type
  | none => .error ⟨text, "TraceEventType"⟩

end EventType

namespace Event

/-- The type of an event. -/
def type : Event → EventType
  | phaseStart _ _ => .phaseStart
  | phaseEnd => .phaseEnd
  | note (.entry _ _ _ reused) => if reused then .entryReused else .entryRecorded
  | note (.skipped _ _ _) => .occurrenceSkipped
  | note (.transformed _ _ _) => .treeMutation
  | note (.imported _ _) => .importAction
  | note (.warned _) => .analysisWarning

/-- The description of an event. -/
def description : Event → String
  | phaseStart name _ => name
  | phaseEnd => "End Phase"
  | note (.entry _ field _ reused) => (if reused then "Reused " else "Recorded ") ++ field
  | note (.skipped location _ _) => "Skipped '" ++ location ++ "'"
  | note (.transformed nodeType _ _) => "Transformed " ++ nodeType
  | note (.imported name _) => "Import " ++ name
  | note (.warned text) => text

/-- The named details of an event. -/
def details : Event → List (String × String)
  | phaseStart _ detail => [("detail", detail)]
  | phaseEnd => []
  | note (.entry key field template _) => [("key", key), ("field", field), ("template", template)]
  | note (.skipped _ reason detail) => [("reason", reason), ("detail", detail)]
  | note (.transformed _ before after) => [("before", before), ("after", after)]
  | note (.imported _ file) => [("file", file)]
  | note (.warned _) => [("level", "warning")]

end Event

/-- An event with the number of the event that opened its phase. -/
structure Record where
  event : Event
  parent : Option Nat
  deriving DecidableEq, Repr, Inhabited

/-- A thread: the main one, whose open phases the trace keeps, or a worker with open phases of its
own, innermost first. -/
inductive Thread where
  | main
  | worker (phases : List Nat)
  deriving DecidableEq, Repr, Inhabited

/-- The records in order, and the phases that the main thread has open, innermost first. -/
structure Trace where
  records : List Record
  mainPhases : List Nat
  deriving DecidableEq, Repr, Inhabited

namespace Trace

/-- Nothing recorded. -/
def empty : Trace := ⟨[], []⟩

/-- The phases that a thread has open. -/
def phasesOf (trace : Trace) : Thread → List Nat
  | .main => trace.mainPhases
  | .worker phases => phases

/-- The phase under which a thread's events come. -/
def phaseAround (trace : Trace) (thread : Thread) : Option Nat :=
  match trace.phasesOf thread with
  | innermost :: _ => some innermost
  | [] => trace.mainPhases.head?

/-- Keeps the open phases of a thread. -/
def withPhases (trace : Trace) (thread : Thread) (phases : List Nat) : Trace × Thread :=
  match thread with
  | .main => ({ trace with mainPhases := phases }, .main)
  | .worker _ => (trace, .worker phases)

/-- Appends a record. -/
def append (trace : Trace) (event : Event) (parent : Option Nat) : Trace :=
  { trace with records := trace.records ++ [⟨event, parent⟩] }

/-- What an action of a thread does to the trace. Closing without an open phase does nothing, and
messages leave no record. -/
def perform (trace : Trace) (thread : Thread) : Action → Trace × Thread
  | .openPhase name detail =>
    let number := trace.records.length
    let recorded := trace.append (.phaseStart name detail) (trace.phaseAround thread)
    recorded.withPhases thread (number :: trace.phasesOf thread)
  | .closePhase =>
    match trace.phasesOf thread with
    | [] => (trace, thread)
    | innermost :: others =>
      (trace.append .phaseEnd (some innermost)).withPhases thread others
  | .note note => (trace.append (.note note) (trace.phaseAround thread), thread)
  | .send _ => (trace, thread)

/-- What actions of the main thread do to the trace. -/
def performAll (trace : Trace) (actions : List Action) : Trace :=
  actions.foldl (fun trace action => (trace.perform .main action).1) trace

end Trace

/-- The messages among actions. -/
def messagesOf (actions : List Action) : List Message :=
  actions.filterMap fun
    | .send message => some message
    | _ => none

end TypedDefaults
