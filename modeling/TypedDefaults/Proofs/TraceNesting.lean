import TypedDefaults.Proofs.Telling

/-!
# Phases of a trace

A reader of a trace who keeps the open phases in mind, innermost first, can say
of each record under which phase it should stand. What the main thread does
keeps the records as the reader expects them; the phases that the reader has
open are those that the thread has. Actions that close what they open, and
nothing else, leave the phases as they were. Threads of their own, whose phases
the trace does not keep, are not treated.
-/

namespace TypedDefaults

namespace Trace

/-- Reads the record of a number with the phases open in front of it, innermost first, and gives
the phases open behind it. The record must stand under the innermost open phase, or under none where
none is open, and the end of a phase must close one. -/
def read? (number : Nat) (phases : List Nat) (record : Record) : Option (List Nat) :=
  if record.parent = phases.head? then
    match record.event with
    | .phaseStart _ _ => some (number :: phases)
    | .phaseEnd => phases.tail?
    | .note _ => some phases
  else none

/-- Reads records one after the other, from the number of the first. -/
def replay? (number : Nat) (phases : List Nat) : List Record → Option (List Nat)
  | [] => some phases
  | record :: rest => (read? number phases record).bind fun after => replay? (number + 1) after rest

/-- Records behind others are read with the phases that these leave open. -/
theorem replay?_append (number : Nat) (phases : List Nat) (front back : List Record) :
    replay? number phases (front ++ back) =
      (replay? number phases front).bind fun middle =>
        replay? (number + front.length) middle back := by
  induction front generalizing number phases with
  | nil => rfl
  | cons record rest inductionHypothesis =>
    have further : number + (record :: rest).length = number + 1 + rest.length := by
      rw [List.length_cons]
      omega
    rw [List.cons_append, replay?, replay?, further, Option.bind_assoc]
    exact Option.bind_congr fun after _ => inductionHypothesis (number + 1) after

/-- The records of a trace are read to the end, and leave the phases open that the main thread
has. -/
def WellNested (trace : Trace) : Prop :=
  replay? 0 [] trace.records = some trace.mainPhases

/-- The events of the main thread come under its innermost phase. -/
theorem phaseAround_main (trace : Trace) : trace.phaseAround .main = trace.mainPhases.head? := by
  rw [phaseAround, phasesOf]
  cases trace.mainPhases <;> rfl

/-- One more record is read with the phases that the main thread has open. -/
theorem WellNested.append {trace : Trace} (nested : trace.WellNested) (record : Record) :
    replay? 0 [] (trace.records ++ [record]) =
      read? trace.records.length trace.mainPhases record := by
  rw [replay?_append, nested, Nat.zero_add, Option.bind_some, replay?]
  exact Option.bind_fun_some _

/-- An action of the main thread keeps a trace well nested. -/
theorem WellNested.perform {trace : Trace} (nested : trace.WellNested) (action : Action) :
    (trace.perform .main action).1.WellNested := by
  cases action with
  | openPhase name detail =>
    refine (nested.append _).trans ?_
    rw [read?, if_pos trace.phaseAround_main]
    rfl
  | closePhase =>
    rw [Trace.perform]
    cases phases : trace.phasesOf .main with
    | nil => exact nested
    | cons innermost around =>
      have opened : trace.mainPhases = innermost :: around := phases
      refine (nested.append _).trans ?_
      rw [opened, read?, if_pos (by rfl)]
      rfl
  | note noted =>
    refine (nested.append _).trans ?_
    rw [read?, if_pos trace.phaseAround_main]
    rfl
  | send message => exact nested

/-- The actions of the main thread keep a trace well nested. -/
theorem WellNested.performAll {trace : Trace} (nested : trace.WellNested) (actions : List Action) :
    (trace.performAll actions).WellNested := by
  induction actions generalizing trace with
  | nil => exact nested
  | cons action rest inductionHypothesis => exact inductionHypothesis (nested.perform action)

/-- What comes later is done to the trace that the earlier leaves. -/
theorem performAll_append (trace : Trace) (first second : List Action) :
    trace.performAll (first ++ second) = (trace.performAll first).performAll second :=
  List.foldl_append

end Trace

/-- The actions leave the phases of the main thread as they are. -/
def Bracketed (actions : List Action) : Prop :=
  ∀ trace : Trace, (trace.performAll actions).mainPhases = trace.mainPhases

namespace Bracketed

theorem nothing : Bracketed [] := fun _ => rfl

theorem noted (note : Note) : Bracketed [.note note] := fun _ => rfl

/-- Actions that leave the phases as they are do so one after the other. -/
theorem append {first second : List Action} (before : Bracketed first) (after : Bracketed second) :
    Bracketed (first ++ second) := by
  intro trace
  rw [Trace.performAll_append, after, before]

theorem notes (notes : List Note) : Bracketed (notes.map .note) := by
  induction notes with
  | nil => exact nothing
  | cons first rest inductionHypothesis => exact (noted first).append inductionHypothesis

/-- A phase around actions that leave the phases as they are leaves them as they are. -/
theorem inPhase (name detail : String) {actions : List Action} (inside : Bracketed actions) :
    Bracketed (.openPhase name detail :: actions ++ [.closePhase]) := by
  intro trace
  let opened := (trace.perform .main (.openPhase name detail)).1
  have innermost : (opened.performAll actions).mainPhases =
      trace.records.length :: trace.mainPhases := inside opened
  have closed : ((opened.performAll actions).perform .main .closePhase).1.mainPhases =
      trace.mainPhases := by
    rw [Trace.perform, Trace.phasesOf, innermost]
    rfl
  rw [Trace.performAll_append]
  exact closed

end Bracketed

/-- A trace that starts from nothing with actions that close what they open is read to the end, with
every phase closed. -/
theorem Bracketed.replayed {actions : List Action} (bracketed : Bracketed actions) :
    Trace.replay? 0 [] (Trace.empty.performAll actions).records = some [] := by
  have nested : Trace.empty.WellNested := rfl
  rw [(nested.performAll actions : _ = _), bracketed]
  rfl

end TypedDefaults
