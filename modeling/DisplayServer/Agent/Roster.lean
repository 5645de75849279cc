import DisplayServer.Agent.Hub

/-!
# Agents that come with the server

A `Roster` names agents by label and says how each takes its calls: some only write to a log,
some keep what they are told, and some cannot be reached or unsubscribe after one event. What
the roster's agents are told is kept in a journal, and the recording agents can be asked what
they have kept.
-/

namespace DisplayServer

/-- How an agent takes a call. -/
inductive Manner
  /-- Takes it, and the call is journalled. -/
  | attentive
  /-- Cannot be reached; the call is journalled. -/
  | unreachable
  /-- Takes it and ends its subscription to that kind of event. -/
  | once
  /-- Writes it to the server's log. -/
  | logging
  /-- Keeps a copy of it. -/
  | recording
  deriving DecidableEq, Inhabited

/-- What an agent of this manner does when told of an event. -/
def Manner.respond (manner : Manner) (label : String) (event : AgentEvent) : Response String :=
  match manner with
  | attentive | logging | recording => { reached := true, requests := [] }
  | unreachable => { reached := false, requests := [] }
  | once => { reached := true, requests := [.unregister label event.kind] }

/-- The agents known so far, by label, and what the recording ones have kept. -/
structure Roster where
  manners : List (String × Manner)
  kept : List (String × List AgentEvent)

namespace Roster

def empty : Roster := ⟨[], []⟩

instance : Inhabited Roster := ⟨empty⟩

/-- The manner of a labelled agent; an agent nobody introduced is attentive. -/
def manner (r : Roster) (label : String) : Manner := (r.manners.lookup label).getD .attentive

/-- Introduces an agent at the first use of its label. -/
def introduce (r : Roster) (label : String) (manner : Manner) : Roster :=
  if (r.manners.lookup label).isSome then r
  else { r with manners := r.manners ++ [(label, manner)] }

/-- What the agents of the roster do when told of an event. -/
def respond (r : Roster) (label : String) (event : AgentEvent) : Response String :=
  (r.manner label).respond label event

/-- What a recording agent has kept; none for any other. -/
def recorded? (r : Roster) (label : String) : Option (List AgentEvent) :=
  match r.manners.lookup label with
  | some .recording => some ((r.kept.lookup label).getD [])
  | _ => none

def keep (label : String) (event : AgentEvent) :
    List (String × List AgentEvent) → List (String × List AgentEvent)
  | [] => [(label, [event])]
  | e :: rest =>
    if e.1 = label then (label, e.2 ++ [event]) :: rest else e :: keep label event rest

def hear (r : Roster) (call : Call String) : Roster :=
  match r.manner call.agent with
  | .recording => { r with kept := keep call.agent call.event r.kept }
  | _ => r

def hearAll (r : Roster) (calls : List (Call String)) : Roster := calls.foldl hear r

def clear (r : Roster) (label : String) : Roster :=
  { r with kept := r.kept.filter fun e => e.1 ≠ label }

/-- The calls that a journal shows: those of agents that neither log nor record. -/
def journalled (r : Roster) (calls : List (Call String)) : List (Call String) :=
  calls.filter fun c =>
    match r.manner c.agent with
    | .attentive | .unreachable | .once => true
    | .logging | .recording => false

end Roster

end DisplayServer
