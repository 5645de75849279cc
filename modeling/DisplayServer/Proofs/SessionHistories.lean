import DisplayServer.Proofs.Runs
import DisplayServer.Proofs.SessionSteps

/-!
# Histories of one window session

A run of one session is a list of `Session.Act`s: steps, each with the answer that its stage has
for it, and attributes that are set. Its histories are collected act by act: the states that it
was led through, the reports of them, and the rectangles that were granted, that a stage accepted
and that a surface got.
-/

namespace DisplayServer

namespace WindowOutput

/-- The rectangle that goes out to a stage or a surface. -/
def rect? : WindowOutput → Option Rect
  | .stageRect _ rect _ | .bounds _ rect => some rect
  | _ => none

/-- What a stage is asked to take. -/
def stageRect? : WindowOutput → Option (Rect × ChangeReason)
  | .stageRect _ rect reason => some (rect, reason)
  | _ => none

/-- The bounds that one surface gets. -/
def boundsOf? (surface : Nat) : WindowOutput → Option Rect
  | .bounds n rect => if n = surface then some rect else none
  | _ => none

/-- A reported transition. -/
def entered? : WindowOutput → Option (SessionId × SessionState)
  | .entered id next => some (id, next)
  | _ => none

end WindowOutput

namespace Session

/-! ## What is selected from the outputs of a step -/

variable {s : Session} {asked : List WindowOutput}

theorem entered?_of_asks (h : ∀ o ∈ asked, s.Asks o) :
    asked.filterMap WindowOutput.entered? = [] := by
  refine List.filterMap_eq_nil_iff.mpr ?_
  intro o ho
  cases h o ho <;> rfl

theorem boundsOf?_of_asks (h : ∀ o ∈ asked, s.Asks o) (surface : Nat) :
    asked.filterMap (WindowOutput.boundsOf? surface) = [] := by
  refine List.filterMap_eq_nil_iff.mpr ?_
  intro o ho
  cases h o ho <;> rfl

theorem entered?_announce (s : Session) (path : List SessionState) :
    (s.announce path).filterMap WindowOutput.entered? =
      if s.watched then path.map fun state => (s.id, state) else [] := by
  unfold announce
  split
  · rw [List.filterMap_map, ← List.filterMap_eq_map]
    rfl
  · rfl

/-! ## Runs of one session -/

/-- What is done to a session: it takes a step, while its stage answers as given, or an
attribute is set. -/
inductive Act
  | take (answer : Except Error Unit) (c : Command)
  | set (a : Attribute)

def perform (s : Session) : Act → Step
  | .take answer c => s.take answer c
  | .set a => ⟨.ok (), s.set a, []⟩

def next (s : Session) (act : Act) : Session := (s.perform act).session

def after (s : Session) (run : List Act) : Session := run.foldl next s

theorem after_append (s : Session) (before rest : List Act) :
    s.after (before ++ rest) = (s.after before).after rest :=
  List.foldl_append

theorem after_concat (s : Session) (run : List Act) (act : Act) :
    s.after (run ++ [act]) = (s.after run).next act :=
  after_append s run [act]

/-! ## Histories -/

/-- What a command adds if it is granted. -/
def granted {α : Type} (f : Command → SessionState → List α) (s : Session) : Act → List α
  | .take answer c => if (s.take answer c).result.isOk then f c s.state else []
  | .set _ => []

/-- The states that an act leads through. -/
def turns : Session → Act → List SessionState := granted Command.path

/-- The surface, if any, of a granted connection. -/
def connects : Session → Act → List (Option Nat) := granted fun c _ => c.surfaces

/-- The rectangle that is granted. -/
def grants : Session → Act → List (Rect × ChangeReason) := granted fun c _ => c.rects

/-- The transitions that an act reports. -/
def reports (s : Session) (act : Act) : List (SessionId × SessionState) :=
  (s.perform act).outputs.filterMap WindowOutput.entered?

/-- The rectangle that the stage is asked to take and accepts. -/
def accepts (s : Session) : Act → List (Rect × ChangeReason)
  | .take answer c =>
    if answer.isOk then (s.take answer c).outputs.filterMap WindowOutput.stageRect? else []
  | .set _ => []

/-- The bounds that an act gives to a surface. -/
def bounds (surface : Nat) (s : Session) (act : Act) : List Rect :=
  (s.perform act).outputs.filterMap (WindowOutput.boundsOf? surface)

/-- An act leaves the session with the rectangle that was granted last. -/
theorem getLastD_grants (s : Session) (act : Act) :
    (s.grants act).getLastD (s.rect, s.reason) = ((s.next act).rect, (s.next act).reason) := by
  cases act with
  | set a => cases a <;> rfl
  | take answer c =>
    have hdoes := does_take s answer c
    simp only [grants, granted, next, perform]
    generalize s.take answer c = step at hdoes
    cases hdoes with
    | turned _ asked hturns =>
      rw [hturns.rects_eq]
      rfl
    | refused | connected | disconnected | updated => rfl

theorem getLastD_grants_after (s : Session) (run : List Act) :
    (collect next grants s run).getLastD (s.rect, s.reason) =
      ((s.after run).rect, (s.after run).reason) :=
  getLastD_collect getLastD_grants s run

/-- The session keeps the rectangle that was granted last. -/
theorem getLast?_grants {s : Session} {run : List Act} (h : collect next grants s run ≠ []) :
    (collect next grants s run).getLast? = some ((s.after run).rect, (s.after run).reason) := by
  have hlast := getLastD_grants_after s run
  rw [List.getLastD_eq_getLast?, List.getLast?_eq_some_getLast h] at hlast
  rw [List.getLast?_eq_some_getLast h]
  exact congrArg some hlast

end Session

end DisplayServer
