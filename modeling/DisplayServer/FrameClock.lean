/-!
# Frame clocks

A frame clock calls back on the next frame. Requests queue up, and a frame runs everything that
was queued before it, once and in order of request; what is requested while a frame runs waits
for the next one. `FrameClock` is the queue, whose frames come from outside. `PacedClock` lets
a timer bring them: the first request arms it, and the frame comes when the period is over.

A callback is a value here, and `spawn` says which requests running it makes.
-/

namespace DisplayServer

/-- Callbacks waiting for the next frame, and how many were ever requested. -/
structure FrameClock (κ : Type) where
  queue : List κ
  requested : Nat
  deriving DecidableEq

namespace FrameClock

variable {κ : Type}

def idle : FrameClock κ := ⟨[], 0⟩

instance : Inhabited (FrameClock κ) := ⟨idle⟩

def request (c : FrameClock κ) (callback : κ) : FrameClock κ :=
  ⟨c.queue ++ [callback], c.requested + 1⟩

@[simp] theorem queue_request (c : FrameClock κ) (callback : κ) :
    (c.request callback).queue = c.queue ++ [callback] := rfl

@[simp] theorem requested_request (c : FrameClock κ) (callback : κ) :
    (c.request callback).requested = c.requested + 1 := rfl

/-- The clock as a frame begins: nothing waits any more. -/
def taken (c : FrameClock κ) : FrameClock κ := { c with queue := [] }

/-- A frame. Returns the clock, on which the requests of the callbacks wait, and the callbacks
that ran. -/
def frame (spawn : κ → List κ) (c : FrameClock κ) : FrameClock κ × List κ :=
  (c.queue.foldl (fun c callback => (spawn callback).foldl request c) c.taken, c.queue)

end FrameClock

/-- A frame clock with a timer; times are in milliseconds. -/
structure PacedClock (κ : Type) where
  period : Nat
  now : Nat
  queue : List κ
  /-- A frame was asked for and has not come yet. -/
  armed : Bool
  /-- When the timers that still run were started. -/
  timers : List Nat
  destroyed : Bool
  deriving DecidableEq

/-- Why a paced clock cannot be made: its timer needs a runtime to run on. -/
inductive ClockError
  | noRuntime
  deriving DecidableEq

def ClockError.message : ClockError → String
  | .noRuntime => "the vsync station must be created inside a tokio runtime"

/-- What is asked of a paced clock. -/
inductive ClockCall (κ : Type)
  | request (callback : κ)
  | destroy
  deriving DecidableEq

namespace PacedClock

variable {κ : Type}

def start (period : Nat) : PacedClock κ :=
  { period, now := 0, queue := [], armed := false, timers := [], destroyed := false }

/-- A clock of this period, which can only be made where a runtime runs. -/
def make (hasRuntime : Bool) (period : Nat) : Except ClockError (PacedClock κ) :=
  if hasRuntime then .ok (start period) else .error .noRuntime

/-- Queues a callback, and starts a timer unless a frame was asked for already; a destroyed
clock ignores it. -/
def request (c : PacedClock κ) (callback : κ) : PacedClock κ :=
  if c.destroyed then c
  else
    { c with
      queue := c.queue ++ [callback]
      armed := true
      timers := if c.armed then c.timers else c.timers ++ [c.now] }

/-- Drops everything that waits and ignores what comes. A timer that runs is left to run. -/
def destroy (c : PacedClock κ) : PacedClock κ := { c with queue := [], destroyed := true }

def call (c : PacedClock κ) : ClockCall κ → PacedClock κ
  | .request callback => c.request callback
  | .destroy => c.destroy

/-- The clock as a timer goes off: the frame it was asked for is there, and nothing waits any
more. -/
def taken (c : PacedClock κ) (started : Nat) : PacedClock κ :=
  { c with queue := [], armed := false, timers := c.timers.erase started }

/-- The timer started then goes off, and everything queued runs; `does` says what running a
callback asks of the clock. Returns the callbacks that ran. -/
def expire (does : κ → List (ClockCall κ)) (c : PacedClock κ) (started : Nat) :
    PacedClock κ × List κ :=
  ((c.queue.flatMap does).foldl call (c.taken started), c.queue)

def wait (c : PacedClock κ) (time : Nat) : PacedClock κ := { c with now := c.now + time }

/-- The timers whose period is over. -/
def due (c : PacedClock κ) : List Nat := c.timers.filter fun started => started + c.period ≤ c.now

/-- Time passes. The timers whose period is over by then go off, one after the other; requests
of the callbacks count from the new time. Returns the callbacks that ran. -/
def advance (spawn : κ → List κ) (c : PacedClock κ) (time : Nat) : PacedClock κ × List κ :=
  (c.wait time).due.foldl
    (fun (c, ran) started =>
      let (c, more) := c.expire (fun callback => (spawn callback).map .request) started
      (c, ran ++ more))
    (c.wait time, [])

end PacedClock

/-- A labelled callback that requests another frame `chain` times over: the callback it
requests has a label greater by 100. -/
structure ChainedCallback where
  label : Int
  chain : Nat
  deriving DecidableEq

namespace ChainedCallback

/-- The difference between the labels of a callback and the one it requests. -/
def labelStep : Int := 100

/-- What running the callback requests. -/
def spawn (c : ChainedCallback) : List ChainedCallback :=
  match c.chain with
  | 0 => []
  | n + 1 => [⟨c.label + labelStep, n⟩]

end ChainedCallback

end DisplayServer
