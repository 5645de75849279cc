import DisplayServer.FrameClock
import DisplayServer.Proofs.Runs

/-!
# A paced clock runs each callback once

Three things of a paced clock move separately: what is queued, whether a frame was asked for, and
the timers that run. Calls come from outside and from callbacks, between frames and while one
runs, and a timer that runs goes off at any time. So the clock is followed through its history:
the calls made of it, and what its timers ran as they went off. A callback is called in the
history after the frame it is called from.

What is queued is what the history has `waiting`, a timer runs exactly while the clock is
`armed`, and it is armed while anything is queued (`Told`). So a timer that goes off runs what was
requested since the frame before, all that was requested has been run or is queued (`once`), and
what becomes of a request is settled by what follows it (`Fate`).
-/

namespace DisplayServer

/-- What happens at a paced clock. -/
inductive ClockEvent (κ : Type)
  | called (call : ClockCall κ)
  /-- A timer goes off, and these callbacks run. -/
  | expired (ran : List κ)
  deriving DecidableEq

namespace ClockEvent

variable {κ : Type}

/-- The callback that is requested, if one is. -/
def requested? : ClockEvent κ → Option κ
  | called (.request k) => some k
  | _ => none

/-- The callbacks that run. -/
def ran : ClockEvent κ → List κ
  | called _ => []
  | expired ks => ks

/-- Callbacks are requested one after the other. -/
def requests (ks : List κ) : List (ClockEvent κ) := ks.map fun k => called (.request k)

/-- What waits after the event. -/
def enqueue (queue : List κ) : ClockEvent κ → List κ
  | called (.request k) => queue ++ [k]
  | called .destroy | expired _ => []

/-- What waits at the end of a history: the requests since a timer last went off. -/
def waiting (history : List (ClockEvent κ)) : List κ := history.foldl enqueue []

variable {history before : List (ClockEvent κ)}

theorem waiting_concat (history : List (ClockEvent κ)) (e : ClockEvent κ) :
    waiting (history ++ [e]) = enqueue (waiting history) e := List.foldl_concat ..

theorem waiting_requests (history : List (ClockEvent κ)) (ks : List κ) :
    waiting (history ++ requests ks) = waiting history ++ ks := by
  induction ks using List.reverseRecOn with
  | nil => simp [requests]
  | append_singleton ks k ih =>
    have hconcat : history ++ requests (ks ++ [k]) =
        (history ++ requests ks) ++ [called (.request k)] := by simp [requests]
    rw [hconcat, waiting_concat, ih, enqueue, List.append_assoc]

theorem destroy_notMem_requests (ks : List κ) :
    (called .destroy : ClockEvent κ) ∉ requests ks := by
  simp [requests]

/-- What follows are requests until something else happens. -/
theorem requests_or_split (later : List (ClockEvent κ)) :
    (∃ ks, later = requests ks) ∨ (∃ ks rest, later = requests ks ++ called .destroy :: rest) ∨
      ∃ ks ran rest, later = requests ks ++ expired ran :: rest := by
  induction later with
  | nil => exact .inl ⟨[], rfl⟩
  | cons e rest ih =>
    match e with
    | expired ran => exact .inr (.inr ⟨[], ran, rest, rfl⟩)
    | called .destroy => exact .inr (.inl ⟨[], rest, rfl⟩)
    | called (.request k) =>
      rcases ih with ⟨ks, rfl⟩ | ⟨ks, rest, rfl⟩ | ⟨ks, ran, rest, rfl⟩
      · exact .inl ⟨k :: ks, rfl⟩
      · exact .inr (.inl ⟨k :: ks, rest, rfl⟩)
      · exact .inr (.inr ⟨k :: ks, ran, rest, rfl⟩)

/-- A timer that goes off runs what waits, and nothing once the clock was destroyed. -/
def Exact (history : List (ClockEvent κ)) : Prop :=
  ∀ before ran later, history = before ++ expired ran :: later →
    (called .destroy ∉ before → ran = waiting before) ∧ (called .destroy ∈ before → ran = [])

theorem exact_called (h : Exact history) (call : ClockCall κ) :
    Exact (history ++ [called call]) := by
  intro before ran later heq
  rcases eq_append_cons_concat heq with ⟨-, -, he⟩ | ⟨rest, rfl, hold⟩
  · cases he
  · exact h before ran rest hold

theorem exact_expired (h : Exact history) {ran : List κ}
    (hwaiting : called .destroy ∉ history → ran = waiting history)
    (hnone : called .destroy ∈ history → ran = []) : Exact (history ++ [expired ran]) := by
  intro before ran' later heq
  rcases eq_append_cons_concat heq with ⟨-, rfl, he⟩ | ⟨rest, rfl, hold⟩
  · obtain rfl := ClockEvent.expired.inj he
    exact ⟨hwaiting, hnone⟩
  · exact h before ran' rest hold

theorem Exact.of_prefix (h : Exact history) (hbefore : before <+: history) : Exact before := by
  obtain ⟨more, rfl⟩ := hbefore
  intro earlier ran later heq
  exact h earlier ran (later ++ more) (by simp [heq])

/-- Until the clock is destroyed, all that was requested has run or waits, in its order. -/
theorem Exact.requested_eq (h : Exact history) (hlive : called .destroy ∉ history) :
    history.filterMap requested? = history.flatMap ran ++ waiting history := by
  induction history using List.reverseRecOn with
  | nil => rfl
  | append_singleton history e ih =>
    rw [List.mem_append, not_or, List.mem_singleton] at hlive
    have hbefore := ih (h.of_prefix (List.prefix_append _ _)) hlive.1
    match e with
    | called (.request k) =>
      simp [waiting_concat, enqueue, requested?, ran, hbefore]
    | called .destroy => exact absurd rfl hlive.2
    | expired ks =>
      have hks : ks = waiting history := (h history ks [] rfl).1 hlive.1
      simp [waiting_concat, enqueue, requested?, ran, hbefore, hks]

/-- What becomes of a callback, by what follows its request: `queue` waited before it, and
`queued` waits in the end. -/
inductive Fate (queue : List κ) (k : κ) (queued : List κ) : List (ClockEvent κ) → Prop
  /-- Nothing but requests followed: it waits. -/
  | waits (ks : List κ) : queued = queue ++ k :: ks → Fate queue k queued (requests ks)
  /-- The first timer to go off runs it, with all that was queued before and after it. -/
  | runs (ks : List κ) (rest : List (ClockEvent κ)) :
      Fate queue k queued (requests ks ++ expired (queue ++ k :: ks) :: rest)
  /-- The clock is destroyed first. -/
  | dropped (ks : List κ) (rest : List (ClockEvent κ)) :
      Fate queue k queued (requests ks ++ called .destroy :: rest)

end ClockEvent

namespace PacedClock

open ClockEvent

variable {κ : Type} {c : PacedClock κ} {history : List (ClockEvent κ)}

theorem request_of_destroyed (h : c.destroyed = true) (k : κ) : c.request k = c := by
  simp [request, h]

theorem request_of_live (h : c.destroyed = false) (k : κ) :
    c.request k = { c with
      queue := c.queue ++ [k]
      armed := true
      timers := if c.armed then c.timers else c.timers ++ [c.now] } := by
  simp [request, h]

/-! ## Runs -/

/-- The runs of a clock, with their histories. A timer that runs goes off at any time, and the
callbacks make their calls in the order in which they run. -/
inductive Runs (does : κ → List (ClockCall κ)) (period : Nat) :
    List (ClockEvent κ) → PacedClock κ → Prop
  | start : Runs does period [] (start period)
  | call {history : List (ClockEvent κ)} {c : PacedClock κ} (call : ClockCall κ) :
      Runs does period history c → Runs does period (history ++ [called call]) (c.call call)
  | wait {history : List (ClockEvent κ)} {c : PacedClock κ} (time : Nat) :
      Runs does period history c → Runs does period history (c.wait time)
  | expire {history : List (ClockEvent κ)} {c : PacedClock κ} {t : Nat} :
      Runs does period history c → t ∈ c.timers →
      Runs does period
        (history ++ expired (c.expire does t).2 :: ((c.queue.flatMap does).map called))
        (c.expire does t).1

/-- The clock is as its history tells. -/
structure Told (history : List (ClockEvent κ)) (c : PacedClock κ) : Prop where
  /-- It is destroyed once it was called to be. -/
  destroyed : c.destroyed = true ↔ called .destroy ∈ history
  /-- Then nothing is queued, -/
  idle : c.destroyed = true → c.queue = []
  /-- and until then what waits is. -/
  queue : c.destroyed = false → c.queue = waiting history
  /-- A timer runs while a frame is asked for, and no other. -/
  timers : c.timers.length = if c.armed then 1 else 0
  /-- It was started before. -/
  started : ∀ t ∈ c.timers, t ≤ c.now
  /-- A frame is asked for while anything is queued. -/
  armed : c.queue ≠ [] → c.armed = true
  /-- The timers that went off ran what waited. -/
  ran : Exact history

theorem told_start (period : Nat) : Told ([] : List (ClockEvent κ)) (start period) where
  destroyed := by simp [start]
  idle _ := rfl
  queue _ := rfl
  timers := rfl
  started t ht := absurd ht List.not_mem_nil
  armed h := absurd rfl h
  ran before ran later heq := by simp at heq

theorem told_request (h : Told history c) (k : κ) :
    Told (history ++ [called (.request k)]) (c.request k) := by
  have hdestroyed : called .destroy ∈ history ++ [called (.request k)] ↔
      called .destroy ∈ history := by simp
  cases hc : c.destroyed with
  | true =>
    rw [request_of_destroyed hc]
    exact { h with
      destroyed := h.destroyed.trans hdestroyed.symm
      queue := fun hlive => absurd (hc.symm.trans hlive) nofun
      ran := exact_called h.ran _ }
  | false =>
    rw [request_of_live hc]
    exact {
      destroyed := h.destroyed.trans hdestroyed.symm
      idle := fun hd => absurd (hc.symm.trans hd) nofun
      queue := fun _ => by rw [waiting_concat, enqueue, ← h.queue hc]
      timers := by
        have htimers := h.timers
        cases harmed : c.armed <;> simp_all
      started := by
        intro t ht
        cases harmed : c.armed with
        | true => exact h.started t (by simpa [harmed] using ht)
        | false =>
          rcases (by simpa [harmed] using ht : t ∈ c.timers ∨ t = c.now) with hold | rfl
          · exact h.started t hold
          · exact Nat.le_refl _
      armed := fun _ => rfl
      ran := exact_called h.ran _ }

theorem told_destroy (h : Told history c) :
    Told (history ++ [called .destroy]) c.destroy where
  destroyed := by simp [destroy]
  idle _ := rfl
  queue hlive := absurd hlive nofun
  timers := h.timers
  started := h.started
  armed hqueue := absurd rfl hqueue
  ran := exact_called h.ran _

theorem told_call (h : Told history c) (call : ClockCall κ) :
    Told (history ++ [called call]) (c.call call) := by
  cases call with
  | request k => exact told_request h k
  | destroy => exact told_destroy h

theorem told_calls (calls : List (ClockCall κ)) (h : Told history c) :
    Told (history ++ calls.map called) (calls.foldl PacedClock.call c) := by
  induction calls generalizing history c with
  | nil => simpa using h
  | cons call rest ih => simpa using ih (told_call h call)

theorem told_wait (h : Told history c) (time : Nat) : Told history (c.wait time) :=
  { h with started := fun t ht => Nat.le_trans (h.started t ht) (Nat.le_add_right _ _) }

/-- The timer that goes off was the only one, so none is left. -/
theorem told_taken (h : Told history c) {t : Nat} (ht : t ∈ c.timers) :
    Told (history ++ [expired c.queue]) (c.taken t) := by
  have hnone : (c.timers.erase t).length = 0 := by
    have htimers := h.timers
    have hone : 0 < c.timers.length := List.length_pos_of_mem ht
    rw [List.length_erase_of_mem ht]
    split at htimers <;> omega
  exact {
    destroyed := by simpa [taken] using h.destroyed
    idle := fun _ => rfl
    queue := fun _ => by rw [waiting_concat]; rfl
    timers := hnone
    started := fun s hs => h.started s (List.mem_of_mem_erase hs)
    armed := fun hqueue => absurd rfl hqueue
    ran := by
      refine exact_expired h.ran (fun hlive => ?_) fun hgone => h.idle (h.destroyed.mpr hgone)
      exact h.queue (by simpa using mt h.destroyed.mp hlive) }

theorem told_of_runs {does : κ → List (ClockCall κ)} {period : Nat}
    (h : Runs does period history c) : Told history c := by
  induction h with
  | start => exact told_start period
  | call call _ ih => exact told_call ih call
  | wait time _ ih => exact told_wait ih time
  | expire _ ht ih =>
    rw [List.append_cons]
    exact told_calls _ (told_taken ih ht)

/-- Time that passes is a run: it makes the timers that are due go off. -/
theorem runs_advance {spawn : κ → List κ} {period : Nat}
    (h : Runs (fun k => (spawn k).map .request) period history c) (time : Nat) :
    ∃ more, Runs (fun k => (spawn k).map .request) period (history ++ more)
      (c.advance spawn time).1 ∧ more.flatMap ran = (c.advance spawn time).2 := by
  have htimers := (told_of_runs h).timers
  have hwait := h.wait time
  match hc : c.timers with
  | [] =>
    have hdue : (c.wait time).due = [] := by simp [due, wait, hc]
    rw [PacedClock.advance, hdue]
    exact ⟨[], by simpa using hwait, rfl⟩
  | [t] =>
    by_cases ht : t + c.period ≤ c.now + time
    · have hdue : (c.wait time).due = [t] := by simp [due, wait, hc, ht]
      rw [PacedClock.advance, hdue]
      refine ⟨_, hwait.expire (by simp [wait, hc]), ?_⟩
      simp [expire, ran, List.flatMap_map]
    · have hdue : (c.wait time).due = [] := by simp [due, wait, hc, ht]
      rw [PacedClock.advance, hdue]
      exact ⟨[], by simpa using hwait, rfl⟩
  | _ :: _ :: _ =>
    rw [hc] at htimers
    split at htimers <;> simp at htimers

/-! ## What a run promises -/

/-- A timer that runs is due once a period has passed, and then everything queued runs. -/
theorem Told.advance (h : Told history c) (spawn : κ → List κ) {time : Nat}
    (htime : c.period ≤ time) : (c.advance spawn time).2 = c.queue := by
  have hdue : (c.wait time).due = c.timers := by
    refine List.filter_eq_self.mpr fun t ht => decide_eq_true ?_
    have hstarted := h.started t ht
    simp only [wait]
    omega
  rw [PacedClock.advance, hdue]
  have htimers := h.timers
  cases harmed : c.armed with
  | false =>
    rw [harmed] at htimers
    have hqueue : c.queue = [] := by
      by_contra hqueue
      rw [h.armed hqueue] at harmed
      cases harmed
    rw [List.eq_nil_of_length_eq_zero htimers, hqueue]
    rfl
  | true =>
    rw [harmed] at htimers
    obtain ⟨t, ht⟩ := List.length_eq_one_iff.mp htimers
    rw [ht]
    rfl

/-- What becomes of a callback that is requested before the clock is destroyed. -/
theorem Told.fate (h : Told history c) {before later : List (ClockEvent κ)} {k : κ}
    (heq : history = before ++ called (.request k) :: later)
    (hlive : called .destroy ∉ before) : Fate (waiting before) k c.queue later := by
  have hrequested : ∀ ks, before ++ called (.request k) :: requests ks =
      before ++ requests (k :: ks) := fun _ => rfl
  rcases requests_or_split later with ⟨ks, rfl⟩ | ⟨ks, rest, rfl⟩ | ⟨ks, ran, rest, rfl⟩
  · refine .waits ks ?_
    rw [hrequested] at heq
    have hc : c.destroyed = false := by
      rw [← Bool.not_eq_true, h.destroyed, heq, List.mem_append, not_or]
      exact ⟨hlive, destroy_notMem_requests _⟩
    rw [h.queue hc, heq, waiting_requests]
  · exact .dropped ks rest
  · have hsplit : history = (before ++ requests (k :: ks)) ++ expired ran :: rest := by
      rw [heq, ← hrequested]
      simp
    have hbetween : called .destroy ∉ before ++ requests (k :: ks) := by
      rw [List.mem_append, not_or]
      exact ⟨hlive, destroy_notMem_requests _⟩
    obtain rfl : ran = waiting before ++ k :: ks := by
      rw [(h.ran _ ran rest hsplit).1 hbetween, waiting_requests]
    exact .runs ks rest

/-- The callbacks that run make their calls then. -/
theorem nested_of_runs {does : κ → List (ClockCall κ)} {period : Nat}
    (h : Runs does period history c) {before later : List (ClockEvent κ)} {ks : List κ}
    (heq : history = before ++ expired ks :: later) :
    (ks.flatMap does).map called <+: later := by
  induction h generalizing later with
  | start => simp at heq
  | call call _ ih =>
    rcases eq_append_cons_concat heq with ⟨-, -, he⟩ | ⟨rest, rfl, hold⟩
    · cases he
    · exact (ih hold).trans (List.prefix_append _ _)
  | wait _ _ ih => exact ih heq
  | @expire _ c _ _ _ ih =>
    rcases List.append_eq_append_iff.mp heq with ⟨between, rfl, hnew⟩ | ⟨between, hold, hnew⟩
    · cases between with
      | nil =>
        obtain ⟨hks, rfl⟩ := List.cons.inj hnew
        rw [← ClockEvent.expired.inj hks]
        exact List.prefix_rfl
      | cons e between =>
        -- among the calls made by the callbacks that run no timer goes off
        obtain ⟨-, hcalls⟩ := List.cons.inj hnew
        have hmem : expired ks ∈ (c.queue.flatMap does).map called := by
          rw [hcalls]
          exact List.mem_append_right _ List.mem_cons_self
        obtain ⟨call, -, hcall⟩ := List.mem_map.mp hmem
        cases hcall
    · cases between with
      | nil =>
        obtain ⟨hks, rfl⟩ := List.cons.inj hnew
        rw [ClockEvent.expired.inj hks]
        exact List.prefix_rfl
      | cons e between =>
        obtain ⟨rfl, rfl⟩ := List.cons.inj hnew
        exact (ih hold).trans (List.prefix_append _ _)

/-- What a run of a clock promises, of its history and of the state it ends in. -/
structure RunsOnce (does : κ → List (ClockCall κ)) (history : List (ClockEvent κ))
    (c : PacedClock κ) : Prop where
  /-- A callback requested before the clock is destroyed waits until the first timer goes off,
  and runs then with everything else that is queued, in the order of the requests, unless the
  clock is destroyed first. -/
  fate : ∀ before k later, history = before ++ called (.request k) :: later →
    called .destroy ∉ before → Fate (waiting before) k c.queue later
  /-- With each timer that goes off before the clock is destroyed, all that was requested by
  then has run, each callback once and in its place. -/
  once : ∀ before ks later, history = before ++ expired ks :: later →
    called .destroy ∉ before → before.flatMap ran ++ ks = before.filterMap requested?
  /-- What the callbacks that run request comes after, so the next timer brings it. -/
  nested : ∀ before ks later, history = before ++ expired ks :: later →
    (ks.flatMap does).map called <+: later
  /-- After the clock was destroyed nothing runs. -/
  silent : ∀ before ks later, history = before ++ expired ks :: later →
    called .destroy ∈ before → ks = []
  /-- At most one timer runs, -/
  single : c.timers.length ≤ 1
  /-- and one does while anything is queued. -/
  armed : c.queue ≠ [] → c.timers.length = 1
  /-- Once a period has passed it has gone off. -/
  due : ∀ (spawn : κ → List κ) time, c.period ≤ time → (c.advance spawn time).2 = c.queue

theorem runsOnce_of_runs {does : κ → List (ClockCall κ)} {period : Nat}
    (h : Runs does period history c) : RunsOnce does history c := by
  have htold := told_of_runs h
  exact {
    fate := fun _ _ _ heq hlive => htold.fate heq hlive
    once := by
      intro before ks later heq hlive
      have hbefore : Exact before := htold.ran.of_prefix ⟨_, heq.symm⟩
      rw [hbefore.requested_eq hlive, (htold.ran before ks later heq).1 hlive]
    nested := fun _ _ _ heq => nested_of_runs h heq
    silent := fun before ks later heq hgone => (htold.ran before ks later heq).2 hgone
    single := by
      rw [htold.timers]
      split <;> omega
    armed := fun hqueue => by rw [htold.timers, htold.armed hqueue, if_pos rfl]
    due := fun spawn _ htime => htold.advance spawn htime }

/-- The first callback requests another one as it runs, and the third destroys the clock. -/
def scripted : Nat → List (ClockCall Nat)
  | 1 => [.request 11]
  | 3 => [.destroy]
  | _ => []

/-- The second frame runs what the first one requested and what came after it. -/
theorem runsOnce_of_runs_scripted : ∃ c,
    Runs scripted 16
      [called (.request 1), called (.request 2), expired [1, 2], called (.request 11),
        called (.request 3), expired [11, 3], called .destroy, called (.request 4)] c ∧
    RunsOnce scripted
      [called (.request 1), called (.request 2), expired [1, 2], called (.request 11),
        called (.request 3), expired [11, 3], called .destroy, called (.request 4)] c := by
  have hqueued : Runs scripted 16 [called (.request 1), called (.request 2)] _ :=
    .call (.request 2) (.call (.request 1) .start)
  have hframe : Runs scripted 16 _ _ := .expire (.wait 16 hqueued) (t := 0) (by decide)
  have hnext : Runs scripted 16 _ _ :=
    .expire (.call (.request 3) hframe) (t := 16) (by decide)
  have hrun : Runs scripted 16 _ _ := .call (.request 4) hnext
  exact ⟨_, hrun, runsOnce_of_runs hrun⟩

end PacedClock

end DisplayServer
