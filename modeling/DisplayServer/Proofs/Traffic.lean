import DisplayServer.Proofs.Bindings
import DisplayServer.Proofs.ServiceRuns

/-!
# Several calls under way

A call holds the lock of the topology while it changes the topology, and it passes its events on
after it has given the lock back. So the topology changes one call at a time, and the registry
hears one event at a time and those of one call in their order; but how the deliveries of
several calls fall is open. `Traffic` is the state of all that, with two histories that no step
reads: the events in the order in which the topology changed, and in the order in which the
registry heard them.

Nothing is lost or made up on the way (`Faithful`). What may change is the order, and only if a
delivery overtakes one of an earlier call: of each screen the registry hears what was reported,
in the order in which it was reported, as long as no delivery overtakes one about that screen
(`Aligned`).
-/

namespace DisplayServer

namespace TopologyEvent

/-- The screen that an event binds to a display, or unbinds. -/
def subject? (e : TopologyEvent) : Option ScreenId := e.binds?.map Prod.fst

/-- Whether the event wants the screen bound, if it says anything of that. -/
def says? (x : ScreenId) (e : TopologyEvent) : Option Bool :=
  match e.binds? with
  | some (y, bound) => if y = x then some bound else none
  | none => none

/-- What the last event that says anything of it wants of a screen. -/
def lastWord (x : ScreenId) (es : List TopologyEvent) : Option Bool :=
  (es.filterMap (says? x)).getLast?

theorem subject?_of_says? {x : ScreenId} {e : TopologyEvent} {bound : Bool}
    (h : e.says? x = some bound) : e.subject? = some x := by
  unfold says? at h
  unfold subject?
  split at h
  · rename_i y b hb
    split at h
    · rename_i hy
      rw [hb, Option.map_some, hy]
    · cases h
  · cases h

theorem rebind_apply (bound : ScreenId → Bool) (e : TopologyEvent) (x : ScreenId) :
    e.rebind bound x = (e.says? x).getD (bound x) := by
  unfold rebind says?
  cases e.binds? with
  | none => rfl
  | some b =>
    simp only [eq_comm]
    split <;> rfl

/-- Bound after several events are the screens of which the last word is that they should be. -/
theorem foldl_rebind (es : List TopologyEvent) (bound : ScreenId → Bool) (x : ScreenId) :
    es.foldl rebind bound x = (lastWord x es).getD (bound x) := by
  induction es generalizing bound with
  | nil => rfl
  | cons e rest ih =>
    rw [List.foldl_cons, ih, rebind_apply]
    unfold lastWord
    rw [List.filterMap_cons]
    cases e.says? x with
    | none => rfl
    | some b =>
      simp only [List.getLast?_cons, Option.getD_some]

/-- Of a screen of which nothing is said in one order, nothing is said in another. -/
theorem lastWord_eq_of_getD {x : ScreenId} {es fs : List TopologyEvent} (hperm : es.Perm fs)
    {bound : Bool} (h : (lastWord x es).getD bound = (lastWord x fs).getD bound) :
    lastWord x es = lastWord x fs := by
  have hwords := hperm.filterMap (says? x)
  unfold lastWord at h ⊢
  cases hes : es.filterMap (says? x) with
  | nil =>
    rw [hes] at hwords
    rw [hwords.nil_eq]
  | cons b rest =>
    rw [hes] at hwords h
    cases hfs : fs.filterMap (says? x) with
    | nil =>
      rw [hfs] at hwords
      cases hwords.eq_nil
    | cons b' rest' =>
      rw [hfs] at h
      simpa only [List.getLast?_cons, Option.getD_some, Option.some.injEq] using h

end TopologyEvent

open TopologyEvent

/-- Topology and registry while calls of several clients are under way. -/
structure Traffic where
  topology : Topology
  registry : Registry
  /-- What each call has yet to deliver; calls stand in the order in which they had the lock. -/
  pending : List (List TopologyEvent)
  /-- All events, in the order in which the topology changed. -/
  reported : List TopologyEvent
  /-- The events that the registry has heard, in that order. -/
  delivered : List TopologyEvent

namespace Traffic

/-- What happens next. -/
inductive Action
  /-- A call gets the lock and changes the topology. -/
  | call (c : Topology.Command)
  /-- The call of that position delivers its next event, if it has one. -/
  | deliver (k : Nat)

/-- A device without screens, and nobody calls. -/
def start (capability : FoldCapability) : Traffic := ⟨.empty, .empty capability, [], [], []⟩

/-- A call changes the topology. -/
def call (w : Traffic) (c : Topology.Command) : Traffic :=
  let outcome := c.outcome w.topology
  { w with
    topology := outcome.topology
    pending := w.pending ++ [outcome.events]
    reported := w.reported ++ outcome.events }

/-- The registry hears an event, and `pending` is left to deliver. -/
def hear (w : Traffic) (e : TopologyEvent) (pending : List (List TopologyEvent)) : Traffic :=
  let (registry, displayIds, _) := w.registry.follow w.topology.displayIds e
  { w with
    topology := { w.topology with displayIds }
    registry
    pending
    delivered := w.delivered ++ [e] }

/-- A call delivers its next event. -/
def deliver (w : Traffic) (k : Nat) : Traffic :=
  match w.pending[k]? with
  | some (e :: rest) => w.hear e (w.pending.set k rest)
  | _ => w

def step (w : Traffic) : Action → Traffic
  | .call c => w.call c
  | .deliver k => w.deliver k

/-- What a schedule of steps leads to; every interleaving of any calls is a schedule. -/
def after (w : Traffic) (schedule : List Action) : Traffic := schedule.foldl step w

/-- Every call has delivered all of its events. -/
def Settled (w : Traffic) : Prop := ∀ queue ∈ w.pending, queue = []

instance (w : Traffic) : Decidable w.Settled :=
  inferInstanceAs (Decidable (∀ queue ∈ w.pending, queue = []))

/-- A delivery comes before one of an earlier call that is about the same screen. -/
def Overtakes (w : Traffic) : Action → Prop
  | .call _ => False
  | .deliver k =>
    ∃ e ∈ w.pending[k]?.bind List.head?, ∃ x ∈ e.subject?,
      ∃ f ∈ (w.pending.take k).flatten, f.subject? = some x

instance (w : Traffic) : DecidablePred w.Overtakes
  | .call _ => inferInstanceAs (Decidable False)
  | .deliver k => inferInstanceAs (Decidable (∃ e ∈ w.pending[k]?.bind List.head?,
      ∃ x ∈ e.subject?, ∃ f ∈ (w.pending.take k).flatten, f.subject? = some x))

/-- No delivery of the schedule overtakes another. -/
def InOrder (w : Traffic) : List Action → Prop
  | [] => True
  | a :: rest => ¬ w.Overtakes a ∧ (w.step a).InOrder rest

instance decidableInOrder (w : Traffic) : (schedule : List Action) → Decidable (w.InOrder schedule)
  | [] => inferInstanceAs (Decidable True)
  | a :: rest =>
    have := decidableInOrder (w.step a) rest
    inferInstanceAs (Decidable (¬ w.Overtakes a ∧ (w.step a).InOrder rest))

variable {w : Traffic}

theorem Settled.flatten_eq_nil (h : w.Settled) : w.pending.flatten = [] :=
  List.flatten_eq_nil_iff.mpr h

/-- Where a call has an event left to deliver, it is the first of those that it has left. -/
theorem pending_cases {pending : List (List TopologyEvent)} {k : Nat} {e : TopologyEvent}
    {rest : List TopologyEvent} (h : pending[k]? = some (e :: rest)) :
    ∃ earlier later, pending = earlier ++ (e :: rest) :: later ∧ pending.take k = earlier ∧
      pending.set k rest = earlier ++ rest :: later := by
  obtain ⟨hk, hget⟩ := List.getElem?_eq_some_iff.mp h
  refine ⟨pending.take k, pending.drop (k + 1), ?_, rfl, List.set_eq_take_append_cons_drop.trans ?_⟩
  · rw [← hget, List.getElem_cons_drop, List.take_append_drop]
  · rw [if_pos hk]

/-- A step does nothing, or a call changes the topology, or the registry hears the first event that
one call has left. -/
theorem step_induction {P : Traffic → Prop} {a : Action} (h : P w)
    (hcall : ∀ c, P (w.call c))
    (hhear : ∀ k e earlier rest later, a = .deliver k → w.pending[k]? = some (e :: rest) →
      w.pending = earlier ++ (e :: rest) :: later → w.pending.take k = earlier →
      P (w.hear e (earlier ++ rest :: later))) : P (w.step a) := by
  cases a with
  | call c => exact hcall c
  | deliver k =>
    show P (w.deliver k)
    unfold deliver
    split
    · rename_i e rest hk
      obtain ⟨earlier, later, hpending, htake, hset⟩ := pending_cases hk
      rw [hset]
      exact hhear k e earlier rest later rfl hk hpending htake
    · exact h

theorem perm_flatten (earlier later : List (List TopologyEvent)) (e : TopologyEvent)
    (rest : List TopologyEvent) :
    (earlier ++ (e :: rest) :: later).flatten.Perm
      (e :: (earlier ++ rest :: later).flatten) := by
  simp only [List.flatten_append, List.flatten_cons, List.cons_append]
  exact List.perm_middle

/-! ## What is heard is what is reported -/

/-- What has been reported has been delivered or is pending, and nothing else is. -/
def Faithful (w : Traffic) : Prop := (w.delivered ++ w.pending.flatten).Perm w.reported

theorem faithful_start (capability : FoldCapability) : Faithful (start capability) := .nil

theorem faithful_step (h : Faithful w) (a : Action) : Faithful (w.step a) := by
  refine step_induction h (fun c => ?_) fun k e earlier rest later _ _ hpending _ => ?_
  · show (w.delivered ++ (w.pending ++ [_]).flatten).Perm (w.reported ++ _)
    rw [List.flatten_append, List.flatten_singleton, ← List.append_assoc]
    exact h.append_right _
  · show ((w.delivered ++ [e]) ++ (earlier ++ rest :: later).flatten).Perm w.reported
    rw [List.append_assoc, List.singleton_append]
    refine ((perm_flatten earlier later e rest).symm.append_left w.delivered).trans ?_
    rw [← hpending]
    exact h

theorem faithful_after (h : Faithful w) (schedule : List Action) : Faithful (w.after schedule) := by
  induction schedule generalizing w with
  | nil => exact h
  | cons a rest ih => exact ih (faithful_step h a)

/-- Of each screen, what was reported is what has been delivered and then what is pending, in
that order. -/
def Aligned (w : Traffic) : Prop :=
  ∀ x, w.delivered.filterMap (says? x) ++ w.pending.flatten.filterMap (says? x) =
    w.reported.filterMap (says? x)

theorem aligned_start (capability : FoldCapability) : Aligned (start capability) := fun _ => rfl

theorem aligned_step (h : Aligned w) {a : Action} (ha : ¬ w.Overtakes a) :
    Aligned (w.step a) := by
  refine step_induction h (fun c x => ?_) fun k e earlier rest later hstep hk hpending htake x => ?_
  · show w.delivered.filterMap (says? x) ++ (w.pending ++ [_]).flatten.filterMap (says? x) =
      (w.reported ++ _).filterMap (says? x)
    rw [List.flatten_append, List.flatten_singleton, List.filterMap_append, List.filterMap_append,
      ← List.append_assoc, h x]
  · show (w.delivered ++ [e]).filterMap (says? x) ++
      (earlier ++ rest :: later).flatten.filterMap (says? x) = w.reported.filterMap (says? x)
    rw [← h x, hpending]
    simp only [List.flatten_append, List.flatten_cons, List.filterMap_append, List.cons_append,
      List.filterMap_cons, List.filterMap_nil]
    cases hsays : e.says? x with
    | none => simp only [List.append_nil]
    | some bound =>
      -- the earlier calls have nothing left to say of a screen of which the event says something
      have hquiet : earlier.flatten.filterMap (says? x) = [] := by
        rw [List.filterMap_eq_nil_iff]
        intro f hf
        rw [Option.eq_none_iff_forall_ne_some]
        intro b hb
        subst hstep
        refine ha ⟨e, ?_, x, subject?_of_says? hsays, f, htake ▸ hf, subject?_of_says? hb⟩
        rw [hk]
        rfl
      simp only [hquiet, List.append_assoc, List.singleton_append, List.nil_append]

theorem aligned_after (h : Aligned w) {schedule : List Action} (horder : w.InOrder schedule) :
    Aligned (w.after schedule) := by
  induction schedule generalizing w with
  | nil => exact h
  | cons a rest ih => exact ih (aligned_step h horder.1) horder.2

/-- Once all is delivered and nothing was overtaken, the last word on each screen is the last one
that was reported. -/
theorem Aligned.lastWord_eq (h : Aligned w) (hsettled : w.Settled) (x : ScreenId) :
    lastWord x w.delivered = lastWord x w.reported := by
  have hx := h x
  rw [hsettled.flatten_eq_nil, List.filterMap_nil, List.append_nil] at hx
  exact congrArg List.getLast? hx

/-! ## A call that nobody interrupts -/

/-- Uninterrupted deliveries of one call are the registry following its events. -/
theorem after_replicate_deliver (w : Traffic) (earlier : List (List TopologyEvent))
    (es : List TopologyEvent) (h : w.pending = earlier ++ [es]) :
    w.after (List.replicate es.length (.deliver earlier.length)) =
      { w with
        topology := { w.topology with
          displayIds := (w.registry.followAll w.topology.displayIds es).2.1 }
        registry := (w.registry.followAll w.topology.displayIds es).1
        pending := earlier ++ [[]]
        delivered := w.delivered ++ es } := by
  induction es generalizing w with
  | nil =>
    show w = _
    rw [List.append_nil, ← h]
    rfl
  | cons e rest ih =>
    have hdeliver : w.deliver earlier.length = w.hear e (earlier ++ [rest]) := by
      unfold deliver
      rw [h]
      simp
    show (w.deliver earlier.length).after _ = _
    rw [hdeliver, ih _ rfl]
    simp only [hear, Registry.followAll, List.append_assoc, List.singleton_append]

/-- A call that delivers all of its events before anything else happens. -/
def uninterrupted (w : Traffic) (c : Topology.Command) : List Action :=
  .call c :: List.replicate (c.outcome w.topology).events.length (.deliver w.pending.length)

/-- **A call that nobody interrupts does what the service does for it.** -/
theorem after_uninterrupted {ι : Type} [DecidableEq ι] (respond : ι → AgentEvent → Response ι)
    (s : Service ι) (w : Traffic) (htopology : w.topology = s.topology)
    (hregistry : w.registry = s.registry) (c : Topology.Command) :
    (w.after (w.uninterrupted c)).topology = (s.perform respond (.arrange c)).topology ∧
      (w.after (w.uninterrupted c)).registry = (s.perform respond (.arrange c)).registry := by
  obtain ⟨hub, heq⟩ := Service.passOnAll_eq respond
    { s with topology := (c.outcome s.topology).topology } (c.outcome s.topology).events
  have hafter := after_replicate_deliver (w.call c) w.pending (c.outcome w.topology).events rfl
  have hservice : s.perform respond (.arrange c) = _ := heq
  show ((w.call c).after _).topology = _ ∧ ((w.call c).after _).registry = _
  rw [hafter, hservice]
  simp only [call, htopology, hregistry, and_self]

end Traffic

end DisplayServer
