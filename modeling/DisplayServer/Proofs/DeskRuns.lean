import DisplayServer.Proofs.ControllerRuns
import DisplayServer.Proofs.SessionRuns

/-!
# Runs of a desk

A command at a desk asks one window something, through its controller or its session, or is a
frame for all of them. A run is a list of commands, and it begins where every window has a
controller of its own (`fitted`).

The log of a run says which window each output is of (`log`), since outputs alone do not: two
windows may show the same surface.

Controllers are kept by number and windows by theirs; that these agree (`Seated`) is what lets a
window be followed on its own.
-/

namespace DisplayServer

namespace Desk

/-! ## Commands and runs -/

/-- What a window is asked. -/
inductive Request
  /-- An input of its controller; a frame given here reaches that controller alone. -/
  | control (i : Controller.Input)
  | session (c : Session.Command)
  /-- From now on its stage can be reached, or cannot. -/
  | reach (reachable : Bool)
  deriving DecidableEq

/-- One command at a desk. -/
inductive Command
  | ask (window : SessionId) (r : Request)
  | frame
  deriving DecidableEq

/-- Asks a window; the answer is left out. -/
def ask (d : Desk) (window : SessionId) : Request → Step Unit
  | .control i => (fun _ => ()) <$> d.control window (·.take i)
  | .session c =>
    (fun _ => ()) <$> d.stepOf? window fun s => s.take (d.stageAnswer window) c
  | .reach reachable => ⟨(), d.setReachable window reachable, []⟩

/-- Takes a command; the answer is left out. -/
def take (d : Desk) : Command → Step Unit
  | .ask window r => d.ask window r
  | .frame => (fun _ => ()) <$> d.frame

/-- The desk after a command. -/
def perform (d : Desk) (c : Command) : Desk := (d.take c).desk

/-- The desk after a run that begins at `d`. -/
def after (d : Desk) (run : List Command) : Desk := run.foldl perform d

/-- What goes out during a run that begins at `d`, oldest first. -/
def told (d : Desk) (run : List Command) : List WindowOutput :=
  collect perform (fun d c => (d.take c).outputs) d run

theorem after_concat (d : Desk) (run : List Command) (c : Command) :
    d.after (run ++ [c]) = (d.after run).perform c :=
  List.foldl_concat perform d c run

/-- A desk at which every window has a controller. -/
def fitted (windows : Windows) (hotZone : HotZone) (ratio : Float32) (stageError : Error) : Desk :=
  windows.sessions.keys.foldl (fun d id => (d.equip id).desk)
    (make windows hotZone ratio stageError)

/-! ## Whose outputs -/

/-- What goes out when a frame reaches these controllers, each output with its window. -/
def frameSaid (d : Desk) : List Nat → List (SessionId × WindowOutput)
  | [] => []
  | number :: rest =>
    match d.controllers.get? number with
    | none => d.frameSaid rest
    | some c =>
      let done := d.drive number c Controller.onFrame
      done.outputs.map (c.window, ·) ++ done.desk.frameSaid rest

/-- What goes out at a command, each output with its window. -/
def said (d : Desk) : Command → List (SessionId × WindowOutput)
  | .ask window r => (d.ask window r).outputs.map (window, ·)
  | .frame => { d with clock := d.clock.taken }.frameSaid d.clock.queue

/-- What goes out during a run that begins at `d`, each output with its window. -/
def log (d : Desk) (run : List Command) : List (SessionId × WindowOutput) :=
  collect perform said d run

@[simp] theorem log_cons (d : Desk) (c : Command) (rest : List Command) :
    d.log (c :: rest) = d.said c ++ (d.perform c).log rest := rfl

theorem map_snd_frameSaid (d : Desk) (numbers : List Nat) :
    (d.frameSaid numbers).map (·.2) = (d.frameOf numbers).2 := by
  induction numbers generalizing d with
  | nil => rfl
  | cons number rest ih =>
    unfold frameSaid frameOf
    cases d.controllers.get? number with
    | none => exact ih d
    | some c => simp [ih, Function.comp_def]

theorem map_snd_said (d : Desk) (c : Command) : (d.said c).map (·.2) = (d.take c).outputs := by
  cases c with
  | ask window r => simp [said, take, Function.comp_def]
  | frame => exact map_snd_frameSaid _ d.clock.queue

/-- The log lists what goes out. -/
theorem map_snd_log (d : Desk) (run : List Command) : (d.log run).map (·.2) = d.told run := by
  unfold log told
  simp only [map_collect, map_snd_said]

/-! ## One controller for each window -/

/-- The controller under a number is the one that its window has, and no window has another. -/
structure Seated (d : Desk) : Prop where
  owner : ∀ n c, d.controllers.get? n = some c → d.current.get? c.window = some n
  owned : ∀ b n, d.current.get? b = some n → ∃ c, d.controllers.get? n = some c ∧ c.window = b

variable {d d' : Desk}

theorem Seated.current_iff (h : Seated d) {n : Nat} {c : Controller}
    (hc : d.controllers.get? n = some c) (b : SessionId) :
    d.current.get? b = some n ↔ b = c.window := by
  constructor
  · intro hb
    obtain ⟨c', hc', rfl⟩ := h.owned b n hb
    rw [hc] at hc'
    rw [Option.some.inj hc']
  · rintro rfl
    exact h.owner n c hc

theorem Seated.controller?_iff (h : Seated d) {b : SessionId} {c : Controller} :
    d.controller? b = some c ↔ ∃ n, d.controllers.get? n = some c ∧ c.window = b := by
  unfold controller?
  rw [Option.bind_eq_some_iff]
  refine exists_congr fun n => ?_
  constructor
  · rintro ⟨hb, hc⟩
    exact ⟨hc, ((h.current_iff hc b).mp hb).symm⟩
  · rintro ⟨hc, rfl⟩
    exact ⟨h.owner n c hc, hc⟩

/-- A controller is replaced by another one of its window. -/
theorem Seated.put (h : Seated d) {n : Nat} {c c' : Controller}
    (hc : d.controllers.get? n = some c) (hwindow : c'.window = c.window)
    (hcontrollers : d'.controllers = d.controllers.insert n c')
    (hcurrent : d'.current = d.current) : Seated d' where
  owner := by
    intro m x hx
    rw [hcontrollers, Table.get?_insert_ite] at hx
    rw [hcurrent]
    split at hx
    · rename_i hm
      rw [← Option.some.inj hx, hwindow, hm]
      exact h.owner n c hc
    · exact h.owner m x hx
  owned := by
    intro b m hb
    rw [hcurrent] at hb
    obtain ⟨x, hx, hxb⟩ := h.owned b m hb
    rw [hcontrollers, Table.get?_insert_ite]
    by_cases hm : m = n
    · rw [hm, hc] at hx
      obtain rfl := Option.some.inj hx
      exact ⟨c', if_pos hm, hwindow.trans hxb⟩
    · exact ⟨x, (if_neg hm).trans hx, hxb⟩

theorem Seated.same (h : Seated d) (hcontrollers : d'.controllers = d.controllers)
    (hcurrent : d'.current = d.current) : Seated d' where
  owner := by rw [hcontrollers, hcurrent]; exact h.owner
  owned := by rw [hcontrollers, hcurrent]; exact h.owned

/-- What goes out of a controller reaches windows and clock, and no controller. -/
theorem seats_absorb (d : Desk) (number : Nat) (window : SessionId)
    (outputs : List ControllerOutput) :
    (absorb number window d outputs).1.controllers = d.controllers ∧
      (absorb number window d outputs).1.current = d.current := by
  induction outputs generalizing d with
  | nil => exact ⟨rfl, rfl⟩
  | cons o rest ih => cases o <;> exact ih _

theorem current_drive {α : Type} (d : Desk) (n : Nat) (c : Controller)
    (f : Controller → Controller.Step α) : (d.drive n c f).desk.current = d.current :=
  (seats_absorb _ n c.window _).2

theorem Seated.drive {α : Type} (h : Seated d) {n : Nat} {c : Controller}
    (hc : d.controllers.get? n = some c) {f : Controller → Controller.Step α}
    (hf : (f c).controller.window = c.window) : Seated (d.drive n c f).desk :=
  h.put hc hf (seats_absorb _ n c.window _).1 (current_drive d n c f)

theorem Seated.frameOf (h : Seated d) (numbers : List Nat) : Seated (d.frameOf numbers).1 := by
  induction numbers generalizing d with
  | nil => exact h
  | cons number rest ih =>
    unfold Desk.frameOf
    cases hc : d.controllers.get? number with
    | none => exact ih h
    | some c => exact ih (h.drive hc rfl)

theorem Seated.perform (h : Seated d) (c : Command) : Seated (d.perform c) := by
  cases c with
  | frame =>
    have htaken : Seated { d with clock := d.clock.taken } := h.same rfl rfl
    exact htaken.frameOf d.clock.queue
  | ask window r =>
    cases r with
    | control i =>
      simp only [Desk.perform, take, ask, Functor.map, control]
      split
      · exact h
      · split
        · exact h
        · rename_i c hc
          exact h.drive (f := fun c => c.take i) hc (c.window_take i)
    | session c =>
      simp only [Desk.perform, take, ask, Functor.map, stepOf?]
      split <;> exact h.same rfl rfl
    | reach reachable => exact h.same rfl rfl

/-! ## The desk that a run begins with -/

/-- A desk at which these windows were given controllers. -/
structure Equipped (base : Desk) (ids : List SessionId) (d : Desk) : Prop where
  seated : Seated d
  /-- Controllers are numbered from 0 on. -/
  below : ∀ n, d.controllers.size ≤ n → d.controllers.get? n = none
  made : ∀ n c, d.controllers.get? n = some c →
    c = .make c.window base.hotZone base.fallbackRatio false
  served : ∀ b ∈ ids, ∃ n, d.current.get? b = some n
  only : ∀ b n, d.current.get? b = some n → b ∈ ids
  rest : d = { base with controllers := d.controllers, current := d.current }

theorem equipped_make (windows : Windows) (hotZone : HotZone) (ratio : Float32)
    (stageError : Error) :
    Equipped (make windows hotZone ratio stageError) []
      (make windows hotZone ratio stageError) where
  seated := { owner := by intro n c h; cases h
              owned := by intro b n h; cases h }
  below := fun _ _ => rfl
  made := by intro n c h; cases h
  served := by intro b hb; cases hb
  only := by intro b n h; cases h
  rest := rfl

theorem equip_of_known {id : SessionId} (hknown : (d.windows.session? id).isSome) :
    (d.equip id).desk =
      { d with
        controllers := d.controllers.insert d.controllers.size
          (.make id d.hotZone d.fallbackRatio false)
        current := d.current.insert id d.controllers.size } := by
  have hknown : ¬ (d.windows.session? id).isNone := by
    rw [Bool.not_eq_true, Option.isNone_eq_false_iff]
    exact hknown
  rw [equip, if_neg hknown]

theorem equipped_equip {base : Desk} {ids : List SessionId} {id : SessionId}
    (h : Equipped base ids d) (hknown : (base.windows.session? id).isSome) (hnew : id ∉ ids) :
    Equipped base (ids ++ [id]) (d.equip id).desk := by
  have hwindows : d.windows = base.windows := by rw [h.rest]
  have hzone : d.hotZone = base.hotZone := by rw [h.rest]
  have hratio : d.fallbackRatio = base.fallbackRatio := by rw [h.rest]
  have hfree : d.controllers.get? d.controllers.size = none := h.below _ (Nat.le_refl _)
  have hdesk := equip_of_known (hwindows ▸ hknown)
  have hcontrollers : ∀ n, (d.equip id).desk.controllers.get? n =
      if n = d.controllers.size then some (.make id d.hotZone d.fallbackRatio false)
      else d.controllers.get? n := by
    intro n
    rw [hdesk]
    exact Table.get?_insert_ite d.controllers _ n _
  have hcurrent : ∀ b, (d.equip id).desk.current.get? b =
      if b = id then some d.controllers.size else d.current.get? b := by
    intro b
    rw [hdesk]
    exact Table.get?_insert_ite d.current id b _
  have howner : ∀ n c, (d.equip id).desk.controllers.get? n = some c →
      (d.equip id).desk.current.get? c.window = some n := by
    intro n c hc
    rw [hcontrollers] at hc
    rw [hcurrent]
    split at hc
    · rename_i hn
      rw [← Option.some.inj hc, hn]
      exact if_pos rfl
    · have hother : c.window ≠ id := by
        rintro rfl
        exact hnew (h.only _ n (h.seated.owner n c hc))
      rw [if_neg hother]
      exact h.seated.owner n c hc
  have howned : ∀ b n, (d.equip id).desk.current.get? b = some n →
      ∃ c, (d.equip id).desk.controllers.get? n = some c ∧ c.window = b := by
    intro b n hb
    rw [hcurrent] at hb
    rw [hcontrollers]
    split at hb
    · rename_i hid
      exact ⟨_, if_pos (Option.some.inj hb).symm, hid.symm⟩
    · obtain ⟨c, hc, hcb⟩ := h.seated.owned b n hb
      have hold : n ≠ d.controllers.size := by
        rintro rfl
        rw [hfree] at hc
        cases hc
      exact ⟨c, (if_neg hold).trans hc, hcb⟩
  exact {
    seated := ⟨howner, howned⟩
    below := by
      intro n hn
      have hsize : (d.equip id).desk.controllers.size = d.controllers.size + 1 := by
        rw [hdesk]
        exact Table.size_insert hfree _
      rw [hcontrollers, if_neg (by omega)]
      exact h.below n (by omega)
    made := by
      intro n c hc
      rw [hcontrollers] at hc
      split at hc
      · rw [← Option.some.inj hc, hzone, hratio]
        rfl
      · exact h.made n c hc
    served := by
      intro b hb
      rw [hcurrent]
      split
      · exact ⟨_, rfl⟩
      · rename_i hne
        refine h.served b ((List.mem_append.mp hb).resolve_right ?_)
        simpa using hne
    only := by
      intro b n hb
      rw [hcurrent] at hb
      split at hb
      · rename_i hid
        exact List.mem_append_right _ (List.mem_singleton.mpr hid)
      · exact List.mem_append_left _ (h.only b n hb)
    rest := by rw [hdesk, h.rest] }

section

variable (windows : Windows) (hotZone : HotZone) (ratio : Float32) (stageError : Error)

theorem equipped_fitted : Equipped (make windows hotZone ratio stageError) windows.sessions.keys
    (fitted windows hotZone ratio stageError) := by
  have hall : ∀ (rest ids : List SessionId) (d : Desk),
      Equipped (make windows hotZone ratio stageError) ids d → (ids ++ rest).Nodup →
      (∀ b ∈ rest, (windows.session? b).isSome) →
      Equipped (make windows hotZone ratio stageError) (ids ++ rest)
        (rest.foldl (fun d id => (d.equip id).desk) d) := by
    intro rest
    induction rest with
    | nil =>
      intro ids d h _ _
      rw [List.append_nil]
      exact h
    | cons id rest ih =>
      intro ids d h hnodup hknown
      have hnew : id ∉ ids := by
        intro hid
        exact (List.nodup_append.mp hnodup).2.2 id hid id List.mem_cons_self rfl
      have hstep := ih (ids ++ [id]) _
        (equipped_equip h (hknown id List.mem_cons_self) hnew)
        (by simpa using hnodup) (fun b hb => hknown b (List.mem_cons_of_mem _ hb))
      simpa using hstep
  refine hall windows.sessions.keys [] _ (equipped_make windows hotZone ratio stageError)
    windows.sessions.nodup_keys ?_
  intro b hb
  obtain ⟨s, hs⟩ := (windows.sessions.mem_keys_iff b).mp hb
  rw [Windows.session?, hs]
  rfl

theorem seated_fitted : Seated (fitted windows hotZone ratio stageError) :=
  (equipped_fitted windows hotZone ratio stageError).seated

theorem windows_fitted : (fitted windows hotZone ratio stageError).windows = windows := by
  rw [(equipped_fitted windows hotZone ratio stageError).rest]
  rfl

/-- Every window has a new controller. -/
theorem controller?_fitted (b : SessionId) :
    (fitted windows hotZone ratio stageError).controller? b =
      (windows.session? b).map fun _ => .make b hotZone ratio false := by
  have h := equipped_fitted windows hotZone ratio stageError
  cases hs : windows.session? b with
  | none =>
    have hfree : (fitted windows hotZone ratio stageError).current.get? b = none := by
      rw [Option.eq_none_iff_forall_not_mem]
      intro n hn
      obtain ⟨s, hlive⟩ := (windows.sessions.mem_keys_iff b).mp (h.only b n hn)
      rw [Windows.session?, hlive] at hs
      cases hs
    rw [controller?, hfree]
    rfl
  | some s =>
    obtain ⟨n, hn⟩ := h.served b ((windows.sessions.mem_keys_iff b).mpr ⟨s, hs⟩)
    obtain ⟨c, hc, rfl⟩ := h.seated.owned b n hn
    rw [controller?, hn]
    exact hc.trans (congrArg some (h.made n c hc))

end

end Desk

end DisplayServer
