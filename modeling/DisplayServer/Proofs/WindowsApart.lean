import DisplayServer.Proofs.Seats

/-!
# Windows do not disturb each other

All controllers write back into one registry and wait on one clock, which brings the callbacks of
all windows in one batch. Still, leaving out of a run whatever one window was asked makes no
difference to another one: each follows its own seat, and nobody is asked anything at another
one's seat.

What a window says is told from what others say by the log. Its stage receives what it says
(`Session.Says`), and so does its surface, unless that is another window's as well.
-/

namespace DisplayServer

/-- The stage of window `b` or one of these surfaces receives this. -/
def WindowOutput.reaches (b : SessionId) (surfaces : List Nat) : WindowOutput → Bool
  | .stageRect window _ _ => window = b
  | .stageActive window _ => window = b
  | .bounds surface _ => surface ∈ surfaces
  | .entered _ _ => false

namespace Seat

open Desk (Command)

/-! ## Laws of a session and of what it says -/

/-- A step of a session keeps one law and says what obeys another. -/
def Keeps (P : Session → Prop) (Q : WindowOutput → Prop) (f : Session → Session.Step) : Prop :=
  ∀ x, P x → P (f x).session ∧ ∀ o ∈ (f x).outputs, Q o

/-- What holds of the session after a step, and of what went out. -/
structure Lawful (P : Session → Prop) (Q : WindowOutput → Prop) (done : Step) : Prop where
  session : ∀ x, done.seat.session? = some x → P x
  outputs : ∀ o ∈ done.outputs, Q o

variable {P : Session → Prop} {Q : WindowOutput → Prop} {s : Seat}

theorem lawful_stay (h : ∀ x, s.session? = some x → P x) : Lawful P Q s.stay :=
  ⟨h, fun _ ho => nomatch ho⟩

theorem lawful_step (h : ∀ x, s.session? = some x → P x) {f : Session → Session.Step}
    (hf : Keeps P Q f) : Lawful P Q (s.step f) := by
  unfold step
  cases hs : s.session? with
  | none => exact lawful_stay h
  | some x =>
    obtain ⟨hsession, houtputs⟩ := hf x (h x hs)
    refine ⟨?_, houtputs⟩
    intro y hy
    rw [← Option.some.inj hy]
    exact hsession

section

variable (hupdate : ∀ answer rect reason, Keeps P Q fun x => x.updateRect answer rect reason)

include hupdate

theorem lawful_absorb (h : ∀ x, s.session? = some x → P x) (outputs : List ControllerOutput) :
    Lawful P Q (s.absorb outputs) := by
  induction outputs generalizing s with
  | nil => exact lawful_stay h
  | cons o rest ih =>
    cases o with
    | cursor _ => exact ih h
    | frameRequest => exact ih (s := { s with waiting := s.waiting + 1 }) h
    | rect rect reason =>
      have harrived := lawful_step h (hupdate s.answer rect reason)
      have hlater := ih harrived.session
      exact ⟨hlater.session, List.forall_mem_append.mpr ⟨harrived.outputs, hlater.outputs⟩⟩

theorem lawful_control (h : ∀ x, s.session? = some x → P x)
    (f : Controller → Controller.Step Unit) : Lawful P Q (s.control f) := by
  unfold control
  split
  · exact lawful_stay h
  · rename_i c _
    exact lawful_absorb (s := { s with controller? := some (f c).controller }) hupdate h _

theorem lawful_frames (n : Nat) (h : ∀ x, s.session? = some x → P x) :
    Lawful P Q (frames n s) := by
  induction n generalizing s with
  | zero => exact lawful_stay h
  | succ n ih =>
    have hdone := lawful_control hupdate h Controller.onFrame
    have hlater := ih hdone.session
    exact ⟨hlater.session, List.forall_mem_append.mpr ⟨hdone.outputs, hlater.outputs⟩⟩

/-- What every step of the session keeps, the seat keeps. -/
theorem lawful_follow (b : SessionId) (h : ∀ x, s.session? = some x → P x) (c : Command)
    (hc : ∀ step, c = .ask b (.session step) → ∀ answer, Keeps P Q fun x => x.take answer step) :
    Lawful P Q (s.follow b c) := by
  cases c with
  | frame => exact lawful_frames (s := { s with waiting := 0 }) hupdate s.waiting h
  | ask window r =>
    simp only [follow]
    split
    · rename_i hb
      cases r with
      | control i => exact lawful_control hupdate h _
      | session step => exact lawful_step h (hc step (by rw [hb]) s.answer)
      | reach reachable => exact lawful_stay (s := { s with reachable }) h
    · exact lawful_stay h

theorem lawful_told (b : SessionId) (run : List Command) (h : ∀ x, s.session? = some x → P x)
    (hrun : ∀ step, .ask b (.session step) ∈ run →
      ∀ answer, Keeps P Q fun x => x.take answer step) :
    ∀ o ∈ s.told b run, Q o := by
  induction run generalizing s with
  | nil => exact fun _ ho => nomatch ho
  | cons c rest ih =>
    have hstep := lawful_follow hupdate b h c fun step hc =>
      hrun step (hc ▸ List.mem_cons_self)
    have hrest := ih hstep.session fun step hmem => hrun step (List.mem_cons_of_mem _ hmem)
    exact List.forall_mem_append.mpr ⟨hstep.outputs, hrest⟩

end

end Seat

namespace Desk

/-! ## Runs without one window -/

/-- The command is addressed to this window. -/
def Command.addresses (a : SessionId) : Command → Bool
  | .ask window _ => window = a
  | .frame => false

/-- The run without what a window is asked. -/
def sparing (a : SessionId) (run : List Command) : List Command :=
  run.filter fun c => !c.addresses a

variable {a b : SessionId} {run : List Command}

/-- What another window is asked is nothing to a seat. -/
theorem follow_of_addresses (hab : a ≠ b) {c : Command} (hc : c.addresses a = true) (s : Seat) :
    s.follow b c = s.stay := by
  cases c with
  | frame => cases hc
  | ask window r =>
    have hwindow : window = a := by simpa [Command.addresses] using hc
    exact if_neg fun hb => hab (hwindow.symm.trans hb.symm)

theorem sparing_cons (a : SessionId) (c : Command) (rest : List Command) :
    sparing a (c :: rest) =
      if c.addresses a = true then sparing a rest else c :: sparing a rest := by
  cases hc : c.addresses a <;> simp [sparing, hc]

theorem after_sparing (hab : a ≠ b) (s : Seat) (run : List Command) :
    s.after b (sparing a run) = s.after b run := by
  induction run generalizing s with
  | nil => rfl
  | cons c rest ih =>
    rw [sparing_cons]
    split
    · rename_i hc
      have hstay : s.after b (c :: rest) = s.stay.seat.after b rest := by
        rw [← follow_of_addresses hab hc]
        rfl
      rw [ih, hstay]
      rfl
    · exact ih (s.follow b c).seat

theorem told_sparing (hab : a ≠ b) (s : Seat) (run : List Command) :
    s.told b (sparing a run) = s.told b run := by
  induction run generalizing s with
  | nil => rfl
  | cons c rest ih =>
    rw [sparing_cons]
    split
    · rename_i hc
      rw [ih, Seat.told_cons, follow_of_addresses hab hc]
      rfl
    · rw [Seat.told_cons, Seat.told_cons, ih]

/-! ## What stage and surface receive -/

/-- No window but `b` has or is given one of these surfaces. -/
structure Private (b : SessionId) (surfaces : List Nat) (windows : Windows) (run : List Command) :
    Prop where
  held : ∀ window s n, windows.session? window = some s → s.surface = some n → n ∈ surfaces →
    window = b
  given : ∀ window stage n, .ask window (.session (.connect stage (some n))) ∈ run →
    n ∈ surfaces → window = b

theorem private_sparing {surfaces : List Nat} {windows : Windows}
    (h : Private b surfaces windows run) (a : SessionId) :
    Private b surfaces windows (sparing a run) :=
  ⟨h.held, fun window stage n hc => h.given window stage n (List.mem_filter.mp hc).1⟩

/-- A session with another number and no surface of `b` says nothing that reaches `b`. -/
theorem not_reaches_of_says {surfaces : List Nat} {s : Session} (hid : s.id ≠ b)
    (hsurface : ∀ n ∈ surfaces, s.surface ≠ some n) {o : WindowOutput} (ho : s.Says o) :
    o.reaches b surfaces = false := by
  cases ho with
  | stageRect rect reason => simpa [WindowOutput.reaches] using hid
  | stageActive active => simpa [WindowOutput.reaches] using hid
  | bounds surface rect hs =>
    simpa [WindowOutput.reaches] using fun hmem => hsurface surface hmem hs
  | entered next => rfl

/-- Nothing that another window says reaches `b`. -/
theorem not_reaches_of_told {surfaces : List Nat} {d : Desk} (hnumbered : d.windows.Numbered)
    (hprivate : Private b surfaces d.windows run) {window : SessionId} (hne : window ≠ b) :
    ∀ o ∈ (d.seat window).told window run, o.reaches b surfaces = false := by
  have hstep : ∀ (answer : Except Error Unit) (c : Session.Command),
      (∀ stage n, c = .connect stage (some n) → n ∉ surfaces) →
      Seat.Keeps (fun s => s.id ≠ b ∧ ∀ n ∈ surfaces, s.surface ≠ some n)
        (fun o => o.reaches b surfaces = false) fun s => s.take answer c := by
    intro answer c hc s ⟨hid, hsurface⟩
    refine ⟨?_, fun o ho => not_reaches_of_says hid hsurface (s.says_take answer c o ho)⟩
    have hbecomes := s.becomes_take answer c
    generalize (s.take answer c).session = s' at hbecomes
    cases hbecomes with
    | turned _ next => exact ⟨hid, hsurface⟩
    | connected surface =>
      refine ⟨hid, fun n hn heq => hc true n ?_ hn⟩
      rw [show surface = some n from heq]
    | disconnected => exact ⟨hid, fun n _ heq => nomatch heq⟩
    | updated rect reason => exact ⟨hid, hsurface⟩
  refine Seat.lawful_told
    (fun answer rect reason => hstep answer (.update rect reason) fun _ _ h => nomatch h)
    window run ?_ ?_
  · intro s hs
    refine ⟨?_, fun n hn heq => hne (hprivate.held window s n hs heq hn)⟩
    rw [hnumbered.id window s hs]
    exact hne
  · intro c hc answer
    refine hstep answer c ?_
    rintro stage n rfl hn
    exact hne (hprivate.given window stage n hc hn)

/-- What reaches `b` is what `b` says. -/
theorem received_eq {surfaces : List Nat} {d : Desk} (h : Seated d)
    (hnumbered : d.windows.Numbered) (hprivate : Private b surfaces d.windows run) :
    (d.told run).filter (·.reaches b surfaces) =
      ((d.seat b).told b run).filter (·.reaches b surfaces) := by
  have hown : ∀ e ∈ d.log run,
      e.2.reaches b surfaces = (e.2.reaches b surfaces && decide (e.1 = b)) := by
    intro e he
    by_cases hb : e.1 = b
    · simp [hb]
    · have hsaid : e ∈ ((d.seat e.1).told e.1 run).map (e.1, ·) := by
        rw [← log_at h]
        exact List.mem_filter.mpr ⟨he, by simp⟩
      obtain ⟨o, ho, heq⟩ := List.mem_map.mp hsaid
      rw [← heq]
      simp [not_reaches_of_told hnumbered hprivate hb o ho]
  calc (d.told run).filter (·.reaches b surfaces)
      = ((d.log run).filter fun e => e.2.reaches b surfaces).map (·.2) := by
        rw [← map_snd_log, List.filter_map]
        rfl
    _ = (((d.log run).filter (·.1 = b)).filter fun e => e.2.reaches b surfaces).map (·.2) := by
        rw [List.filter_filter, List.filter_congr hown]
    _ = ((d.seat b).told b run).filter (·.reaches b surfaces) := by
        rw [log_at h, List.filter_map, List.map_map]
        exact List.map_id _

/-- Window `b` cannot tell two runs that begin at a desk apart. -/
structure SameFor (b : SessionId) (d : Desk) (run run' : List Command) : Prop where
  session : (d.after run).windows.session? b = (d.after run').windows.session? b
  controller : (d.after run).controller? b = (d.after run').controller? b
  /-- It says the same, in the same order. -/
  calls : (d.log run).filter (·.1 = b) = (d.log run').filter (·.1 = b)
  /-- Its stage and the surfaces of its own receive the same, in the same order. -/
  received : ∀ surfaces, Private b surfaces d.windows run →
    (d.told run).filter (·.reaches b surfaces) = (d.told run').filter (·.reaches b surfaces)

/-- **What one window is asked makes no difference to another one.** Every beginning of a run is
a run, so this holds after each of the commands that are left. -/
theorem sameFor_sparing (first : Int) (made : List Windows.Command) (hotZone : HotZone)
    (ratio : Float32) (stageError : Error) (hab : a ≠ b) (run : List Command) :
    SameFor b (fitted (.after first made) hotZone ratio stageError) run (sparing a run) := by
  have h := seated_fitted (.after first made) hotZone ratio stageError
  have hwindows := windows_fitted (.after first made) hotZone ratio stageError
  generalize fitted (.after first made) hotZone ratio stageError = d at h hwindows
  have hnumbered : d.windows.Numbered := by
    rw [hwindows]
    exact Windows.numbered_after first made
  have hseat : (d.after run).seat b = (d.after (sparing a run)).seat b := by
    rw [seat_after h, seat_after h, after_sparing hab]
  refine ⟨congrArg Seat.session? hseat, congrArg Seat.controller? hseat, ?_, ?_⟩
  · rw [log_at h, log_at h, told_sparing hab]
  · intro surfaces hprivate
    rw [received_eq h hnumbered hprivate, received_eq h hnumbered (private_sparing hprivate a),
      told_sparing hab]

/-- Two windows, shown one after the other. -/
def twoShown : List Command :=
  [.ask ⟨1⟩ (.session (.connect true (some 7))),
    .ask ⟨2⟩ (.session (.connect true (some 8))),
    .ask ⟨1⟩ (.session .foreground),
    .ask ⟨2⟩ (.session .foreground)]

/-- Both windows are resized at once. The first goes to the background while its rectangle waits,
and the frame comes to both. -/
def crossingRun : List Command :=
  twoShown ++
    [.ask ⟨1⟩ (.control (.drag (.touch 0 .down ⟨100, 400⟩ ⟨0, 300⟩)
        (.free ⟨100, 100, 1000, 1000⟩ .unrestricted))),
      .ask ⟨2⟩ (.control (.drag (.touch 1 .down ⟨100, 500⟩ ⟨0, 300⟩)
        (.free ⟨100, 200, 800, 600⟩ .unrestricted))),
      .ask ⟨1⟩ (.session .background),
      .frame,
      .ask ⟨2⟩ (.control (.drag (.touch 1 .up ⟨90, 500⟩ ⟨0, 300⟩)
        (.free ⟨100, 200, 800, 600⟩ .unrestricted)))]

theorem sameFor_sparing_crossingRun :
    (⟨1⟩ : SessionId) ≠ ⟨2⟩ ∧
      SameFor ⟨2⟩
        (fitted (.after 1 [.create "mail" .appMain none, .create "notes" .appMain none]) .standard 1
          (.collaboratorFailed "peer gone"))
        crossingRun (sparing ⟨1⟩ crossingRun) :=
  ⟨by decide, sameFor_sparing 1 _ .standard 1 _ (by decide) crossingRun⟩

/-- The second window is resized whatever becomes of the first. -/
example :
    ((fitted (.after 1 [.create "mail" .appMain none, .create "notes" .appMain none]) .standard 1
        (.collaboratorFailed "peer gone")).log crossingRun).filter (·.1 = ⟨2⟩) =
      [(⟨2⟩, .stageRect ⟨2⟩ ⟨100, 200, 800, 600⟩ .dragStart), (⟨2⟩, .bounds 8 ⟨100, 200, 800, 600⟩),
        (⟨2⟩, .stageRect ⟨2⟩ ⟨90, 200, 810, 600⟩ .dragEnd),
        (⟨2⟩, .bounds 8 ⟨90, 200, 810, 600⟩)] := by
  decide +kernel

end Desk

end DisplayServer
