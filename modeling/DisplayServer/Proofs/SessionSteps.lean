import DisplayServer.Window.Session
import Mathlib.Data.List.Chain

/-!
# Steps of one window session

A step of a session is a `Session.Command`. What it does is its answer, the session after it and
what went out, taken together: it is refused, it leads the session along the diagram of its
states (`Command.path`), it connects or disconnects, or it takes a rectangle. `Session.Does` says
so with all guards, and nothing above opens the steps again; what a step makes of the session
(`Becomes`) and whom it speaks to (`Says`) are read off it.
-/

namespace DisplayServer

namespace Session

/-! ## Steps -/

/-- One step of a session. -/
inductive Command
  | connect (stage : Bool) (surface : Option Nat)
  | foreground
  | background
  | activate (active : Bool)
  | disconnect
  | update (rect : Rect) (reason : ChangeReason)
  deriving DecidableEq

/-- Takes a step; `answer` is what the stage says if it is asked. -/
def take (s : Session) (answer : Except Error Unit) : Command → Step
  | .connect stage surface => s.connect stage surface
  | .foreground => s.foreground
  | .background => s.toBackground answer
  | .activate active => s.setActive answer active
  | .disconnect => s.disconnect
  | .update rect reason => s.updateRect answer rect reason

/-! ## The diagram of states -/

namespace Command

/-- The states that a granted command leads through. -/
def path : Command → SessionState → List SessionState
  | .connect .., _ => [.connected]
  | .foreground, _ => [.foreground]
  | .background, .active => [.inactive, .background]
  | .background, _ => [.background]
  | .activate true, .active => []
  | .activate true, _ => [.active]
  | .activate false, .active => [.inactive]
  | .activate false, _ => []
  | .disconnect, .disconnected => []
  | .disconnect, _ => [.disconnected]
  | .update .., _ => []

/-- The state in which a granted command leaves a session. -/
def next (c : Command) (state : SessionState) : SessionState := (c.path state).getLastD state

/-- The surface, if any, of a connection. -/
def surfaces : Command → List (Option Nat)
  | .connect _ surface => [surface]
  | _ => []

/-- The rectangle to be taken. -/
def rects : Command → List (Rect × ChangeReason)
  | .update rect reason => [(rect, reason)]
  | _ => []

/-- The states from which a command is allowed that does nothing else than to lead along its
path. -/
def Turns : Command → SessionState → Prop
  | .foreground, state => state ∈ [.connected, .background, .inactive]
  | .background, state => state.isShown = true
  | .activate _, state => state.isShown = true
  | .disconnect, state => state = .disconnected
  | .connect .., _ => False
  | .update .., _ => False

variable {c : Command} {state : SessionState}

/-- A path never stays where it is. -/
theorem Turns.isChain (h : c.Turns state) : List.IsChain (· ≠ ·) (state :: c.path state) := by
  cases c with
  | activate active => cases active <;> cases state <;> simp_all [Turns, path, SessionState.isShown]
  | _ => cases state <;> simp_all [Turns, path, SessionState.isShown]

theorem Turns.rects_eq (h : c.Turns state) : c.rects = [] := by
  cases c with
  | update rect reason => exact h.elim
  | _ => rfl

theorem path_disconnect (h : state ≠ .disconnected) :
    Command.disconnect.path state = [.disconnected] := by
  cases state with
  | disconnected => exact absurd rfl h
  | _ => rfl

/-- Such a path does not lead out of a connection, nor into one. -/
theorem Turns.next_eq_disconnected_iff (h : c.Turns state) :
    c.next state = .disconnected ↔ state = .disconnected := by
  cases c with
  | activate active =>
    cases active <;> cases state <;> simp_all [Turns, next, path, SessionState.isShown]
  | _ => cases state <;> simp_all [Turns, next, path, SessionState.isShown]

end Command

/-! ## What a step does -/

/-- What a session can ask of its stage. -/
inductive Asks (s : Session) : WindowOutput → Prop
  | stageRect (rect : Rect) (reason : ChangeReason) : Asks s (.stageRect s.id rect reason)
  | stageActive (active : Bool) : Asks s (.stageActive s.id active)

/-- A watched session reports the states that it is led through. -/
def announce (s : Session) (path : List SessionState) : List WindowOutput :=
  if s.watched then path.map (.entered s.id) else []

/-- What a step can do. -/
inductive Does (s : Session) (answer : Except Error Unit) : Command → Step → Prop
  /-- At most a stage was asked, which did not take it. -/
  | refused (c : Command) (e : Error) (asked : List WindowOutput) :
    (∀ o ∈ asked, s.Asks o ∧ s.state.isShown = true ∧ answer.isOk = false) →
    Does s answer c ⟨.error e, s, asked⟩
  | turned (c : Command) (asked : List Bool) : c.Turns s.state →
    Does s answer c ⟨.ok (), { s with state := c.next s.state },
      asked.map (.stageActive s.id) ++ s.announce (c.path s.state)⟩
  | connected (surface : Option Nat) : s.state = .disconnected →
    (surface = none → s.type.isSystem = true) →
    Does s answer (.connect true surface)
      ⟨.ok (), { s with staged := true, surface, state := .connected }, s.announce [.connected]⟩
  | disconnected : s.state ≠ .disconnected →
    Does s answer .disconnect
      ⟨.ok (), { s with staged := false, surface := none, provisional := false,
                        state := .disconnected }, s.announce [.disconnected]⟩
  /-- The stage, if there is one, accepts the rectangle, and then the surface gets it. -/
  | updated (rect : Rect) (reason : ChangeReason) : s.state.isShown = true →
    (s.staged = true → answer = .ok ()) →
    Does s answer (.update rect reason)
      ⟨.ok (), { s with rect, reason, provisional := reason.isProvisional },
        (if s.staged then [.stageRect s.id rect reason] else []) ++
          match s.surface with
          | some surface => [.bounds surface rect]
          | none => []⟩

variable {s : Session} {answer : Except Error Unit} {c : Command}

theorem does_refuse (s : Session) (answer : Except Error Unit) (c : Command) (e : Error) :
    Does s answer c (s.refuse e) :=
  .refused c e [] fun _ ho => nomatch ho

/-- A step along one edge of the diagram. -/
theorem does_enter (hturns : c.Turns s.state) {next : SessionState}
    (hpath : c.path s.state = [next]) : Does s answer c (s.enter next) := by
  have h : Does s answer c _ := .turned c [] hturns
  simp only [Command.next, hpath] at h
  exact h

/-- A command that changes nothing. -/
theorem does_nothing (hturns : c.Turns s.state) (hpath : c.path s.state = []) :
    Does s answer c ⟨.ok (), s, []⟩ := by
  have h : Does s answer c _ := .turned c [] hturns
  simp only [Command.next, hpath, announce] at h
  simpa using h

theorem does_ask_enter (hturns : c.Turns s.state) (hshown : s.state.isShown = true)
    {next : SessionState} (hpath : c.path s.state = [next]) (active : Bool) :
    Does s answer c (s.ask answer (.stageActive s.id active) (s.enter next)) := by
  unfold ask
  split
  · cases answer with
    | ok =>
      have h : Does s (.ok ()) c _ := .turned c [active] hturns
      simp only [Command.next, hpath] at h
      exact h
    | error e =>
      exact .refused c _ _ (List.forall_mem_singleton.mpr ⟨.stageActive active, hshown, rfl⟩)
  · exact does_enter hturns hpath

theorem does_setActive (s : Session) (answer : Except Error Unit) (active : Bool) :
    Does s answer (.activate active) (s.setActive answer active) := by
  unfold setActive
  split
  · exact does_refuse s answer _ _
  · rename_i hshown
    have hshown : s.state.isShown = true := by simpa using hshown
    have hask : ∀ next, (Command.activate active).path s.state = [next] →
        Does s answer (.activate active)
          (s.ask answer (.stageActive s.id active) (s.enter next)) :=
      fun next hpath => does_ask_enter (c := .activate active) hshown hshown hpath active
    have hidle : (Command.activate active).path s.state = [] →
        Does s answer (.activate active) ⟨.ok (), s, []⟩ := does_nothing hshown
    cases hstate : s.state with
    | disconnected | connected | background =>
      rw [hstate] at hshown
      cases hshown
    | foreground | inactive =>
      rw [hstate] at hask hidle
      cases active with
      | true => exact hask .active rfl
      | false => exact hidle rfl
    | active =>
      rw [hstate] at hask hidle
      cases active with
      | true => exact hidle rfl
      | false => exact hask .inactive rfl

/-- An active session turns inactive on its way, and if its stage does not take that, it stays. -/
theorem does_toBackground_of_active (hactive : s.state = .active) (answer : Except Error Unit) :
    Does s answer .background (s.toBackground answer) := by
  have hshown : s.state.isShown = true := by rw [hactive]; rfl
  have hturns : Command.background.Turns s.state := hshown
  have hquiet : s.setActive answer false =
      s.ask answer (.stageActive s.id false) (s.enter .inactive) := by
    simp only [setActive, hactive]
    rfl
  have hpath : Command.background.path s.state = [.inactive, .background] := by
    rw [hactive]
    rfl
  have hannounce : s.announce [.inactive] ++ s.announce [.background] =
      s.announce [.inactive, .background] := by
    unfold announce
    split <;> rfl
  have hturned : ∀ asked : List Bool, Does s answer .background
      ⟨.ok (), { s with state := .background },
        asked.map (.stageActive s.id) ++ (s.announce [.inactive] ++ s.announce [.background])⟩ := by
    intro asked
    have h : Does s answer .background _ := .turned .background asked hturns
    simp only [Command.next, hpath] at h
    rw [hannounce]
    exact h
  simp only [toBackground, hactive, hquiet, ask]
  cases hstaged : s.staged with
  | false => exact hturned []
  | true =>
    cases answer with
    | ok => exact hturned [false]
    | error e =>
      exact .refused _ _ _ (List.forall_mem_singleton.mpr ⟨.stageActive false, hshown, rfl⟩)

theorem does_toBackground (s : Session) (answer : Except Error Unit) :
    Does s answer .background (s.toBackground answer) := by
  by_cases hactive : s.state = .active
  · exact does_toBackground_of_active hactive answer
  · simp only [toBackground, if_neg hactive]
    split
    · exact does_refuse s answer _ _
    · rename_i hshown
      have hshown : s.state.isShown = true := by simpa using hshown
      refine does_enter (c := .background) hshown ?_
      cases hstate : s.state with
      | active => exact absurd hstate hactive
      | _ => rfl

theorem does_foreground (s : Session) (answer : Except Error Unit) :
    Does s answer .foreground s.foreground := by
  have henter : s.state ∈ [SessionState.connected, .background, .inactive] →
      Does s answer .foreground (s.enter .foreground) :=
    fun hstate => does_enter (c := .foreground) hstate rfl
  unfold foreground
  split
  · rename_i hstate
    exact henter (by simp [hstate])
  · rename_i hstate
    exact henter (by simp [hstate])
  · rename_i hstate
    exact henter (by simp [hstate])
  · exact does_refuse s answer _ _

theorem does_connect (s : Session) (answer : Except Error Unit) (stage : Bool)
    (surface : Option Nat) : Does s answer (.connect stage surface) (s.connect stage surface) := by
  unfold connect
  split
  · exact does_refuse s answer _ _
  · rename_i hstate
    cases stage with
    | false => exact does_refuse s answer _ _
    | true =>
      simp only [Bool.not_true, Bool.false_eq_true, if_false]
      split
      · exact does_refuse s answer _ _
      · rename_i hsystem
        refine .connected surface (not_not.mp hstate) ?_
        rintro rfl
        simpa using hsystem

theorem does_disconnect (s : Session) (answer : Except Error Unit) :
    Does s answer .disconnect s.disconnect := by
  unfold disconnect
  split
  · rename_i hstate
    refine does_nothing (c := .disconnect) hstate ?_
    rw [hstate]
    rfl
  · rename_i hstate
    exact .disconnected hstate

theorem does_updateRect (s : Session) (answer : Except Error Unit) (rect : Rect)
    (reason : ChangeReason) :
    Does s answer (.update rect reason) (s.updateRect answer rect reason) := by
  unfold updateRect
  split
  · exact does_refuse s answer _ _
  · rename_i hshown
    have hshown : s.state.isShown = true := by simpa using hshown
    have hupdated : _ → Does s answer (.update rect reason) _ := .updated rect reason hshown
    unfold ask
    cases hstaged : s.staged with
    | false =>
      rw [hstaged] at hupdated
      exact hupdated Bool.noConfusion
    | true =>
      rw [hstaged] at hupdated
      cases answer with
      | ok => exact hupdated fun _ => rfl
      | error e =>
        exact .refused _ _ _ (List.forall_mem_singleton.mpr ⟨.stageRect rect reason, hshown, rfl⟩)

/-- **A step is refused, leads along its path, connects, disconnects or takes a rectangle.** -/
theorem does_take (s : Session) (answer : Except Error Unit) (c : Command) :
    Does s answer c (s.take answer c) := by
  cases c with
  | connect stage surface => exact does_connect s answer stage surface
  | foreground => exact does_foreground s answer
  | background => exact does_toBackground s answer
  | activate active => exact does_setActive s answer active
  | disconnect => exact does_disconnect s answer
  | update rect reason => exact does_updateRect s answer rect reason

/-! ## What becomes of the session -/

/-- What a step can make of a session. -/
inductive Becomes (s : Session) : Command → Session → Prop
  /-- At most the state is another. -/
  | turned (c : Command) (next : SessionState) : Becomes s c { s with state := next }
  | connected (surface : Option Nat) :
    Becomes s (.connect true surface) { s with staged := true, surface, state := .connected }
  | disconnected : Becomes s .disconnect
      { s with staged := false, surface := none, provisional := false, state := .disconnected }
  | updated (rect : Rect) (reason : ChangeReason) : Becomes s (.update rect reason)
      { s with rect, reason, provisional := reason.isProvisional }

/-- **A step turns the state, connects, disconnects or takes a rectangle.** -/
theorem becomes_take (s : Session) (answer : Except Error Unit) (c : Command) :
    Becomes s c (s.take answer c).session := by
  have hdoes := does_take s answer c
  generalize s.take answer c = step at hdoes
  cases hdoes with
  | refused _ e asked hasked => exact .turned c s.state
  | turned _ asked hturns => exact .turned c _
  | connected surface hstate hsurface => exact .connected surface
  | disconnected hstate => exact .disconnected
  | updated rect reason hshown hanswer => exact .updated rect reason

/-- The number of a window, and where it stands among the others. -/
def place (s : Session) : SessionId × Option SessionId × List SessionId :=
  (s.id, s.parent, s.dialogs)

theorem place_take (s : Session) (answer : Except Error Unit) (c : Command) :
    (s.take answer c).session.place = s.place := by
  have h := becomes_take s answer c
  generalize (s.take answer c).session = s' at h
  cases h <;> rfl

/-! ## What it says -/

/-- What a session can say: to its own stage, to the surface that it has, and of its own
transitions. -/
inductive Says (s : Session) : WindowOutput → Prop
  | stageRect (rect : Rect) (reason : ChangeReason) : Says s (.stageRect s.id rect reason)
  | stageActive (active : Bool) : Says s (.stageActive s.id active)
  | bounds (surface : Nat) (rect : Rect) : s.surface = some surface → Says s (.bounds surface rect)
  | entered (next : SessionState) : Says s (.entered s.id next)

theorem Says.of_asks {o : WindowOutput} (h : s.Asks o) : s.Says o := by
  cases h with
  | stageRect rect reason => exact .stageRect rect reason
  | stageActive active => exact .stageActive active

theorem says_announce (s : Session) (path : List SessionState) :
    ∀ o ∈ s.announce path, s.Says o := by
  unfold announce
  split
  · exact List.forall_mem_map.mpr fun next _ => .entered next
  · exact fun _ ho => nomatch ho

/-- **A session speaks for itself.** -/
theorem says_take (s : Session) (answer : Except Error Unit) (c : Command) :
    ∀ o ∈ (s.take answer c).outputs, s.Says o := by
  have hdoes := does_take s answer c
  generalize s.take answer c = step at hdoes
  cases hdoes with
  | refused _ e asked hasked => exact fun o ho => .of_asks (hasked o ho).1
  | turned _ asked hturns =>
    exact List.forall_mem_append.mpr
      ⟨List.forall_mem_map.mpr fun active _ => .stageActive active, says_announce s _⟩
  | connected surface hstate hsurface => exact says_announce s _
  | disconnected hstate => exact says_announce s _
  | updated rect reason hshown hanswer =>
    refine List.forall_mem_append.mpr ⟨?_, ?_⟩
    · split
      · exact List.forall_mem_singleton.mpr (.stageRect rect reason)
      · exact fun _ ho => nomatch ho
    · split
      · rename_i surface hsurface
        exact List.forall_mem_singleton.mpr (.bounds surface rect hsurface)
      · exact fun _ ho => nomatch ho

/-! ## Attributes -/

/-- An attribute that can be set at any time. -/
inductive Attribute
  | focusable (focusable : Bool)
  | touchable (touchable : Bool)
  | focused (focused : Bool)
  | watched
  deriving DecidableEq

def set (s : Session) : Attribute → Session
  | .focusable focusable => { s with focusable }
  | .touchable touchable => { s with touchable }
  | .focused focused => s.setFocused focused
  | .watched => { s with watched := true }

theorem place_set (s : Session) (a : Attribute) : (s.set a).place = s.place := by
  cases a <;> rfl

end Session

end DisplayServer
