import DisplayServer.Proofs.Lookup
import DisplayServer.Proofs.Runs
import DisplayServer.Proofs.SessionSteps
import DisplayServer.Window.Registry

/-!
# Commands and runs of all windows

Whatever is asked of all windows together is a `Windows.Command`; the steps of one session are
among them. A run is a list of commands, carried out from no windows on, with any arguments and
whether or not each is granted.

Every window is kept under its own number, and a number that was given out is not given out
again (`Numbered`).
-/

namespace DisplayServer

namespace Windows

/-- The windows with a new one among them. -/
def opened (w : Windows) (s : Session) : Windows := { w.put s with nextId := s.id.val + 1 }

/-- The windows without one of them, which its parent lists no longer. -/
def without (w : Windows) (s : Session) (id : SessionId) : Windows :=
  let rest : Windows := { w with sessions := w.sessions.erase id }
  match s.parent with
  | some p => rest.modify p fun s => { s with dialogs := s.dialogs.filter (· ≠ id) }
  | none => rest

/-- The number that the next window gets. -/
def nextSessionId (w : Windows) : SessionId := ⟨max w.nextId 1⟩

/-! ## Look-ups after a write -/

section

variable (w : Windows) (x : SessionId)

theorem session?_put (s : Session) :
    (w.put s).session? x = if x = s.id then some s else w.session? x :=
  Table.get?_insert_ite w.sessions s.id x s

theorem session?_modify (id : SessionId) (f : Session → Session) :
    (w.modify id f).session? x = if x = id then (w.session? x).map f else w.session? x :=
  Table.get?_modify_ite w.sessions id x f

theorem session?_step (id : SessionId) (f : Session → Session.Step) :
    (w.step id f).windows.session? x =
      if x = id then (w.session? x).map fun s => (f s).session else w.session? x := by
  unfold step
  split
  · rename_i hnone
    split
    · rename_i hx
      rw [hx, hnone]
      exact hnone
    · rfl
  · rename_i s hs
    refine (Table.get?_insert_ite w.sessions id x _).trans ?_
    split
    · rename_i hx
      rw [hx, hs]
      rfl
    · rfl

theorem session?_opened (s : Session) :
    (w.opened s).session? x = if x = s.id then some s else w.session? x :=
  session?_put w x s

/-- A link is written at both ends. -/
theorem session?_link (parent dialog : SessionId) :
    (w.link parent dialog).session? x = (w.session? x).map fun s =>
      { s with
        dialogs := if x = parent ∧ dialog ∉ s.dialogs then s.dialogs ++ [dialog] else s.dialogs
        parent := if x = dialog then some parent else s.parent } := by
  rw [link, session?_modify, session?_modify]
  cases w.session? x with
  | none => split <;> split <;> rfl
  | some s =>
    by_cases hparent : x = parent
    · -- the list is extended unless it has the dialog
      have hlisted :
          (if dialog ∈ s.dialogs then s else { s with dialogs := s.dialogs ++ [dialog] }) =
          { s with dialogs := if x = parent ∧ dialog ∉ s.dialogs then s.dialogs ++ [dialog]
                              else s.dialogs } := by
        by_cases hmem : dialog ∈ s.dialogs <;> simp only [hmem, hparent] <;> rfl
      rw [if_pos hparent]
      simp only [Option.map_some, hlisted]
      split <;> rfl
    · simp only [hparent, false_and, if_false, Option.map_some]
      split <;> rfl

theorem session?_without (s : Session) (id : SessionId) :
    (w.without s id).session? x = if x = id then none else (w.session? x).map fun other =>
      { other with
        dialogs :=
          if s.parent = some x then other.dialogs.filter (· ≠ id) else other.dialogs } := by
  have herased : Windows.session? { w with sessions := w.sessions.erase id } x =
      if x = id then none else w.session? x := Table.get?_erase_ite w.sessions id x
  unfold without
  cases hparent : s.parent with
  | none =>
    simp only [reduceCtorEq, if_false]
    rw [herased]
    split
    · rfl
    · exact Option.map_id'.symm
  | some p =>
    simp only [session?_modify, herased, Option.some.injEq]
    by_cases hx : x = id
    · simp [hx]
    · by_cases hp : p = x
      · simp only [if_neg hx, if_pos hp, if_pos hp.symm]
      · simp only [if_neg hx, if_neg hp, if_neg (Ne.symm hp)]
        exact Option.map_id'.symm

end

/-- Every window is where it was. -/
def SamePlaces (w w' : Windows) : Prop :=
  ∀ x, (w'.session? x).map Session.place = (w.session? x).map Session.place

theorem samePlaces_modify (w : Windows) (id : SessionId) {f : Session → Session}
    (hf : ∀ s, (f s).place = s.place) : SamePlaces w (w.modify id f) := by
  intro x
  rw [session?_modify]
  split
  · cases w.session? x with
    | none => rfl
    | some s => exact congrArg some (hf s)
  · rfl

theorem samePlaces_step (w : Windows) (id : SessionId) {f : Session → Session.Step}
    (hf : ∀ s, (f s).session.place = s.place) : SamePlaces w (w.step id f).windows := by
  intro x
  rw [session?_step]
  split
  · cases w.session? x with
    | none => rfl
    | some s => exact congrArg some (hf s)
  · rfl

/-! ## Commands and runs -/

/-- One request to all windows. -/
inductive Command
  | create (name : String) (type : WindowType) (parent : Option SessionId)
  | bind (parent dialog : SessionId)
  | remove (id : SessionId)
  | setModal (id : SessionId) (modal : Bool)
  /-- A step of one session, whose stage answers what is given. -/
  | session (id : SessionId) (answer : Except Error Unit) (c : Session.Command)
  | adjust (id : SessionId) (a : Session.Attribute)

/-- The windows after a request, granted or refused. -/
def perform (w : Windows) : Command → Windows
  | .create name type parent => (w.create name type parent).windows
  | .bind parent dialog => (w.bindDialog parent dialog).windows
  | .remove id => (w.remove id).windows
  | .setModal id modal => (w.setModal id modal).windows
  | .session id answer c => (w.step id fun s => s.take answer c).windows
  | .adjust id a => w.modify id fun s => s.set a

/-- The windows after a run; the first is numbered `first`, or 1 where that is less. -/
def after (first : Int) (run : List Command) : Windows := run.foldl perform (startingAt first)

theorem after_concat (first : Int) (run : List Command) (c : Command) :
    after first (run ++ [c]) = (after first run).perform c :=
  List.foldl_concat perform (startingAt first) c run

/-- What a request can make of the windows. -/
inductive Becomes (w : Windows) : Command → Windows → Prop
  /-- At most what the windows are like is changed. -/
  | stay (c : Command) (w' : Windows) : SamePlaces w w' → w'.nextId = w.nextId → Becomes w c w'
  | opened (name : String) (type : WindowType) (parent : Option SessionId) :
    Becomes w (.create name type parent) (w.opened (.create w.nextSessionId name type parent))
  /-- A new dialog is bound to its parent. -/
  | bound (name : String) (p : SessionId) : (w.session? p).isSome →
    Becomes w (.create name .dialog (some p))
      ((w.opened (.create w.nextSessionId name .dialog (some p))).link p w.nextSessionId)
  | linked (parent dialog : SessionId) : (w.session? dialog).isSome → (w.session? parent).isSome →
    Becomes w (.bind parent dialog) (w.link parent dialog)
  | removed (id : SessionId) (s : Session) : w.session? id = some s →
    Becomes w (.remove id) (w.without s id)

theorem Becomes.same (w : Windows) (c : Command) : Becomes w c w := .stay c w (fun _ => rfl) rfl

theorem perform_bind (w : Windows) (parent dialog : SessionId) :
    w.perform (.bind parent dialog) =
      if (w.session? dialog).isSome ∧ (w.session? parent).isSome then w.link parent dialog
      else w := by
  simp only [perform, bindDialog]
  cases w.session? dialog <;> cases w.session? parent <;> rfl

theorem perform_remove (w : Windows) (id : SessionId) :
    w.perform (.remove id) = ((w.session? id).map fun s => w.without s id).getD w := by
  simp only [perform, remove]
  cases w.session? id <;> rfl

/-- **A request opens, links or removes a window, or leaves all in their places.** -/
theorem becomes_perform (w : Windows) (c : Command) : Becomes w c (w.perform c) := by
  cases c with
  | create name type parent =>
    simp only [perform, create]
    split
    · exact .same w _
    · rename_i hknown
      split
      · rename_i p
        refine .bound name p ?_
        simpa [Option.filter, Option.isSome_iff_ne_none] using hknown
      · exact .opened name type parent
  | bind parent dialog =>
    rw [perform_bind]
    split
    · rename_i hlive
      exact .linked parent dialog hlive.1 hlive.2
    · exact .same w _
  | remove id =>
    rw [perform_remove]
    cases hs : w.session? id with
    | none => exact .same w _
    | some s => exact .removed id s hs
  | setModal id modal =>
    simp only [perform, setModal]
    split
    · exact .same w _
    · exact .stay _ _ (samePlaces_modify w id fun _ => rfl) rfl
  | session id answer c =>
    refine .stay _ _ (samePlaces_step w id fun s => s.place_take answer c) ?_
    simp only [perform, step]
    split <;> rfl
  | adjust id a => exact .stay _ _ (samePlaces_modify w id fun s => s.place_set a) rfl

/-! ## Numbers -/

/-- Every window is kept under its own number, which comes before the next one. -/
structure Numbered (w : Windows) : Prop where
  id : ∀ x s, w.session? x = some s → s.id = x
  below : ∀ x s, w.session? x = some s → x.val < w.nextSessionId.val

variable {w w' : Windows}

/-- What stands under each number is what stood there or new. -/
theorem Numbered.of_ids (h : Numbered w) (hnext : w.nextSessionId.val ≤ w'.nextSessionId.val)
    (hids : ∀ x s', w'.session? x = some s' →
      (∃ s, w.session? x = some s ∧ s'.id = s.id) ∨
        s'.id = x ∧ x.val < w'.nextSessionId.val) : Numbered w' where
  id := by
    intro x s' hs'
    rcases hids x s' hs' with ⟨s, hs, hid⟩ | ⟨hid, -⟩
    · exact hid.trans (h.id x s hs)
    · exact hid
  below := by
    intro x s' hs'
    rcases hids x s' hs' with ⟨s, hs, -⟩ | ⟨-, hlt⟩
    · have := h.below x s hs
      omega
    · exact hlt

theorem numbered_startingAt (first : Int) : Numbered (startingAt first) where
  id := by intro x s hs; cases hs
  below := by intro x s hs; cases hs

theorem numbered_opened (h : Numbered w) {s : Session} (hid : s.id = w.nextSessionId) :
    Numbered (w.opened s) := by
  have hnext : (w.opened s).nextSessionId.val = w.nextSessionId.val + 1 := by
    simp only [nextSessionId, opened, hid]
    omega
  refine h.of_ids (by omega) ?_
  intro x s' hs'
  rw [session?_opened] at hs'
  split at hs'
  · rename_i hx
    obtain rfl := Option.some.inj hs'
    refine .inr ⟨hx.symm, ?_⟩
    rw [hx, hid, hnext]
    omega
  · exact .inl ⟨s', hs', rfl⟩

theorem numbered_link (h : Numbered w) (parent dialog : SessionId) :
    Numbered (w.link parent dialog) := by
  refine h.of_ids (Int.le_refl _) ?_
  intro x s' hs'
  rw [session?_link, Option.map_eq_some_iff] at hs'
  obtain ⟨s, hs, rfl⟩ := hs'
  exact .inl ⟨s, hs, rfl⟩

theorem nextId_without (w : Windows) (s : Session) (id : SessionId) :
    (w.without s id).nextId = w.nextId := by
  unfold without
  cases s.parent <;> rfl

theorem numbered_without (h : Numbered w) (s : Session) (id : SessionId) :
    Numbered (w.without s id) := by
  refine h.of_ids (by simp [nextSessionId, nextId_without]) ?_
  intro x s' hs'
  rw [session?_without] at hs'
  split at hs'
  · cases hs'
  · obtain ⟨other, hother, rfl⟩ := Option.map_eq_some_iff.mp hs'
    exact .inl ⟨other, hother, rfl⟩

theorem numbered_of_same (h : Numbered w) (hsame : SamePlaces w w') (hnext : w'.nextId = w.nextId) :
    Numbered w' := by
  refine h.of_ids (by simp [nextSessionId, hnext]) ?_
  intro x s' hs'
  have hx := hsame x
  rw [hs'] at hx
  obtain ⟨s, hs, hplace⟩ := Option.map_eq_some_iff.mp hx.symm
  exact .inl ⟨s, hs, (congrArg Prod.fst hplace).symm⟩

theorem numbered_perform (h : Numbered w) (c : Command) : Numbered (w.perform c) := by
  have hc := becomes_perform w c
  generalize w.perform c = w' at hc
  cases hc with
  | stay _ _ hsame hnext => exact numbered_of_same h hsame hnext
  | opened name type parent => exact numbered_opened h rfl
  | bound name p hp => exact numbered_link (numbered_opened h rfl) _ _
  | linked parent dialog hdialog hparent => exact numbered_link h _ _
  | removed id s hs => exact numbered_without h s id

theorem numbered_after (first : Int) (run : List Command) : Numbered (after first run) := by
  induction run using List.reverseRecOn with
  | nil => exact numbered_startingAt first
  | append_singleton before c ih =>
    rw [after_concat]
    exact numbered_perform ih c

end Windows

end DisplayServer
