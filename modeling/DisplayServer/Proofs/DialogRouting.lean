import DisplayServer.Proofs.SessionRuns

/-!
# Pointer and keys agree on which window a dialog covers

Where a pointer-down goes and whether a key event passes are decided by two functions that look
at type, parent and modality each in its own way. Both come down to one question: which dialog
stands above the window (`coveredBy?`). That is the one on top in its parent's list for a dialog
or sub-window with a parent, and in its own list otherwise.

A covered window gets no keys (`isCovered_eq`). It gets no pointer-downs either unless it is modal
or an orphan, which belongs to another window but names none (`routeOf_eq`).
-/

namespace DisplayServer

/-- How a window stands to the others. -/
inductive WindowRole
  | dialogOf (parent : SessionId)
  | subOf (parent : SessionId)
  /-- A dialog or sub-window that names no parent. -/
  | orphan
  | main

def Session.role (s : Session) : WindowRole :=
  match s.type, s.parent with
  | .dialog, some p => .dialogOf p
  | .appSub, some p => .subOf p
  | .dialog, none | .appSub, none => .orphan
  | _, _ => .main

namespace Windows

/-- Pointer and keys agree on which windows a dialog covers. -/
structure PathsAgree (w : Windows) : Prop where
  /-- A window that pointer-downs do not reach gets no keys. -/
  silenced : ∀ id s route, w.session? id = some s → s.state ≠ .disconnected →
    w.routePointerDown id = .ok route → route ≠ .dispatched →
      ∃ e, w.passKeyEvent id = .error e ∧ e.kind = .notPermitted
  /-- A window that a dialog keeps from getting keys gets no pointer-downs, unless it is modal or
  belongs to another window but names none. -/
  shielded : ∀ id s e, w.session? id = some s → s.state ≠ .disconnected →
    w.passKeyEvent id = .error e → e.kind = .notPermitted → s.modal = false →
    (s.type ≠ .appSub ∧ s.type ≠ .dialog ∨ s.parent ≠ none) →
      ∃ route, w.routePointerDown id = .ok route ∧ route ≠ .dispatched
  /-- A pointer-down is redirected to the last shown dialog of the window, or of its parent where
  it is a dialog itself. -/
  redirected : ∀ id s t, w.session? id = some s → w.routePointerDown id = .ok (.redirected t) →
    ∃ p before d after, (if s.type = .dialog then s.parent = some p else id = p) ∧
      w.dialogsOf p = before ++ t :: after ∧ w.session? t = some d ∧ d.state.isShown = true ∧
      ∀ x ∈ after, ∀ other, w.session? x = some other → other.state.isShown = false
  /-- Some dialog is shown exactly if one is on top. -/
  shown : ∀ p, w.hasShownDialog p = true ↔ (w.topDialog? p).isSome = true

/-! ## The dialog on top -/

variable {w : Windows} {s : Session} {p t : SessionId}

theorem isShowing_iff :
    w.isShowing t = true ↔ ∃ d, w.session? t = some d ∧ d.state.isShown = true := by
  unfold isShowing
  cases w.session? t <;> simp

/-- The dialog on top is shown, and none that was bound later is. -/
theorem topDialog?_eq_some_iff : w.topDialog? p = some t ↔
    w.isShowing t = true ∧ ∃ before after, w.dialogsOf p = before ++ t :: after ∧
      ∀ x ∈ after, w.isShowing x = false := by
  rw [topDialog?, List.find?_eq_some_iff_append]
  refine and_congr_right fun _ => ⟨?_, ?_⟩
  · rintro ⟨later, earlier, hlist, hhidden⟩
    refine ⟨earlier.reverse, later.reverse, ?_, ?_⟩
    · rw [← List.reverse_reverse (w.dialogsOf p), hlist]
      simp
    · intro x hx
      simpa using hhidden x (List.mem_reverse.mp hx)
  · rintro ⟨before, after, hlist, hhidden⟩
    refine ⟨after.reverse, before.reverse, by simp [hlist], ?_⟩
    intro x hx
    simpa using hhidden x (List.mem_reverse.mp hx)

theorem hasShownDialog_eq (w : Windows) (p : SessionId) :
    w.hasShownDialog p = (w.topDialog? p).isSome := by
  rw [hasShownDialog, topDialog?, ← List.any_reverse, Bool.eq_iff_iff, List.any_eq_true,
    List.find?_isSome]

/-! ## The dialog above a window -/

theorem role_eq_orphan_iff :
    s.role = .orphan ↔ (s.type = .appSub ∨ s.type = .dialog) ∧ s.parent = none := by
  cases htype : s.type <;> cases hparent : s.parent <;> simp [Session.role, htype, hparent]

theorem role_eq_dialogOf_iff : s.role = .dialogOf p ↔ s.type = .dialog ∧ s.parent = some p := by
  cases htype : s.type <;> cases hparent : s.parent <;> simp [Session.role, htype, hparent]

theorem role_eq_main_iff : s.role = .main ↔ s.type ≠ .appSub ∧ s.type ≠ .dialog := by
  cases htype : s.type <;> cases hparent : s.parent <;> simp [Session.role, htype, hparent]

/-- The dialog that stands above a window; a dialog does not stand above itself. -/
def coveredBy? (w : Windows) (s : Session) : Option SessionId :=
  match s.role with
  | .dialogOf p => (w.topDialog? p).filter (· ≠ s.id)
  | .subOf p => w.topDialog? p
  | .orphan | .main => w.topDialog? s.id

theorem isCovered_eq (w : Windows) (s : Session) : w.isCovered s = (w.coveredBy? s).isSome := by
  cases htype : s.type <;> cases hparent : s.parent <;>
    simp only [isCovered, coveredBy?, Session.role, htype, hparent, hasShownDialog_eq]
  case dialog.some p =>
    cases w.topDialog? p with
    | none => rfl
    | some top => by_cases h : top = s.id <;> simp [Option.filter, h]

theorem routeOf_eq (w : Windows) (s : Session) : w.routeOf s =
    match s.role with
    | .dialogOf _ => (w.coveredBy? s).elim .dispatched .redirected
    | .subOf _ =>
      if s.modal then .dispatched else (w.coveredBy? s).elim .dispatched fun _ => .blocked
    | .orphan => .dispatched
    | .main => if s.modal then .dispatched else (w.coveredBy? s).elim .dispatched .redirected := by
  cases htype : s.type <;> cases hparent : s.parent <;>
    simp only [routeOf, coveredBy?, Session.role, htype, hparent, hasShownDialog_eq,
      WindowType.isSubordinate]
  case dialog.some p =>
    cases w.topDialog? p with
    | none => rfl
    | some top => by_cases h : top = s.id <;> simp [Option.filter, h]
  case appSub.some p => cases s.modal <;> cases w.topDialog? p <;> rfl
  case appSub.none => rfl
  case dialog.none => rfl
  all_goals cases s.modal <;> cases w.topDialog? s.id <;> rfl

/-- A window that pointer-downs do not reach is covered. -/
theorem covered_of_route (h : w.routeOf s ≠ .dispatched) : (w.coveredBy? s).isSome = true := by
  rw [Option.isSome_iff_ne_none]
  intro hnone
  refine h ?_
  rw [routeOf_eq, hnone]
  cases s.role <;> simp

/-- A covered window gets no pointer-downs unless it is modal, or an orphan. -/
theorem route_of_covered (h : (w.coveredBy? s).isSome = true) (hmodal : s.modal = false)
    (hrole : s.role ≠ .orphan) : w.routeOf s ≠ .dispatched := by
  obtain ⟨top, htop⟩ := Option.isSome_iff_exists.mp h
  rw [routeOf_eq, htop, hmodal]
  cases hr : s.role with
  | orphan => exact absurd hr hrole
  | _ => simp

theorem elim_eq_redirected_iff {top : Option SessionId} :
    top.elim .dispatched .redirected = PointerRoute.redirected t ↔ top = some t := by
  cases top <;> simp

/-- Who takes the pointer-down is on top in the list of the window, or of its parent where it is
a dialog. -/
theorem topDialog?_of_redirected (h : w.routeOf s = .redirected t) :
    ∃ p, (if s.type = .dialog then s.parent = some p else s.id = p) ∧ w.topDialog? p = some t := by
  rw [routeOf_eq] at h
  cases hr : s.role with
  | dialogOf p =>
    obtain ⟨htype, hparent⟩ := role_eq_dialogOf_iff.mp hr
    simp only [hr, elim_eq_redirected_iff, coveredBy?, Option.filter_eq_some_iff] at h
    exact ⟨p, by rw [if_pos htype, hparent], h.1⟩
  | main =>
    simp only [hr] at h
    split at h
    · cases h
    · simp only [elim_eq_redirected_iff, coveredBy?, hr] at h
      exact ⟨s.id, by rw [if_neg (role_eq_main_iff.mp hr).2], h⟩
  | subOf p =>
    -- a sub-window is blocked at most
    simp only [hr] at h
    split at h
    · cases h
    · cases hc : w.coveredBy? s <;> simp [hc] at h
  | orphan => simp only [hr, reduceCtorEq] at h

theorem passKeyEvent_eq (hs : w.session? p = some s) (hstate : s.state ≠ .disconnected) :
    w.passKeyEvent p =
      if (w.coveredBy? s).isSome then .error (.notPermitted (.coveredByDialog p)) else .ok () := by
  simp only [passKeyEvent, hs, if_neg hstate, isCovered_eq]

/-! ## Runs -/

theorem routePointerDown_eq (hs : w.session? p = some s) :
    w.routePointerDown p = .ok (w.routeOf s) := by
  simp only [routePointerDown, hs]

/-- Where every window is kept under its own number, pointer and keys agree. -/
theorem pathsAgree (h : Numbered w) : PathsAgree w where
  silenced := by
    intro id s route hs hstate hroute hne
    rw [routePointerDown_eq hs] at hroute
    obtain rfl := Except.ok.inj hroute
    rw [passKeyEvent_eq hs hstate, if_pos (covered_of_route hne)]
    exact ⟨_, rfl, rfl⟩
  shielded := by
    intro id s e hs hstate hkey _ hmodal hrole
    refine ⟨_, routePointerDown_eq hs, route_of_covered ?_ hmodal ?_⟩
    · rw [passKeyEvent_eq hs hstate] at hkey
      by_contra hfree
      rw [if_neg hfree] at hkey
      cases hkey
    · rw [ne_eq, role_eq_orphan_iff]
      rintro ⟨htype, hparent⟩
      rcases hrole with ⟨hsub, hdialog⟩ | hnamed
      · exact htype.elim hsub hdialog
      · exact hnamed hparent
  redirected := by
    intro id s t hs hroute
    rw [routePointerDown_eq hs] at hroute
    obtain ⟨p, hhost, htop⟩ := topDialog?_of_redirected (Except.ok.inj hroute)
    obtain ⟨hshown, before, after, hlist, hhidden⟩ := topDialog?_eq_some_iff.mp htop
    obtain ⟨d, hd, hstate⟩ := isShowing_iff.mp hshown
    rw [h.id id s hs] at hhost
    refine ⟨p, before, d, after, hhost, hlist, hd, hstate, ?_⟩
    intro x hx other hother
    have hx := hhidden x hx
    simpa only [isShowing, hother] using hx
  shown := by
    intro p
    rw [hasShownDialog_eq]

/-- **Pointer and keys agree on which windows a dialog covers**, after every run. -/
theorem pathsAgree_after (first : Int) (run : List Command) : PathsAgree (after first run) :=
  pathsAgree (numbered_after first run)

/-- Of two dialogs the one that was bound last takes the pointer-downs of the window and of the
other dialog, and is the only one of the three that gets keys. -/
example :
    let shows : SessionId → List Command := fun id =>
      [.session id (.ok ()) (.connect true (some 7)), .session id (.ok ()) .foreground]
    let w := after 1 ([.create "mail" .appMain none, .create "open" .dialog (some ⟨1⟩),
      .create "save" .dialog (some ⟨1⟩)] ++ shows ⟨1⟩ ++ shows ⟨2⟩ ++ shows ⟨3⟩)
    w.routePointerDown ⟨1⟩ = .ok (.redirected ⟨3⟩) ∧
      w.routePointerDown ⟨2⟩ = .ok (.redirected ⟨3⟩) ∧
      w.routePointerDown ⟨3⟩ = .ok .dispatched ∧
      w.passKeyEvent ⟨1⟩ = .error (.notPermitted (.coveredByDialog ⟨1⟩)) ∧
      w.passKeyEvent ⟨2⟩ = .error (.notPermitted (.coveredByDialog ⟨2⟩)) ∧
      w.passKeyEvent ⟨3⟩ = .ok () := by
  decide

end Windows

end DisplayServer
