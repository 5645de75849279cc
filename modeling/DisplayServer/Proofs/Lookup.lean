import DisplayServer.Topology.Draft

/-!
# What a look-up answers after an edit

Every edit of the topology writes, drops or reads a few entries of one table. Here each write
gets an equation for each look-up, so that no later proof opens a write again, and the edits of
the drafts are brought down to three writes: a screen is put, a group is put, a group is
dropped.
-/

namespace DisplayServer

namespace Table

open Ranked

variable {κ α : Type} [Ranked κ] [DecidableEq κ]

theorem get?_insert_ite (t : Table κ α) (k k' : κ) (v : α) :
    (t.insert k v).get? k' = if k' = k then some v else t.get? k' := by
  by_cases h : k' = k
  · subst h
    rw [if_pos rfl, get?_insert_self]
  · rw [if_neg h, get?_insert_of_ne _ _ (Ne.symm h)]

theorem get?_erase_ite (t : Table κ α) (k k' : κ) :
    (t.erase k).get? k' = if k' = k then none else t.get? k' := by
  by_cases h : k' = k
  · subst h
    rw [if_pos rfl, get?_erase_self]
  · rw [if_neg h, get?_erase_of_ne _ (Ne.symm h)]

theorem get?_modify_ite (t : Table κ α) (k k' : κ) (f : α → α) :
    (t.modify k f).get? k' = if k' = k then (t.get? k').map f else t.get? k' := by
  by_cases h : k' = k
  · subst h
    rw [if_pos rfl, get?_modify_self]
  · rw [if_neg h, get?_modify_of_ne _ _ (Ne.symm h)]

omit [DecidableEq κ] in
theorem mem_keys_iff (t : Table κ α) (k : κ) : k ∈ t.keys ↔ ∃ v, t.get? k = some v := by
  simp only [keys, List.mem_map]
  constructor
  · rintro ⟨e, he, rfl⟩
    exact ⟨e.2, (t.mem_entries_iff e.1 e.2).mp he⟩
  · rintro ⟨v, hv⟩
    exact ⟨(k, v), (t.mem_entries_iff k v).mpr hv, rfl⟩

omit [DecidableEq κ] in
theorem nodup_keys (t : Table κ α) : t.keys.Nodup := by
  refine List.pairwise_map.mpr (t.ascending.imp fun {a b} hlt heq => ?_)
  rw [heq] at hlt
  exact Int.lt_irrefl _ hlt

omit [DecidableEq κ] in
theorem length_put {k : κ} {es : List (κ × α)} (h : find k es = none) (v : α) :
    (put k v es).length = es.length + 1 := by
  induction es with
  | nil => rfl
  | cons e rest ih =>
    simp only [find] at h
    split at h
    · cases h
    · rename_i hne
      unfold put
      split
      · rfl
      · rw [if_neg (Ne.symm hne), List.length_cons, ih h, List.length_cons]

omit [DecidableEq κ] in
/-- A key that is new counts. -/
theorem size_insert {t : Table κ α} {k : κ} (h : t.get? k = none) (v : α) :
    (t.insert k v).size = t.size + 1 :=
  length_put h v

/-- The later of two writes to one key stands. -/
theorem insert_insert (t : Table κ α) (k : κ) (v w : α) :
    (t.insert k v).insert k w = t.insert k w := by
  refine ext_get? fun x => ?_
  simp only [get?_insert_ite]
  split <;> rfl

/-- Writes to different keys may be exchanged. -/
theorem insert_comm (t : Table κ α) {k l : κ} (h : k ≠ l) (v w : α) :
    (t.insert k v).insert l w = (t.insert l w).insert k v := by
  refine ext_get? fun x => ?_
  simp only [get?_insert_ite]
  by_cases hx : x = l
  · rw [if_pos hx, if_neg fun hk => h (hk.symm.trans hx), if_pos hx]
  · simp only [if_neg hx]

/-- A key may be dropped before or after another is written. -/
theorem erase_insert_comm (t : Table κ α) {k l : κ} (h : k ≠ l) (v : α) :
    (t.insert k v).erase l = (t.erase l).insert k v := by
  refine ext_get? fun x => ?_
  simp only [get?_insert_ite, get?_erase_ite]
  by_cases hx : x = l
  · rw [if_pos hx, if_neg fun hk => h (hk.symm.trans hx)]
    simp [hx]
  · simp only [if_neg hx]

/-- Writing what is there already changes nothing. -/
theorem insert_eq_self {t : Table κ α} {k : κ} {v : α} (h : t.get? k = some v) :
    t.insert k v = t := by
  refine ext_get? fun x => ?_
  rw [get?_insert_ite]
  by_cases hx : x = k
  · rw [if_pos hx, hx, h]
  · rw [if_neg hx]

end Table

/-- The screen with another parent. -/
def Screen.within (s : Screen) (parent : Option ScreenId) : Screen := { s with parent }

namespace Screen

@[simp] theorem within_id (s : Screen) (p : Option ScreenId) :
    (s.within p).id = s.id := rfl

@[simp] theorem within_parent (s : Screen) (p : Option ScreenId) :
    (s.within p).parent = p := rfl

@[simp] theorem within_renderId (s : Screen) (p : Option ScreenId) :
    (s.within p).renderId = s.renderId := rfl

@[simp] theorem within_isVirtual (s : Screen) (p : Option ScreenId) :
    (s.within p).isVirtual = s.isVirtual := rfl

theorem within_self {s : Screen} {p : Option ScreenId} (h : s.parent = p) : s.within p = s := by
  rw [← h]
  rfl

end Screen

/-- The group with a screen placed at a start point. -/
def ScreenGroup.placing (g : ScreenGroup) (x : ScreenId) (start : Point) : ScreenGroup :=
  { g with composition := g.composition.place x start }

/-- The group without a screen. -/
def ScreenGroup.without (g : ScreenGroup) (x : ScreenId) : ScreenGroup :=
  { g with composition := g.composition.remove x }

namespace ScreenGroup

@[simp] theorem placing_id (g : ScreenGroup) (x : ScreenId) (start : Point) :
    (g.placing x start).id = g.id := rfl

@[simp] theorem placing_composition (g : ScreenGroup) (x : ScreenId) (start : Point) :
    (g.placing x start).composition = g.composition.place x start := rfl

@[simp] theorem without_id (g : ScreenGroup) (x : ScreenId) :
    (g.without x).id = g.id := rfl

@[simp] theorem without_composition (g : ScreenGroup) (x : ScreenId) :
    (g.without x).composition = g.composition.remove x := rfl

end ScreenGroup

namespace Topology

/-! ## Writes -/

/-- Puts a group under its number. -/
def putGroup (t : Topology) (g : ScreenGroup) : Topology :=
  { t with nodes := t.nodes.insert g.id (.group g) }

/-- Drops a group; it is no longer the group that panels join. -/
def dropGroup (t : Topology) (id : ScreenId) : Topology :=
  { t with
    nodes := t.nodes.erase id
    defaultGroup := if t.defaultGroup = some id then none else t.defaultGroup }

/-- Chooses the group that panels join. -/
def setHome (t : Topology) (home : Option ScreenId) : Topology := { t with defaultGroup := home }

/-- A screen under a number just drawn, known to the render engine. -/
def enlist (t : Topology) (s : Screen) : Topology :=
  { t.drawScreenId.putScreen s with renderIndex := t.renderIndex.insert s.renderId s.id }

/-- A panel enlisted; the first one becomes the default screen. -/
def plugIn (t : Topology) (s : Screen) : Topology :=
  { t.enlist s with
    defaultScreen := if t.defaultScreen.isNone then some s.id else t.defaultScreen }

/-- A software screen enlisted under the next number of the render engine. -/
def addSoftware (t : Topology) (s : Screen) : Topology :=
  { t.enlist s with virtualRenderIds := t.virtualRenderIds.advance }

/-- Puts a screen and a group that changed together. -/
def link (t : Topology) (s : Screen) (g : ScreenGroup) : Topology := (t.putScreen s).putGroup g

/-- A screen unlinked from its group. -/
def unlink (t : Topology) (s : Screen) (g : ScreenGroup) : Topology :=
  t.link (s.within none) (g.without s.id)

/-- A screen linked to a group, at a start point. -/
def join (t : Topology) (s : Screen) (g : ScreenGroup) (start : Point) : Topology :=
  t.link (s.within (some g.id)) (g.placing s.id start)

/-- A group nobody has joined, under a number just drawn. -/
def openGroup (t : Topology) (combination : Combination) (main : Option ScreenId) : Topology :=
  t.drawScreenId.createGroup t.nextScreenId combination main

variable (t : Topology) (x : ScreenId)

/-! ## Nodes, screens and groups -/

theorem screen?_eq_some_iff {t : Topology} {x : ScreenId} {s : Screen} :
    t.screen? x = some s ↔ t.nodes.get? x = some (.leaf s) := by
  unfold screen?
  cases t.nodes.get? x with
  | none => simp
  | some n => cases n <;> simp [Node.leaf?]

theorem group?_eq_some_iff {t : Topology} {x : ScreenId} {g : ScreenGroup} :
    t.group? x = some g ↔ t.nodes.get? x = some (.group g) := by
  unfold group?
  cases t.nodes.get? x with
  | none => simp
  | some n => cases n <;> simp [Node.group?]

/-- A number names a screen or a group, not both. -/
theorem group?_eq_none_of_screen? {t : Topology} {x : ScreenId} {s : Screen}
    (h : t.screen? x = some s) : t.group? x = none := by
  simp [group?, screen?_eq_some_iff.mp h, Node.group?]

theorem screen?_eq_none_of_group? {t : Topology} {x : ScreenId} {g : ScreenGroup}
    (h : t.group? x = some g) : t.screen? x = none := by
  simp [screen?, group?_eq_some_iff.mp h, Node.leaf?]

/-- A number is free when it names neither a screen nor a group. -/
theorem get?_eq_none_iff {t : Topology} {x : ScreenId} :
    t.nodes.get? x = none ↔ t.screen? x = none ∧ t.group? x = none := by
  unfold screen? group?
  cases t.nodes.get? x with
  | none => simp
  | some n => cases n <;> simp [Node.leaf?, Node.group?]

theorem report?_of_screen? {t : Topology} {x : ScreenId} {s : Screen} (h : t.screen? x = some s) :
    t.report? x = some s.report := by
  simp [report?, screen?_eq_some_iff.mp h, Node.report]

theorem membership?_of_group? {t : Topology} {x : ScreenId} {g : ScreenGroup}
    (h : t.group? x = some g) : t.membership? x = some g.membership := by
  simp [membership?, h]

theorem parent?_of_screen? {t : Topology} {x : ScreenId} {s : Screen} (h : t.screen? x = some s) :
    t.parent? x = s.parent := by
  simp [parent?, h]

theorem parent?_eq_some_iff {t : Topology} {x g : ScreenId} :
    t.parent? x = some g ↔ ∃ s, t.screen? x = some s ∧ s.parent = some g := by
  simp [parent?, Option.bind_eq_some_iff]

/-! ## Look-ups after a write -/

@[simp] theorem screen?_putScreen (s : Screen) :
    (t.putScreen s).screen? x = if x = s.id then some s else t.screen? x := by
  simp only [putScreen, screen?, Table.get?_insert_ite]
  split <;> rfl

@[simp] theorem group?_putScreen (s : Screen) :
    (t.putScreen s).group? x = if x = s.id then none else t.group? x := by
  simp only [putScreen, group?, Table.get?_insert_ite]
  split <;> rfl

@[simp] theorem screen?_putGroup (g : ScreenGroup) :
    (t.putGroup g).screen? x = if x = g.id then none else t.screen? x := by
  simp only [putGroup, screen?, Table.get?_insert_ite]
  split <;> rfl

@[simp] theorem group?_putGroup (g : ScreenGroup) :
    (t.putGroup g).group? x = if x = g.id then some g else t.group? x := by
  simp only [putGroup, group?, Table.get?_insert_ite]
  split <;> rfl

@[simp] theorem screen?_dropGroup (g : ScreenId) :
    (t.dropGroup g).screen? x = if x = g then none else t.screen? x := by
  simp only [dropGroup, screen?, Table.get?_erase_ite]
  split <;> rfl

@[simp] theorem group?_dropGroup (g : ScreenId) :
    (t.dropGroup g).group? x = if x = g then none else t.group? x := by
  simp only [dropGroup, group?, Table.get?_erase_ite]
  split <;> rfl

@[simp] theorem screen?_setHome (home : Option ScreenId) :
    (t.setHome home).screen? x = t.screen? x := rfl

@[simp] theorem group?_setHome (home : Option ScreenId) :
    (t.setHome home).group? x = t.group? x := rfl

@[simp] theorem screen?_enlist (s : Screen) :
    (t.enlist s).screen? x = if x = s.id then some s else t.screen? x :=
  screen?_putScreen t x s

@[simp] theorem group?_enlist (s : Screen) :
    (t.enlist s).group? x = if x = s.id then none else t.group? x :=
  group?_putScreen t x s

@[simp] theorem screen?_plugIn (s : Screen) :
    (t.plugIn s).screen? x = if x = s.id then some s else t.screen? x :=
  screen?_putScreen t x s

@[simp] theorem screen?_addSoftware (s : Screen) :
    (t.addSoftware s).screen? x = if x = s.id then some s else t.screen? x :=
  screen?_putScreen t x s

/-- Where the group's number names no screen, only the screen's own look-up changes. -/
theorem screen?_link {t : Topology} {s : Screen} {g : ScreenGroup} (hg : t.screen? g.id = none)
    (hne : s.id ≠ g.id) (x : ScreenId) :
    (t.link s g).screen? x = if x = s.id then some s else t.screen? x := by
  simp only [link, screen?_putGroup, screen?_putScreen]
  by_cases hx : x = g.id
  · rw [if_pos hx, if_neg fun hs => hne (hs.symm.trans hx), hx, hg]
  · rw [if_neg hx]

/-- Where the screen's number names no group, only the group's own look-up changes. -/
theorem group?_link {t : Topology} {s : Screen} {g : ScreenGroup} (hs : t.group? s.id = none)
    (x : ScreenId) : (t.link s g).group? x = if x = g.id then some g else t.group? x := by
  simp only [link, group?_putGroup, group?_putScreen]
  by_cases hx : x = g.id
  · rw [if_pos hx, if_pos hx]
  · rw [if_neg hx, if_neg hx]
    by_cases hxs : x = s.id
    · rw [if_pos hxs, hxs, hs]
    · rw [if_neg hxs]

/-- A screen and a group never stand under one number. -/
theorem screen_ne_group {t : Topology} {x y : ScreenId} {s : Screen} (hs : t.screen? x = some s)
    (hfree : t.screen? y = none) : x ≠ y := by
  intro he
  rw [he, hfree] at hs
  cases hs

section Linking

variable {t : Topology} {s : Screen} {g : ScreenGroup} (hs : t.screen? s.id = some s)

include hs

theorem screen?_unlink (hg : t.group? g.id = some g) (x : ScreenId) :
    (t.unlink s g).screen? x = if x = s.id then some (s.within none) else t.screen? x :=
  have hfree := screen?_eq_none_of_group? hg
  screen?_link (s := s.within none) (g := g.without s.id) hfree (screen_ne_group hs hfree) x

theorem group?_unlink (x : ScreenId) :
    (t.unlink s g).group? x = if x = g.id then some (g.without s.id) else t.group? x :=
  group?_link (s := s.within none) (group?_eq_none_of_screen? hs) x

theorem screen?_join (hfree : t.screen? g.id = none) (start : Point) (x : ScreenId) :
    (t.join s g start).screen? x =
      if x = s.id then some (s.within (some g.id)) else t.screen? x :=
  screen?_link (s := s.within (some g.id)) (g := g.placing s.id start) hfree
    (screen_ne_group hs hfree) x

theorem group?_join (start : Point) (x : ScreenId) :
    (t.join s g start).group? x = if x = g.id then some (g.placing s.id start) else t.group? x :=
  group?_link (s := s.within (some g.id)) (group?_eq_none_of_screen? hs) x

end Linking

@[simp] theorem screen?_openGroup (combination : Combination) (main : Option ScreenId) :
    (t.openGroup combination main).screen? x =
      if x = t.nextScreenId then none else t.screen? x :=
  screen?_putGroup t x ⟨t.nextScreenId, .fresh combination main⟩

@[simp] theorem group?_openGroup (combination : Combination) (main : Option ScreenId) :
    (t.openGroup combination main).group? x =
      if x = t.nextScreenId then some ⟨t.nextScreenId, .fresh combination main⟩
      else t.group? x :=
  group?_putGroup t x ⟨t.nextScreenId, .fresh combination main⟩

@[simp] theorem screen?_forget (id : ScreenId) :
    (Draft.forget t id).screen? x = if x = id then none else t.screen? x := by
  simp only [Draft.forget, screen?, Table.get?_erase_ite]
  split <;> rfl

@[simp] theorem group?_forget (id : ScreenId) :
    (Draft.forget t id).group? x = if x = id then none else t.group? x := by
  simp only [Draft.forget, group?, Table.get?_erase_ite]
  split <;> rfl

/-! ## Edits as writes -/

/-- Updating a screen that keeps its number is putting it. -/
theorem modifyScreen_eq {t : Topology} {x : ScreenId} {s : Screen} {f : Screen → Screen}
    (h : t.screen? x = some s) (hid : (f s).id = x) : t.modifyScreen x f = t.putScreen (f s) := by
  simp [modifyScreen, putScreen, h, hid]

theorem modifyScreen_of_none {t : Topology} {x : ScreenId} {f : Screen → Screen}
    (h : t.screen? x = none) : t.modifyScreen x f = t := by
  simp [modifyScreen, h]

theorem modifyGroup_eq {t : Topology} {x : ScreenId} {g : ScreenGroup}
    {f : Composition → Composition} (h : t.group? x = some g) (hid : g.id = x) :
    t.modifyGroup x f = t.putGroup { g with composition := f g.composition } := by
  simp [modifyGroup, putGroup, h, hid]

/-- Two topologies with the same entries differ at most in what is kept beside them. -/
theorem screen?_congr {t u : Topology} (h : t.nodes = u.nodes) (x : ScreenId) :
    t.screen? x = u.screen? x := by
  simp [screen?, h]

theorem group?_congr {t u : Topology} (h : t.nodes = u.nodes) (x : ScreenId) :
    t.group? x = u.group? x := by
  simp [group?, h]

end Topology

end DisplayServer
