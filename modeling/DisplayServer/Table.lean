/-!
# Tables keyed by identifiers

Screens, displays and sessions are kept by identifier, and every listing of them is in
ascending order of identifier. A `Table` is that listing: its entries in strictly ascending
order of key, so each key occurs at most once. The order is part of the type, and two tables
that answer every look-up alike are equal (`Table.ext_get?`).
-/

namespace DisplayServer

/-- A kind of key that is told apart, and put in order, by a number. -/
class Ranked (κ : Type) where
  rank : κ → Int
  rank_inj : ∀ {a b : κ}, rank a = rank b → a = b

instance : Ranked Nat where
  rank n := n
  rank_inj h := Int.ofNat_inj.mp h

instance : Ranked Int where
  rank n := n
  rank_inj h := h

/-- A finite map whose entries stand in strictly ascending order of key. -/
structure Table (κ α : Type) [Ranked κ] where
  entries : List (κ × α)
  ascending : entries.Pairwise fun a b => Ranked.rank a.1 < Ranked.rank b.1

namespace Table

open Ranked

variable {κ α β : Type} [Ranked κ]

/-! ## Entry lists -/

/-- The value listed under `k`. -/
def find (k : κ) : List (κ × α) → Option α
  | [] => none
  | e :: es => if rank e.1 = rank k then some e.2 else find k es

/-- Puts `k` in its place, over the value it had. -/
def put (k : κ) (v : α) : List (κ × α) → List (κ × α)
  | [] => [(k, v)]
  | e :: es =>
    if rank k < rank e.1 then (k, v) :: e :: es
    else if rank k = rank e.1 then (k, v) :: es
    else e :: put k v es

/-- Takes `k` out. -/
def drop (k : κ) (es : List (κ × α)) : List (κ × α) :=
  es.filter fun e => rank e.1 ≠ rank k

theorem mem_put {k : κ} {v : α} {es : List (κ × α)} {e : κ × α} (h : e ∈ put k v es) :
    e = (k, v) ∨ e ∈ es := by
  induction es with
  | nil => simpa [put] using h
  | cons x xs ih =>
    unfold put at h
    split at h
    · simpa using h
    · split at h
      · rcases List.mem_cons.mp h with h | h
        · exact .inl h
        · exact .inr (List.mem_cons_of_mem _ h)
      · rcases List.mem_cons.mp h with h | h
        · exact .inr (h ▸ List.mem_cons_self)
        · exact (ih h).imp_right (List.mem_cons_of_mem _)

theorem ascending_put {k : κ} {v : α} {es : List (κ × α)}
    (h : es.Pairwise fun a b => rank a.1 < rank b.1) :
    (put k v es).Pairwise fun a b => rank a.1 < rank b.1 := by
  induction es with
  | nil => simp [put]
  | cons x xs ih =>
    have hx := List.pairwise_cons.mp h
    unfold put
    split
    · rename_i hlt
      refine List.pairwise_cons.mpr ⟨fun e he => ?_, h⟩
      rcases List.mem_cons.mp he with rfl | he
      · exact hlt
      · exact Int.lt_trans hlt (hx.1 e he)
    · split
      · rename_i heq
        refine List.pairwise_cons.mpr ⟨fun e he => ?_, hx.2⟩
        show rank k < rank e.1
        rw [heq]
        exact hx.1 e he
      · rename_i hlt hne
        refine List.pairwise_cons.mpr ⟨fun e he => ?_, ih hx.2⟩
        rcases mem_put he with rfl | he
        · show rank x.1 < rank k
          omega
        · exact hx.1 e he

theorem find_put (k k' : κ) (v : α) (es : List (κ × α)) :
    find k' (put k v es) = if rank k = rank k' then some v else find k' es := by
  induction es with
  | nil => simp [put, find]
  | cons x xs ih =>
    unfold put
    split
    · simp [find]
    · split
      · rename_i heq
        simp only [find]
        split
        · rfl
        · rename_i hne
          rw [if_neg (by omega)]
      · rename_i hne
        simp only [find, ih]
        split
        · rename_i hx
          rw [if_neg (by omega)]
        · rfl

theorem find_drop (k k' : κ) (es : List (κ × α)) :
    find k' (drop k es) = if rank k = rank k' then none else find k' es := by
  induction es with
  | nil => simp [drop, find]
  | cons x xs ih =>
    simp only [drop] at ih ⊢
    rw [List.filter_cons]
    by_cases hx : rank x.1 = rank k
    · simp only [hx, ne_eq, not_true_eq_false, decide_false, Bool.false_eq_true, if_false, ih, find]
      split
      · rfl
      · rename_i h; simp
    · simp only [hx, ne_eq, not_false_eq_true, decide_true, if_true, find, ih]
      split
      · rename_i h
        rw [if_neg (by omega)]
      · rfl

/-- Updates the value under `k` and leaves the keys alone. -/
def change (k : κ) (f : α → α) (es : List (κ × α)) : List (κ × α) :=
  es.map fun e => (e.1, if rank e.1 = rank k then f e.2 else e.2)

theorem find_change (k k' : κ) (f : α → α) (es : List (κ × α)) :
    find k' (change k f es) = if rank k = rank k' then (find k' es).map f else find k' es := by
  induction es with
  | nil => simp [change, find]
  | cons x xs ih =>
    simp only [change] at ih ⊢
    simp only [List.map_cons, find, ih]
    by_cases hx : rank x.1 = rank k'
    · by_cases hk : rank k = rank k' <;> simp [hx, hk, eq_comm]
    · simp only [hx, if_false]

theorem find_eq_none_of_lt {k : κ} {es : List (κ × α)} (h : ∀ e ∈ es, rank k < rank e.1) :
    find k es = none := by
  induction es with
  | nil => rfl
  | cons x xs ih =>
    have hx := h x List.mem_cons_self
    simp only [find]
    rw [if_neg (by omega)]
    exact ih fun e he => h e (List.mem_cons_of_mem _ he)

theorem find_eq_some_of_mem {e : κ × α} {es : List (κ × α)}
    (hs : es.Pairwise fun a b => rank a.1 < rank b.1) (h : e ∈ es) : find e.1 es = some e.2 := by
  induction es with
  | nil => cases h
  | cons x xs ih =>
    have hx := List.pairwise_cons.mp hs
    rcases List.mem_cons.mp h with rfl | h
    · simp [find]
    · have := hx.1 e h
      simp only [find]
      rw [if_neg (by omega)]
      exact ih hx.2 h

theorem mem_of_find {k : κ} {v : α} {es : List (κ × α)} (h : find k es = some v) :
    (k, v) ∈ es := by
  induction es with
  | nil => cases h
  | cons x xs ih =>
    simp only [find] at h
    split at h
    · rename_i hk
      obtain rfl := Option.some.inj h
      rw [← rank_inj hk]
      exact List.mem_cons_self
    · exact List.mem_cons_of_mem _ (ih h)

theorem entries_ext {es fs : List (κ × α)} (he : es.Pairwise fun a b => rank a.1 < rank b.1)
    (hf : fs.Pairwise fun a b => rank a.1 < rank b.1) (h : ∀ k, find k es = find k fs) :
    es = fs := by
  induction es generalizing fs with
  | nil =>
    cases fs with
    | nil => rfl
    | cons y ys => simpa [find] using h y.1
  | cons x xs ih =>
    cases fs with
    | nil => simpa [find] using h x.1
    | cons y ys =>
      have hx := List.pairwise_cons.mp he
      have hy := List.pairwise_cons.mp hf
      have hxy : rank x.1 = rank y.1 := by
        rcases Int.lt_trichotomy (rank x.1) (rank y.1) with hlt | heq | hgt
        · have hnone : find x.1 (y :: ys) = none := find_eq_none_of_lt fun e hm => by
            rcases List.mem_cons.mp hm with rfl | hm
            · exact hlt
            · exact Int.lt_trans hlt (hy.1 e hm)
          have := h x.1
          rw [hnone] at this
          simp [find] at this
        · exact heq
        · have hnone : find y.1 (x :: xs) = none := find_eq_none_of_lt fun e hm => by
            rcases List.mem_cons.mp hm with rfl | hm
            · exact hgt
            · exact Int.lt_trans hgt (hx.1 e hm)
          have := h y.1
          rw [hnone] at this
          simp [find] at this
      have hval : x.2 = y.2 := by
        have := h x.1
        simpa [find, hxy] using this
      have hhead : x = y := Prod.ext (rank_inj hxy) hval
      subst hhead
      refine congrArg _ (ih hx.2 hy.2 fun k => ?_)
      by_cases hk : rank x.1 = rank k
      · have hk' : x.1 = k := rank_inj hk
        subst hk'
        rw [find_eq_none_of_lt hx.1, find_eq_none_of_lt hy.1]
      · have := h k
        simpa [find, hk] using this

/-! ## Tables -/

def empty : Table κ α := ⟨[], List.Pairwise.nil⟩

instance : EmptyCollection (Table κ α) := ⟨empty⟩

instance : Inhabited (Table κ α) := ⟨empty⟩

instance [DecidableEq κ] [DecidableEq α] : DecidableEq (Table κ α) := fun a b =>
  match decEq a.entries b.entries with
  | isTrue h => isTrue (by cases a; cases b; cases h; rfl)
  | isFalse h => isFalse fun hab => h (hab ▸ rfl)

def get? (t : Table κ α) (k : κ) : Option α := find k t.entries

def contains (t : Table κ α) (k : κ) : Bool := (t.get? k).isSome

/-- Puts `v` under `k`, over the value it had. -/
def insert (t : Table κ α) (k : κ) (v : α) : Table κ α :=
  ⟨put k v t.entries, ascending_put t.ascending⟩

def erase (t : Table κ α) (k : κ) : Table κ α :=
  ⟨drop k t.entries, t.ascending.filter _⟩

def map (t : Table κ α) (f : α → β) : Table κ β :=
  ⟨t.entries.map fun e => (e.1, f e.2), List.pairwise_map.mpr t.ascending⟩

/-- Updates the value under `k`, where there is one. -/
def modify (t : Table κ α) (k : κ) (f : α → α) : Table κ α :=
  ⟨change k f t.entries, List.pairwise_map.mpr t.ascending⟩

/-- The keys, ascending. -/
def keys (t : Table κ α) : List κ := t.entries.map Prod.fst

def values (t : Table κ α) : List α := t.entries.map Prod.snd

def size (t : Table κ α) : Nat := t.entries.length

@[simp] theorem get?_empty (k : κ) : (empty : Table κ α).get? k = none := rfl

theorem get?_insert (t : Table κ α) (k k' : κ) (v : α) :
    (t.insert k v).get? k' = if rank k = rank k' then some v else t.get? k' :=
  find_put k k' v t.entries

@[simp] theorem get?_insert_self (t : Table κ α) (k : κ) (v : α) :
    (t.insert k v).get? k = some v := by
  rw [get?_insert, if_pos rfl]

theorem get?_insert_of_ne (t : Table κ α) {k k' : κ} (v : α) (h : k ≠ k') :
    (t.insert k v).get? k' = t.get? k' := by
  rw [get?_insert, if_neg fun hr => h (rank_inj hr)]

theorem get?_erase (t : Table κ α) (k k' : κ) :
    (t.erase k).get? k' = if rank k = rank k' then none else t.get? k' :=
  find_drop k k' t.entries

@[simp] theorem get?_erase_self (t : Table κ α) (k : κ) : (t.erase k).get? k = none := by
  rw [get?_erase, if_pos rfl]

theorem get?_erase_of_ne (t : Table κ α) {k k' : κ} (h : k ≠ k') :
    (t.erase k).get? k' = t.get? k' := by
  rw [get?_erase, if_neg fun hr => h (rank_inj hr)]

theorem get?_modify (t : Table κ α) (k k' : κ) (f : α → α) :
    (t.modify k f).get? k' = if rank k = rank k' then (t.get? k').map f else t.get? k' :=
  find_change k k' f t.entries

@[simp] theorem get?_modify_self (t : Table κ α) (k : κ) (f : α → α) :
    (t.modify k f).get? k = (t.get? k).map f := by
  rw [get?_modify, if_pos rfl]

theorem get?_modify_of_ne (t : Table κ α) {k k' : κ} (f : α → α) (h : k ≠ k') :
    (t.modify k f).get? k' = t.get? k' := by
  rw [get?_modify, if_neg fun hr => h (rank_inj hr)]

theorem find_map (f : α → β) (k : κ) (es : List (κ × α)) :
    find k (es.map fun e => (e.1, f e.2)) = (find k es).map f := by
  induction es with
  | nil => rfl
  | cons x xs ih =>
    simp only [List.map_cons, find, ih]
    split <;> rfl

@[simp] theorem get?_map (t : Table κ α) (f : α → β) (k : κ) :
    (t.map f).get? k = (t.get? k).map f :=
  find_map f k t.entries

/-- An entry of the listing is what the look-up of its key answers. -/
theorem mem_entries_iff (t : Table κ α) (k : κ) (v : α) :
    (k, v) ∈ t.entries ↔ t.get? k = some v :=
  ⟨find_eq_some_of_mem t.ascending, mem_of_find⟩

theorem mem_values_iff (t : Table κ α) (v : α) : v ∈ t.values ↔ ∃ k, t.get? k = some v := by
  simp only [values, List.mem_map]
  constructor
  · rintro ⟨e, he, rfl⟩
    exact ⟨e.1, (t.mem_entries_iff e.1 e.2).mp he⟩
  · rintro ⟨k, hk⟩
    exact ⟨(k, v), (t.mem_entries_iff k v).mpr hk, rfl⟩

/-- Two tables that answer every look-up alike are equal. -/
theorem ext_get? {t u : Table κ α} (h : ∀ k, t.get? k = u.get? k) : t = u := by
  cases t with
  | mk es he =>
    cases u with
    | mk fs hf =>
      have := entries_ext he hf h
      subst this
      rfl

end Table

end DisplayServer
