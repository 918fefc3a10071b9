import Mathlib.Data.List.Nodup

namespace Lemmy

structure Table {α κ : Type} (key : α → κ) where
  rows : List α
  nodup : (rows.map key).Nodup

namespace Table

variable {α κ : Type} {key : α → κ}

def empty : Table key := ⟨[], List.nodup_nil⟩

section Keys

variable [DecidableEq κ]

def Has (t : Table key) (k : κ) : Prop := k ∈ t.rows.map key

instance (t : Table key) (k : κ) : Decidable (t.Has k) :=
  inferInstanceAs (Decidable (k ∈ t.rows.map key))

def find? (t : Table key) (k : κ) : Option α := t.rows.find? (fun r => key r = k)

def insert (t : Table key) (r : α) : Option (Table key) :=
  if h : t.Has (key r) then none
  else some ⟨t.rows ++ [r], by
    rw [List.map_append, List.nodup_append]
    exact ⟨t.nodup, List.nodup_singleton _, List.disjoint_singleton.mpr h⟩⟩

end Keys

def deleteWhere (t : Table key) (p : α → Bool) : Table key :=
  ⟨t.rows.filter (fun r => !p r), t.nodup.sublist ((List.filter_sublist _).map key)⟩

def modify (t : Table key) (f : α → α) (hf : ∀ r, key (f r) = key r) : Table key :=
  ⟨t.rows.map f, by rw [List.map_map, show key ∘ f = key from funext hf]; exact t.nodup⟩

def updateKey [DecidableEq κ] (t : Table key) (k : κ) (f : α → α) (hf : ∀ r, key (f r) = key r) :
    Table key :=
  t.modify (fun r => if key r = k then f r else r) (fun r => by dsimp only; split <;> simp [hf])

theorem ext_rows {t u : Table key} (h : t.rows = u.rows) : t = u := by
  cases t; cases u; cases h; rfl

instance [DecidableEq α] : DecidableEq (Table key) := fun t u =>
  decidable_of_iff (t.rows = u.rows) ⟨ext_rows, fun h => h ▸ rfl⟩

@[simp] theorem has_iff [DecidableEq κ] (t : Table key) (k : κ) :
    t.Has k ↔ ∃ r ∈ t.rows, key r = k := by
  simp [Has]

@[simp] theorem empty_rows : (empty : Table key).rows = [] := rfl

@[simp] theorem deleteWhere_rows (t : Table key) (p : α → Bool) :
    (t.deleteWhere p).rows = t.rows.filter (fun r => !p r) := rfl

@[simp] theorem updateKey_rows [DecidableEq κ] (t : Table key) (k : κ) (f : α → α)
    (hf : ∀ r, key (f r) = key r) :
    (t.updateKey k f hf).rows = t.rows.map (fun r => if key r = k then f r else r) := rfl

@[simp] theorem modify_rows (t : Table key) (f : α → α) (hf : ∀ r, key (f r) = key r) :
    (t.modify f hf).rows = t.rows.map f := rfl

theorem eq_of_key_eq {t : Table key} {r r' : α} (hr : r ∈ t.rows) (hr' : r' ∈ t.rows)
    (h : key r = key r') : r = r' :=
  List.inj_on_of_nodup_map t.nodup hr hr' h

section Keys

variable [DecidableEq κ]

theorem insert_eq_none_iff {t : Table key} {r : α} : t.insert r = none ↔ t.Has (key r) := by
  unfold insert
  by_cases h : t.Has (key r)
  · rw [dif_pos h]; exact iff_of_true rfl h
  · rw [dif_neg h]; exact iff_of_false (Option.some_ne_none _) h

theorem insert_eq_some {t t' : Table key} {r : α} (h : t.insert r = some t') :
    ¬ t.Has (key r) ∧ t'.rows = t.rows ++ [r] := by
  unfold insert at h
  split at h
  · cases h
  · cases h; exact ⟨‹_›, rfl⟩

theorem find?_eq_none_iff {t : Table key} {k : κ} : t.find? k = none ↔ ¬ t.Has k := by
  simp [find?, Has]

theorem find?_eq_some {t : Table key} {k : κ} {r : α} (h : t.find? k = some r) :
    r ∈ t.rows ∧ key r = k := by
  unfold find? at h
  exact ⟨List.mem_of_find?_eq_some h, by simpa using List.find?_some h⟩

theorem find?_of_mem {t : Table key} {r : α} (hr : r ∈ t.rows) : t.find? (key r) = some r := by
  obtain ⟨x, hx⟩ := Option.isSome_iff_exists.1
    ((List.find?_isSome (p := fun x => decide (key x = key r))).2 ⟨r, hr, by simp⟩)
  obtain ⟨hxm, hxk⟩ := find?_eq_some hx
  rw [find?, hx, eq_of_key_eq hxm hr hxk]

theorem has_of_insert {t t' : Table key} {r : α} {k : κ} (h : t.insert r = some t')
    (hk : t.Has k) : t'.Has k := by
  simp only [has_iff, (insert_eq_some h).2, List.mem_append] at hk ⊢
  obtain ⟨x, hx, rfl⟩ := hk
  exact ⟨x, .inl hx, rfl⟩

theorem has_key_of_insert {t t' : Table key} {r : α} (h : t.insert r = some t') :
    t'.Has (key r) := by
  simpa [(insert_eq_some h).2] using ⟨r, .inr rfl, rfl⟩

theorem has_insert_getD (t : Table key) (r : α) : ((t.insert r).getD t).Has (key r) := by
  cases h : t.insert r with
  | none => exact insert_eq_none_iff.mp h
  | some t' => simpa [(insert_eq_some h).2] using ⟨r, .inr rfl, rfl⟩

theorem mem_of_mem_updateKey {t : Table key} {k : κ} {f : α → α} {hf : ∀ r, key (f r) = key r}
    {x : α} (hx : x ∈ (t.updateKey k f hf).rows) (hk : key x ≠ k) : x ∈ t.rows := by
  rw [updateKey_rows] at hx
  obtain ⟨r, hr, rfl⟩ := List.mem_map.1 hx
  by_cases h : key r = k
  · rw [if_pos h, hf] at hk; exact absurd h hk
  · rwa [if_neg h]

theorem map_updateKey {β : Type} {t : Table key} {k : κ} {f : α → α}
    {hf : ∀ r, key (f r) = key r} (g : α → β) (h : ∀ r ∈ t.rows, key r = k → g (f r) = g r) :
    (t.updateKey k f hf).rows.map g = t.rows.map g := by
  rw [updateKey_rows, List.map_map]
  refine List.map_congr_left fun r hr => ?_
  by_cases hk : key r = k
  · simp [hk, h r hr hk]
  · simp [hk]

theorem find?_updateKey (t : Table key) (k : κ) (f : α → α) (hf : ∀ r, key (f r) = key r) :
    (t.updateKey k f hf).find? k = (t.find? k).map f := by
  have hp : ((fun r => decide (key r = k)) ∘ fun r => if key r = k then f r else r) =
      fun r => decide (key r = k) := by
    funext r; by_cases h : key r = k <;> simp [h, hf]
  simp only [find?, updateKey_rows, List.find?_map, hp]
  cases h : t.rows.find? (fun r => decide (key r = k)) with
  | none => rfl
  | some r => simp [show key r = k by simpa using List.find?_some h]

theorem has_of_has_insert_getD {t : Table key} {r : α} {k : κ}
    (h : ((t.insert r).getD t).Has k) : t.Has k ∨ k = key r := by
  cases hi : t.insert r with
  | none => rw [hi] at h; exact .inl h
  | some t' =>
    rw [hi, Option.getD_some] at h
    simp only [Has, (insert_eq_some hi).2, List.map_append, List.mem_append, List.map_cons,
      List.map_nil, List.mem_singleton] at h
    exact h

theorem not_has_deleteWhere (t : Table key) (k : κ) :
    ¬ (t.deleteWhere (fun r => key r = k)).Has k := by
  simp

theorem count_key_le_one (t : Table key) (k : κ) : (t.rows.map key).count k ≤ 1 :=
  List.nodup_iff_count_le_one.mp t.nodup k

theorem length_filter_key_le_one (t : Table key) (k : κ) :
    (t.rows.filter (fun r => key r = k)).length ≤ 1 := by
  have h := t.count_key_le_one k
  rw [List.count, List.countP_map, List.countP_eq_length_filter] at h
  exact h

end Keys

theorem has_of_has_deleteWhere {t : Table key} {p : α → Bool} {k : κ}
    (h : (t.deleteWhere p).Has k) : t.Has k := by
  obtain ⟨r, hr, rfl⟩ := List.mem_map.1 h
  exact List.mem_map_of_mem key (List.mem_filter.1 hr).1

end Table

end Lemmy
