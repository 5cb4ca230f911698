import Mathlib.Data.List.Nodup

/-!
# Keyed stores

A store holds objects that each carry their own key, at most one object for
each key: the shape of one kind of resource on an API server. Objects are
read by key, listed in store order, replaced in place by a write to the same
key, appended by a create and removed by a delete. A create is refused
where the key is in use, so creates one after another append, of the
objects created, the first of each key that was free (`firstFree`,
`items_foldl_create`).

That keys are distinct is a field of the structure, so every store the
operations build has it. `get_eq_some_iff` is where it is used: a lookup
finds an object exactly when the object is stored.
-/

/-- Objects that carry their own key. -/
class HasKey (α : Type) (κ : outParam Type) where
  key : α → κ

export HasKey (key)

structure Store (α : Type) {κ : Type} [HasKey α κ] where
  items : List α
  nodup : (items.map key).Nodup

namespace Store

variable {α κ : Type} [HasKey α κ]

instance : EmptyCollection (Store α) := ⟨⟨[], List.nodup_nil⟩⟩

@[simp] theorem items_empty : (∅ : Store α).items = [] := rfl

theorem key_eq_of_mem {s : Store α} {x y : α} (hx : x ∈ s.items) (hy : y ∈ s.items)
    (hk : key x = key y) : x = y :=
  List.inj_on_of_nodup_map s.nodup hx hy hk

variable [DecidableEq κ]

def get (s : Store α) (k : κ) : Option α := s.items.find? (key · = k)

/-- Replace the object with the same key in place, or append a new one. -/
def put (s : Store α) (x : α) : Store α :=
  if h : s.items.any (key · = key x) then
    ⟨s.items.map (fun y => if key y = key x then x else y), by
      have hk : (s.items.map (fun y => if key y = key x then x else y)).map key =
          s.items.map key := by
        simp only [List.map_map]
        refine List.map_congr_left fun y _ => ?_
        by_cases hy : key y = key x <;> simp [hy]
      rw [hk]
      exact s.nodup⟩
  else
    ⟨s.items ++ [x], by
      rw [List.map_append, List.nodup_append]
      refine ⟨s.nodup, List.nodup_singleton _, ?_⟩
      simp only [List.any_eq_true, decide_eq_true_eq, not_exists, not_and] at h
      simp only [List.map_cons, List.map_nil, List.mem_singleton, List.mem_map]
      rintro _ ⟨y, hy, rfl⟩ _ rfl
      exact h y hy⟩

def erase (s : Store α) (k : κ) : Store α :=
  ⟨s.items.filter (key · ≠ k), (List.filter_sublist.map key).nodup s.nodup⟩

-- ---------------------------------------------------------------------------
-- Membership
-- ---------------------------------------------------------------------------

theorem mem_put {s : Store α} {x y : α} :
    y ∈ (s.put x).items ↔ y = x ∨ (y ∈ s.items ∧ key y ≠ key x) := by
  unfold put
  split
  · rename_i h
    obtain ⟨z, hz, hzk⟩ := List.any_eq_true.mp h
    simp only [decide_eq_true_eq] at hzk
    simp only [List.mem_map]
    constructor
    · rintro ⟨w, hw, rfl⟩
      by_cases hwk : key w = key x
      · simp [hwk]
      · simp [hwk, hw]
    · rintro (rfl | ⟨hy, hyk⟩)
      · exact ⟨z, hz, by simp [hzk]⟩
      · exact ⟨y, hy, by simp [hyk]⟩
  · rename_i h
    simp only [List.any_eq_true, decide_eq_true_eq, not_exists, not_and] at h
    simp only [List.mem_append, List.mem_singleton]
    constructor
    · rintro (hy | rfl)
      · exact .inr ⟨hy, h y hy⟩
      · exact .inl rfl
    · rintro (rfl | ⟨hy, -⟩)
      · exact .inr rfl
      · exact .inl hy

theorem mem_erase {s : Store α} {k : κ} {y : α} :
    y ∈ (s.erase k).items ↔ y ∈ s.items ∧ key y ≠ k := by
  simp [erase]

-- ---------------------------------------------------------------------------
-- Lookups
-- ---------------------------------------------------------------------------

theorem get_eq_some_iff {s : Store α} {k : κ} {x : α} :
    s.get k = some x ↔ x ∈ s.items ∧ key x = k := by
  constructor
  · intro h
    exact ⟨List.mem_of_find?_eq_some h, by simpa using List.find?_some h⟩
  · rintro ⟨hx, rfl⟩
    cases hg : s.get (key x) with
    | none =>
      simp only [get, List.find?_eq_none, decide_eq_true_eq] at hg
      exact absurd rfl (hg x hx)
    | some y =>
      have hy := List.mem_of_find?_eq_some hg
      have hk : key y = key x := by simpa using List.find?_some hg
      rw [key_eq_of_mem hy hx hk]

theorem get_eq_none_iff {s : Store α} {k : κ} : s.get k = none ↔ ∀ x ∈ s.items, key x ≠ k := by
  simp [get]

theorem get_of_mem {s : Store α} {x : α} (hx : x ∈ s.items) : s.get (key x) = some x :=
  get_eq_some_iff.mpr ⟨hx, rfl⟩

theorem key_of_get {s : Store α} {k : κ} {x : α} (h : s.get k = some x) : key x = k :=
  (get_eq_some_iff.mp h).2

theorem mem_of_get {s : Store α} {k : κ} {x : α} (h : s.get k = some x) : x ∈ s.items :=
  (get_eq_some_iff.mp h).1

@[simp] theorem get_empty (k : κ) : (∅ : Store α).get k = none := rfl

theorem get_put (s : Store α) (x : α) (k : κ) :
    (s.put x).get k = if k = key x then some x else s.get k := by
  split
  · rename_i hk
    exact get_eq_some_iff.mpr ⟨mem_put.mpr (.inl rfl), hk.symm⟩
  · rename_i hk
    apply Option.ext
    intro y
    simp only [get_eq_some_iff, mem_put]
    constructor
    · rintro ⟨rfl | ⟨hy, -⟩, rfl⟩
      · exact absurd rfl hk
      · exact ⟨hy, rfl⟩
    · rintro ⟨hy, rfl⟩
      exact ⟨.inr ⟨hy, hk⟩, rfl⟩

@[simp] theorem get_put_self (s : Store α) (x : α) : (s.put x).get (key x) = some x := by
  simp [get_put]

theorem get_put_ne (s : Store α) (x : α) {k : κ} (hk : k ≠ key x) :
    (s.put x).get k = s.get k := by
  simp [get_put, hk]

/-- An object found after a write is the one written, at its key, or was
there before. -/
theorem get_put_eq_some {s : Store α} {x y : α} {k : κ} (h : (s.put x).get k = some y) :
    (k = key x ∧ y = x) ∨ s.get k = some y := by
  rw [get_put] at h
  split at h
  · exact .inl ⟨‹_›, (Option.some.inj h).symm⟩
  · exact .inr h

/-- Where an object of the key of the stored `old` is found, `old` was. -/
theorem get_of_key_eq {s : Store α} {k' k : κ} {old x : α} (hold : s.get k' = some old)
    (hkey : key x = key old) (hk : k = key x) : s.get k = some old := by
  rw [hk, hkey, key_of_get hold]
  exact hold

theorem get_erase (s : Store α) (k' k : κ) :
    (s.erase k').get k = if k = k' then none else s.get k := by
  split
  · rename_i hk
    subst hk
    exact get_eq_none_iff.mpr fun x hx => (mem_erase.mp hx).2
  · rename_i hk
    apply Option.ext
    intro y
    simp only [get_eq_some_iff, mem_erase]
    constructor
    · rintro ⟨⟨hy, -⟩, rfl⟩
      exact ⟨hy, rfl⟩
    · rintro ⟨hy, rfl⟩
      exact ⟨⟨hy, hk⟩, rfl⟩

@[simp] theorem get_erase_self (s : Store α) (k : κ) : (s.erase k).get k = none := by
  simp [get_erase]

theorem get_erase_ne (s : Store α) {k' k : κ} (hk : k ≠ k') : (s.erase k').get k = s.get k := by
  simp [get_erase, hk]

-- ---------------------------------------------------------------------------
-- Sizes
-- ---------------------------------------------------------------------------

/-- The keys in use are the keys a lookup finds. -/
theorem mem_keys_iff {s : Store α} {k : κ} : k ∈ s.items.map key ↔ (s.get k).isSome := by
  rw [Option.isSome_iff_exists]
  simp only [List.mem_map, get_eq_some_iff]

/-- A write to a key in use keeps the size; one to a new key adds one. -/
theorem length_put (s : Store α) (x : α) :
    (s.put x).items.length = if (s.get (key x)).isSome then s.items.length else s.items.length + 1 := by
  unfold put
  have hany : s.items.any (key · = key x) = (s.get (key x)).isSome := by
    rw [Bool.eq_iff_iff, ← mem_keys_iff]
    simp
  split
  · rename_i h
    simp [← hany, h]
  · rename_i h
    simp [← hany, h]

theorem length_erase_le (s : Store α) (k : κ) : (s.erase k).items.length ≤ s.items.length :=
  List.length_filter_le _ _

/-- A write to a new key appends the object. -/
theorem put_items_of_get_none {s : Store α} {x : α} (h : s.get (key x) = none) :
    (s.put x).items = s.items ++ [x] := by
  have hany : ¬ s.items.any (key · = key x) = true := by
    rw [List.any_eq_true]
    rintro ⟨y, hy, hyk⟩
    exact get_eq_none_iff.mp h y hy (by simpa using hyk)
  simp [put, hany]

/-- The object stored at `k`, and the store without it, are the store. -/
theorem perm_erase [DecidableEq α] {s : Store α} {k : κ} {x : α} (h : s.get k = some x) :
    s.items.Perm (x :: (s.erase k).items) := by
  obtain ⟨hx, rfl⟩ := get_eq_some_iff.mp h
  have hnodup : s.items.Nodup := List.Nodup.of_map key s.nodup
  -- on a store, being another object is having another key
  have herase : s.items.erase x = (s.erase (key x)).items := by
    rw [hnodup.erase_eq_filter]
    refine List.filter_congr fun y hy => ?_
    by_cases hyx : y = x
    · simp [hyx]
    · have hk : key y ≠ key x := fun hk => hyx (key_eq_of_mem hy hx hk)
      simp [hyx, hk]
  rw [← herase]
  exact List.perm_cons_erase hx

/-- A list of the keys in use, after a write to a new key. -/
theorem perm_keys_put {s : Store α} {x : α} {l : List κ} (hnew : s.get (key x) = none)
    (h : l.Perm (s.items.map key)) : (key x :: l).Perm ((s.put x).items.map key) := by
  rw [put_items_of_get_none hnew, List.map_append, List.map_singleton]
  exact (h.cons (key x)).trans (List.perm_append_singleton _ _).symm

/-- A list of the keys in use, after the removal of one of them. -/
theorem perm_keys_erase [DecidableEq α] {s : Store α} {k : κ} {x : α} {l : List κ}
    (hx : s.get k = some x) (h : (k :: l).Perm (s.items.map key)) :
    l.Perm ((s.erase k).items.map key) := by
  have hperm := (perm_erase hx).map key
  rw [List.map_cons, key_of_get hx] at hperm
  exact (h.trans hperm).cons_inv

/-- A list of distinct keys that are exactly the keys in use is as long as
the store. -/
theorem length_eq_of_keys (s : Store α) {l : List κ} (hl : l.Nodup)
    (hkeys : ∀ k, k ∈ l ↔ (s.get k).isSome) : l.length = s.items.length := by
  have hperm : l.Perm (s.items.map key) :=
    (List.perm_ext_iff_of_nodup hl s.nodup).mpr fun k => (hkeys k).trans mem_keys_iff.symm
  simpa using hperm.length_eq

/-- Writing back what a lookup found changes nothing. -/
theorem put_of_get {s : Store α} {x : α} (h : s.get (key x) = some x) : s.put x = s := by
  have hx := mem_of_get h
  have hany : s.items.any (key · = key x) = true := List.any_eq_true.mpr ⟨x, hx, by simp⟩
  simp only [put, hany, ↓reduceDIte]
  congr 1
  conv => rhs; rw [← List.map_id s.items]
  refine List.map_congr_left fun y hy => ?_
  split
  · rename_i hk
    exact (key_eq_of_mem hy hx hk).symm
  · rfl

-- ---------------------------------------------------------------------------
-- Creates
-- ---------------------------------------------------------------------------

/-- A create, refused where the key is in use. -/
def create (s : Store α) (x : α) : Store α :=
  if (s.get (key x)).isSome then s else s.put x

theorem get_create_ne (s : Store α) (x : α) {k : κ} (hk : k ≠ key x) : (s.create x).get k = s.get k := by
  unfold create
  split
  · rfl
  · exact get_put_ne s x hk

theorem isSome_get_create (s : Store α) (x : α) : ((s.create x).get (key x)).isSome := by
  unfold create
  split
  · assumption
  · simp

end Store
