/-! # Records in which every field may be unset

The fields are named by a type `K`, and each has values of its own type. Setting a field changes
that field only, and two records are equal when all their fields are.
-/

namespace ReadoutCard

/-- A record with fields named by `K`, each set or not. -/
@[ext]
structure Sparse {K : Type} (V : K → Type) where
  get? : (k : K) → Option (V k)

namespace Sparse

variable {K : Type} {V : K → Type}

/-- The record with no field set. -/
def empty : Sparse V := ⟨fun _ => none⟩

/-- The record with field `k` set to `v`. -/
def set [DecidableEq K] (r : Sparse V) (k : K) (v : V k) : Sparse V :=
  ⟨fun k' => if h : k = k' then some (h ▸ v) else r.get? k'⟩

@[simp]
theorem get?_empty (k : K) : (empty : Sparse V).get? k = none := rfl

@[simp]
theorem get?_set_self [DecidableEq K] (r : Sparse V) (k : K) (v : V k) :
    (r.set k v).get? k = some v := by
  simp [set]

theorem get?_set_of_ne [DecidableEq K] (r : Sparse V) {k k' : K} (v : V k) (h : k ≠ k') :
    (r.set k v).get? k' = r.get? k' := by
  simp [set, h]

/-- Setting a field twice leaves the second value. -/
theorem set_set [DecidableEq K] (r : Sparse V) (k : K) (v w : V k) :
    (r.set k v).set k w = r.set k w := by
  ext k' : 2
  by_cases h : k = k'
  · subst h; simp
  · simp [get?_set_of_ne _ _ h]

/-- Settings of different fields can be exchanged. -/
theorem set_comm [DecidableEq K] (r : Sparse V) {k l : K} (v : V k) (w : V l) (h : k ≠ l) :
    (r.set k v).set l w = (r.set l w).set k v := by
  ext m : 2
  by_cases hl : l = m
  · subst hl; simp [get?_set_of_ne _ _ h]
  · by_cases hk : k = m
    · subst hk; simp [get?_set_of_ne _ _ hl]
    · simp [get?_set_of_ne _ _ hl, get?_set_of_ne _ _ hk]

end Sparse

end ReadoutCard
