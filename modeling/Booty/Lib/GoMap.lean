import Mathlib

namespace Booty.Lib

open List

/-!
# Finite maps with an unspecified iteration order

A map is an association list without repeated keys; everything a program can observe of it goes
through `get`, `set`, `delete` and a loop over its keys.  The order of such a loop is not the
map's to decide: a `Visit` says in which order the keys come.

* `get_set`, `get_delete`, `get_empty` — what a lookup finds after an update.
* `get_group` — the lists that a loop collects per key with `append`.
* `Visit.mem_keys` — a loop visits exactly the keys that have a value, `Visit.nodup_keys` each
  of them once.
-/

/-- A finite map from `κ` to `β`. -/
abbrev GoMap (κ β : Type) := AList (fun _ : κ => β)

namespace GoMap

variable {κ β : Type} [DecidableEq κ]
variable (m : GoMap κ β) (k : κ)

/-- The value of a key, if it has one. -/
def get : Option β := AList.lookup k m

/-- The map with the value of `k` replaced or added. -/
def set (v : β) : GoMap κ β := AList.insert k v m

/-- The map without the key `k`. -/
def delete : GoMap κ β := AList.erase k m

@[simp, grind =] theorem get_empty : get (∅ : GoMap κ β) k = none := AList.lookup_empty k

/-- A lookup after `set`. -/
@[grind =] theorem get_set (k k' : κ) (v : β) :
    (m.set k v).get k' = if k' = k then some v else m.get k' := by
  split
  next h => rw [h]; exact AList.lookup_insert m
  next h => exact AList.lookup_insert_ne h

/-- A lookup after `delete`. -/
@[grind =] theorem get_delete (k k' : κ) :
    (m.delete k).get k' = if k' = k then none else m.get k' := by
  split
  next h => rw [h]; exact AList.lookup_erase k m
  next h => exact AList.lookup_erase_ne h

@[simp] theorem get_set_self (v : β) : (m.set k v).get k = some v := by
  rw [get_set, if_pos rfl]

@[simp] theorem get_delete_self : (m.delete k).get k = none := by
  rw [get_delete, if_pos rfl]

variable {m : GoMap κ β} {k : κ} {v : β}

theorem get_set_of_ne {k' : κ} (h : k' ≠ k) : (m.set k v).get k' = m.get k' := by
  rw [get_set, if_neg h]

theorem get_delete_of_ne {k' : κ} (h : k' ≠ k) : (m.delete k).get k' = m.get k' := by
  rw [get_delete, if_neg h]

theorem get_set_eq_some {k' : κ} {w : β} : (m.set k v).get k' = some w ↔
    k' = k ∧ v = w ∨ k' ≠ k ∧ m.get k' = some w := by
  rw [get_set]
  split <;> simp [*]

theorem get_delete_eq_some {k' : κ} :
    (m.delete k).get k' = some v ↔ k' ≠ k ∧ m.get k' = some v := by
  rw [get_delete]
  split <;> simp [*]

/-- A key that is added and deleted again leaves no trace. -/
theorem delete_set_self (h : m.get k = none) : (m.set k v).delete k = m := by
  have hk : k ∉ m.entries.keys := fun hk => by
    have hsome : (AList.lookup k m).isSome := AList.lookup_isSome.mpr hk
    rw [show AList.lookup k m = none from h] at hsome
    exact Bool.false_ne_true hsome
  apply AList.ext
  show (AList.insert k v m).entries.kerase k = m.entries
  rw [AList.entries_insert_of_notMem hk]
  exact kerase_cons_eq rfl

/-- The keys are those with a value. -/
theorem mem_keys_iff : k ∈ m.keys ↔ ∃ v, m.get k = some v := by
  rw [← AList.mem_keys, ← AList.lookup_isSome, Option.isSome_iff_exists]
  rfl

/-- The values of a map, in the order in which they are stored. -/
def values (m : GoMap κ β) : List β := m.keys.filterMap m.get

/-- The values are those of a key. -/
theorem mem_values : v ∈ m.values ↔ ∃ k, m.get k = some v := by
  unfold values
  rw [mem_filterMap]
  constructor
  · rintro ⟨k, -, hk⟩
    exact ⟨k, hk⟩
  · rintro ⟨k, hk⟩
    exact ⟨k, mem_keys_iff.mpr ⟨v, hk⟩, hk⟩

/-! ### Lists of values -/

/-- `m[k] = append(m[k], v)`. -/
def append (m : GoMap κ (List β)) (k : κ) (v : β) : GoMap κ (List β) :=
  m.set k ((m.get k).getD [] ++ [v])

/-- The values collected per key. -/
def group (l : List (κ × β)) : GoMap κ (List β) := l.foldl (fun m e => m.append e.1 e.2) ∅

/-- The values that a list has for a key. -/
def valuesFor (l : List (κ × β)) (k : κ) : List β := (l.filter (fun e => e.1 = k)).map Prod.snd

theorem mem_valuesFor {l : List (κ × β)} : v ∈ valuesFor l k ↔ (k, v) ∈ l := by
  unfold valuesFor
  simp only [mem_map, mem_filter, decide_eq_true_eq]
  constructor
  · rintro ⟨⟨k', v'⟩, ⟨hmem, rfl⟩, rfl⟩
    exact hmem
  · intro hmem
    exact ⟨(k, v), ⟨hmem, rfl⟩, rfl⟩

variable (l : List (κ × β))

/-- What a loop appends to the slices of a map. -/
theorem get_foldl_append (m : GoMap κ (List β)) (k : κ) :
    (l.foldl (fun m e => m.append e.1 e.2) m).get k =
      if valuesFor l k = [] then m.get k else some ((m.get k).getD [] ++ valuesFor l k) := by
  induction l generalizing m with
  | nil => rfl
  | cons e l ih =>
    rw [foldl_cons, ih, append, get_set]
    by_cases hk : e.1 = k
    · have hcons : valuesFor (e :: l) k = e.2 :: valuesFor l k := by simp [valuesFor, hk]
      rw [if_pos hk.symm, hcons, if_neg (cons_ne_nil _ _), hk]
      split
      next hnil => rw [hnil]
      · simp
    · have hskip : valuesFor (e :: l) k = valuesFor l k := by simp [valuesFor, hk]
      rw [if_neg (Ne.symm hk), hskip]

/-- **What is collected for a key.** -/
theorem get_group (k : κ) :
    (group l).get k = if valuesFor l k = [] then none else some (valuesFor l k) := by
  rw [group, get_foldl_append]
  rfl

/-- The group of a key has its values. -/
theorem getD_group (k : κ) : ((group l).get k).getD [] = valuesFor l k := by
  grind [get_group]

theorem mem_keys_group {l : List (κ × β)} : k ∈ (group l).keys ↔ ∃ v, (k, v) ∈ l := by
  rw [mem_keys_iff]
  constructor
  · rintro ⟨vs, hvs⟩
    rw [get_group] at hvs
    split at hvs
    · cases hvs
    next hne =>
      obtain ⟨v, hv⟩ := exists_mem_of_ne_nil _ hne
      exact ⟨v, mem_valuesFor.mp hv⟩
  · rintro ⟨v, hv⟩
    refine ⟨valuesFor l k, ?_⟩
    rw [get_group, if_neg (ne_nil_of_mem (mem_valuesFor.mpr hv))]

end GoMap

/-- The order in which a loop over a map visits its keys, as the place each key takes among those
    after it. -/
structure Visit where
  place : Nat → Nat

namespace Visit

variable {κ β : Type}

/-- A list in the order of the visit. -/
def order (v : Visit) : List κ → List κ
  | [] => []
  | k :: ks =>
    let i := v.place ks.length % (ks.length + 1)
    (v.order ks).take i ++ k :: (v.order ks).drop i

/-- The order in which the keys are stored. -/
def stored : Visit := ⟨fun _ => 0⟩

/-- The keys of a map in the order of a loop over it. -/
def keys (v : Visit) (m : GoMap κ β) : List κ := v.order (AList.keys m)

/-- The loop visits every key once. -/
theorem perm (v : Visit) (l : List κ) : (v.order l).Perm l := by
  induction l with
  | nil => exact .refl _
  | cons k ks ih =>
    refine perm_middle.trans (Perm.cons k ?_)
    rw [take_append_drop]
    exact ih

/-- **A loop visits exactly the keys of the map.** -/
theorem mem_keys [DecidableEq κ] {v : Visit} {m : GoMap κ β} {k : κ} :
    k ∈ v.keys m ↔ ∃ b, m.get k = some b := by
  rw [keys, (v.perm _).mem_iff]
  exact GoMap.mem_keys_iff

/-- **A loop visits no key twice.** -/
theorem nodup_keys (v : Visit) (m : GoMap κ β) : (v.keys m).Nodup :=
  (v.perm _).nodup_iff.mpr (AList.keys_nodup m)

end Visit

end Booty.Lib
