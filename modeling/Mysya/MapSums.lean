import Std.Data.ExtTreeMap
import Mathlib.Algebra.BigOperators.Group.List.Basic
import Mathlib.Algebra.Ring.Int.Defs
import Mathlib.Data.List.Nodup

/-!
# Sums over a map

`total f m` adds up what `f` makes of the values of an ordered map. Taking one key
out splits it, so an update at one key changes the total by what changes there.
-/

open Std

namespace MapSums

variable {α β : Type} {cmp : α → α → Ordering} [TransCmp cmp] [LawfulEqCmp cmp]

def total (f : β → Int) (m : ExtTreeMap α β cmp) : Int := (m.toList.map fun entry => f entry.2).sum

variable {f : β → Int} {m : ExtTreeMap α β cmp} {k : α} {v : β}

theorem toList_nodup (m : ExtTreeMap α β cmp) : m.toList.Nodup := by
  refine List.Pairwise.imp ?_ m.distinct_keys_toList
  rintro entry _ hne rfl
  exact hne ReflCmp.compare_self

/-- Taking one key out. -/
theorem toList_erase_perm (h : m[k]? = some v) :
    m.toList.Perm ((k, v) :: (m.erase k).toList) := by
  refine (List.perm_ext_iff_of_nodup (toList_nodup m) ?_).mpr ?_
  · refine List.nodup_cons.mpr ⟨?_, toList_nodup _⟩
    rw [ExtTreeMap.mem_toList_iff_getElem?_eq_some]
    simp
  · rintro ⟨k', v'⟩
    rw [List.mem_cons, ExtTreeMap.mem_toList_iff_getElem?_eq_some,
      ExtTreeMap.mem_toList_iff_getElem?_eq_some, ExtTreeMap.getElem?_erase]
    by_cases hk : cmp k k' = .eq
    · obtain rfl := LawfulEqCmp.eq_of_compare hk
      simp [h, eq_comm]
    · have hne : k' ≠ k := by
        rintro rfl
        exact hk ReflCmp.compare_self
      simp [hk, hne]

@[simp] theorem total_empty (f : β → Int) : total f (∅ : ExtTreeMap α β cmp) = 0 := by
  have hnil : (∅ : ExtTreeMap α β cmp).toList = [] := by
    refine List.eq_nil_iff_forall_not_mem.mpr ?_
    rintro ⟨k, v⟩ hin
    simp [ExtTreeMap.mem_toList_iff_getElem?_eq_some] at hin
  simp [total, hnil]

theorem total_erase (h : m[k]? = some v) : total f m = f v + total f (m.erase k) := by
  simp only [total]
  rw [((toList_erase_perm h).map _).sum_eq]
  simp

theorem total_insert (f : β → Int) (m : ExtTreeMap α β cmp) (k : α) (v : β) :
    total f (m.insert k v) = f v + total f (m.erase k) := by
  have herase : (m.insert k v).erase k = m.erase k := by
    ext1 k'
    by_cases hk : cmp k k' = .eq
    · simp [hk]
    · simp [ExtTreeMap.getElem?_erase, ExtTreeMap.getElem?_insert, hk]
  rw [total_erase (ExtTreeMap.getElem?_insert_self), herase]

/-- Changing the value of a key changes the total by the difference. -/
theorem total_replace (h : m[k]? = some v) (v' : β) :
    total f (m.insert k v') = total f m + f v' - f v := by
  rw [total_insert, total_erase h]
  omega

theorem total_insertIfNew (h : m[k]? = none) (v : β) :
    total f (m.insertIfNew k v) = total f m + f v := by
  have hinsert : m.insertIfNew k v = m.insert k v := by
    ext1 k'
    rw [ExtTreeMap.getElem?_insertIfNew, ExtTreeMap.getElem?_insert]
    have hk : k ∉ m := by rw [ExtTreeMap.mem_iff_isSome_getElem?, h]; simp
    by_cases hk' : cmp k k' = .eq <;> simp [hk, hk']
  have herase : m.erase k = m := by
    ext1 k'
    rw [ExtTreeMap.getElem?_erase]
    by_cases hk : cmp k k' = .eq
    · obtain rfl := LawfulEqCmp.eq_of_compare hk
      simp [h, hk]
    · simp [hk]
  rw [hinsert, total_insert, herase]
  omega

end MapSums
