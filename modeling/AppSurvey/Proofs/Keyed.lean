import AppSurvey.Keyed
import Mathlib.Data.List.Induction

/-!
# Filing under keys

What a key has after data was put under keys: a key keeps its place, and of all that was put under it the
last counts.
-/

namespace AppSurvey

section Distinct

variable {α : Type} [DecidableEq α]

theorem nodup_eraseDups (items : List α) : items.eraseDups.Nodup := by
  cases items with
  | nil => simp
  | cons item rest =>
      rw [List.eraseDups_cons, List.nodup_cons]
      exact ⟨by simp, nodup_eraseDups (rest.filter fun other => !other == item)⟩
termination_by items.length
decreasing_by exact Nat.lt_succ_of_le (List.length_filter_le _ _)

theorem eraseDups_concat (items : List α) (item : α) :
    (items ++ [item]).eraseDups =
      if item ∈ items.eraseDups then items.eraseDups else items.eraseDups ++ [item] := by
  rw [List.eraseDups_append]
  by_cases hitem : item ∈ items
  · simp [hitem, List.removeAll]
  · simp [hitem, List.removeAll, List.eraseDups_cons]

end Distinct

namespace Keyed

variable {κ α : Type} [DecidableEq κ]

theorem get?_cons (key other : κ) (data : α) (rest : Keyed κ α) :
    get? ((key, data) :: rest) other = if other = key then some data else rest.get? other := by
  by_cases heq : other = key
  · simp [get?, heq]
  · simp [get?, List.lookup_cons, heq, beq_eq_false_iff_ne.mpr heq]

theorem get?_set (key other : κ) (data : α) (entries : Keyed κ α) :
    (set key data entries).get? other =
      if other = key then some data else entries.get? other := by
  induction entries with
  | nil => exact get?_cons key other data []
  | cons entry rest ih =>
      rcases entry with ⟨first, old⟩
      by_cases hfirst : first = key
      · by_cases heq : other = key <;> simp [set, get?_cons, hfirst, heq]
      · by_cases heq : other = first
        · simp [set, get?_cons, hfirst, heq]
        · simp [set, get?_cons, hfirst, heq, ih]

theorem map_fst_set (key : κ) (data : α) (entries : Keyed κ α) :
    (set key data entries).map Prod.fst =
      if key ∈ entries.map Prod.fst then entries.map Prod.fst else entries.map Prod.fst ++ [key] := by
  induction entries with
  | nil => rfl
  | cons entry rest ih =>
      rw [set]
      by_cases hfirst : entry.1 = key
      · simp [hfirst]
      · simp only [beq_iff_eq, hfirst, if_false, List.map_cons, ih, List.mem_cons, Ne.symm hfirst,
          false_or]
        split <;> rfl

theorem snd_mem_of_mem_set {key : κ} {data : α} {entries : Keyed κ α} {entry : κ × α}
    (hentry : entry ∈ set key data entries) : entry.2 = data ∨ entry ∈ entries := by
  induction entries with
  | nil => simp_all [set]
  | cons first rest ih =>
      rw [set] at hentry
      split at hentry
      · rcases List.mem_cons.mp hentry with rfl | hrest
        · exact .inl rfl
        · exact .inr (List.mem_cons_of_mem _ hrest)
      · rcases List.mem_cons.mp hentry with rfl | hrest
        · exact .inr List.mem_cons_self
        · exact (ih hrest).imp_right (List.mem_cons_of_mem _)

theorem get?_eq_none {key : κ} {entries : Keyed κ α} (hkey : key ∉ entries.map Prod.fst) :
    entries.get? key = none := by
  rw [get?, List.lookup_eq_none_iff]
  intro entry hentry
  rw [bne_iff_ne]
  rintro rfl
  exact hkey (List.mem_map_of_mem hentry)

/-- Where each key comes once, an entry is what is found under its key. -/
theorem mem_iff_get? {entries : Keyed κ α} (hkeys : (entries.map Prod.fst).Nodup) {entry : κ × α} :
    entry ∈ entries ↔ entries.get? entry.1 = some entry.2 := by
  induction entries with
  | nil => simp [get?]
  | cons first rest ih =>
      rw [List.map_cons, List.nodup_cons] at hkeys
      rw [List.mem_cons, get?_cons first.1 entry.1 first.2 rest, ih hkeys.2]
      split
      next hsame =>
        rw [hsame, get?_eq_none hkeys.1]
        simp [Prod.ext_iff, hsame, eq_comm]
      next hother =>
        have hne : entry ≠ first := fun heq => hother (heq ▸ rfl)
        simp [hne]

/-- What is added to the items under a key is added to all items. -/
theorem flatMap_set_perm (key : κ) (more : List α) (entries : Keyed κ (List α)) :
    ((entries.set key ((entries.get? key).getD [] ++ more)).flatMap Prod.snd).Perm
      (entries.flatMap Prod.snd ++ more) := by
  induction entries with
  | nil => simp [set, get?]
  | cons first rest ih =>
      rw [get?_cons first.1 key first.2 rest, set]
      by_cases hkey : key = first.1
      · simp only [hkey, BEq.rfl, if_true, Option.getD_some, List.flatMap_cons, List.append_assoc]
        exact List.perm_append_comm.append_left first.2
      · simp only [beq_iff_eq, Ne.symm hkey, hkey, if_false, List.flatMap_cons, List.append_assoc]
        exact ih.append_left first.2

/-- Files data under keys, one after the other. -/
def setAll (entries : Keyed κ α) (filings : List (κ × α)) : Keyed κ α :=
  filings.foldl (fun entries filing => set filing.1 filing.2 entries) entries

theorem setAll_concat (entries : Keyed κ α) (filings : List (κ × α)) (filing : κ × α) :
    setAll entries (filings ++ [filing]) = set filing.1 filing.2 (setAll entries filings) := by
  rw [setAll, List.foldl_append]
  rfl

theorem map_fst_setAll (filings : List (κ × α)) :
    (setAll [] filings).map Prod.fst = (filings.map Prod.fst).eraseDups := by
  induction filings using List.reverseRecOn with
  | nil => rfl
  | append_singleton filings filing ih =>
      rw [setAll_concat, map_fst_set, ih, List.map_append, List.map_singleton,
        eraseDups_concat]

theorem get?_setAll_of_notMem {key : κ} {filings : List (κ × α)}
    (hkey : key ∉ filings.map Prod.fst) (entries : Keyed κ α) :
    (setAll entries filings).get? key = entries.get? key := by
  induction filings generalizing entries with
  | nil => rfl
  | cons filing rest ih =>
      rw [List.map_cons, List.mem_cons, not_or] at hkey
      rw [setAll, List.foldl_cons, ← setAll, ih hkey.2, get?_set, if_neg hkey.1]

/-- Of all that is filed under a key, the last counts. -/
theorem get?_setAll_of_last {key : κ} {data : α} {filings : List (κ × α)} {place : Nat}
    (hplace : filings[place]? = some (key, data))
    (hlast : key ∉ (filings.drop (place + 1)).map Prod.fst) (entries : Keyed κ α) :
    (setAll entries filings).get? key = some data := by
  obtain ⟨hlt, hget⟩ := List.getElem?_eq_some_iff.mp hplace
  have hsplit : filings = filings.take place ++ (key, data) :: filings.drop (place + 1) := by
    rw [← hget, ← List.drop_eq_getElem_cons hlt, List.take_append_drop]
  rw [hsplit, setAll, List.foldl_append, List.foldl_cons, ← setAll, ← setAll,
    get?_setAll_of_notMem hlast, get?_set, if_pos rfl]

theorem snd_mem_of_mem_setAll {filings : List (κ × α)} {entry : κ × α}
    (hentry : entry ∈ setAll [] filings) : entry.2 ∈ filings.map Prod.snd := by
  induction filings using List.reverseRecOn with
  | nil => simp [setAll] at hentry
  | append_singleton filings filing ih =>
      rw [setAll_concat] at hentry
      rw [List.map_append, List.mem_append]
      rcases snd_mem_of_mem_set hentry with hlast | hearlier
      · exact .inr (by simp [hlast])
      · exact .inl (ih hearlier)

end Keyed

end AppSurvey
