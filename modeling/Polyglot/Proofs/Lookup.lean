/-!
# Entries of a table

A table is a list of keys and values of which the first entry under a key counts. A value is put in
place of another by dropping what the key had and entering the value in front; only that key has
something else afterwards (`lookup_replace`).
-/

namespace Polyglot

variable {κ α : Type} [BEq κ] [LawfulBEq κ] {key other : κ}

/-- Dropping another key makes no difference. -/
theorem lookup_filter_ne (different : key ≠ other) (entries : List (κ × α)) :
    (entries.filter (·.1 != other)).lookup key = entries.lookup key := by
  induction entries with
  | nil => rfl
  | cons entry entries ih =>
    rw [List.filter_cons]
    by_cases same : entry.1 = other
    · have kept : (entry.1 != other) = false := by simpa using same
      have missed : (key == entry.1) = false := by simpa [same] using different
      rw [kept, if_neg Bool.false_ne_true, ih, List.lookup_cons, missed]
    · have kept : (entry.1 != other) = true := by simpa using same
      rw [kept, if_pos rfl, List.lookup_cons, List.lookup_cons, ih]

/-- Putting a value in place of another is entering it. -/
theorem lookup_replace (key other : κ) (value : α) (entries : List (κ × α)) :
    ((other, value) :: entries.filter (·.1 != other)).lookup key =
      ((other, value) :: entries).lookup key := by
  rw [List.lookup_cons, List.lookup_cons]
  by_cases same : key = other
  · rw [beq_iff_eq.mpr same]
  · rw [beq_eq_false_iff_ne.mpr same, lookup_filter_ne same]

/-- Where no key occurs twice, every entry counts. -/
theorem lookup_eq_some_iff_mem {entries : List (κ × α)} (distinct : (entries.map (·.1)).Nodup)
    {value : α} : entries.lookup key = some value ↔ (key, value) ∈ entries := by
  induction entries with
  | nil => simp
  | cons entry entries ih =>
    obtain ⟨first, found⟩ := entry
    rw [List.map_cons, List.nodup_cons] at distinct
    rw [List.lookup_cons, List.mem_cons, Prod.mk.injEq]
    by_cases same : key = first
    · have once : (key, value) ∉ entries := by
        rintro mem
        exact distinct.1 (List.mem_map.mpr ⟨_, mem, same⟩)
      rw [beq_iff_eq.mpr same, and_iff_right same, or_iff_left once]
      exact Option.some_inj.trans eq_comm
    · rw [beq_eq_false_iff_ne.mpr same]
      simp only [same, false_and, false_or]
      exact ih distinct.2

end Polyglot
