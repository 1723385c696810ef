import CommandBot.Table

namespace CommandBot.Table

variable {α : Type}

theorem mem_keys_of_get? {t : Table α} {key : String} {value : α} (h : t.get? key = some value) :
    key ∈ t.keys :=
  List.mem_map_of_mem (mem_of_find h)

theorem find_eq_none_iff {key : String} {entries : List (String × α)} :
    find key entries = none ↔ key ∉ entries.map Prod.fst := by
  induction entries with
  | nil => simp [find]
  | cons entry entries ih =>
    obtain ⟨k, v⟩ := entry
    by_cases hk : k = key
    · simp [find, hk]
    · simp [find, hk, ih, Ne.symm hk]

theorem contains_iff {t : Table α} {key : String} : t.contains key = true ↔ key ∈ t.keys := by
  have hnone : t.get? key = none ↔ key ∉ t.keys := find_eq_none_iff
  unfold contains
  rw [← Option.ne_none_iff_isSome, Ne, hnone, Decidable.not_not]

/-- A new entry is put last. -/
theorem put_of_find_eq_none {key : String} {entries : List (String × α)} (value : α)
    (h : find key entries = none) : put key value entries = entries ++ [(key, value)] := by
  induction entries with
  | nil => rfl
  | cons entry entries ih =>
    obtain ⟨k, v⟩ := entry
    by_cases hk : k = key
    · simp [find, hk] at h
    · rw [put, if_neg hk, ih (by simpa [find, hk] using h), List.cons_append]

/-- A new key comes last, so the keys stand in the order in which they were first inserted. -/
theorem keys_insert_of_get?_eq_none {t : Table α} {key : String} (value : α)
    (h : t.get? key = none) : (t.insert key value).keys = t.keys ++ [key] := by
  have hput := put_of_find_eq_none value h
  simp only [keys, insert, hput, List.map_append, List.map_cons, List.map_nil]

theorem find_append (key : String) (entries more : List (String × α)) :
    find key (entries ++ more) = (find key entries).or (find key more) := by
  induction entries with
  | nil => rfl
  | cons entry entries ih =>
    obtain ⟨k, v⟩ := entry
    by_cases hk : k = key
    · simp [find, hk]
    · simp [find, hk, ih]

/-- A replacement of values that may look at the key changes what is found and nothing else. -/
theorem find_map {β : Type} (f : String → α → β) (key : String) (entries : List (String × α)) :
    find key (entries.map fun entry => (entry.1, f entry.1 entry.2)) =
      (find key entries).map (f key) := by
  induction entries with
  | nil => rfl
  | cons entry entries ih =>
    obtain ⟨k, v⟩ := entry
    by_cases hk : k = key
    · simp [find, hk]
    · simpa [find, hk] using ih

/-- What a table made of entries holds under a key is what the last entry with that key says. -/
theorem get?_ofList (entries : List (String × α)) (key : String) :
    (ofList entries).get? key = find key entries.reverse := by
  have hfold (t : Table α) : (entries.foldl (fun t e => t.insert e.1 e.2) t).get? key =
      (find key entries.reverse).or (t.get? key) := by
    induction entries generalizing t with
    | nil => rfl
    | cons entry entries ih =>
      rw [List.foldl_cons, ih, get?_insert, List.reverse_cons, find_append, Option.or_assoc]
      congr 1
      by_cases hk : entry.1 = key <;> simp [find, hk]
  rw [ofList, hfold, get?_empty, Option.or_none]

/-- An entry whose key no other entry has is the one that is found. -/
theorem find_of_mem {key : String} {value : α} {entries : List (String × α)}
    (hmem : (key, value) ∈ entries) (honce : (entries.map Prod.fst).count key ≤ 1) :
    find key entries = some value := by
  induction entries with
  | nil => cases hmem
  | cons entry entries ih =>
    obtain ⟨k, v⟩ := entry
    rcases List.mem_cons.1 hmem with heq | hmem
    · cases heq
      simp [find]
    · have hlater : 0 < (entries.map Prod.fst).count key :=
        List.count_pos_iff.2 (List.mem_map_of_mem hmem)
      rw [List.map_cons, List.count_cons] at honce
      have hk : k ≠ key := by
        rintro rfl
        rw [if_pos (beq_self_eq_true _)] at honce
        omega
      rw [find, if_neg hk]
      exact ih hmem (by omega)

/-- The entries of a table are what lookups find, since no two of them have the same key. -/
theorem mem_entries_iff {t : Table α} {key : String} {value : α} :
    (key, value) ∈ t.entries ↔ t.get? key = some value := by
  constructor
  · intro hmem
    exact find_of_mem hmem (List.nodup_iff_count.1 t.distinct key)
  · exact mem_of_find

/-! ### Replaced values -/

section Map

variable {β : Type} (f : α → β)

/-- The table with each value replaced. The keys stay. -/
def map (t : Table α) : Table β where
  entries := t.entries.map fun entry => (entry.1, f entry.2)
  distinct := by
    rw [List.map_map]
    exact t.distinct

@[simp] theorem get?_map (t : Table α) (key : String) : (t.map f).get? key = (t.get? key).map f :=
  find_map (fun _ => f) key t.entries

@[simp] theorem size_map (t : Table α) : (t.map f).size = t.size :=
  List.length_map _

@[simp] theorem contains_map (t : Table α) (key : String) :
    (t.map f).contains key = t.contains key := by
  rw [contains, get?_map, Option.isSome_map, contains]

theorem map_put (key : String) (value : α) (entries : List (String × α)) :
    (put key value entries).map (fun entry => (entry.1, f entry.2)) =
      put key (f value) (entries.map fun entry => (entry.1, f entry.2)) := by
  induction entries with
  | nil => rfl
  | cons entry entries ih =>
    obtain ⟨k, v⟩ := entry
    by_cases hk : k = key
    · simp [put, hk]
    · simpa [put, hk] using ih

@[simp] theorem map_insert (t : Table α) (key : String) (value : α) :
    (t.insert key value).map f = (t.map f).insert key (f value) :=
  Table.ext (map_put f key value t.entries)

@[simp] theorem map_erase (t : Table α) (key : String) :
    (t.erase key).map f = (t.map f).erase key := by
  ext1
  simp only [map, erase, List.filter_map]
  rfl

end Map

end CommandBot.Table
