/-!
Tables with text keys. A table keeps its entries in the order in which their keys were first
inserted, and holds each key once: `insert` overwrites in place. Main statements: what `get?` finds
after `insert` and after `erase`.
-/

namespace CommandBot

/-- Entries in insertion order, with distinct keys. -/
structure Table (α : Type) where
  entries : List (String × α)
  distinct : (entries.map Prod.fst).Nodup

namespace Table

variable {α β : Type}

@[ext] theorem ext {t u : Table α} (h : t.entries = u.entries) : t = u := by
  cases t; cases u; simp_all

/-- The table without entries. -/
def empty : Table α := ⟨[], .nil⟩

instance : Inhabited (Table α) := ⟨empty⟩

/-- The keys in insertion order. -/
def keys (t : Table α) : List String := t.entries.map Prod.fst

/-- The number of keys. -/
def size (t : Table α) : Nat := t.entries.length

/-- The value of the first entry with a key. -/
def find (key : String) : List (String × α) → Option α
  | [] => none
  | (k, v) :: rest => if k = key then some v else find key rest

/-- The value under a key. -/
def get? (t : Table α) (key : String) : Option α := find key t.entries

/-- The key has a value. -/
def contains (t : Table α) (key : String) : Bool := (t.get? key).isSome

/-- Writes `value` under `key` in a list of entries: in place if the key is there, else at the
end. -/
def put (key : String) (value : α) : List (String × α) → List (String × α)
  | [] => [(key, value)]
  | (k, v) :: rest => if k = key then (k, value) :: rest else (k, v) :: put key value rest

theorem mem_keys_put {key k : String} {value : α} {es : List (String × α)}
    (h : k ∈ (put key value es).map Prod.fst) : k = key ∨ k ∈ es.map Prod.fst := by
  induction es with
  | nil => simpa [put] using h
  | cons e es ih =>
    obtain ⟨k', v⟩ := e
    by_cases hk : k' = key
    · simp only [put, hk, if_true] at h
      exact .inr (by simpa [hk] using h)
    · simp only [put, hk, if_false, List.map_cons, List.mem_cons] at h ⊢
      rcases h with h | h
      · exact .inr (.inl h)
      · exact (ih h).imp_right .inr

theorem nodup_keys_put {key : String} {value : α} {es : List (String × α)}
    (h : (es.map Prod.fst).Nodup) : ((put key value es).map Prod.fst).Nodup := by
  induction es with
  | nil => simp [put]
  | cons e es ih =>
    obtain ⟨k, v⟩ := e
    obtain ⟨hfresh, hrest⟩ := List.nodup_cons.1 h
    by_cases hk : k = key
    · simpa only [put, hk, if_true] using (hk ▸ h)
    · simp only [put, hk, if_false, List.map_cons, List.nodup_cons]
      refine ⟨fun hmem => ?_, ih hrest⟩
      rcases mem_keys_put hmem with hkey | hkey
      · exact hk hkey
      · exact hfresh hkey

/-- Writes a value under a key. A key that is there keeps its place. -/
def insert (t : Table α) (key : String) (value : α) : Table α :=
  ⟨put key value t.entries, nodup_keys_put t.distinct⟩

/-- Drops a key. -/
def erase (t : Table α) (key : String) : Table α :=
  ⟨t.entries.filter (fun e => e.1 != key), t.distinct.sublist (List.filter_sublist.map Prod.fst)⟩

/-- Inserts entries one after the other, so a repeated key keeps its first place and takes its last
value. -/
def ofList (entries : List (String × α)) : Table α :=
  entries.foldl (fun t e => t.insert e.1 e.2) empty

@[simp] theorem get?_empty (key : String) : (empty : Table α).get? key = none := rfl

theorem find_put (key k : String) (value : α) (es : List (String × α)) :
    find k (put key value es) = if key = k then some value else find k es := by
  induction es with
  | nil => by_cases hk : key = k <;> simp [put, find, hk]
  | cons e es ih =>
    obtain ⟨k', v⟩ := e
    by_cases hkey : k' = key
    · by_cases hk : key = k <;> simp_all [put, find]
    · by_cases hk : k' = k
      · simp_all [put, find, eq_comm]
      · simp_all [put, find]

@[simp] theorem get?_insert (t : Table α) (key k : String) (value : α) :
    (t.insert key value).get? k = if key = k then some value else t.get? k :=
  find_put key k value t.entries

theorem find_filter_ne (key k : String) (es : List (String × α)) :
    find k (es.filter fun e => e.1 != key) = if key = k then none else find k es := by
  induction es with
  | nil => simp [find]
  | cons e es ih =>
    obtain ⟨k', v⟩ := e
    by_cases hkey : k' = key <;> by_cases hk : key = k <;> simp_all [find]

@[simp] theorem get?_erase (t : Table α) (key k : String) :
    (t.erase key).get? k = if key = k then none else t.get? k :=
  find_filter_ne key k t.entries

theorem mem_of_find {key : String} {value : α} {es : List (String × α)}
    (h : find key es = some value) : (key, value) ∈ es := by
  induction es with
  | nil => simp [find] at h
  | cons e es ih =>
    obtain ⟨k, v⟩ := e
    by_cases hk : k = key
    · simp_all [find]
    · exact List.mem_cons_of_mem _ (ih (by simpa [find, hk] using h))

/-- Dropping a key that is there makes the table smaller, which is what ends a walk that drops the
keys it has used. -/
theorem size_erase_lt {t : Table α} {key : String} {value : α} (h : t.get? key = some value) :
    (t.erase key).size < t.size := by
  simp only [size, erase]
  exact List.length_filter_lt_length_iff_exists.2 ⟨(key, value), mem_of_find h, by simp⟩

end Table

end CommandBot
