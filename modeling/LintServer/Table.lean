/-
  LintServer.Table — tables from text to values, in the order the keys first came.

  A table is a list of entries. Putting a value under a key that is there keeps the key's
  place; a new key goes to the end. Taking a key out and putting it back moves it to the end.
-/

namespace LintServer.Table

variable {α : Type}

def get? : List (String × α) → String → Option α
  | [], _ => none
  | (k, v) :: rest, key => if k = key then some v else get? rest key

def has (entries : List (String × α)) (key : String) : Bool := (get? entries key).isSome

def put (key : String) (value : α) : List (String × α) → List (String × α)
  | [] => [(key, value)]
  | (k, v) :: rest => if k = key then (key, value) :: rest else (k, v) :: put key value rest

def erase (entries : List (String × α)) (key : String) : List (String × α) :=
  entries.filter (fun entry => entry.1 != key)

def keys (entries : List (String × α)) : List String := entries.map (·.1)

def values (entries : List (String × α)) : List α := entries.map (·.2)

/-- The table of the pairs put in one after another. -/
def ofPairs (pairs : List (String × α)) : List (String × α) :=
  pairs.foldl (fun table pair => put pair.1 pair.2 table) []

/-- The entries in the order of their keys. -/
def sorted (entries : List (String × α)) : List (String × α) :=
  entries.mergeSort (fun a b => decide (a.1 ≤ b.1))

@[simp] theorem get?_put_self (key : String) (value : α) (entries : List (String × α)) :
    get? (put key value entries) key = some value := by
  induction entries with
  | nil => simp [put, get?]
  | cons entry rest ih =>
    obtain ⟨k, v⟩ := entry
    by_cases h : k = key
    · simp [put, get?, h]
    · simp [put, get?, h, ih]

theorem get?_put_of_ne {key other : String} (h : other ≠ key) (value : α)
    (entries : List (String × α)) : get? (put key value entries) other = get? entries other := by
  induction entries with
  | nil => simp [put, get?, h.symm]
  | cons entry rest ih =>
    obtain ⟨k, v⟩ := entry
    by_cases hk : k = key
    · subst hk
      simp [put, get?, h.symm]
    · simp [put, get?, hk, ih]

@[simp] theorem get?_erase_self (entries : List (String × α)) (key : String) :
    get? (erase entries key) key = none := by
  induction entries with
  | nil => rfl
  | cons entry rest ih =>
    obtain ⟨k, v⟩ := entry
    by_cases h : k = key
    · simpa [erase, h] using ih
    · have hk : erase ((k, v) :: rest) key = (k, v) :: erase rest key := by simp [erase, h]
      rw [hk, get?, if_neg h, ih]

theorem get?_erase_of_ne {key other : String} (h : other ≠ key) (entries : List (String × α)) :
    get? (erase entries key) other = get? entries other := by
  induction entries with
  | nil => rfl
  | cons entry rest ih =>
    obtain ⟨k, v⟩ := entry
    by_cases hk : k = key
    · subst hk
      have he : erase ((k, v) :: rest) k = erase rest k := by simp [erase]
      rw [he, ih, get?, if_neg h.symm]
    · have he : erase ((k, v) :: rest) key = (k, v) :: erase rest key := by simp [erase, hk]
      rw [he, get?, get?, ih]

theorem get?_eq_none_iff {entries : List (String × α)} {key : String} :
    get? entries key = none ↔ key ∉ keys entries := by
  induction entries with
  | nil => simp [get?, keys]
  | cons entry rest ih =>
    obtain ⟨k, v⟩ := entry
    rw [keys, List.map_cons, List.mem_cons, not_or, ← keys, ← ih, get?]
    by_cases hk : k = key
    · simp [hk]
    · simp [hk, Ne.symm hk]

theorem get?_filter (keep : String → Bool) (entries : List (String × α)) (key : String) :
    get? (entries.filter fun entry => keep entry.1) key =
      if keep key then get? entries key else none := by
  induction entries with
  | nil => simp [get?]
  | cons entry rest ih =>
    obtain ⟨k, v⟩ := entry
    by_cases hk : k = key
    · subst hk
      by_cases hkeep : keep k = true <;> simp [hkeep, get?, ih]
    · by_cases hkeep : keep k = true <;> simp [hkeep, get?, hk, ih]

theorem mem_of_get? {entries : List (String × α)} {key : String} {value : α}
    (h : get? entries key = some value) : (key, value) ∈ entries := by
  induction entries with
  | nil => cases h
  | cons entry rest ih =>
    obtain ⟨k, v⟩ := entry
    by_cases hk : k = key
    · simp only [get?, hk, if_true, Option.some.injEq] at h
      rw [hk, h]
      exact List.mem_cons_self
    · rw [get?, if_neg hk] at h
      exact List.mem_cons_of_mem _ (ih h)

theorem mem_put {entries : List (String × α)} {key : String} {value : α} {entry : String × α}
    (h : entry ∈ put key value entries) : entry = (key, value) ∨ entry ∈ entries := by
  induction entries with
  | nil => exact .inl (List.mem_singleton.mp h)
  | cons first rest ih =>
    obtain ⟨k, v⟩ := first
    by_cases hk : k = key
    · rw [put, if_pos hk] at h
      rcases List.mem_cons.mp h with h | h
      · exact .inl h
      · exact .inr (List.mem_cons_of_mem _ h)
    · rw [put, if_neg hk] at h
      rcases List.mem_cons.mp h with h | h
      · exact .inr (h ▸ List.mem_cons_self)
      · exact (ih h).imp_right (List.mem_cons_of_mem _)

theorem mem_keys_put {entries : List (String × α)} {key other : String} {value : α}
    (h : other ∈ keys (put key value entries)) : other = key ∨ other ∈ keys entries := by
  obtain ⟨entry, he, rfl⟩ := List.mem_map.mp h
  rcases mem_put he with rfl | he
  · exact .inl rfl
  · exact .inr (List.mem_map_of_mem he)

/-- A key that is not there goes to the end. -/
theorem put_of_notMem {entries : List (String × α)} {key : String} (h : key ∉ keys entries)
    (value : α) : put key value entries = entries ++ [(key, value)] := by
  induction entries with
  | nil => rfl
  | cons entry rest ih =>
    obtain ⟨k, v⟩ := entry
    simp only [keys, List.map_cons, List.mem_cons, not_or] at h
    rw [put, if_neg (Ne.symm h.1), ih h.2, List.cons_append]

theorem keys_put (key : String) (value : α) (entries : List (String × α)) :
    keys (put key value entries) =
      if key ∈ keys entries then keys entries else keys entries ++ [key] := by
  split
  · rename_i hmem
    induction entries with
    | nil => cases hmem
    | cons entry rest ih =>
      obtain ⟨k, v⟩ := entry
      by_cases hk : k = key
      · rw [put, if_pos hk, ← hk]
        rfl
      · rw [put, if_neg hk]
        have hrest : key ∈ keys rest := (List.mem_cons.mp hmem).resolve_left (Ne.symm hk)
        exact congrArg (k :: ·) (ih hrest)
  · rename_i hmem
    rw [put_of_notMem hmem, keys, List.map_append]
    rfl

theorem notMem_of_nodup {entries more : List (String × α)} {entry : String × α}
    (h : (keys (entries ++ entry :: more)).Nodup) : entry.1 ∉ keys entries := by
  simp only [keys, List.map_append, List.map_cons] at h
  exact fun hmem => (List.nodup_append.mp h).2.2 _ hmem _ List.mem_cons_self rfl

theorem nodup_put {entries : List (String × α)} (h : (keys entries).Nodup) (key : String)
    (value : α) : (keys (put key value entries)).Nodup := by
  induction entries with
  | nil => simp [put, keys]
  | cons entry rest ih =>
    obtain ⟨k, v⟩ := entry
    obtain ⟨hk, hr⟩ := List.nodup_cons.mp h
    by_cases e : k = key
    · rw [put, if_pos e]
      exact List.nodup_cons.mpr ⟨e ▸ hk, hr⟩
    · rw [put, if_neg e]
      refine List.nodup_cons.mpr ⟨?_, ih hr⟩
      intro hm
      rcases mem_keys_put hm with hm | hm
      · exact e hm
      · exact hk hm

theorem nodup_erase {entries : List (String × α)} (h : (keys entries).Nodup) (key : String) :
    (keys (erase entries key)).Nodup :=
  h.sublist ((List.filter_sublist (l := entries)).map _)

/-- Where no key comes twice, every entry is what is found under its key. -/
theorem get?_of_mem {entries : List (String × α)} (h : (keys entries).Nodup) {key : String}
    {value : α} (hm : (key, value) ∈ entries) : get? entries key = some value := by
  induction entries with
  | nil => cases hm
  | cons entry rest ih =>
    obtain ⟨k, v⟩ := entry
    obtain ⟨hk, hr⟩ := List.nodup_cons.mp h
    rcases List.mem_cons.mp hm with hm | hm
    · injection hm with h1 h2
      rw [get?, if_pos h1.symm, h2]
    · have hne : k ≠ key := by
        rintro rfl
        exact hk (List.mem_map.mpr ⟨_, hm, rfl⟩)
      rw [get?, if_neg hne]
      exact ih hr hm

end LintServer.Table
