/-!
# Tables in order of insertion

A table is a list of entries with distinct keys. Writing to a key that is present keeps its
place; a new key goes to the end. Keys are compared with `==`, which need not be equality.
-/

namespace Questionnaire

abbrev Table (κ α : Type) : Type := List (κ × α)

namespace Table

variable {κ α : Type} [BEq κ]

def get? : Table κ α → κ → Option α
  | [], _ => none
  | (key, a) :: rest, k => if key == k then some a else get? rest k

def put : Table κ α → κ → α → Table κ α
  | [], k, a => [(k, a)]
  | (key, b) :: rest, k, a =>
      if key == k then (key, a) :: rest else (key, b) :: put rest k a

def contains (t : Table κ α) (k : κ) : Bool := (get? t k).isSome

def putAll (t : Table κ α) (entries : List (κ × α)) : Table κ α :=
  entries.foldl (fun t entry => put t entry.1 entry.2) t

def ofEntries (entries : List (κ × α)) : Table κ α := putAll [] entries

def erase : Table κ α → κ → Table κ α
  | [], _ => []
  | (key, a) :: rest, k => if key == k then rest else (key, a) :: erase rest k

omit [BEq κ] in
def keys (t : Table κ α) : List κ := t.map Prod.fst

@[simp] theorem get?_nil (k : κ) : get? ([] : Table κ α) k = none := rfl

theorem get?_put_self [ReflBEq κ] (t : Table κ α) (k : κ) (a : α) :
    get? (put t k a) k = some a := by
  induction t with
  | nil => simp [put, get?]
  | cons entry rest ih =>
    obtain ⟨key, b⟩ := entry
    by_cases h : (key == k) = true
    · simp [put, get?, h]
    · simp [put, get?, h, ih]

theorem get?_put_of_ne [LawfulBEq κ] (t : Table κ α) {k j : κ} (a : α) (h : k ≠ j) :
    get? (put t k a) j = get? t j := by
  induction t with
  | nil => simp [put, get?, h]
  | cons entry rest ih =>
    obtain ⟨key, b⟩ := entry
    have hbeq : ∀ {a b : κ}, (a == b) = true ↔ a = b := beq_iff_eq
    by_cases hk : key = k
    · subst hk
      simp [put, get?, hbeq, h]
    · by_cases hj : key = j
      · have hjk : j ≠ k := fun e => h e.symm
        simp [put, get?, hbeq, hj, hjk]
      · simp [put, get?, hbeq, hk, hj, ih]

theorem keys_put (t : Table κ α) (k : κ) (a : α) :
    keys (put t k a) = if contains t k then keys t else keys t ++ [k] := by
  induction t with
  | nil => simp [put, keys, contains]
  | cons entry rest ih =>
    obtain ⟨key, b⟩ := entry
    by_cases h : (key == k) = true
    · simp [put, keys, contains, get?, h]
    · simp only [keys, contains] at ih
      by_cases hc : (get? rest k).isSome = true <;> simp_all [put, keys, contains, get?]

theorem contains_iff_mem_keys [LawfulBEq κ] (t : Table κ α) (k : κ) :
    contains t k = true ↔ k ∈ keys t := by
  induction t with
  | nil => simp [contains, keys]
  | cons entry rest ih =>
    obtain ⟨key, b⟩ := entry
    have hbeq : ∀ {a b : κ}, (a == b) = true ↔ a = b := beq_iff_eq
    by_cases hk : key = k
    · simp [contains, get?, keys, hk]
    · have hne : k ≠ key := fun e => hk e.symm
      simp only [contains, keys] at ih
      simp [contains, get?, keys, hbeq, hk, hne, ih]

/-- Writing keeps the keys distinct. -/
theorem nodup_keys_put [LawfulBEq κ] {t : Table κ α} (h : (keys t).Nodup) (k : κ) (a : α) :
    (keys (put t k a)).Nodup := by
  rw [keys_put]
  split
  · exact h
  · next hc =>
    rw [contains_iff_mem_keys] at hc
    refine List.nodup_append.mpr ⟨h, by simp, ?_⟩
    intro key hkey other hother e
    rw [List.mem_singleton.mp hother] at e
    exact hc (e ▸ hkey)

theorem nodup_keys_putAll [LawfulBEq κ] {t : Table κ α} (h : (keys t).Nodup)
    (entries : List (κ × α)) : (keys (putAll t entries)).Nodup := by
  induction entries generalizing t with
  | nil => exact h
  | cons entry rest ih => exact ih (nodup_keys_put h entry.1 entry.2)

/-- A table made of entries has each key once. -/
theorem nodup_keys_ofEntries [LawfulBEq κ] (entries : List (κ × α)) :
    (keys (ofEntries entries)).Nodup :=
  nodup_keys_putAll (by simp [keys]) entries

/-- The entries of a table without equal keys are what its keys lead to. -/
theorem get?_of_mem_apart {t : Table κ α}
    (apart : (keys t).Pairwise fun j k => (j == k) = false) {k : κ} {a : α}
    (itself : (k == k) = true) (inside : (k, a) ∈ t) : get? t k = some a := by
  induction t with
  | nil => cases inside
  | cons entry rest ih =>
    obtain ⟨first, apart⟩ := List.pairwise_cons.mp apart
    rcases List.mem_cons.mp inside with rfl | later
    · simp [get?, itself]
    · have other : (entry.1 == k) = false := first k (List.mem_map_of_mem later)
      simp [get?, other, ih apart later]

theorem get?_of_mem [LawfulBEq κ] {t : Table κ α} (distinct : (keys t).Nodup) {k : κ}
    {a : α} (inside : (k, a) ∈ t) : get? t k = some a :=
  get?_of_mem_apart (distinct.imp fun different => beq_eq_false_iff_ne.mpr different)
    BEq.rfl inside

/-- A new key goes to the end. -/
theorem put_new {t : Table κ α} {k : κ} (new : ∀ entry ∈ t, (entry.1 == k) = false)
    (a : α) : put t k a = t ++ [(k, a)] := by
  induction t with
  | nil => rfl
  | cons entry rest ih =>
    obtain ⟨here, later⟩ := List.forall_mem_cons.mp new
    simp [put, here, ih later]

theorem putAll_of_apart {t entries : List (κ × α)}
    (apart : (t ++ entries).Pairwise fun entry other => (entry.1 == other.1) = false) :
    putAll t entries = t ++ entries := by
  induction entries generalizing t with
  | nil => simp [putAll]
  | cons entry rest ih =>
    have new : ∀ held ∈ t, (held.1 == entry.1) = false := by
      intro held inside
      exact (List.pairwise_append.mp apart).2.2 held inside entry List.mem_cons_self
    have step : putAll t (entry :: rest) = putAll (t ++ [entry]) rest := by
      rw [← put_new new]
      rfl
    rw [step, ih (by simpa using apart), List.append_assoc, List.singleton_append]

/-- Entries without equal keys stay as they are. -/
theorem ofEntries_of_apart {entries : List (κ × α)}
    (apart : entries.Pairwise fun entry other => (entry.1 == other.1) = false) :
    ofEntries entries = entries :=
  putAll_of_apart apart

/-- A table that has each key once is made of its own entries. -/
theorem ofEntries_self [LawfulBEq κ] {t : Table κ α} (distinct : (keys t).Nodup) :
    ofEntries t = t := by
  apply ofEntries_of_apart
  exact (List.pairwise_map.mp distinct).imp fun different =>
    beq_eq_false_iff_ne.mpr different

end Table

end Questionnaire
