/-! # Dictionaries -/

namespace SplitPlanning

/-- Pairs of a key and a value, each key once, in the order of their first arrival. -/
structure Dictionary (β : Type) where
  entries : List (String × β)
  keys_nodup : (entries.map Prod.fst).Nodup
deriving DecidableEq

namespace Dictionary

variable {β : Type}

/-! ## Operations -/

def empty : Dictionary β :=
  ⟨[], List.nodup_nil⟩

instance : EmptyCollection (Dictionary β) := ⟨empty⟩

instance : Inhabited (Dictionary β) := ⟨empty⟩

def keys (d : Dictionary β) : List String :=
  d.entries.map Prod.fst

def size (d : Dictionary β) : Nat :=
  d.entries.length

def lookup (key : String) : List (String × β) → Option β
  | [] => none
  | entry :: rest => if entry.1 = key then some entry.2 else lookup key rest

def get? (d : Dictionary β) (key : String) : Option β :=
  lookup key d.entries

def contains (d : Dictionary β) (key : String) : Bool :=
  (d.get? key).isSome

/-- Pairs with the value of a key replaced, or the key added at the end. -/
def put (key : String) (value : β) : List (String × β) → List (String × β)
  | [] => [(key, value)]
  | entry :: rest => if entry.1 = key then (key, value) :: rest else entry :: put key value rest

theorem map_fst_put (key : String) (value : β) (entries : List (String × β)) :
    (put key value entries).map Prod.fst =
      if key ∈ entries.map Prod.fst then entries.map Prod.fst
      else entries.map Prod.fst ++ [key] := by
  induction entries with
  | nil => simp [put]
  | cons entry rest ih =>
    by_cases h : entry.1 = key
    · simp [put, h]
    · have h' : ¬ key = entry.1 := fun e ↦ h e.symm
      by_cases hm : key ∈ rest.map Prod.fst
      · rw [if_pos hm] at ih
        rw [if_pos (by simpa [h'] using hm)]
        simp [put, h, ih]
      · rw [if_neg hm] at ih
        rw [if_neg (by simpa [h'] using hm)]
        simp [put, h, ih]

theorem nodup_map_fst_put (key : String) (value : β) {entries : List (String × β)}
    (h : (entries.map Prod.fst).Nodup) : ((put key value entries).map Prod.fst).Nodup := by
  rw [map_fst_put]
  split
  · exact h
  · rename_i hnew
    rw [List.nodup_append]
    refine ⟨h, by simp, ?_⟩
    intro a ha b hb
    rw [List.mem_singleton] at hb
    subst hb
    intro hab
    exact hnew (hab ▸ ha)

def insert (d : Dictionary β) (key : String) (value : β) : Dictionary β :=
  ⟨put key value d.entries, nodup_map_fst_put key value d.keys_nodup⟩

/-- The dictionary with all pairs written in order, so that the last of equal keys wins. -/
def insertAll (d : Dictionary β) (pairs : List (String × β)) : Dictionary β :=
  pairs.foldl (fun d pair ↦ d.insert pair.1 pair.2) d

def ofList (pairs : List (String × β)) : Dictionary β :=
  empty.insertAll pairs

def map {γ : Type} (f : β → γ) (d : Dictionary β) : Dictionary γ :=
  ⟨d.entries.map fun entry ↦ (entry.1, f entry.2), by
    have h : (d.entries.map fun entry ↦ (entry.1, f entry.2)).map Prod.fst =
        d.entries.map Prod.fst := by simp
    rw [h]
    exact d.keys_nodup⟩

/-- Whether two dictionaries have the same keys with values that agree, in any order. -/
def agree (same : β → β → Bool) (d e : Dictionary β) : Bool :=
  d.size = e.size && d.entries.all fun entry ↦
    match e.get? entry.1 with
    | some value => same entry.2 value
    | none => false

/-! ## The view of each operation -/

@[simp] theorem lookup_put_self (key : String) (value : β) (entries : List (String × β)) :
    lookup key (put key value entries) = some value := by
  induction entries with
  | nil => simp [put, lookup]
  | cons entry rest ih => by_cases h : entry.1 = key <;> simp [put, lookup, h, ih]

@[simp] theorem get?_insert_self (d : Dictionary β) (key : String) (value : β) :
    (d.insert key value).get? key = some value :=
  lookup_put_self key value d.entries

@[simp] theorem entries_map {γ : Type} (f : β → γ) (d : Dictionary β) :
    (d.map f).entries = d.entries.map fun entry ↦ (entry.1, f entry.2) := rfl

/-- A new key goes to the end, and writing to a key that is present moves nothing. -/
theorem keys_insert (d : Dictionary β) (key : String) (value : β) :
    (d.insert key value).keys = if key ∈ d.keys then d.keys else d.keys ++ [key] :=
  map_fst_put key value d.entries

/-! ## New keys -/

theorem put_of_notMem {key : String} (value : β) {entries : List (String × β)}
    (h : key ∉ entries.map Prod.fst) : put key value entries = entries ++ [(key, value)] := by
  induction entries with
  | nil => rfl
  | cons entry rest ih =>
    rw [List.map_cons, List.mem_cons, not_or] at h
    rw [put, if_neg (Ne.symm h.1), ih h.2, List.cons_append]

/-- Pairs with new keys, no two of them equal, are kept as they come. -/
theorem entries_insertAll_of_nodup (d : Dictionary β) {pairs : List (String × β)}
    (h : (d.keys ++ pairs.map Prod.fst).Nodup) :
    (d.insertAll pairs).entries = d.entries ++ pairs := by
  induction pairs generalizing d with
  | nil => exact (List.append_nil d.entries).symm
  | cons pair pairs ih =>
    have hnew : pair.1 ∉ d.keys := by
      intro hmem
      exact (List.nodup_append.mp h).2.2 _ hmem _ List.mem_cons_self rfl
    have hkeys : (d.insert pair.1 pair.2).keys = d.keys ++ [pair.1] := by
      rw [keys_insert, if_neg hnew]
    have hentries : (d.insert pair.1 pair.2).entries = d.entries ++ [pair] :=
      put_of_notMem pair.2 hnew
    have hrest : ((d.insert pair.1 pair.2).keys ++ pairs.map Prod.fst).Nodup := by
      rw [hkeys, List.append_assoc]
      exact h
    calc ((d.insert pair.1 pair.2).insertAll pairs).entries
        = (d.insert pair.1 pair.2).entries ++ pairs := ih _ hrest
      _ = d.entries ++ pair :: pairs := by rw [hentries, List.append_assoc, List.singleton_append]

theorem entries_ofList_of_nodup {pairs : List (String × β)} (h : (pairs.map Prod.fst).Nodup) :
    (ofList pairs).entries = pairs :=
  entries_insertAll_of_nodup empty h

end Dictionary

end SplitPlanning
