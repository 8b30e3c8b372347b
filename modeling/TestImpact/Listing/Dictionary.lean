import TestImpact.Listing.Ascending

/-!
# Dictionaries

A dictionary holds its entries in strictly ascending order of their keys, so
two dictionaries with the same look-ups are equal, and listing one needs no
sorting. Writing under a key that is present replaces the value.
-/

namespace TestImpact.Listing

def insertEntry {α : Type} (key : String) (value : α) :
    List (String × α) → List (String × α)
  | [] => [(key, value)]
  | first :: rest =>
      if key < first.1 then (key, value) :: first :: rest
      else if first.1 < key then first :: insertEntry key value rest
      else (key, value) :: rest

theorem map_fst_insertEntry {α : Type} (key : String) (value : α)
    (entries : List (String × α)) :
    (insertEntry key value entries).map Prod.fst =
      insertAscending key (entries.map Prod.fst) := by
  induction entries with
  | nil => rfl
  | cons first rest ih =>
      unfold insertEntry
      simp only [List.map_cons, insertAscending]
      split
      · rfl
      · split
        · rw [List.map_cons, ih]
        · rename_i notBelow notAbove
          simp [eq_of_not_lt notBelow notAbove]

theorem lookup_cons_eq_ite {α : Type} (key : String) (first : String × α)
    (rest : List (String × α)) :
    (first :: rest).lookup key = if key = first.1 then some first.2 else rest.lookup key := by
  rw [List.lookup_cons]
  by_cases same : key = first.1
  · simp [same]
  · simp [same, beq_eq_false_iff_ne.mpr same]

theorem mem_map_fst_iff_lookup {α : Type} (key : String) (entries : List (String × α)) :
    key ∈ entries.map Prod.fst ↔ ∃ value, entries.lookup key = some value := by
  induction entries with
  | nil => simp
  | cons first rest ih =>
      rw [List.map_cons, List.mem_cons, ih, lookup_cons_eq_ite]
      by_cases same : key = first.1 <;> simp [same]

theorem lookup_insertEntry {α : Type} (key other : String) (value : α)
    (entries : List (String × α)) :
    (insertEntry key value entries).lookup other =
      if other = key then some value else entries.lookup other := by
  induction entries with
  | nil => exact lookup_cons_eq_ite other (key, value) []
  | cons first rest ih =>
      rw [insertEntry]
      split
      · exact lookup_cons_eq_ite other (key, value) (first :: rest)
      · split
        · rename_i above
          have differs : first.1 ≠ key := fun same => String.lt_irrefl key (same ▸ above)
          rw [lookup_cons_eq_ite, lookup_cons_eq_ite, ih]
          by_cases found : other = first.1 <;> simp [found, differs]
        · rename_i notBelow notAbove
          rw [lookup_cons_eq_ite, lookup_cons_eq_ite, eq_of_not_lt notBelow notAbove]
          by_cases same : other = first.1 <;> simp [same]

/-- Values under strictly ascending keys. -/
structure Dictionary (α : Type) where
  entries : List (String × α)
  sorted : (entries.map Prod.fst).Pairwise (· < ·)
  deriving DecidableEq

namespace Dictionary

variable {α : Type}

def empty : Dictionary α := ⟨[], List.Pairwise.nil⟩

instance : Inhabited (Dictionary α) := ⟨empty⟩

def isEmpty (dictionary : Dictionary α) : Bool := dictionary.entries.isEmpty

def keys (dictionary : Dictionary α) : List String := dictionary.entries.map Prod.fst

def get? (dictionary : Dictionary α) (key : String) : Option α :=
  dictionary.entries.lookup key

def insert (dictionary : Dictionary α) (key : String) (value : α) : Dictionary α where
  entries := insertEntry key value dictionary.entries
  sorted := by
    rw [map_fst_insertEntry]
    exact pairwise_insertAscending key dictionary.sorted

/-- Writes entries one after the other, so that of two under one key the later stays. -/
def ofList (entries : List (String × α)) : Dictionary α :=
  entries.foldl (fun dictionary entry => dictionary.insert entry.1 entry.2) empty

theorem mem_keys_iff (dictionary : Dictionary α) (key : String) :
    key ∈ dictionary.keys ↔ ∃ value, dictionary.get? key = some value :=
  mem_map_fst_iff_lookup key dictionary.entries

theorem mem_keys_insert (dictionary : Dictionary α) (key other : String) (value : α) :
    other ∈ (dictionary.insert key value).keys ↔ other = key ∨ other ∈ dictionary.keys := by
  simp [keys, insert, map_fst_insertEntry]

theorem mem_keys_ofList (entries : List (String × α)) (key : String) :
    key ∈ (ofList entries).keys ↔ key ∈ entries.map Prod.fst := by
  suffices written : ∀ dictionary : Dictionary α,
      key ∈ (entries.foldl (fun dictionary entry => dictionary.insert entry.1 entry.2)
        dictionary).keys ↔ key ∈ entries.map Prod.fst ∨ key ∈ dictionary.keys from
    (written empty).trans (or_iff_left List.not_mem_nil)
  induction entries with
  | nil => exact fun _ => (or_iff_right List.not_mem_nil).symm
  | cons first rest ih =>
      intro dictionary
      rw [List.foldl_cons, ih, mem_keys_insert, List.map_cons, List.mem_cons, or_left_comm,
        or_assoc]

theorem insertEntry_of_above {key : String} (value : α) {entries : List (String × α)}
    (above : ∀ entry ∈ entries, entry.1 < key) :
    insertEntry key value entries = entries ++ [(key, value)] := by
  induction entries with
  | nil => rfl
  | cons first rest ih =>
      obtain ⟨below, others⟩ := List.forall_mem_cons.mp above
      rw [insertEntry, if_neg fun lower => String.lt_irrefl key (String.lt_trans lower below),
        if_pos below, ih others]
      rfl

theorem eq_of_entries_eq {first second : Dictionary α} (same : first.entries = second.entries) :
    first = second := by
  cases first
  cases second
  cases same
  rfl

theorem eq_empty {dictionary : Dictionary α} (bare : dictionary.isEmpty = true) :
    dictionary = empty :=
  eq_of_entries_eq (List.isEmpty_iff.mp bare)

theorem mem_insertEntry {key : String} {value : α} {entries : List (String × α)}
    {entry : String × α} (member : entry ∈ insertEntry key value entries) :
    entry = (key, value) ∨ entry ∈ entries := by
  induction entries with
  | nil => exact Or.inl (List.mem_singleton.mp member)
  | cons first rest ih =>
      rw [insertEntry] at member
      split at member
      · exact List.mem_cons.mp member
      split at member
      · rcases List.mem_cons.mp member with rfl | later
        · exact Or.inr List.mem_cons_self
        · exact (ih later).imp_right (List.mem_cons_of_mem _)
      · exact (List.mem_cons.mp member).imp_right (List.mem_cons_of_mem _)

/-- A dictionary holds no entry that was not written. -/
theorem mem_of_mem_ofList {entries : List (String × α)} {entry : String × α}
    (member : entry ∈ (ofList entries).entries) : entry ∈ entries := by
  suffices written : ∀ earlier : Dictionary α,
      entry ∈ (entries.foldl (fun dictionary entry => dictionary.insert entry.1 entry.2)
        earlier).entries → entry ∈ entries ∨ entry ∈ earlier.entries from
    (written empty member).resolve_right List.not_mem_nil
  clear member
  induction entries with
  | nil => exact fun _ => Or.inr
  | cons first rest ih =>
      intro earlier held
      rcases ih _ held with later | inserted
      · exact Or.inl (List.mem_cons_of_mem _ later)
      · rcases mem_insertEntry inserted with rfl | before
        · exact Or.inl List.mem_cons_self
        · exact Or.inr before

/-- The entries of a dictionary, written in their order, give it again. -/
theorem ofList_entries (dictionary : Dictionary α) : ofList dictionary.entries = dictionary := by
  suffices written : ∀ (entries : List (String × α)) (earlier : Dictionary α),
      ((earlier.entries ++ entries).map Prod.fst).Pairwise (· < ·) →
        (entries.foldl (fun dictionary entry => dictionary.insert entry.1 entry.2)
          earlier).entries = earlier.entries ++ entries from
    eq_of_entries_eq (written dictionary.entries empty dictionary.sorted)
  intro entries
  induction entries with
  | nil => exact fun earlier _ => (List.append_nil _).symm
  | cons first rest ih =>
      intro earlier ascends
      have above : ∀ entry ∈ earlier.entries, entry.1 < first.1 := by
        intro entry member
        rw [List.map_append, List.pairwise_append] at ascends
        exact ascends.2.2 _ (List.mem_map_of_mem member) _ List.mem_cons_self
      have inserted : (earlier.insert first.1 first.2).entries = earlier.entries ++ [first] :=
        insertEntry_of_above first.2 above
      rw [List.foldl_cons, ih, inserted, List.append_assoc, List.singleton_append]
      rwa [inserted, List.append_assoc, List.singleton_append]

/-- Writing under a key changes what is found under this key, and nothing else. -/
theorem get?_insert (dictionary : Dictionary α) (key other : String) (value : α) :
    (dictionary.insert key value).get? other =
      if other = key then some value else dictionary.get? other :=
  lookup_insertEntry key other value dictionary.entries

/-- Entries that all follow one rule may be written in any order and more than once. -/
theorem get?_ofList (value? : String → Option α) {entries : List (String × α)}
    (follow : ∀ entry ∈ entries, value? entry.1 = some entry.2) (key : String) :
    (ofList entries).get? key = if key ∈ entries.map Prod.fst then value? key else none := by
  suffices written : ∀ dictionary : Dictionary α,
      (entries.foldl (fun dictionary entry => dictionary.insert entry.1 entry.2) dictionary).get?
        key = if key ∈ entries.map Prod.fst then value? key else dictionary.get? key from
    written empty
  induction entries with
  | nil => exact fun _ => rfl
  | cons first rest ih =>
      intro dictionary
      obtain ⟨head, later⟩ := List.forall_mem_cons.mp follow
      rw [List.foldl_cons, ih later, get?_insert]
      by_cases again : key ∈ rest.map Prod.fst
      · simp [again]
      · by_cases same : key = first.1
        · simp [same, head]
        · simp [again, same]

end Dictionary

end TestImpact.Listing
