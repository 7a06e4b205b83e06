/-!
# Name-ordered tables

A table maps names to entries and lists them by name.  Every name-keyed store
of a scanner is one: saved cursors, registered routines and modes, and the
data store.  Names are compared by their code points, which is also the order
of their UTF-8 bytes, and no name occurs twice.

Insertion and removal are pinned down by what a look-up returns afterwards
(`Table.find?_insert`, `Table.find?_erase`).
-/

namespace TextScanner

/-- Entries listed by strictly increasing name. -/
def Ascending {α : Type} (entries : List (String × α)) : Prop :=
  entries.Pairwise fun earlier later => earlier.1 < later.1

/-- Put an entry in its place by name, over any entry of that name. -/
def insertEntry {α : Type} (name : String) (entry : α) :
    List (String × α) → List (String × α)
  | [] => [(name, entry)]
  | (first, kept) :: rest =>
      if name < first then (name, entry) :: (first, kept) :: rest
      else if name = first then (name, entry) :: rest
      else (first, kept) :: insertEntry name entry rest

/-- The entry listed first under a name. -/
def entryAt? {α : Type} (name : String) : List (String × α) → Option α
  | [] => none
  | (first, entry) :: rest =>
      if first = name then some entry else entryAt? name rest

/-- Leave out the entries of a name. -/
def eraseEntry {α : Type} (name : String) (entries : List (String × α)) :
    List (String × α) :=
  entries.filter fun entry => entry.1 ≠ name

section Entries

variable {α : Type}

private theorem lt_of_not_lt_of_ne {left right : String}
    (notLt : ¬left < right) (ne : left ≠ right) : right < left := by
  by_cases below : right < left
  · exact below
  · exact absurd (String.le_antisymm (String.not_lt.1 below) (String.not_lt.1 notLt)) ne

/-- An inserted list holds the inserted entry and otherwise only old ones. -/
theorem mem_insertEntry {name : String} {entry : α} {entries : List (String × α)}
    {found : String × α} (member : found ∈ insertEntry name entry entries) :
    found = (name, entry) ∨ found ∈ entries := by
  induction entries with
  | nil => simpa [insertEntry] using member
  | cons head rest ih =>
      rcases head with ⟨first, kept⟩
      simp only [insertEntry] at member
      split at member
      · simpa using member
      · split at member
        · rcases List.mem_cons.1 member with here | later
          · exact Or.inl here
          · exact Or.inr (List.mem_cons_of_mem _ later)
        · rcases List.mem_cons.1 member with here | later
          · exact Or.inr (here ▸ List.mem_cons_self)
          · rcases ih later with here | old
            · exact Or.inl here
            · exact Or.inr (List.mem_cons_of_mem _ old)

theorem ascending_insertEntry (name : String) (entry : α)
    {entries : List (String × α)} (ascending : Ascending entries) :
    Ascending (insertEntry name entry entries) := by
  induction entries with
  | nil => simp [insertEntry, Ascending]
  | cons head rest ih =>
      rcases head with ⟨first, kept⟩
      obtain ⟨above, restAscending⟩ := List.pairwise_cons.1 ascending
      simp only [insertEntry]
      split
      · rename_i below
        refine List.pairwise_cons.2 ⟨?_, ascending⟩
        intro later member
        rcases List.mem_cons.1 member with here | old
        · exact here ▸ below
        · exact String.lt_trans below (above later old)
      · rename_i notBelow
        split
        · rename_i same
          exact List.pairwise_cons.2 ⟨fun later member => same ▸ above later member,
            restAscending⟩
        · rename_i different
          refine List.pairwise_cons.2 ⟨?_, ih restAscending⟩
          intro later member
          rcases mem_insertEntry member with new | old
          · exact new ▸ lt_of_not_lt_of_ne notBelow different
          · exact above later old

/-- An entry above all others is put behind them. -/
theorem insertEntry_of_above {name : String} (entry : α) {entries : List (String × α)}
    (above : ∀ earlier ∈ entries, earlier.1 < name) :
    insertEntry name entry entries = entries ++ [(name, entry)] := by
  induction entries with
  | nil => rfl
  | cons head rest ih =>
      rcases head with ⟨first, kept⟩
      have below : first < name := above (first, kept) List.mem_cons_self
      have notBelow : ¬name < first := fun less =>
        String.lt_irrefl _ (String.lt_trans below less)
      have different : name ≠ first := by
        rintro rfl
        exact String.lt_irrefl _ below
      simp [insertEntry, notBelow, different,
        ih fun earlier listed => above earlier (List.mem_cons_of_mem _ listed)]

theorem ascending_eraseEntry (name : String) {entries : List (String × α)}
    (ascending : Ascending entries) : Ascending (eraseEntry name entries) :=
  List.Pairwise.filter _ ascending

theorem entryAt?_insertEntry (name wanted : String) (entry : α)
    (entries : List (String × α)) :
    entryAt? wanted (insertEntry name entry entries) =
      if name = wanted then some entry else entryAt? wanted entries := by
  induction entries with
  | nil => simp [insertEntry, entryAt?]
  | cons head rest ih =>
      rcases head with ⟨first, kept⟩
      simp only [insertEntry]
      split
      · simp [entryAt?]
      · split
        · rename_i same
          subst same
          by_cases hit : name = wanted <;> simp [entryAt?, hit]
        · rename_i different
          by_cases hit : first = wanted
          · subst hit
            simp [entryAt?, different]
          · simp [entryAt?, hit, ih]

theorem entryAt?_eraseEntry (name wanted : String) (entries : List (String × α)) :
    entryAt? wanted (eraseEntry name entries) =
      if name = wanted then none else entryAt? wanted entries := by
  induction entries with
  | nil => simp [eraseEntry, entryAt?]
  | cons head rest ih =>
      rcases head with ⟨first, kept⟩
      simp only [eraseEntry] at ih ⊢
      by_cases gone : first = name
      · subst gone
        by_cases hit : first = wanted
        · subst hit
          simpa [entryAt?] using ih
        · simpa [entryAt?, hit] using ih
      · by_cases hit : first = wanted
        · subst hit
          simp [entryAt?, gone, Ne.symm gone]
        · simpa [entryAt?, gone, hit] using ih

theorem entryAt?_eq_some_iff {entries : List (String × α)} (ascending : Ascending entries)
    {name : String} {entry : α} :
    entryAt? name entries = some entry ↔ (name, entry) ∈ entries := by
  induction entries with
  | nil => simp [entryAt?]
  | cons head rest ih =>
      rcases head with ⟨first, kept⟩
      obtain ⟨above, restAscending⟩ := List.pairwise_cons.1 ascending
      by_cases hit : first = name
      · subst hit
        simp only [entryAt?, if_true, Option.some.injEq, List.mem_cons, Prod.mk.injEq,
          true_and]
        constructor
        · exact fun same => Or.inl same.symm
        · rintro (same | later)
          · exact same.symm
          · exact absurd (above _ later) (String.lt_irrefl _)
      · simp only [entryAt?, if_neg hit, ih restAscending, List.mem_cons, Prod.mk.injEq]
        constructor
        · exact Or.inr
        · rintro (⟨same, _⟩ | later)
          · exact absurd same.symm hit
          · exact later

end Entries

/-- A name-keyed store whose entries are listed by strictly increasing name. -/
structure Table (α : Type) where
  /-- The entries in name order. -/
  toList : List (String × α)
  /-- No name repeats, and names increase. -/
  ascending : Ascending toList

namespace Table

variable {α : Type}

/-- The table without entries. -/
def empty : Table α := ⟨[], List.Pairwise.nil⟩

instance : EmptyCollection (Table α) := ⟨empty⟩

instance : Inhabited (Table α) := ⟨empty⟩

/-- Store an entry under a name, replacing any entry of that name. -/
def insert (table : Table α) (name : String) (entry : α) : Table α :=
  ⟨insertEntry name entry table.toList, ascending_insertEntry name entry table.ascending⟩

/-- Forget the entry of a name, if there is one. -/
def erase (table : Table α) (name : String) : Table α :=
  ⟨eraseEntry name table.toList, ascending_eraseEntry name table.ascending⟩

/-- The entry stored under a name. -/
def find? (table : Table α) (name : String) : Option α :=
  entryAt? name table.toList

/-- Whether a name has an entry. -/
def contains (table : Table α) (name : String) : Bool :=
  (table.find? name).isSome

/-- The names in order. -/
def names (table : Table α) : List String :=
  table.toList.map Prod.fst

/-- Store entries one after another; of two entries of one name the later
stays. -/
def ofList (entries : List (String × α)) : Table α :=
  entries.foldl (fun table entry => table.insert entry.1 entry.2) empty

/-- Entries that already stand in order are kept as they are. -/
theorem toList_foldl_insert (table : Table α) {entries : List (String × α)}
    (ascending : Ascending (table.toList ++ entries)) :
    (entries.foldl (fun table entry => table.insert entry.1 entry.2) table).toList =
      table.toList ++ entries := by
  induction entries generalizing table with
  | nil => simp
  | cons entry rest ih =>
      obtain ⟨-, -, above⟩ := List.pairwise_append.1 ascending
      have next : (table.insert entry.1 entry.2).toList = table.toList ++ [entry] :=
        insertEntry_of_above entry.2 fun earlier listed =>
          above earlier listed entry List.mem_cons_self
      rw [List.foldl_cons, ih (table.insert entry.1 entry.2), next]
      · simp
      · rw [next]
        simpa using ascending

theorem toList_ofList {entries : List (String × α)} (ascending : Ascending entries) :
    (ofList entries).toList = entries :=
  toList_foldl_insert empty ascending

theorem ofList_toList (table : Table α) : ofList table.toList = table := by
  rcases table with ⟨entries, ascending⟩
  have same := toList_ofList ascending
  generalize ofList entries = rebuilt at same
  rcases rebuilt with ⟨_, _⟩
  subst same
  rfl

theorem mem_toList_foldl_insert (table : Table α) {entries : List (String × α)}
    {found : String × α}
    (listed : found ∈
      (entries.foldl (fun table entry => table.insert entry.1 entry.2) table).toList) :
    found ∈ table.toList ∨ found ∈ entries := by
  induction entries generalizing table with
  | nil => exact Or.inl listed
  | cons entry rest ih =>
      rcases ih (table.insert entry.1 entry.2) listed with kept | later
      · rcases mem_insertEntry kept with rfl | old
        · exact Or.inr List.mem_cons_self
        · exact Or.inl old
      · exact Or.inr (List.mem_cons_of_mem _ later)

/-- A table built from entries holds nothing else. -/
theorem mem_of_mem_toList_ofList {entries : List (String × α)} {found : String × α}
    (listed : found ∈ (ofList entries).toList) : found ∈ entries := by
  rcases mem_toList_foldl_insert empty listed with none | listed
  · cases none
  · exact listed

@[simp]
theorem find?_empty (name : String) : (empty : Table α).find? name = none :=
  rfl

theorem find?_insert (table : Table α) (name wanted : String) (entry : α) :
    (table.insert name entry).find? wanted =
      if name = wanted then some entry else table.find? wanted :=
  entryAt?_insertEntry name wanted entry table.toList

@[simp]
theorem find?_insert_self (table : Table α) (name : String) (entry : α) :
    (table.insert name entry).find? name = some entry := by
  simp [find?_insert]

theorem find?_insert_of_ne (table : Table α) {name wanted : String} (entry : α)
    (different : name ≠ wanted) :
    (table.insert name entry).find? wanted = table.find? wanted := by
  simp [find?_insert, different]

/-- Insertion keeps the names that have an entry. -/
theorem contains_insert_of_contains {table : Table α} {wanted : String}
    (present : table.contains wanted = true) (name : String) (entry : α) :
    (table.insert name entry).contains wanted = true := by
  rw [contains, find?_insert]
  split
  · rfl
  · exact present

/-- What is found after an insertion was inserted or is found without it. -/
theorem find?_insert_cases {table : Table α} {name wanted : String} {entry found : α}
    (present : (table.insert name entry).find? wanted = some found) :
    found = entry ∨ table.find? wanted = some found := by
  rw [find?_insert] at present
  split at present
  · exact Or.inl (Option.some.inj present).symm
  · exact Or.inr present

theorem find?_erase (table : Table α) (name wanted : String) :
    (table.erase name).find? wanted =
      if name = wanted then none else table.find? wanted :=
  entryAt?_eraseEntry name wanted table.toList

/-- What is found after an erasure is found without it. -/
theorem find?_of_find?_erase {table : Table α} {name wanted : String} {found : α}
    (present : (table.erase name).find? wanted = some found) :
    table.find? wanted = some found := by
  rw [find?_erase] at present
  split at present
  · simp at present
  · exact present

theorem mem_toList_iff (table : Table α) {name : String} {entry : α} :
    (name, entry) ∈ table.toList ↔ table.find? name = some entry :=
  (entryAt?_eq_some_iff table.ascending).symm

theorem mem_names_iff (table : Table α) {name : String} :
    name ∈ table.names ↔ (table.find? name).isSome := by
  simp only [names, List.mem_map, Prod.exists, Option.isSome_iff_exists, mem_toList_iff]
  exact ⟨fun ⟨_, entry, found, same⟩ => ⟨entry, same ▸ found⟩,
    fun ⟨entry, found⟩ => ⟨name, entry, found, rfl⟩⟩

end Table

end TextScanner
