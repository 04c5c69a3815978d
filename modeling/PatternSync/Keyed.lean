/-!
# Entries in key order

Lists of entries in ascending order of their keys, without a key twice. They hold the members of
JSON objects, string maps and stored objects. Keys are compared by code points, which is the order
of their bytes.
-/

namespace PatternSync

/-- Entries with a key each. -/
abbrev Keyed (β : Type) := List (String × β)

namespace Keyed

variable {β : Type}

/-- Ascending keys. -/
def Ordered (entries : Keyed β) : Prop :=
  entries.Pairwise fun a b => a.1 < b.1

/-- The value under a key. -/
def get? : Keyed β → String → Option β
  | [], _ => none
  | (k, v) :: rest, key => if key = k then some v else get? rest key

/-- Puts a value under a key, in place of an earlier one. -/
def put (key : String) (value : β) : Keyed β → Keyed β
  | [] => [(key, value)]
  | (k, v) :: rest =>
    if key < k then (key, value) :: (k, v) :: rest
    else if key = k then (key, value) :: rest
    else (k, v) :: put key value rest

/-- Removes the entry under a key. -/
def erase (key : String) (entries : Keyed β) : Keyed β :=
  entries.filter fun e => e.1 ≠ key

/-- The entries in key order; of two with one key the later stays. -/
def ofList (entries : List (String × β)) : Keyed β :=
  entries.foldl (fun acc e => put e.1 e.2 acc) []

@[simp] theorem get?_put_self (key : String) (value : β) (entries : Keyed β) :
    get? (put key value entries) key = some value := by
  induction entries with
  | nil => simp [put, get?]
  | cons e rest ih =>
    obtain ⟨k, v⟩ := e
    unfold put
    split
    · simp [get?]
    · split
      · simp [get?]
      · rename_i h
        simp [get?, h, ih]

theorem get?_put_of_ne {key other : String} (h : other ≠ key) (value : β) (entries : Keyed β) :
    get? (put key value entries) other = get? entries other := by
  induction entries with
  | nil => simp [put, get?, h]
  | cons e rest ih =>
    obtain ⟨k, v⟩ := e
    unfold put
    split
    · simp [get?, h]
    · split
      · rename_i hk
        subst hk
        simp [get?, h]
      · simp [get?, ih]

@[simp] theorem get?_erase_self (key : String) (entries : Keyed β) :
    get? (erase key entries) key = none := by
  induction entries with
  | nil => rfl
  | cons e rest ih =>
    obtain ⟨k, v⟩ := e
    by_cases h : k = key
    · simpa [erase, h] using ih
    · have hne : key ≠ k := fun he => h he.symm
      simpa [erase, h, get?, hne] using ih

theorem get?_erase_of_ne {key other : String} (h : other ≠ key) (entries : Keyed β) :
    get? (erase key entries) other = get? entries other := by
  induction entries with
  | nil => rfl
  | cons e rest ih =>
    obtain ⟨k, v⟩ := e
    by_cases hk : k = key
    · have hne : other ≠ k := fun he => h (he.trans hk)
      simpa [erase, hk, get?, h, hne] using ih
    · by_cases ho : other = k
      · simp [erase, hk, get?, ho]
      · simpa [erase, hk, get?, ho] using ih

/-! ## The order -/

theorem lt_of_not_lt {a b : String} (h : ¬ a < b) (hne : a ≠ b) : b < a := by
  by_cases hba : b < a
  · exact hba
  · exact absurd (String.le_antisymm (String.not_lt.1 hba) (String.not_lt.1 h)) hne

/-- The keys after a put are the earlier ones and the new one. -/
theorem mem_put {key : String} {value : β} {entries : Keyed β} {e : String × β}
    (h : e ∈ put key value entries) : e.1 = key ∨ e ∈ entries := by
  induction entries with
  | nil => exact .inl (by simp_all [put])
  | cons first rest ih =>
    obtain ⟨k, v⟩ := first
    unfold put at h
    split at h
    · rcases List.mem_cons.1 h with rfl | h
      · exact .inl rfl
      · exact .inr h
    · split at h
      · rcases List.mem_cons.1 h with rfl | h
        · exact .inl rfl
        · exact .inr (List.mem_cons_of_mem _ h)
      · rcases List.mem_cons.1 h with rfl | h
        · exact .inr List.mem_cons_self
        · exact (ih h).imp_right (List.mem_cons_of_mem _)

theorem ordered_put (key : String) (value : β) {entries : Keyed β} (h : Ordered entries) :
    Ordered (put key value entries) := by
  induction entries with
  | nil => exact List.pairwise_singleton ..
  | cons first rest ih =>
    obtain ⟨k, v⟩ := first
    obtain ⟨hfirst, hrest⟩ := List.pairwise_cons.1 h
    unfold put
    split
    · rename_i hlt
      refine List.pairwise_cons.2 ⟨fun e he => ?_, h⟩
      rcases List.mem_cons.1 he with rfl | he
      · exact hlt
      · exact String.lt_trans hlt (hfirst e he)
    · rename_i hnot
      split
      · rename_i heq
        subst heq
        exact List.pairwise_cons.2 ⟨hfirst, hrest⟩
      · rename_i hne
        refine List.pairwise_cons.2 ⟨fun e he => ?_, ih hrest⟩
        rcases mem_put he with hkey | he
        · exact hkey ▸ lt_of_not_lt hnot hne
        · exact hfirst e he

theorem ordered_erase (key : String) {entries : Keyed β} (h : Ordered entries) :
    Ordered (erase key entries) :=
  List.Pairwise.filter _ h

theorem ordered_foldl_put (entries : List (String × β)) {acc : Keyed β} (h : Ordered acc) :
    Ordered (entries.foldl (fun acc e => put e.1 e.2 acc) acc) := by
  induction entries generalizing acc with
  | nil => exact h
  | cons e rest ih => exact ih (ordered_put e.1 e.2 h)

theorem ordered_ofList (entries : List (String × β)) : Ordered (ofList entries) :=
  ordered_foldl_put entries List.Pairwise.nil

end Keyed

end PatternSync
