import PatternSync.Keyed

/-!
# Looking up entries

What `get?` finds in entries that were appended, filtered, reversed or brought into key order.
Main statements: of the entries under one key, the last one decides what `ofList` holds
(`get?_ofList`), and entries in key order are determined by what is found in them
(`eq_of_get?_eq`).
-/

namespace PatternSync.Keyed

variable {β : Type}

/-! ## Presence -/

theorem get?_eq_none_iff {entries : Keyed β} {key : String} :
    get? entries key = none ↔ key ∉ entries.map Prod.fst := by
  induction entries with
  | nil => simp [get?]
  | cons e rest ih =>
    obtain ⟨k, v⟩ := e
    by_cases h : key = k
    · simp [get?, h]
    · simpa [get?, h] using ih

theorem mem_of_get? {entries : Keyed β} {key : String} {value : β}
    (h : get? entries key = some value) : (key, value) ∈ entries := by
  induction entries with
  | nil => cases h
  | cons e rest ih =>
    obtain ⟨k, v⟩ := e
    unfold get? at h
    split at h
    · rename_i hk
      cases h
      exact hk ▸ List.mem_cons_self
    · exact List.mem_cons_of_mem _ (ih h)

theorem get?_of_mem {entries : Keyed β} (h : (entries.map Prod.fst).Nodup) {key : String}
    {value : β} (hmem : (key, value) ∈ entries) : get? entries key = some value := by
  induction entries with
  | nil => cases hmem
  | cons e rest ih =>
    obtain ⟨k, v⟩ := e
    obtain ⟨hk, hrest⟩ := List.nodup_cons.1 h
    rcases List.mem_cons.1 hmem with heq | hmem
    · cases heq
      simp [get?]
    · have hkey : key ∈ rest.map Prod.fst := List.mem_map.2 ⟨_, hmem, rfl⟩
      have hne : key ≠ k := fun heq => hk (heq ▸ hkey)
      simpa [get?, hne] using ih hrest hmem

/-! ## Lists of entries -/

theorem get?_append (a b : Keyed β) (key : String) :
    get? (a ++ b) key = (get? a key).or (get? b key) := by
  induction a with
  | nil => rfl
  | cons e rest ih =>
    obtain ⟨k, v⟩ := e
    by_cases h : key = k
    · simp [get?, h]
    · simpa [get?, h] using ih

theorem get?_filter (keep : String → Bool) (entries : Keyed β) (key : String) :
    get? (entries.filter fun e => keep e.1) key = if keep key then get? entries key else none := by
  induction entries with
  | nil => simp [get?]
  | cons e rest ih =>
    obtain ⟨k, v⟩ := e
    by_cases hkeep : keep k
    · by_cases h : key = k
      · simp [get?, hkeep, h]
      · simpa [get?, hkeep, h] using ih
    · by_cases h : key = k
      · simp [hkeep, h] at ih ⊢
        exact ih
      · simpa [get?, hkeep, h] using ih

theorem get?_reverse {entries : Keyed β} (h : (entries.map Prod.fst).Nodup) (key : String) :
    get? entries.reverse key = get? entries key := by
  induction entries with
  | nil => rfl
  | cons e rest ih =>
    obtain ⟨k, v⟩ := e
    obtain ⟨hk, hrest⟩ := List.nodup_cons.1 h
    rw [List.reverse_cons, get?_append, ih hrest]
    by_cases hkey : key = k
    · subst hkey
      rw [get?_eq_none_iff.2 hk]
      simp [get?]
    · have htail : get? [(k, v)] key = none := by simp [get?, hkey]
      have hhead : get? ((k, v) :: rest) key = get? rest key := by simp [get?, hkey]
      rw [htail, hhead, Option.or_none]

/-- Of optional values under distinct keys, the present ones are found. -/
theorem get?_filterMap {entries : Keyed (Option β)} (h : (entries.map Prod.fst).Nodup)
    (key : String) :
    get? (entries.filterMap fun e => e.2.map (e.1, ·)) key = (get? entries key).join := by
  induction entries with
  | nil => rfl
  | cons e rest ih =>
    obtain ⟨k, v⟩ := e
    obtain ⟨hk, hrest⟩ := List.nodup_cons.1 h
    have hih := ih hrest
    cases v with
    | none =>
      by_cases hkey : key = k
      · subst hkey
        rw [get?_eq_none_iff.2 hk] at hih
        simpa [get?] using hih
      · simpa [get?, hkey] using hih
    | some value =>
      by_cases hkey : key = k
      · simp [get?, hkey]
      · simpa [get?, hkey] using hih

/-! ## Changes -/

theorem get?_put (key other : String) (value : β) (entries : Keyed β) :
    get? (put key value entries) other
      = if other = key then some value else get? entries other := by
  split
  · rename_i h
    rw [h, get?_put_self]
  · rename_i h
    exact get?_put_of_ne h value entries

theorem get?_erase (key other : String) (entries : Keyed β) :
    get? (erase key entries) other = if other = key then none else get? entries other := by
  split
  · rename_i h
    rw [h, get?_erase_self]
  · rename_i h
    exact get?_erase_of_ne h entries

theorem mem_of_mem_erase {key : String} {entries : Keyed β} {e : String × β}
    (h : e ∈ erase key entries) : e ∈ entries :=
  (List.mem_filter.1 h).1

/-- After a put an entry is the new one or an earlier one. -/
theorem eq_or_mem_of_mem_put {key : String} {value : β} {entries : Keyed β} {e : String × β}
    (h : e ∈ put key value entries) : e = (key, value) ∨ e ∈ entries := by
  induction entries with
  | nil => exact .inl (List.mem_singleton.1 h)
  | cons first rest ih =>
    obtain ⟨k, v⟩ := first
    unfold put at h
    split at h
    · exact List.mem_cons.1 h
    · split at h
      · exact (List.mem_cons.1 h).imp_right (List.mem_cons_of_mem _)
      · rcases List.mem_cons.1 h with rfl | h
        · exact .inr List.mem_cons_self
        · exact (ih h).imp_right (List.mem_cons_of_mem _)

/-! ## Entries brought into key order -/

theorem get?_foldl_put (entries : List (String × β)) (acc : Keyed β) (key : String) :
    get? (entries.foldl (fun acc e => put e.1 e.2 acc) acc) key
      = (get? entries.reverse key).or (get? acc key) := by
  induction entries generalizing acc with
  | nil => rfl
  | cons e rest ih =>
    obtain ⟨k, v⟩ := e
    rw [List.foldl_cons, ih, get?_put, List.reverse_cons, get?_append]
    by_cases h : key = k
    · simp [get?, h]
    · simp [get?, h]

/-- Of the entries under one key the last one is held. -/
theorem get?_ofList (entries : List (String × β)) (key : String) :
    get? (ofList entries) key = get? entries.reverse key := by
  rw [ofList, get?_foldl_put]
  exact Option.or_none

theorem get?_ofList_of_nodup {entries : List (String × β)} (h : (entries.map Prod.fst).Nodup)
    (key : String) : get? (ofList entries) key = get? entries key := by
  rw [get?_ofList, get?_reverse h]

theorem mem_of_mem_foldl_put {entries : List (String × β)} {acc : Keyed β} {e : String × β}
    (h : e ∈ entries.foldl (fun acc e => put e.1 e.2 acc) acc) : e ∈ entries ∨ e ∈ acc := by
  induction entries generalizing acc with
  | nil => exact .inr h
  | cons first rest ih =>
    rcases ih h with hrest | hacc
    · exact .inl (List.mem_cons_of_mem _ hrest)
    · rcases eq_or_mem_of_mem_put hacc with rfl | hacc
      · exact .inl List.mem_cons_self
      · exact .inr hacc

theorem mem_of_mem_ofList {entries : List (String × β)} {e : String × β}
    (h : e ∈ ofList entries) : e ∈ entries :=
  (mem_of_mem_foldl_put h).resolve_right (List.not_mem_nil)

theorem Ordered.get?_eq_none {entries : Keyed β} {key : String}
    (h : ∀ e ∈ entries, key < e.1) : get? entries key = none := by
  rw [get?_eq_none_iff, List.mem_map]
  rintro ⟨e, he, rfl⟩
  exact String.lt_irrefl _ (h e he)

/-- Entries in key order are determined by what is found in them. -/
theorem eq_of_get?_eq {a b : Keyed β} (ha : Ordered a) (hb : Ordered b)
    (h : ∀ key, get? a key = get? b key) : a = b := by
  induction a generalizing b with
  | nil =>
    cases b with
    | nil => rfl
    | cons e rest =>
      have hfound := h e.1
      simp [get?] at hfound
  | cons x xs ih =>
    obtain ⟨k, v⟩ := x
    obtain ⟨hxs, hxs'⟩ := List.pairwise_cons.1 ha
    cases b with
    | nil =>
      have hfound := h k
      simp [get?] at hfound
    | cons y ys =>
      obtain ⟨l, w⟩ := y
      obtain ⟨hys, hys'⟩ := List.pairwise_cons.1 hb
      have hkey : k = l := by
        refine Decidable.byContradiction fun hne => ?_
        have hk := h k
        have hl := h l
        simp only [get?, if_true, if_neg hne, if_neg (Ne.symm hne)] at hk hl
        have hlk : l < k := hys _ (mem_of_get? hk.symm)
        have hkl : k < l := hxs _ (mem_of_get? hl)
        exact String.lt_irrefl _ (String.lt_trans hlk hkl)
      subst hkey
      have hvalue : v = w := by simpa [get?] using h k
      subst hvalue
      have htail : xs = ys := by
        refine ih hxs' hys' fun key => ?_
        by_cases hk : key = k
        · subst hk
          rw [Ordered.get?_eq_none hxs, Ordered.get?_eq_none hys]
        · simpa [get?, hk] using h key
      rw [htail]

theorem Ordered.nodup {entries : Keyed β} (h : Ordered entries) :
    (entries.map Prod.fst).Nodup := by
  rw [List.Nodup, List.pairwise_map]
  refine List.Pairwise.imp ?_ h
  intro a b hab heq
  exact String.lt_irrefl _ (heq ▸ hab)

end PatternSync.Keyed
