import Mathlib.Data.List.TakeWhile
import PatternSync.Settings

/-!
# Accepted settings

Which maps of texts are settings, and which settings they are. Two entries count. The manual sync
switch has to be the word for it, with nothing but blank characters around (`switch?_eq_some_iff`);
the namespace can be anything, and an empty one is none. Main statement: a map is accepted exactly
if the first of these says so, and as what the two say (`ofData_eq_ok_iff`).
-/

namespace PatternSync

open Text

namespace Text

/-! ## Blanks at the ends -/

def Blank (cs : List Char) : Prop :=
  ∀ c ∈ cs, isBlank c = true

/-- A text that consists of `word`, with blank characters before and after it. -/
def Surrounds (word raw : String) : Prop :=
  ∃ before after : String, raw = before ++ word ++ after ∧ Blank before.toList
    ∧ Blank after.toList

theorem exists_blank_start (cs : List Char) :
    ∃ before, Blank before ∧ cs = before ++ trimStart cs :=
  ⟨cs.takeWhile isBlank, fun _ hc => List.mem_takeWhile_imp hc,
    List.takeWhile_append_dropWhile.symm⟩

theorem trimStart_append {before cs : List Char} (h : Blank before) :
    trimStart (before ++ cs) = trimStart cs :=
  List.dropWhile_append_of_pos h

theorem trimStart_of_head {c : Char} {cs : List Char} (h : isBlank c = false) :
    trimStart (c :: cs) = c :: cs :=
  List.dropWhile_cons_of_neg (by rw [h]; decide)

theorem trimStart_eq_self {cs : List Char} (h : ∀ c ∈ cs, isBlank c = false) :
    trimStart cs = cs := by
  cases cs with
  | nil => rfl
  | cons c cs => exact trimStart_of_head (h c List.mem_cons_self)

theorem surrounds_trim (s : String) : Surrounds (trim s) s := by
  obtain ⟨before, hbefore, hs⟩ := exists_blank_start s.toList
  obtain ⟨behind, hbehind, hrest⟩ := exists_blank_start (trimStart s.toList).reverse
  have hword : trimStart s.toList = (trim s).toList ++ behind.reverse := by
    rw [trim, String.toList_ofList, ← List.reverse_append, ← hrest, List.reverse_reverse]
  refine ⟨String.ofList before, String.ofList behind.reverse, ?_, ?_, ?_⟩
  · rw [← String.toList_inj, String.toList_append, String.toList_append, String.toList_ofList,
      String.toList_ofList, List.append_assoc, ← hword]
    exact hs
  · rwa [String.toList_ofList]
  · rw [String.toList_ofList]
    exact fun c hc => hbehind c (List.mem_reverse.1 hc)

/-- Blank characters around a word without any are cut off, and nothing else is. -/
theorem trim_of_surrounds {word raw : String} (h : Surrounds word raw) (hne : word ≠ "")
    (hword : ∀ c ∈ word.toList, isBlank c = false) : trim raw = word := by
  obtain ⟨before, behind, rfl, hbefore, hbehind⟩ := h
  have hbehind' : Blank behind.toList.reverse := fun c hc => hbehind c (List.mem_reverse.1 hc)
  have hword' : ∀ c ∈ word.toList.reverse, isBlank c = false :=
    fun c hc => hword c (List.mem_reverse.1 hc)
  have hstart : trimStart (word.toList ++ behind.toList) = word.toList ++ behind.toList := by
    cases hchars : word.toList with
    | nil => exact absurd (String.toList_eq_nil_iff.1 hchars) hne
    | cons c cs => exact trimStart_of_head (hword c (hchars ▸ List.mem_cons_self))
  rw [trim, String.toList_append, String.toList_append, List.append_assoc, trimStart_append hbefore,
    hstart, List.reverse_append, trimStart_append hbehind', trimStart_eq_self hword',
    List.reverse_reverse, String.ofList_toList]

end Text

namespace Settings

/-! ## The manual sync switch -/

def switchWord : Bool → String
  | true => "true"
  | false => "false"

theorem switchWord_ne_empty (b : Bool) : switchWord b ≠ "" := by
  cases b <;> decide

theorem switchWord_not_blank (b : Bool) : ∀ c ∈ (switchWord b).toList, isBlank c = false := by
  have hall : (switchWord b).toList.all (! isBlank ·) = true := by cases b <;> decide
  intro c hc
  simpa using List.all_eq_true.1 hall c hc

theorem switch?_eq_some_iff {raw : String} {b : Bool} :
    switch? raw = some b ↔ Surrounds (switchWord b) raw := by
  have hread : switch? raw = some b ↔ trim raw = switchWord b := by
    unfold switch?
    split
    · rename_i htrue
      rw [htrue]
      cases b <;> decide
    · rename_i hfalse
      rw [hfalse]
      cases b <;> decide
    · rename_i htrue hfalse
      cases b with
      | true => exact iff_of_false nofun htrue
      | false => exact iff_of_false nofun hfalse
  rw [hread]
  constructor
  · intro htrim
    exact htrim ▸ surrounds_trim raw
  · exact fun h => trim_of_surrounds h (switchWord_ne_empty b) (switchWord_not_blank b)

/-! ## Accepted maps -/

/-- The namespace that a map names; an empty one is none. -/
def namedNamespace (data : Keyed String) : Option String :=
  (Keyed.get? data applicationNamespaceKey).filter (· ≠ "")

/-- A map says that these are the settings. -/
structure Says (data : Keyed String) (s : Settings) : Prop where
  namespace_eq : s.applicationNamespace = (namedNamespace data).getD "openshift-gitops"
  unset : Keyed.get? data manualSyncKey = none → s.manualSync = false
  set : ∀ raw, Keyed.get? data manualSyncKey = some raw → Surrounds (switchWord s.manualSync) raw

/-- Where an entry puts the switch: it is off without one. -/
def position : Option String → Except String Bool
  | none => .ok false
  | some raw =>
    match switch? raw with
    | some b => .ok b
    | none => .error (badSwitch raw)

/-- The settings of a map depend on what the two entries say. -/
theorem ofData_eq (data : Keyed String) :
    ofData data = (position (Keyed.get? data manualSyncKey)).map fun manualSync =>
      { applicationNamespace := (namedNamespace data).getD "openshift-gitops", manualSync } := by
  have hnamespace : (match Keyed.get? data applicationNamespaceKey with
      | none => "openshift-gitops"
      | some ns => if ns = "" then "openshift-gitops" else ns)
      = (namedNamespace data).getD "openshift-gitops" := by
    rw [namedNamespace]
    cases Keyed.get? data applicationNamespaceKey with
    | none => rfl
    | some ns => by_cases h : ns = "" <;> simp [Option.filter, h]
  rw [← hnamespace, ofData]
  cases Keyed.get? data manualSyncKey with
  | none => rfl
  | some raw =>
    dsimp only [position]
    cases switch? raw <;> rfl

theorem position_eq_ok_iff {entry : Option String} {b : Bool} :
    position entry = .ok b
      ↔ (entry = none → b = false) ∧ ∀ raw, entry = some raw → Surrounds (switchWord b) raw := by
  cases entry with
  | none => simp [position, eq_comm]
  | some raw =>
    rw [position]
    cases hswitch : switch? raw with
    | some c => simp [← switch?_eq_some_iff, hswitch]
    | none => simp [← switch?_eq_some_iff, hswitch]

theorem ofData_eq_ok_iff {data : Keyed String} {s : Settings} :
    ofData data = .ok s ↔ Says data s := by
  rw [ofData_eq]
  constructor
  · intro h
    cases hposition : position (Keyed.get? data manualSyncKey) with
    | error complaint =>
      rw [hposition] at h
      cases h
    | ok b =>
      rw [hposition] at h
      cases h
      obtain ⟨hunset, hset⟩ := position_eq_ok_iff.1 hposition
      exact ⟨rfl, hunset, hset⟩
  · rintro ⟨hnamespace, hunset, hset⟩
    rw [position_eq_ok_iff.2 ⟨hunset, hset⟩, ← hnamespace]
    rfl

/-- A map is accepted if the switch is not set, or set to a position. -/
theorem accepted_iff {data : Keyed String} :
    (∃ s, ofData data = .ok s)
      ↔ ∀ raw, Keyed.get? data manualSyncKey = some raw → ∃ b, Surrounds (switchWord b) raw := by
  constructor
  · rintro ⟨s, hs⟩ raw hraw
    exact ⟨s.manualSync, (ofData_eq_ok_iff.1 hs).set raw hraw⟩
  · intro h
    rw [ofData_eq]
    cases hentry : Keyed.get? data manualSyncKey with
    | none => exact ⟨_, rfl⟩
    | some raw =>
      obtain ⟨b, hb⟩ := h raw hentry
      rw [position, switch?_eq_some_iff.2 hb]
      exact ⟨_, rfl⟩

theorem ofData_congr {data other : Keyed String}
    (hswitch : Keyed.get? other manualSyncKey = Keyed.get? data manualSyncKey)
    (hnamespace : namedNamespace other = namedNamespace data) : ofData other = ofData data := by
  rw [ofData_eq, ofData_eq, hswitch, hnamespace]

end Settings

end PatternSync
