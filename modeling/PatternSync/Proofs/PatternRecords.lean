import PatternSync.Pattern.Wire
import PatternSync.Proofs.ReadBack

/-!
# Reading back patterns

Every pattern that is written as a document can be read again. What is left out of the document is
what its absence stands for, so the pattern comes back as it was, but for the fractions of its
metadata times (`Pattern.decode_toJson`). The times of its conditions keep theirs.
-/

namespace PatternSync

open Wire

namespace Wire

/-! ## Texts and numbers -/

@[simp] theorem textOr_str (absent s : String) : textOr absent (some (.str s)) = s := rfl

@[simp] theorem textOr_textUnlessEmpty (s : String) : textOr "" (Json.textUnlessEmpty s) = s := by
  unfold Json.textUnlessEmpty
  split
  · rename_i hempty
    exact hempty.symm
  · rfl

theorem fits_textUnlessEmpty (name s : String) :
    Fits (name, .optional, .string) (Json.textUnlessEmpty s) := by
  unfold Json.textUnlessEmpty
  split
  · exact fits_none
  · exact fits_some rfl

theorem ofNat_wholeOr (absent : Int) (n : UInt32) :
    UInt32.ofNat (wholeOr absent (some (.int n.toNat))).toNat = n := by
  simp [wholeOr, Json.int]

theorem check_u32 (n : UInt32) : (Shape.whole .u32).check (.int n.toNat) = .ok () := by
  have hbound := n.toNat_lt
  have hrange : WholeRange.u32.least ≤ (n.toNat : Int)
      ∧ (n.toNat : Int) ≤ WholeRange.u32.greatest := by
    simp only [WholeRange.u32]
    omega
  simp [Shape.check, Json.int, Shape.checkWhole, hrange]

theorem objectOf_ne_null (fields : Keyed (Option Json)) : Json.objectOf fields ≠ .null := by
  rw [objectOf_eq]
  exact Json.noConfusion

end Wire

/-! ## Specifications -/

namespace GitSpec

theorem fills (g : GitSpec) : Fills shape
    [ ("targetRepo", some (.str g.targetRepo)),
      ("targetRevision", Json.textUnlessEmpty g.targetRevision),
      ("originRepo", Json.textUnlessEmpty g.originRepo),
      ("originRevision", Json.textUnlessEmpty g.originRevision),
      ("pollInterval", some (.int g.pollInterval.toNat)),
      ("hostname", Json.textUnlessEmpty g.hostname) ] [] where
  names := rfl
  nodup := by decide
  apart := apart_nil _

theorem ofJson_toJson (g : GitSpec) : ofJson g.toJson = g := by
  rw [toJson, objectOf_eq_withExtra, ofJson]
  iterate 6 rw [g.fills.field? (by decide)]
  simp [Keyed.get?, ofNat_wholeOr]

theorem check_toJson (g : GitSpec) : shape.check g.toJson = .ok () := by
  rw [toJson, objectOf_eq_withExtra]
  refine g.fills.check ?_
  simp only [List.forall_mem_cons]
  exact ⟨fits_some rfl, fits_textUnlessEmpty _ _, fits_textUnlessEmpty _ _,
    fits_textUnlessEmpty _ _, fits_some (check_u32 _), fits_textUnlessEmpty _ _,
    List.forall_mem_nil _⟩

end GitSpec

namespace MultiSourceSpec

theorem fills (m : MultiSourceSpec) : Fills shape
    [ ("enabled", some (.bool m.enabled)),
      ("helmRepoUrl", some (.str m.helmRepoUrl)),
      ("clusterGroupChartVersion", some (.str m.clusterGroupChartVersion)),
      ("clusterGroupGitRepoUrl", Json.textUnlessEmpty m.clusterGroupGitRepoUrl),
      ("clusterGroupChartGitRevision", some (.str m.clusterGroupChartGitRevision)) ] [] where
  names := rfl
  nodup := by decide
  apart := apart_nil _

theorem ofJson_toJson (m : MultiSourceSpec) : ofJson m.toJson = m := by
  rw [toJson, objectOf_eq_withExtra, ofJson]
  iterate 5 rw [m.fills.field? (by decide)]
  simp [Keyed.get?, flagOr]

theorem check_toJson (m : MultiSourceSpec) : shape.check m.toJson = .ok () := by
  rw [toJson, objectOf_eq_withExtra]
  refine m.fills.check ?_
  simp only [List.forall_mem_cons]
  exact ⟨fits_some rfl, fits_some rfl, fits_some rfl, fits_textUnlessEmpty _ _, fits_some rfl,
    List.forall_mem_nil _⟩

end MultiSourceSpec

namespace GitOpsSpec

theorem toJson_ne_null (g : GitOpsSpec) : g.toJson ≠ .null :=
  objectOf_ne_null _

theorem fills (g : GitOpsSpec) : Fills shape
    [ ("operatorChannel", Json.textUnlessEmpty g.operatorChannel),
      ("operatorSource", Json.textUnlessEmpty g.operatorSource),
      ("manualSync", some (.bool g.manualSync)),
      ("manualApproval", some (.bool g.manualApproval)),
      ("operatorCSV", Json.textUnlessEmpty g.operatorCsv),
      ("useCSV", some (.bool g.useCsv)) ] [] where
  names := rfl
  nodup := by decide
  apart := apart_nil _

theorem ofJson_toJson (g : GitOpsSpec) : ofJson g.toJson = g := by
  rw [toJson, objectOf_eq_withExtra, ofJson]
  iterate 6 rw [g.fills.field? (by decide)]
  simp [Keyed.get?, flagOr]

theorem check_toJson (g : GitOpsSpec) : shape.check g.toJson = .ok () := by
  rw [toJson, objectOf_eq_withExtra]
  refine g.fills.check ?_
  simp only [List.forall_mem_cons]
  exact ⟨fits_textUnlessEmpty _ _, fits_textUnlessEmpty _ _, fits_some rfl, fits_some rfl,
    fits_textUnlessEmpty _ _, fits_some rfl, List.forall_mem_nil _⟩

end GitOpsSpec

namespace ExtraParameter

theorem toJson_eq (p : ExtraParameter) :
    p.toJson = withExtra [("name", some (.str p.name)), ("value", some (.str p.value))] [] := rfl

theorem fills (p : ExtraParameter) :
    Fills shape [("name", some (.str p.name)), ("value", some (.str p.value))] [] where
  names := rfl
  nodup := by decide
  apart := apart_nil _

theorem ofJson_toJson (p : ExtraParameter) : ofJson p.toJson = p := by
  rw [toJson_eq, ofJson, p.fills.field? (by decide), p.fills.field? (by decide)]
  simp [Keyed.get?]

theorem check_toJson (p : ExtraParameter) : shape.check p.toJson = .ok () := by
  rw [toJson_eq]
  refine p.fills.check ?_
  simp only [List.forall_mem_cons]
  exact ⟨fits_some rfl, fits_some rfl, List.forall_mem_nil _⟩

end ExtraParameter

namespace PatternSpec

theorem fills (s : PatternSpec) : Fills shape
    [ ("clusterGroupName", some (.str s.clusterGroupName)),
      ("gitSpec", some s.git.toJson),
      ("multiSourceConfig", some s.multiSource.toJson),
      ("gitOpsSpec", s.gitOps.map GitOpsSpec.toJson),
      ("extraParameters", Json.listUnlessEmpty (s.extraParameters.map ExtraParameter.toJson)),
      ("extraValueFiles", Json.listUnlessEmpty (s.extraValueFiles.map .str)),
      ("analyticsUUID", Json.textUnlessEmpty s.analyticsUuid) ] [] where
  names := rfl
  nodup := by decide
  apart := apart_nil _

theorem ofJson_toJson (s : PatternSpec) : ofJson s.toJson = s := by
  have hgitOps : optional GitOpsSpec.ofJson (s.gitOps.map GitOpsSpec.toJson) = s.gitOps :=
    optional_map_self GitOpsSpec.toJson_ne_null GitOpsSpec.ofJson_toJson _
  have hparameters : listOf ExtraParameter.ofJson
      (Json.listUnlessEmpty (s.extraParameters.map ExtraParameter.toJson)) = s.extraParameters :=
    listOf_map_self ExtraParameter.ofJson_toJson
  have hfiles : listOf text (Json.listUnlessEmpty (s.extraValueFiles.map .str))
      = s.extraValueFiles := listOf_map_self fun _ => rfl
  rw [toJson, objectOf_eq_withExtra, ofJson]
  iterate 7 rw [s.fills.field? (by decide)]
  simp [Keyed.get?, hgitOps, hparameters, hfiles, Json.orNull, GitSpec.ofJson_toJson,
    MultiSourceSpec.ofJson_toJson]

theorem check_toJson (s : PatternSpec) : shape.check s.toJson = .ok () := by
  rw [toJson, objectOf_eq_withExtra]
  refine s.fills.check ?_
  simp only [List.forall_mem_cons]
  exact ⟨fits_some rfl, fits_some s.git.check_toJson, fits_some s.multiSource.check_toJson,
    fits_map fun g _ => g.check_toJson, fits_list fun p _ => p.check_toJson,
    fits_list fun _ _ => rfl, fits_textUnlessEmpty _ _, List.forall_mem_nil _⟩

end PatternSpec

/-! ## Conditions -/

namespace ConditionType

theorem ofJson_name (t : ConditionType) : ofJson (.str t.name) = t := by
  cases t <;> rfl

theorem check_name (t : ConditionType) : shape.check (.str t.name) = .ok () := by
  cases t <;> rfl

end ConditionType

namespace Condition

/-- Both times lie in years that the clock can show. -/
structure Shown (c : Condition) : Prop where
  updated : Rfc3339.inRange c.lastUpdateTime.date.year
  moved : ∀ t ∈ c.lastTransitionTime, Rfc3339.inRange t.date.year

theorem shown_ofJson (j : Json) : (ofJson j).Shown where
  updated := Metadata.inRange_instant _
  moved := by
    intro t ht
    obtain ⟨k, -, rfl⟩ := mem_optional ht
    exact Metadata.inRange_instant k

theorem instant_text {t : Instant} (h : Rfc3339.inRange t.date.year) :
    instant (.str t.text) = t := by
  have hread : Instant.ofText t.text = .ok t := Instant.ofText_text h
  simp [instant, text, Json.text?, hread]

theorem check_time {t : Instant} (h : Rfc3339.inRange t.date.year) :
    Shape.time.check (.str t.text) = .ok () := by
  have hread : Instant.ofText t.text = .ok t := Instant.ofText_text h
  simp [Shape.check, Shape.checkTime, hread]

theorem fills (c : Condition) : Fills shape
    [ ("type", some (.str c.type.name)),
      ("status", some (.str c.status)),
      ("lastUpdateTime", some (.str c.lastUpdateTime.text)),
      ("lastTransitionTime", c.lastTransitionTime.map fun t => .str t.text),
      ("message", Json.textUnlessEmpty c.message) ] [] where
  names := rfl
  nodup := by decide
  apart := apart_nil _

theorem ofJson_toJson {c : Condition} (h : c.Shown) : ofJson c.toJson = c := by
  have hmoved : optional instant (c.lastTransitionTime.map fun t => .str t.text)
      = c.lastTransitionTime := by
    rw [optional_map (fun _ => Json.noConfusion) fun t ht => instant_text (h.moved t ht),
      Option.map_id']
  rw [toJson, objectOf_eq_withExtra, ofJson]
  iterate 5 rw [c.fills.field? (by decide)]
  simp [Keyed.get?, hmoved, Json.orNull, ConditionType.ofJson_name, instant_text h.updated]

theorem check_toJson {c : Condition} (h : c.Shown) : shape.check c.toJson = .ok () := by
  rw [toJson, objectOf_eq_withExtra]
  refine c.fills.check ?_
  simp only [List.forall_mem_cons]
  exact ⟨fits_some c.type.check_name, fits_some rfl, fits_some (check_time h.updated),
    fits_map fun t ht => check_time (h.moved t ht), fits_textUnlessEmpty _ _,
    List.forall_mem_nil _⟩

end Condition

/-! ## Statuses -/

namespace PatternStatus

def Shown (s : PatternStatus) : Prop :=
  ∀ c ∈ s.conditions, c.Shown

theorem shown_ofJson (j : Json) : (ofJson j).Shown := by
  intro c hc
  obtain ⟨k, rfl⟩ := mem_listOf hc
  exact Condition.shown_ofJson k

theorem toJson_ne_null (s : PatternStatus) : s.toJson ≠ .null :=
  objectOf_ne_null _

theorem fills (s : PatternStatus) : Fills shape
    [ ("lastStep", Json.textUnlessEmpty s.lastStep),
      ("lastError", Json.textUnlessEmpty s.lastError),
      ("version", some (.int s.version.toNat)),
      ("clusterName", some (.str s.clusterName)),
      ("appClusterDomain", some (.str s.appClusterDomain)),
      ("clusterDomain", some (.str s.clusterDomain)),
      ("clusterID", some (.str s.clusterId)),
      ("clusterPlatform", some (.str s.clusterPlatform)),
      ("clusterVersion", some (.str s.clusterVersion)),
      ("conditions", some (.arr (s.conditions.map Condition.toJson))) ] [] where
  names := rfl
  nodup := by decide
  apart := apart_nil _

/-- Apart from its conditions a status is read back as it was, whatever their times are. -/
theorem ofJson_toJson (s : PatternStatus) :
    ofJson s.toJson = { s with conditions := s.conditions.map fun c => .ofJson c.toJson } := by
  have hconditions : listOf Condition.ofJson (some (.arr (s.conditions.map Condition.toJson)))
      = s.conditions.map fun c => .ofJson c.toJson := List.map_map
  rw [toJson, objectOf_eq_withExtra, ofJson]
  iterate 10 rw [s.fills.field? (by decide)]
  simp [Keyed.get?, hconditions, ofNat_wholeOr]

theorem ofJson_toJson_of_shown {s : PatternStatus} (h : s.Shown) : ofJson s.toJson = s := by
  have hconditions : (s.conditions.map fun c => Condition.ofJson c.toJson) = s.conditions :=
    (List.map_congr_left fun c hc => Condition.ofJson_toJson (h c hc)).trans (List.map_id' _)
  rw [ofJson_toJson, hconditions]

theorem check_toJson {s : PatternStatus} (h : s.Shown) : shape.check s.toJson = .ok () := by
  have hconditions : (Shape.list Condition.shape).check
      (.arr (s.conditions.map Condition.toJson)) = .ok () := by
    rw [Shape.check_list, List.forall_mem_map]
    exact fun c hc => Condition.check_toJson (h c hc)
  rw [toJson, objectOf_eq_withExtra]
  refine s.fills.check ?_
  simp only [List.forall_mem_cons]
  exact ⟨fits_textUnlessEmpty _ _, fits_textUnlessEmpty _ _, fits_some (check_u32 _),
    fits_some rfl, fits_some rfl, fits_some rfl, fits_some rfl, fits_some rfl, fits_some rfl,
    fits_some hconditions, List.forall_mem_nil _⟩

end PatternStatus

/-! ## Patterns -/

namespace Pattern

structure Shown (p : Pattern) : Prop where
  metadata : p.metadata.Shown
  status : ∀ s ∈ p.status, s.Shown

theorem shown_ofJson (j : Json) : (ofJson j).Shown where
  metadata := Metadata.shown_ofJson _
  status := by
    intro s hs
    obtain ⟨k, -, rfl⟩ := mem_optional hs
    exact PatternStatus.shown_ofJson k

def wholeSeconds (p : Pattern) : Pattern :=
  { p with metadata := p.metadata.wholeSeconds }

theorem toJson_eq (p : Pattern) :
    p.toJson = withExtra
      [ ("metadata", some p.metadata.toJson),
        ("spec", some p.spec.toJson),
        ("status", p.status.map PatternStatus.toJson) ]
      [("apiVersion", .str apiVersion), ("kind", .str "Pattern")] := by
  cases hstatus : p.status <;>
    simp only [toJson, hstatus, withExtra, Json.objectOf, Json.object, Keyed.ofList, Keyed.put,
      List.map_cons, List.map_nil, List.cons_append, List.nil_append, List.filterMap_cons,
      List.filterMap_nil, List.foldl_cons, List.foldl_nil, Option.map_some, Option.map_none,
      String.reduceLT, String.reduceEq, ↓reduceIte]

theorem fills (p : Pattern) : Fills shape
    [ ("metadata", some p.metadata.toJson),
      ("spec", some p.spec.toJson),
      ("status", p.status.map PatternStatus.toJson) ]
    [("apiVersion", .str apiVersion), ("kind", .str "Pattern")] where
  names := rfl
  nodup := by decide
  apart := by
    simp only [Apart, List.forall_mem_cons]
    exact ⟨by decide, by decide, List.forall_mem_nil _⟩

theorem ofJson_toJson {p : Pattern} (h : p.Shown) : ofJson p.toJson = p.wholeSeconds := by
  have hstatus : optional PatternStatus.ofJson (p.status.map PatternStatus.toJson) = p.status := by
    rw [optional_map PatternStatus.toJson_ne_null fun s hs =>
      PatternStatus.ofJson_toJson_of_shown (h.status s hs), Option.map_id']
  rw [toJson_eq, ofJson]
  iterate 3 rw [p.fills.field? (by decide)]
  simp [Keyed.get?, hstatus, Json.orNull, Metadata.ofJson_toJson h.metadata,
    PatternSpec.ofJson_toJson, wholeSeconds]

theorem check_toJson {p : Pattern} (h : p.Shown) : shape.check p.toJson = .ok () := by
  have hfits : Fits ("status", .optional, .nullable PatternStatus.shape)
      (p.status.map PatternStatus.toJson) :=
    fits_map fun s hs => PatternStatus.check_toJson (h.status s hs)
  have hstatus : Fits ("status", .keyed, .nullable PatternStatus.shape)
      (p.status.map PatternStatus.toJson) :=
    { hfits with present := Presence.noConfusion }
  rw [toJson_eq]
  refine p.fills.check ?_
  simp only [List.forall_mem_cons]
  exact ⟨fits_some (Metadata.check_toJson h.metadata), fits_some p.spec.check_toJson, hstatus,
    List.forall_mem_nil _⟩

/-- A written pattern is read again, with its metadata times in whole seconds. -/
theorem decode_toJson {p : Pattern} (h : p.Shown) :
    decode shape ofJson p.toJson = .ok p.wholeSeconds := by
  rw [decode, check_toJson h, ← ofJson_toJson h]
  rfl

end Pattern

end PatternSync
