import PatternSync.Proofs.Instants
import PatternSync.Proofs.Records

/-!
# Reading back applications

Every application that is written as a document can be read again. What comes back is the
application itself, but for the order of the members it does not know and for the fractions of its
times (`decode_toJson`). The unknown members must not bear the names of fields, which holds for
whatever was read from a document (`tidy_ofJson`).
-/

namespace PatternSync

open Wire

namespace Wire

/-! ## Fields -/

theorem optional_map {α β : Type} {read : Json → β} {write : α → Json} {back : α → β}
    (hnull : ∀ a, write a ≠ .null) {o : Option α} (h : ∀ a ∈ o, read (write a) = back a) :
    optional read (o.map write) = o.map back := by
  cases o with
  | none => rfl
  | some a =>
    have hne := hnull a
    rw [Option.map_some, Option.map_some, ← h a rfl]
    cases hwrite : write a <;> simp_all [optional]

theorem optional_map_self {α : Type} {read : Json → α} {write : α → Json}
    (hnull : ∀ a, write a ≠ .null) (h : ∀ a, read (write a) = a) (o : Option α) :
    optional read (o.map write) = o := by
  rw [optional_map hnull fun a _ => h a, Option.map_id']

theorem optional_text (o : Option String) : optional text (o.map .str) = o := by
  cases o <;> rfl

theorem optional_flag (o : Option Bool) : optional flag (o.map .bool) = o := by
  cases o <;> rfl

theorem withExtra_ne_null (fields : Keyed (Option Json)) (extra : Keyed Json) :
    withExtra fields extra ≠ .null := by
  rw [withExtra_eq]
  exact Json.noConfusion

theorem mem_optional {α : Type} {read : Json → α} {o : Option Json} {a : α}
    (h : a ∈ optional read o) : ∃ j, o = some j ∧ read j = a := by
  unfold optional at h
  split at h
  · cases h
  · cases h
  · cases h
    exact ⟨_, rfl, rfl⟩

theorem mem_listOf {α : Type} {read : Json → α} {o : Option Json} {a : α}
    (h : a ∈ listOf read o) : ∃ j, read j = a := by
  unfold listOf at h
  split at h
  · obtain ⟨j, -, hj⟩ := List.mem_map.1 h
    exact ⟨j, hj⟩
  · cases h

theorem objectOf_eq_withExtra (fields : Keyed (Option Json)) :
    Json.objectOf fields = withExtra fields [] := by
  rw [withExtra_eq, objectOf_eq]

/-! ## Values that suit a field -/

theorem fits_some {name : String} {presence : Presence} {shape : Shape} {j : Json}
    (h : shape.check j = .ok ()) : Fits (name, presence, shape) (some j) where
  present := fun _ => rfl
  check := by
    rintro k ⟨⟩
    exact h

theorem fits_none {name : String} {shape : Shape} : Fits (name, .optional, shape) none where
  present := Presence.noConfusion
  check := by
    rintro k ⟨⟩

theorem fits_map {α : Type} {name : String} {shape : Shape} {write : α → Json} {o : Option α}
    (h : ∀ a ∈ o, shape.check (write a) = .ok ()) :
    Fits (name, .optional, .nullable shape) (o.map write) where
  present := Presence.noConfusion
  check := by
    intro j hj
    obtain ⟨a, ha, rfl⟩ := Option.map_eq_some_iff.1 hj
    exact Shape.check_nullable.2 (.inr (h a ha))

theorem fits_texts (name : String) (o : Option String) :
    Fits (name, .optional, .nullable .string) (o.map .str) :=
  fits_map fun _ _ => rfl

theorem fits_list {α : Type} {name : String} {item : Shape} {write : α → Json} {items : List α}
    (h : ∀ a ∈ items, item.check (write a) = .ok ()) :
    Fits (name, .optional, .list item) (Json.listUnlessEmpty (items.map write)) where
  present := Presence.noConfusion
  check := by
    intro j hj
    unfold Json.listUnlessEmpty at hj
    split at hj
    · cases hj
    · cases hj
      rw [Shape.check_list, List.forall_mem_map]
      exact h

end Wire

/-! ## Parameters -/

namespace Parameter

theorem fills (p : Parameter) : Fills shape
    [ ("name", some (.str p.name)),
      ("value", some (.str p.value)),
      ("forceString", if p.forceString then some (.bool true) else none) ] [] where
  names := rfl
  nodup := by decide
  apart := apart_nil _

theorem ofJson_toJson (p : Parameter) : ofJson p.toJson = p := by
  rw [toJson, objectOf_eq_withExtra, ofJson]
  rw [p.fills.field? (by decide), p.fills.field? (by decide), p.fills.field? (by decide)]
  obtain ⟨name, value, forceString⟩ := p
  cases forceString <;> rfl

theorem check_toJson (p : Parameter) : shape.check p.toJson = .ok () := by
  have hforce : Fits ("forceString", .optional, .bool)
      (if p.forceString then some (.bool true) else none) := by
    split
    · exact fits_some rfl
    · exact fits_none
  rw [toJson, objectOf_eq_withExtra]
  refine p.fills.check ?_
  simp only [List.forall_mem_cons]
  exact ⟨fits_some rfl, fits_some rfl, hforce, List.forall_mem_nil _⟩

end Parameter

/-! ## Helm settings -/

namespace HelmSettings

theorem toJson_ne_null (h : HelmSettings) : h.toJson ≠ .null :=
  withExtra_ne_null _ _

/-- None of the unknown members bears the name of a field. -/
def Tidy (h : HelmSettings) : Prop :=
  Apart shape.fieldNames h.extra

/-- The settings with their unknown members in key order. -/
def normal (h : HelmSettings) : HelmSettings :=
  { h with extra := Keyed.ofList h.extra }

theorem tidy_ofJson (j : Json) : (ofJson j).Tidy :=
  apart_unknownMembers _ _

theorem Tidy.fills {h : HelmSettings} (htidy : h.Tidy) : Fills shape
    [ ("valueFiles", Json.listUnlessEmpty (h.valueFiles.map .str)),
      ("parameters", Json.listUnlessEmpty (h.parameters.map Parameter.toJson)),
      ("ignoreMissingValueFiles", h.ignoreMissingValueFiles.map .bool) ] h.extra where
  names := rfl
  nodup := by decide
  apart := htidy

theorem ofJson_toJson {h : HelmSettings} (htidy : h.Tidy) : ofJson h.toJson = h.normal := by
  have hfiles : listOf text (Json.listUnlessEmpty (h.valueFiles.map .str)) = h.valueFiles :=
    listOf_map_self fun _ => rfl
  have hparameters : listOf Parameter.ofJson
      (Json.listUnlessEmpty (h.parameters.map Parameter.toJson)) = h.parameters :=
    listOf_map_self Parameter.ofJson_toJson
  rw [toJson, ofJson, htidy.fills.field? (by decide), htidy.fills.field? (by decide),
    htidy.fills.field? (by decide), htidy.fills.unknownMembers]
  simp [Keyed.get?, hfiles, hparameters, optional_flag, normal]

theorem check_toJson {h : HelmSettings} (htidy : h.Tidy) : shape.check h.toJson = .ok () := by
  rw [toJson]
  refine htidy.fills.check ?_
  simp only [List.forall_mem_cons]
  exact ⟨fits_list fun _ _ => rfl, fits_list fun p _ => p.check_toJson, fits_map fun _ _ => rfl,
    List.forall_mem_nil _⟩

end HelmSettings

/-! ## Sources -/

namespace Source

theorem toJson_ne_null (s : Source) : s.toJson ≠ .null :=
  withExtra_ne_null _ _

structure Tidy (s : Source) : Prop where
  apart : Apart shape.fieldNames s.extra
  helm : ∀ h ∈ s.helm, h.Tidy

def normal (s : Source) : Source :=
  { s with helm := s.helm.map HelmSettings.normal, extra := Keyed.ofList s.extra }

theorem tidy_ofJson (j : Json) : (ofJson j).Tidy where
  apart := apart_unknownMembers _ _
  helm := by
    intro h hh
    obtain ⟨k, -, rfl⟩ := mem_optional hh
    exact HelmSettings.tidy_ofJson k

theorem Tidy.fills {s : Source} (h : s.Tidy) : Fills shape
    [ ("repoURL", some (.str s.repoUrl)),
      ("path", s.path.map .str),
      ("targetRevision", s.targetRevision.map .str),
      ("chart", s.chart.map .str),
      ("ref", s.ref.map .str),
      ("helm", s.helm.map HelmSettings.toJson) ] s.extra where
  names := rfl
  nodup := by decide
  apart := h.apart

theorem ofJson_toJson {s : Source} (h : s.Tidy) : ofJson s.toJson = s.normal := by
  have hhelm : optional HelmSettings.ofJson (s.helm.map HelmSettings.toJson)
      = s.helm.map HelmSettings.normal :=
    optional_map HelmSettings.toJson_ne_null fun k hk =>
      HelmSettings.ofJson_toJson (h.helm k hk)
  rw [toJson, ofJson, h.fills.field? (by decide), h.fills.field? (by decide),
    h.fills.field? (by decide), h.fills.field? (by decide), h.fills.field? (by decide),
    h.fills.field? (by decide), h.fills.unknownMembers]
  simp [Keyed.get?, hhelm, textOr, Json.text?, optional_text, normal]

theorem check_toJson {s : Source} (h : s.Tidy) : shape.check s.toJson = .ok () := by
  rw [toJson]
  refine h.fills.check ?_
  simp only [List.forall_mem_cons]
  exact ⟨fits_some rfl, fits_texts _ _, fits_texts _ _, fits_texts _ _, fits_texts _ _,
    fits_map fun k hk => HelmSettings.check_toJson (h.helm k hk), List.forall_mem_nil _⟩

end Source

/-! ## Destinations -/

namespace Destination

theorem fills (d : Destination) : Fills shape
    [("server", d.server.map .str), ("namespace", d.namespaceName.map .str)] [] where
  names := rfl
  nodup := by decide
  apart := apart_nil _

theorem ofJson_toJson (d : Destination) : ofJson d.toJson = d := by
  rw [toJson, objectOf_eq_withExtra, ofJson, d.fills.field? (by decide),
    d.fills.field? (by decide)]
  simp [Keyed.get?, optional_text]

theorem check_toJson (d : Destination) : shape.check d.toJson = .ok () := by
  rw [toJson, objectOf_eq_withExtra]
  refine d.fills.check ?_
  simp only [List.forall_mem_cons]
  exact ⟨fits_texts _ _, fits_texts _ _, List.forall_mem_nil _⟩

end Destination

/-! ## Sync policies -/

namespace AutomatedSync

theorem toJson_ne_null (a : AutomatedSync) : a.toJson ≠ .null :=
  withExtra_ne_null _ _

def Tidy (a : AutomatedSync) : Prop :=
  Apart shape.fieldNames a.extra

def normal (a : AutomatedSync) : AutomatedSync :=
  { a with extra := Keyed.ofList a.extra }

theorem tidy_ofJson (j : Json) : (ofJson j).Tidy :=
  apart_unknownMembers _ _

theorem Tidy.fills {a : AutomatedSync} (h : a.Tidy) : Fills shape
    [("prune", some (.bool a.prune)), ("selfHeal", some (.bool a.selfHeal))] a.extra where
  names := rfl
  nodup := by decide
  apart := h

theorem ofJson_toJson {a : AutomatedSync} (h : a.Tidy) : ofJson a.toJson = a.normal := by
  rw [toJson, ofJson, h.fills.field? (by decide), h.fills.field? (by decide),
    h.fills.unknownMembers]
  simp [Keyed.get?, flagOr, normal]

theorem check_toJson {a : AutomatedSync} (h : a.Tidy) : shape.check a.toJson = .ok () := by
  rw [toJson]
  refine h.fills.check ?_
  simp only [List.forall_mem_cons]
  exact ⟨fits_some rfl, fits_some rfl, List.forall_mem_nil _⟩

end AutomatedSync

namespace SyncPolicy

theorem toJson_ne_null (p : SyncPolicy) : p.toJson ≠ .null :=
  withExtra_ne_null _ _

structure Tidy (p : SyncPolicy) : Prop where
  apart : Apart shape.fieldNames p.extra
  automated : ∀ a ∈ p.automated, a.Tidy

def normal (p : SyncPolicy) : SyncPolicy where
  automated := p.automated.map AutomatedSync.normal
  extra := Keyed.ofList p.extra

theorem tidy_ofJson (j : Json) : (ofJson j).Tidy where
  apart := apart_unknownMembers _ _
  automated := by
    intro a ha
    obtain ⟨k, -, rfl⟩ := mem_optional ha
    exact AutomatedSync.tidy_ofJson k

theorem Tidy.fills {p : SyncPolicy} (h : p.Tidy) :
    Fills shape [("automated", p.automated.map AutomatedSync.toJson)] p.extra where
  names := rfl
  nodup := by decide
  apart := h.apart

theorem ofJson_toJson {p : SyncPolicy} (h : p.Tidy) : ofJson p.toJson = p.normal := by
  have hautomated : optional AutomatedSync.ofJson (p.automated.map AutomatedSync.toJson)
      = p.automated.map AutomatedSync.normal :=
    optional_map AutomatedSync.toJson_ne_null fun a ha =>
      AutomatedSync.ofJson_toJson (h.automated a ha)
  rw [toJson, ofJson, h.fills.field? (by decide), h.fills.unknownMembers]
  simp [Keyed.get?, hautomated, normal]

theorem check_toJson {p : SyncPolicy} (h : p.Tidy) : shape.check p.toJson = .ok () := by
  rw [toJson]
  refine h.fills.check ?_
  simp only [List.forall_mem_cons]
  exact ⟨fits_map fun a ha => AutomatedSync.check_toJson (h.automated a ha),
    List.forall_mem_nil _⟩

end SyncPolicy

/-! ## Specifications -/

namespace ApplicationSpec

structure Tidy (s : ApplicationSpec) : Prop where
  source : ∀ x ∈ s.source, x.Tidy
  sources : ∀ x ∈ s.sources, x.Tidy
  syncPolicy : ∀ p ∈ s.syncPolicy, p.Tidy

def normal (s : ApplicationSpec) : ApplicationSpec :=
  { s with
    source := s.source.map Source.normal
    sources := s.sources.map Source.normal
    syncPolicy := s.syncPolicy.map SyncPolicy.normal }

theorem tidy_ofJson (j : Json) : (ofJson j).Tidy where
  source := by
    intro x hx
    obtain ⟨k, -, rfl⟩ := mem_optional hx
    exact Source.tidy_ofJson k
  sources := by
    intro x hx
    obtain ⟨k, rfl⟩ := mem_listOf hx
    exact Source.tidy_ofJson k
  syncPolicy := by
    intro p hp
    obtain ⟨k, -, rfl⟩ := mem_optional hp
    exact SyncPolicy.tidy_ofJson k

theorem fills (s : ApplicationSpec) : Fills shape
    [ ("source", s.source.map Source.toJson),
      ("sources", Json.listUnlessEmpty (s.sources.map Source.toJson)),
      ("destination", some s.destination.toJson),
      ("project", some (.str s.project)),
      ("syncPolicy", s.syncPolicy.map SyncPolicy.toJson) ] [] where
  names := rfl
  nodup := by decide
  apart := apart_nil _

theorem ofJson_toJson {s : ApplicationSpec} (h : s.Tidy) : ofJson s.toJson = s.normal := by
  have hsource : optional Source.ofJson (s.source.map Source.toJson)
      = s.source.map Source.normal :=
    optional_map Source.toJson_ne_null fun x hx => Source.ofJson_toJson (h.source x hx)
  have hsources : listOf Source.ofJson (Json.listUnlessEmpty (s.sources.map Source.toJson))
      = s.sources.map Source.normal :=
    listOf_map fun x hx => Source.ofJson_toJson (h.sources x hx)
  have hpolicy : optional SyncPolicy.ofJson (s.syncPolicy.map SyncPolicy.toJson)
      = s.syncPolicy.map SyncPolicy.normal :=
    optional_map SyncPolicy.toJson_ne_null fun p hp =>
      SyncPolicy.ofJson_toJson (h.syncPolicy p hp)
  rw [toJson, objectOf_eq_withExtra, ofJson, s.fills.field? (by decide),
    s.fills.field? (by decide), s.fills.field? (by decide), s.fills.field? (by decide),
    s.fills.field? (by decide)]
  simp [Keyed.get?, hsource, hsources, hpolicy, Json.orNull, Destination.ofJson_toJson, textOr,
    Json.text?, normal]

theorem check_toJson {s : ApplicationSpec} (h : s.Tidy) : shape.check s.toJson = .ok () := by
  rw [toJson, objectOf_eq_withExtra]
  refine s.fills.check ?_
  simp only [List.forall_mem_cons]
  exact ⟨fits_map fun x hx => Source.check_toJson (h.source x hx),
    fits_list fun x hx => Source.check_toJson (h.sources x hx),
    fits_some s.destination.check_toJson, fits_some rfl,
    fits_map fun p hp => SyncPolicy.check_toJson (h.syncPolicy p hp), List.forall_mem_nil _⟩

end ApplicationSpec

/-! ## Metadata -/

namespace Metadata

structure Shown (m : Metadata) : Prop where
  created : ∀ t ∈ m.creationTimestamp, Rfc3339.inRange t.date.year
  deleted : ∀ t ∈ m.deletionTimestamp, Rfc3339.inRange t.date.year

def wholeSeconds (m : Metadata) : Metadata :=
  { m with
    creationTimestamp := m.creationTimestamp.map Instant.wholeSecond
    deletionTimestamp := m.deletionTimestamp.map Instant.wholeSecond }

theorem inRange_instant (j : Json) : Rfc3339.inRange (instant j).date.year := by
  unfold instant
  split
  · rename_i t ht
    exact Instant.inRange_of_ofText ht
  · decide

theorem shown_ofJson (j : Json) : (ofJson j).Shown where
  created := by
    intro t ht
    obtain ⟨k, -, rfl⟩ := mem_optional ht
    exact inRange_instant k
  deleted := by
    intro t ht
    obtain ⟨k, -, rfl⟩ := mem_optional ht
    exact inRange_instant k

theorem instant_timeJson {t : Instant} (h : Rfc3339.inRange t.date.year) :
    instant (timeJson t) = t.wholeSecond := by
  have hread : Instant.ofText t.wholeSecond.text = .ok t.wholeSecond := Instant.ofText_text h
  simp [instant, timeJson, text, Json.text?, hread]

theorem check_timeJson {t : Instant} (h : Rfc3339.inRange t.date.year) :
    Shape.time.check (timeJson t) = .ok () := by
  have hread : Instant.ofText t.wholeSecond.text = .ok t.wholeSecond := Instant.ofText_text h
  simp [Shape.check, Shape.checkTime, timeJson, hread]

theorem long_int (n : Int64) : long (.int n.toInt) = n :=
  Int64.ofInt_toInt n

theorem check_int (n : Int64) : (Shape.whole .i64).check (.int n.toInt) = .ok () := by
  have hlow := n.le_toInt
  have hhigh := n.toInt_lt
  have hrange : WholeRange.i64.least ≤ n.toInt ∧ n.toInt ≤ WholeRange.i64.greatest := by
    simp only [WholeRange.i64]
    omega
  simp [Shape.check, Json.int, Shape.checkWhole, hrange]

theorem textMap_ofTexts (entries : Keyed String) : textMap (.ofTexts entries) = entries := by
  simp [textMap, Json.ofTexts, Json.members, text, Json.text?, Function.comp_def]

theorem check_ofTexts (entries : Keyed String) :
    (Shape.dict .string).check (.ofTexts entries) = .ok () := by
  rw [Json.ofTexts, Shape.check_dict, List.forall_mem_map]
  intro e he
  rfl

theorem check_texts (items : List String) :
    (Shape.list .string).check (.arr (items.map .str)) = .ok () := by
  rw [Shape.check_list, List.forall_mem_map]
  intro s _
  rfl

theorem fills (m : Metadata) : Fills shape
    [ ("annotations", m.annotations.map .ofTexts),
      ("creationTimestamp", m.creationTimestamp.map timeJson),
      ("deletionGracePeriodSeconds", m.deletionGracePeriodSeconds.map fun n => .int n.toInt),
      ("deletionTimestamp", m.deletionTimestamp.map timeJson),
      ("finalizers", m.finalizers.map fun l => .arr (l.map .str)),
      ("generateName", m.generateName.map .str),
      ("generation", m.generation.map fun n => .int n.toInt),
      ("labels", m.labels.map .ofTexts),
      ("name", m.name.map .str),
      ("namespace", m.namespaceName.map .str),
      ("resourceVersion", m.resourceVersion.map .str),
      ("selfLink", m.selfLink.map .str),
      ("uid", m.uid.map .str) ] [] where
  names := rfl
  nodup := by decide
  apart := apart_nil _

theorem ofJson_toJson {m : Metadata} (h : m.Shown) : ofJson m.toJson = m.wholeSeconds := by
  have hfinalizers : ∀ l : List String, listOf text (some (.arr (l.map .str))) = l := by
    intro l
    rw [listOf, List.map_map]
    exact List.map_id' l
  have htexts : ∀ o : Option (Keyed String), optional textMap (o.map .ofTexts) = o :=
    optional_map_self (fun _ => Json.noConfusion) textMap_ofTexts
  have hlong : ∀ o : Option Int64, optional long (o.map fun n => .int n.toInt) = o :=
    optional_map_self (fun _ => Json.noConfusion) long_int
  have hlists : ∀ o : Option (List String),
      optional (fun l => listOf text (some l)) (o.map fun l => .arr (l.map .str)) = o :=
    optional_map_self (fun _ => Json.noConfusion) hfinalizers
  have hcreated : optional instant (m.creationTimestamp.map timeJson)
      = m.creationTimestamp.map Instant.wholeSecond :=
    optional_map (fun _ => Json.noConfusion) fun t ht => instant_timeJson (h.created t ht)
  have hdeleted : optional instant (m.deletionTimestamp.map timeJson)
      = m.deletionTimestamp.map Instant.wholeSecond :=
    optional_map (fun _ => Json.noConfusion) fun t ht => instant_timeJson (h.deleted t ht)
  rw [toJson, objectOf_eq_withExtra, ofJson]
  iterate 13 rw [m.fills.field? (by decide)]
  simp [Keyed.get?, htexts, hlong, hlists, hcreated, hdeleted, optional_text, wholeSeconds]

theorem check_toJson {m : Metadata} (h : m.Shown) : shape.check m.toJson = .ok () := by
  rw [toJson, objectOf_eq_withExtra]
  refine m.fills.check ?_
  simp only [List.forall_mem_cons]
  exact ⟨fits_map fun e _ => check_ofTexts e, fits_map fun t ht => check_timeJson (h.created t ht),
    fits_map fun n _ => check_int n, fits_map fun t ht => check_timeJson (h.deleted t ht),
    fits_map fun l _ => check_texts l, fits_texts _ _,
    fits_map fun n _ => check_int n, fits_map fun e _ => check_ofTexts e, fits_texts _ _,
    fits_texts _ _, fits_texts _ _, fits_texts _ _, fits_texts _ _, List.forall_mem_nil _⟩

end Metadata

/-! ## Applications -/

namespace Application

structure Tidy (a : Application) : Prop where
  metadata : a.metadata.Shown
  spec : a.spec.Tidy

def normal (a : Application) : Application where
  metadata := a.metadata.wholeSeconds
  spec := a.spec.normal

theorem tidy_ofJson (j : Json) : (ofJson j).Tidy where
  metadata := Metadata.shown_ofJson _
  spec := ApplicationSpec.tidy_ofJson _

theorem toJson_eq (a : Application) :
    a.toJson = withExtra [("metadata", some a.metadata.toJson), ("spec", some a.spec.toJson)]
      [("apiVersion", .str apiVersion), ("kind", .str "Application")] := by
  simp only [toJson, Json.object, withExtra, Json.objectOf, Keyed.ofList, Keyed.put,
    List.map_cons, List.map_nil, List.cons_append, List.nil_append, List.filterMap_cons,
    List.filterMap_nil, List.foldl_cons, List.foldl_nil, Option.map_some, String.reduceLT,
    String.reduceEq, ↓reduceIte]

theorem fills (a : Application) : Fills shape
    [("metadata", some a.metadata.toJson), ("spec", some a.spec.toJson)]
    [("apiVersion", .str apiVersion), ("kind", .str "Application")] where
  names := rfl
  nodup := by decide
  apart := by
    simp only [Apart, List.forall_mem_cons]
    exact ⟨by decide, by decide, List.forall_mem_nil _⟩

theorem ofJson_toJson {a : Application} (h : a.Tidy) : ofJson a.toJson = a.normal := by
  rw [toJson_eq, ofJson, a.fills.field? (by decide), a.fills.field? (by decide)]
  simp [Keyed.get?, Json.orNull, Metadata.ofJson_toJson h.metadata,
    ApplicationSpec.ofJson_toJson h.spec, normal]

theorem check_toJson {a : Application} (h : a.Tidy) : shape.check a.toJson = .ok () := by
  rw [toJson_eq]
  refine a.fills.check ?_
  simp only [List.forall_mem_cons]
  exact ⟨fits_some (Metadata.check_toJson h.metadata),
    fits_some (ApplicationSpec.check_toJson h.spec), List.forall_mem_nil _⟩

/-- A written application is read again, in its normal form. -/
theorem decode_toJson {a : Application} (h : a.Tidy) :
    decode shape ofJson a.toJson = .ok a.normal := by
  rw [decode, check_toJson h, ← ofJson_toJson h]
  rfl

end Application

end PatternSync
