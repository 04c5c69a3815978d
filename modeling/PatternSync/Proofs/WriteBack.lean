import PatternSync.Proofs.KeyOrder
import PatternSync.Proofs.PatternRecords

/-!
# Writing back what was read

A pattern or an application that was read from a document, written, and read again is the same but
for the fractions of its metadata times, and writing it again gives the same document
(`write_back_stable`). So what is left out of a document is restored by its absence, and what has no
field is kept, under any number of turns.

Unknown members are kept as they stood and written in key order. In a document in key order, as all
are that were read from a text (`Shape.inKeyOrder_of_ofText`), that changes nothing
(`Application.normal_ofJson`).
-/

namespace PatternSync

open Wire

/-! ## Applications out of documents in key order -/

section

variable {α : Type} {read : Json → α} {normal : α → α} {o : Option Json}

theorem optional_map_normal (ho : ∀ k ∈ o, k.inKeyOrder = true)
    (h : ∀ k, k.inKeyOrder = true → normal (read k) = read k) :
    (optional read o).map normal = optional read o := by
  cases hread : optional read o with
  | none => rfl
  | some a =>
    obtain ⟨k, rfl, rfl⟩ := mem_optional hread
    rw [Option.map_some, h k (ho k rfl)]

theorem listOf_map_normal (ho : ∀ k ∈ o, k.inKeyOrder = true)
    (h : ∀ k, k.inKeyOrder = true → normal (read k) = read k) :
    (listOf read o).map normal = listOf read o := by
  unfold listOf
  split
  · rename_i items
    have hitems := Json.inKeyOrder_arr.1 (ho _ rfl)
    rw [List.map_map]
    exact List.map_congr_left fun k hk => h k (hitems k hk)
  · rfl

end

section

variable {j : Json}

theorem HelmSettings.normal_ofJson (h : j.inKeyOrder = true) : (ofJson j).normal = ofJson j := by
  rw [normal, ofJson, ofList_unknownMembers h]

theorem Source.normal_ofJson (h : j.inKeyOrder = true) : (ofJson j).normal = ofJson j := by
  rw [normal, ofJson, ofList_unknownMembers h,
    optional_map_normal (inKeyOrder_field? h "helm") fun _ => HelmSettings.normal_ofJson]

theorem AutomatedSync.normal_ofJson (h : j.inKeyOrder = true) : (ofJson j).normal = ofJson j := by
  rw [normal, ofJson, ofList_unknownMembers h]

theorem SyncPolicy.normal_ofJson (h : j.inKeyOrder = true) : (ofJson j).normal = ofJson j := by
  rw [normal, ofJson, ofList_unknownMembers h,
    optional_map_normal (inKeyOrder_field? h "automated") fun _ => AutomatedSync.normal_ofJson]

theorem ApplicationSpec.normal_ofJson (h : j.inKeyOrder = true) :
    (ofJson j).normal = ofJson j := by
  rw [normal, ofJson,
    optional_map_normal (inKeyOrder_field? h "source") fun _ => Source.normal_ofJson,
    listOf_map_normal (inKeyOrder_field? h "sources") fun _ => Source.normal_ofJson,
    optional_map_normal (inKeyOrder_field? h "syncPolicy") fun _ => SyncPolicy.normal_ofJson]

theorem Application.normal_ofJson (h : j.inKeyOrder = true) :
    (ofJson j).normal = { ofJson j with metadata := (ofJson j).metadata.wholeSeconds } := by
  have hspec : (ofJson j).spec.normal = (ofJson j).spec :=
    ApplicationSpec.normal_ofJson (Json.inKeyOrder_orNull (inKeyOrder_field? h "spec"))
  rw [normal, hspec]

end

/-! ## Documents written twice -/

/-- Metadata are written alike with and without the fractions of their times. -/
theorem Metadata.toJson_wholeSeconds (m : Metadata) : m.wholeSeconds.toJson = m.toJson := by
  have htimes : ∀ o : Option Instant,
      (o.map Instant.wholeSecond).map timeJson = o.map timeJson := by
    intro o
    cases o <;> rfl
  simp only [toJson, wholeSeconds, htimes]

theorem decode_eq_ok_iff {α : Type} {shape : Shape} {read : Json → α} {j : Json} {a : α} :
    decode shape read j = .ok a ↔ (shape.check j).isOk = true ∧ read j = a := by
  unfold decode
  cases shape.check j with
  | error e => simp [bind, Except.bind, Except.isOk, Except.toBool]
  | ok u => simp [bind, Except.bind, pure, Except.pure, Except.isOk, Except.toBool]

/-- A pattern and an application that were read from a document are written as a document that is
read again, as the same but for the fractions of the metadata times, and is written again as it
is. -/
theorem write_back_stable :
    (∀ j p, decode Pattern.shape Pattern.ofJson j = .ok p →
      let again : Pattern := { p with metadata := p.metadata.wholeSeconds }
      decode Pattern.shape Pattern.ofJson p.toJson = .ok again ∧ again.toJson = p.toJson)
    ∧ ∀ j a, j.inKeyOrder = true → decode Application.shape Application.ofJson j = .ok a →
      let again : Application := { a with metadata := a.metadata.wholeSeconds }
      decode Application.shape Application.ofJson a.toJson = .ok again
        ∧ again.toJson = a.toJson := by
  constructor
  · intro j p hread
    obtain ⟨-, rfl⟩ := decode_eq_ok_iff.1 hread
    refine ⟨Pattern.decode_toJson (Pattern.shown_ofJson j), ?_⟩
    simp only [Pattern.toJson, Metadata.toJson_wholeSeconds]
  · intro j a hordered hread
    obtain ⟨-, rfl⟩ := decode_eq_ok_iff.1 hread
    have hdecode := Application.decode_toJson (Application.tidy_ofJson j)
    rw [Application.normal_ofJson hordered] at hdecode
    refine ⟨hdecode, ?_⟩
    simp only [Application.toJson, Metadata.toJson_wholeSeconds]

/-- A pattern by hand: some of its records are lists of their fields, its times have fractions and
offsets, and much is missing or empty. -/
def Pattern.handwritten : Json :=
  .object
    [ ("metadata", .object
        [ ("creationTimestamp", .str "2024-02-29T23:30:00.25-01:00"),
          ("labels", .object []),
          ("name", .str "mcg") ]),
      ("spec", .object
        [ ("clusterGroupName", .str "hub"),
          ("extraParameters", .arr [.arr [.str "global.region", .str ""]]),
          ("gitOpsSpec", .null),
          ("gitSpec", .arr [.str "https://example.com/mcg", .str "main"]),
          ("multiSourceConfig", .object [("helmRepoUrl", .str "")]) ]),
      ("status", .object
        [ ("conditions", .arr
            [ .object
              [ ("lastTransitionTime", .str "2024-03-01T00:30:00.000000001Z"),
                ("lastUpdateTime", .str "2024-03-01t02:30:00.120+02:00"),
                ("status", .str "False"),
                ("type", .object [("GitInSync", .null)]) ] ]),
          ("version", .int 4294967295) ]) ]

/-- An application with members that no field knows, nulls among them. -/
def Application.handwritten : Json :=
  .object
    [ ("metadata", .object [("deletionTimestamp", .str "2024-02-29T12:00:00.999Z")]),
      ("spec", .object
        [ ("destination", .arr [.null, .str "default"]),
          ("project", .str "default"),
          ("sources", .arr
            [ .object
              [ ("helm", .object [("releaseName", .null), ("valuesObject", .object [])]),
                ("kustomize", .object [("images", .arr [.null])]),
                ("repoURL", .str "https://example.com/mcg") ] ]),
          ("syncPolicy", .object
            [ ("automated", .object [("allowEmpty", .null)]),
              ("retry", .object [("limit", .int 3)]) ]) ]) ]

/-- Both are stable once written, without the fractions that the written metadata have lost. -/
theorem write_back_stable_handwritten :
    (let p := Pattern.ofJson Pattern.handwritten
      let again : Pattern := { p with metadata := p.metadata.wholeSeconds }
      decode Pattern.shape Pattern.ofJson Pattern.handwritten = .ok p ∧ again ≠ p
        ∧ decode Pattern.shape Pattern.ofJson p.toJson = .ok again ∧ again.toJson = p.toJson)
    ∧ let a := Application.ofJson Application.handwritten
      let again : Application := { a with metadata := a.metadata.wholeSeconds }
      Application.handwritten.inKeyOrder = true
        ∧ decode Application.shape Application.ofJson Application.handwritten = .ok a ∧ again ≠ a
        ∧ decode Application.shape Application.ofJson a.toJson = .ok again
        ∧ again.toJson = a.toJson := by
  have hpattern : decode Pattern.shape Pattern.ofJson Pattern.handwritten
      = .ok (Pattern.ofJson Pattern.handwritten) :=
    decode_eq_ok_iff.2 ⟨by decide +kernel, rfl⟩
  have hordered : Application.handwritten.inKeyOrder = true := by
    decide +kernel
  have happlication : decode Application.shape Application.ofJson Application.handwritten
      = .ok (Application.ofJson Application.handwritten) :=
    decode_eq_ok_iff.2 ⟨by decide +kernel, rfl⟩
  exact ⟨⟨hpattern, by decide +kernel, write_back_stable.1 _ _ hpattern⟩,
    hordered, happlication, by decide +kernel, write_back_stable.2 _ _ hordered happlication⟩

end PatternSync
