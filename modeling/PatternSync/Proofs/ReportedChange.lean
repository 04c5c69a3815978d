import PatternSync.Proofs.HelmPlace
import PatternSync.Proofs.Spared

/-!
# Reported changes

An update says whether it changed anything, and the write depends on that word alone. It is exact: a
change is reported exactly if the application is another one afterwards (`update_eq_self_iff`),
although sources of another layout are replaced without a comparison. Whatever it reports, an update
leaves metadata, destination and project alone; and where the layouts agree, it exchanges the helm
settings in the one place that counts and nothing else in the sources (`update_reports_change`).
-/

namespace PatternSync

namespace Application

/-! ## What an update changes -/

section

variable {goal live changed : Application}

theorem sources_ne_of_updateSources? (h : updateSources? goal live = some changed) :
    ¬ (changed.spec.source = live.spec.source ∧ changed.spec.sources = live.spec.sources) := by
  rintro ⟨hsource, hsources⟩
  unfold updateSources? at h
  split at h
  · split at h
    · rename_i wanted current hwanted hcurrent
      dsimp only at h
      split at h
      · cases h
      · rename_i hmerge
        have hhelm := helm?_congr hsource hsources
        rw [helm?_setHelm? h, hcurrent] at hhelm
        exact hmerge (Option.some.inj hhelm)
    · cases h
  · rename_i hother
    cases h
    have hlayout : goal.layout = live.layout := layout_congr hsource hsources
    exact hother (sameLayout_iff.2 hlayout)

/-- An update leaves an application as it is exactly if it is in line. -/
theorem update_eq_self_iff : (goal.update live).1 = live ↔ InLine goal live := by
  constructor
  · intro hself
    have hsources : updateSources? goal live = none := by
      cases h : updateSources? goal live with
      | none => rfl
      | some changed =>
        obtain ⟨hsource, hlist⟩ := sources_update goal live
        rw [hself, h, Option.getD_some] at hsource hlist
        exact absurd ⟨hsource.symm, hlist.symm⟩ (sources_ne_of_updateSources? h)
    have hautomated : goal.automated?.isSome = live.automated?.isSome := by
      by_contra hdiffers
      have hpolicy := syncPolicy_update goal live
      rw [hself, if_neg hdiffers] at hpolicy
      have hwanted : live.automated? = goal.automated? := by
        rw [automated?, hpolicy, automated?_withAutomated]
      exact hdiffers (congrArg Option.isSome hwanted.symm)
    obtain ⟨hlayout, hhelm⟩ := updateSources?_eq_none_iff.1 hsources
    exact ⟨hlayout, hhelm, hautomated⟩
  · intro hline
    rw [hline.update]

/-- Where the layouts agree, an update of the sources is one of the helm settings that count. -/
theorem replacesHelm_updateSources? (hsame : sameLayout goal live = true)
    {wanted current : HelmSettings} (hwanted : goal.helm? = some wanted)
    (hcurrent : live.helm? = some current) :
    ReplacesHelm current (wanted.merge current) live ((updateSources? goal live).getD live) := by
  unfold updateSources?
  rw [if_pos hsame, hwanted, hcurrent]
  dsimp only
  split
  · rename_i hmerge
    rw [hmerge, Option.getD_none]
    exact replacesHelm_self hcurrent
  · cases hset : live.setHelm? (wanted.merge current) with
    | none =>
      rw [setHelm?_eq_none_iff.1 hset] at hcurrent
      cases hcurrent
    | some changed => exact replacesHelm_of_setHelm? hcurrent hset

end

/-- An update reports a change exactly if the application is another one afterwards. It leaves
metadata, destination and project alone. Where the layouts agree, the sources stay as they are but
for the helm settings that count, into which those of the goal are merged. -/
theorem update_reports_change (goal live : Application) :
    let after := (goal.update live).1
    ((goal.update live).2 = true ↔ after ≠ live)
      ∧ (after.metadata = live.metadata ∧ after.spec.destination = live.spec.destination
        ∧ after.spec.project = live.spec.project)
      ∧ (sameLayout goal live = true →
        (live.helm? = none →
          after.spec.source = live.spec.source ∧ after.spec.sources = live.spec.sources)
        ∧ ∀ current ∈ live.helm?, ∃ wanted ∈ goal.helm?,
          ReplacesHelm current (wanted.merge current) live after) := by
  intro after
  have hframe := update_frame goal live
  obtain ⟨hsource, hsources⟩ := sources_update goal live
  refine ⟨?_, ⟨congrArg (·.metadata) hframe, congrArg (·.spec.destination) hframe,
    congrArg (·.spec.project) hframe⟩, fun hsame => ⟨fun hbare => ?_, fun current hcurrent => ?_⟩⟩
  · rw [← Bool.not_eq_false, update_snd, ← update_eq_self_iff]
  · have hkept : updateSources? goal live = none := by
      rw [updateSources?_eq_none_iff, hbare]
      exact ⟨sameLayout_iff.1 hsame, by rintro wanted - current ⟨⟩⟩
    rw [hkept] at hsource hsources
    exact ⟨hsource, hsources⟩
  · have hhelm : goal.helm?.isSome = live.helm?.isSome :=
      congrArg (·.2.2) (sameLayout_iff.1 hsame)
    rw [Option.mem_def.1 hcurrent, Option.isSome_some] at hhelm
    obtain ⟨wanted, hwanted⟩ := Option.isSome_iff_exists.1 hhelm
    exact ⟨wanted, hwanted,
      (replacesHelm_updateSources? hsame hwanted hcurrent).congr hsource hsources⟩

theorem update_reports_change_hub :
    let goal := Pattern.hub.goal {}
    let live := ofJson Pattern.hubStored
    let after := (goal.update live).1
    sameLayout goal live = true ∧ (goal.update live).2 = true ∧ after ≠ live
      ∧ after.metadata = live.metadata
      ∧ ∃ current ∈ live.helm?, ∃ wanted ∈ goal.helm?,
        ReplacesHelm current (wanted.merge current) live after := by
  intro goal live after
  have hsame : sameLayout goal live = true := by decide
  have hreported : (goal.update live).2 = true := by decide
  obtain ⟨hchanged, ⟨hmetadata, -⟩, hsources⟩ := update_reports_change goal live
  obtain ⟨current, hcurrent⟩ : ∃ k, live.helm? = some k :=
    Option.isSome_iff_exists.1 (by decide)
  exact ⟨hsame, hreported, hchanged.1 hreported, hmetadata, current, hcurrent,
    (hsources hsame).2 current hcurrent⟩

end Application

end PatternSync
