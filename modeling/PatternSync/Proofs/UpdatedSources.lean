import PatternSync.Proofs.Spared

/-!
# Sources after an update

An update of another layout puts the sources of the goal in the place of the live ones; one of the
same layout at most changes the helm settings of one source. So the single source always is the
wanted one, there or not. Two things the layout does not see stay as they are. One is a list of
sources beside a single source: the list is the wanted one exactly if none is left over
(`sources_enforced_iff`). The other is which source of a list has helm settings: the wanted ones
land in the place where the goal has them exactly if the live ones had not strayed
(`helm_placed_iff`).
-/

namespace PatternSync

/-! ## Origins -/

namespace Application

theorem map_origin_eq_iff {as bs : List Source} :
    as.map Source.origin = bs.map Source.origin
      ↔ List.Forall₂ (fun a b => Source.sameOrigin a b = true) as bs := by
  rw [← List.forall₂_eq_eq_eq, List.forall₂_map_left_iff, List.forall₂_map_right_iff]
  simp only [Source.sameOrigin_iff]

theorem optionMap_origin_eq_iff {a b : Option Source} :
    a.map Source.origin = b.map Source.origin
      ↔ Option.Rel (fun a b => Source.sameOrigin a b = true) a b := by
  cases a <;> cases b <;> simp [Source.sameOrigin_iff]

/-! ## Sources before and after -/

section

variable {goal live : Application}

theorem sources_update_of_layout_ne (h : goal.layout ≠ live.layout) :
    (goal.update live).1.spec.source = goal.spec.source
      ∧ (goal.update live).1.spec.sources = goal.spec.sources := by
  have hreplaced : updateSources? goal live = some { live with
      spec := { live.spec with source := goal.spec.source, sources := goal.spec.sources } } := by
    rw [updateSources?, if_neg (mt sameLayout_iff.1 h)]
  have hsources := sources_update goal live
  rwa [hreplaced] at hsources

theorem sources_setHelm?_of_source {a b : Application} {k : HelmSettings} {s : Source}
    (hs : a.spec.source = some s) (hb : a.setHelm? k = some b) :
    b.spec.sources = a.spec.sources := by
  unfold setHelm? at hb
  rw [hs] at hb
  obtain ⟨t, -, rfl⟩ := Option.map_eq_some_iff.1 hb
  rfl

/-- Beside a single source of the same layout a list of sources stays as it is. -/
theorem sources_update_of_single (hsingle : goal.spec.source.isSome = true)
    (h : goal.layout = live.layout) :
    (goal.update live).1.spec.sources = live.spec.sources := by
  have hkept : live.spec.source.isSome = true := (congrArg (·.1) h).symm.trans hsingle
  obtain ⟨s, hs⟩ := Option.isSome_iff_exists.1 hkept
  rw [(sources_update goal live).2]
  cases hchanged : updateSources? goal live with
  | none => rfl
  | some changed =>
    unfold updateSources? at hchanged
    rw [if_pos (sameLayout_iff.2 h)] at hchanged
    split at hchanged
    · dsimp only at hchanged
      split at hchanged
      · cases hchanged
      · exact sources_setHelm?_of_source hs hchanged
    · cases hchanged

end

/-! ## The layout of the goal -/

/-- The same layout is the same single source, or the same list where there is none. -/
theorem origins_of_layout_eq {a b : Application} (h : a.layout = b.layout) :
    a.spec.source.map Source.origin = b.spec.source.map Source.origin
      ∧ (a.spec.source = none →
        a.spec.sources.map Source.origin = b.spec.sources.map Source.origin) := by
  have hsingle : a.spec.source.isSome = b.spec.source.isSome := congrArg (·.1) h
  have horigins : a.allSources.map Source.origin = b.allSources.map Source.origin :=
    congrArg (·.2.1) h
  cases ha : a.spec.source with
  | none =>
    cases hb : b.spec.source with
    | none =>
      simp only [allSources, ha, hb] at horigins
      exact ⟨rfl, fun _ => horigins⟩
    | some t => simp [ha, hb] at hsingle
  | some s =>
    cases hb : b.spec.source with
    | none => simp [ha, hb] at hsingle
    | some t =>
      rw [allSources_of_source ha, allSources_of_source hb] at horigins
      refine ⟨congrArg List.head? horigins, fun hnone => ?_⟩
      cases hnone

/-- A list of sources is left over beside a single source that has the layout of the goal. -/
structure Leftover (goal live : Application) : Prop where
  single : goal.spec.source.isSome = true
  layout : goal.layout = live.layout
  sources : live.spec.sources ≠ []

end Application

namespace Pattern

theorem sources_goal {p : Pattern} {settings : Settings} {s : Source}
    (h : (p.goal settings).spec.source = some s) : (p.goal settings).spec.sources = [] := by
  simp only [goal] at h ⊢
  split at h
  · cases h
  · rename_i hsingle
    exact if_neg hsingle

open Application

/-- After an update the single source is the wanted one, there or not. The list of sources is the
wanted one exactly if none is left over, and what is left over stays. -/
theorem sources_enforced_iff (p : Pattern) (settings : Settings) (live : Application) :
    let goal := p.goal settings
    let after := (goal.update live).1
    Option.Rel (fun g l => Source.sameOrigin g l = true) goal.spec.source after.spec.source
      ∧ (List.Forall₂ (fun g l => Source.sameOrigin g l = true) goal.spec.sources after.spec.sources
        ↔ ¬ Leftover goal live)
      ∧ (Leftover goal live → after.spec.sources = live.spec.sources) := by
  intro goal after
  have hline : InLine goal after := inLine_update (p.nodup_goal settings) live
  obtain ⟨hsource, hsources⟩ := origins_of_layout_eq hline.layout
  refine ⟨optionMap_origin_eq_iff.1 hsource, ?_, ?_⟩
  · cases hg : goal.spec.source with
    | none =>
      refine iff_of_true (map_origin_eq_iff.1 (hsources hg)) fun h => ?_
      have hsingle := h.single
      rw [hg] at hsingle
      cases hsingle
    | some g =>
      rw [sources_goal hg, List.forall₂_nil_left_iff]
      by_cases hsame : goal.layout = live.layout
      · have hsingle : goal.spec.source.isSome = true := by rw [hg, Option.isSome_some]
        rw [sources_update_of_single hsingle hsame]
        exact ⟨fun hnil h => h.sources hnil, fun h => by_contra fun hne => h ⟨hsingle, hsame, hne⟩⟩
      · rw [(sources_update_of_layout_ne hsame).2, sources_goal hg]
        exact iff_of_true rfl fun h => hsame h.layout
  · exact fun h => sources_update_of_single h.single h.layout

def hubLeftover : Application :=
  let goal := hub.goal {}
  { goal with spec := { goal.spec with sources := [{ repoUrl := "https://example.com/other" }] } }

theorem sources_enforced_leftover :
    let goal := hub.goal {}
    let after := (goal.update hubLeftover).1
    Leftover goal hubLeftover ∧ after.spec.sources = hubLeftover.spec.sources
      ∧ ¬ List.Forall₂ (fun g l => Source.sameOrigin g l = true) goal.spec.sources
        after.spec.sources := by
  intro goal after
  have hleft : Leftover goal hubLeftover := ⟨rfl, rfl, List.cons_ne_nil _ _⟩
  obtain ⟨-, henforced, hkept⟩ := sources_enforced_iff hub {} hubLeftover
  exact ⟨hleft, hkept hleft, fun h => henforced.1 h hleft⟩

/-! ## The place of the helm settings -/

/-- The helm settings in the place where the goal of the pattern has its own. -/
def placedHelm? (p : Pattern) (a : Application) : Option HelmSettings :=
  (if p.spec.multiSource.enabled then a.spec.sources[1]? else a.spec.source).bind (·.helm)

theorem placedHelm?_goal (p : Pattern) (settings : Settings) :
    p.placedHelm? (p.goal settings) = (p.goal settings).helm? := by
  cases h : p.spec.multiSource.enabled with
  | false => simp [placedHelm?, Application.helm?, goal, h]
  | true =>
    simp only [placedHelm?, Application.helm?, goal, h, if_true, findLast?_cons]
    rw [chartSource]
    split <;> rfl

/-- Where the layout is that of the goal, settings in this place are the ones that count. -/
theorem helm?_of_placedHelm? {p : Pattern} {settings : Settings} {a : Application}
    {k : HelmSettings} (hlayout : (p.goal settings).layout = a.layout)
    (hk : p.placedHelm? a = some k) : a.helm? = some k := by
  obtain ⟨hsource, hsources⟩ := origins_of_layout_eq hlayout
  cases h : p.spec.multiSource.enabled with
  | false =>
    simp only [placedHelm?, h] at hk
    obtain ⟨s, hs, hk⟩ := Option.bind_eq_some_iff.1 hk
    rw [helm?_of_source hs, hk]
  | true =>
    have hnone : (p.goal settings).spec.source = none := by simp [goal, h]
    have hlength : a.spec.sources.length = 2 := by
      have hlengths := congrArg List.length (hsources hnone)
      simpa [goal, h] using hlengths.symm
    have hlist : a.spec.source = none := by simpa [hnone] using hsource.symm
    obtain ⟨first, second, hpair⟩ := List.length_eq_two.1 hlength
    have hsecond : second.helm = some k := by simpa [placedHelm?, h, hpair] using hk
    simp only [helm?, hlist, hpair, findLast?_cons, hsecond]
    rfl

/-- A single source of that layout has helm settings, as the goal has. -/
theorem isSome_placedHelm?_of_single {p : Pattern} {settings : Settings} {a : Application}
    (hsingle : p.spec.multiSource.enabled = false)
    (hlayout : (p.goal settings).layout = a.layout) : (p.placedHelm? a).isSome = true := by
  obtain ⟨hsource, -⟩ := origins_of_layout_eq hlayout
  obtain ⟨s, hs⟩ : ∃ s, a.spec.source = some s := by
    simp only [goal, hsingle, Bool.false_eq_true, if_false, Option.map_some] at hsource
    obtain ⟨s, hs, -⟩ := Option.map_eq_some_iff.1 hsource.symm
    exact ⟨s, hs⟩
  have hplaced : p.placedHelm? a = a.helm? := by
    rw [helm?_of_source hs]
    simp [placedHelm?, hsingle, hs]
  have hhelm : (p.goal settings).helm?.isSome = a.helm?.isSome := congrArg (·.2.2) hlayout
  obtain ⟨root, hroot⟩ := p.helm?_goal settings
  rw [hplaced, ← hhelm, hroot, Option.isSome_some]

/-- What keeps the sources, but for managed settings, neither adds nor removes such settings. -/
theorem isSome_placedHelm? {managed : List String} {before after : Application}
    (h : Spares managed before after) (p : Pattern) :
    (p.placedHelm? after).isSome = (p.placedHelm? before).isSome := by
  have hplace : ∀ {a b : Option Source}, Option.Rel (Source.Spares managed) a b →
      (b.bind (·.helm)).isSome = (a.bind (·.helm)).isSome := by
    intro a b hrel
    cases hrel with
    | none => rfl
    | some hspares => exact (isSome_eq_of_rel hspares.helm).symm
  unfold placedHelm?
  split
  · exact hplace (getElem?_of_forall₂ h.sources 1)
  · exact hplace h.source

end Pattern

/-- The settings have the wanted value files and, first of their names, the wanted parameters. -/
structure HelmSettings.Follows (wanted current : HelmSettings) : Prop where
  valueFiles : current.valueFiles = wanted.valueFiles
  parameters : ∀ w ∈ wanted.parameters, Parameter.firstNamed? current.parameters w.name = some w

theorem HelmSettings.follows_merge {wanted : HelmSettings}
    (hnodup : (Parameter.names wanted.parameters).Nodup) (current : HelmSettings) :
    Follows wanted (wanted.merge current) where
  valueFiles := rfl
  parameters := fun _ hw => Parameter.firstNamed?_foldl_upsert_of_mem hnodup _ hw

/-- The settings of an application in line follow those of its goal. -/
theorem Application.InLine.follows {goal live : Application} (h : InLine goal live)
    {wanted : HelmSettings} (hwanted : goal.helm? = some wanted)
    (hnodup : (Parameter.names wanted.parameters).Nodup) :
    ∃ k, live.helm? = some k ∧ HelmSettings.Follows wanted k := by
  have hlayout : goal.helm?.isSome = live.helm?.isSome := congrArg (·.2.2) h.layout
  rw [hwanted, Option.isSome_some] at hlayout
  obtain ⟨current, hcurrent⟩ := Option.isSome_iff_exists.1 hlayout.symm
  refine ⟨current, hcurrent, ?_⟩
  rw [← h.helm wanted hwanted current hcurrent]
  exact HelmSettings.follows_merge hnodup current

namespace Pattern

open Application

/-- The live application has the layout of the goal with two sources, but the chart is without helm
settings, so that those of the repository count. -/
structure Strayed (p : Pattern) (settings : Settings) (live : Application) : Prop where
  charted : p.spec.multiSource.enabled = true
  layout : (p.goal settings).layout = live.layout
  bare : p.placedHelm? live = none

/-- After an update there are helm settings in the place where the goal has its own, unless the live
ones had strayed. -/
theorem isSome_placedHelm?_update (p : Pattern) (settings : Settings) (live : Application) :
    (p.placedHelm? ((p.goal settings).update live).1).isSome = true
      ↔ ¬ Strayed p settings live := by
  by_cases hsame : (p.goal settings).layout = live.layout
  · rw [isSome_placedHelm? (spares_update (sameLayout_iff.2 hsame)) p]
    cases hcharted : p.spec.multiSource.enabled with
    | false =>
      refine iff_of_true (isSome_placedHelm?_of_single hcharted hsame) fun h => ?_
      cases hcharted.symm.trans h.charted
    | true =>
      rw [Option.isSome_iff_ne_none]
      exact not_congr ⟨fun hbare => ⟨hcharted, hsame, hbare⟩, Strayed.bare⟩
  · obtain ⟨hsource, hsources⟩ := sources_update_of_layout_ne hsame
    have hreplaced : p.placedHelm? ((p.goal settings).update live).1
        = p.placedHelm? (p.goal settings) := by
      simp only [placedHelm?, hsource, hsources]
    obtain ⟨root, hroot⟩ := p.helm?_goal settings
    rw [hreplaced, placedHelm?_goal, hroot]
    exact iff_of_true rfl fun h => hsame h.layout

/-- After an update the helm settings that count follow the goal. They stand in the place where the
goal has its own exactly if the live ones had not strayed. -/
theorem helm_placed_iff (p : Pattern) (settings : Settings) (live : Application) :
    let goal := p.goal settings
    let after := (goal.update live).1
    ∃ wanted, p.placedHelm? goal = some wanted
      ∧ (∃ k, after.helm? = some k ∧ HelmSettings.Follows wanted k)
      ∧ ((∃ k, p.placedHelm? after = some k ∧ HelmSettings.Follows wanted k)
        ↔ ¬ Strayed p settings live) := by
  intro goal after
  have hline : InLine goal after := inLine_update (p.nodup_goal settings) live
  obtain ⟨root, hwanted⟩ := p.helm?_goal settings
  obtain ⟨current, hcurrent, hfollows⟩ :=
    hline.follows hwanted (p.nodup_goal settings _ hwanted)
  refine ⟨_, (p.placedHelm?_goal settings).trans hwanted, ⟨current, hcurrent, hfollows⟩, ?_⟩
  rw [← isSome_placedHelm?_update, Option.isSome_iff_exists]
  refine exists_congr fun k => and_iff_left_of_imp fun hk => ?_
  have hcounts := helm?_of_placedHelm? hline.layout hk
  rwa [Option.some.inj (hcounts.symm.trans hcurrent)]

def chartedHub : Pattern :=
  { hub with spec := { hub.spec with multiSource := { enabled := true } } }

/-- The application of the pattern, but for the helm settings: the repository has those of the
chart. -/
def chartedHubStrayed : Application :=
  let goal := chartedHub.goal {}
  let chart := chartedHub.chartSource {}
  let sources := [{ chartedHub.repoSource with helm := chart.helm }, { chart with helm := none }]
  { goal with spec := { goal.spec with sources } }

/-- Helm settings that stray to the source of the repository stay there. -/
theorem helm_placed_strayed :
    let goal := chartedHub.goal {}
    let after := (goal.update chartedHubStrayed).1
    Strayed chartedHub {} chartedHubStrayed
      ∧ ∃ wanted, chartedHub.placedHelm? goal = some wanted
        ∧ (∃ k, after.helm? = some k ∧ HelmSettings.Follows wanted k)
        ∧ ¬ ∃ k, chartedHub.placedHelm? after = some k ∧ HelmSettings.Follows wanted k := by
  intro goal after
  have hstrayed : Strayed chartedHub {} chartedHubStrayed := ⟨rfl, rfl, rfl⟩
  obtain ⟨wanted, hwanted, hcounts, hplaced⟩ := helm_placed_iff chartedHub {} chartedHubStrayed
  exact ⟨hstrayed, wanted, hwanted, hcounts, fun h => hplaced.1 h hstrayed⟩

end Pattern

end PatternSync
