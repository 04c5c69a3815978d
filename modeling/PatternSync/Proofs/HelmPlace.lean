import PatternSync.Proofs.InLine

/-!
# The place of the helm settings

The helm settings that count stand in the single source, or else in the last source of the list that
has any. Reading and setting search for that place on their own, from the end of a list of any
arrangement. They find the same one: settings that were set are the ones that are read, and setting
the earlier ones again restores the application (`setHelm?_agrees`). Setting does to the sources
what `ReplacesHelm` says, and nothing to the rest; no other application has both
(`setHelm?_eq_some_iff`).
-/

namespace PatternSync

namespace Application

/-! ## The place that counts -/

/-- The sources of `b` are those of `a`, but for the helm settings that count. These are `h` in `a`
and `k` in `b`, in the single source or else in the last source of the list that has any. -/
inductive ReplacesHelm (h k : HelmSettings) (a b : Application) : Prop
  | single (s : Source) (counts : s.helm = some h) (before : a.spec.source = some s)
      (after : b.spec.source = some { s with helm := some k })
      (list : b.spec.sources = a.spec.sources)
  | listed (front back : List Source) (s : Source) (counts : s.helm = some h)
      (bare : ∀ t ∈ back, t.helm = none) (unset : a.spec.source = none)
      (before : a.spec.sources = front ++ s :: back)
      (after : b.spec.sources = front ++ { s with helm := some k } :: back)
      (still : b.spec.source = none)

theorem helm?_of_listed {a : Application} (h : a.spec.source = none) :
    a.helm? = findLast? (·.helm) a.spec.sources := by
  simp only [helm?, h]

section

variable {a b : Application} {h k : HelmSettings}

/-- Setting the helm settings exchanges them in the place where they were found. -/
theorem replacesHelm_of_setHelm? (ha : a.helm? = some h) (hb : a.setHelm? k = some b) :
    ReplacesHelm h k a b := by
  unfold setHelm? at hb
  split at hb
  · rename_i s hs
    obtain ⟨t, ht, rfl⟩ := Option.map_eq_some_iff.1 hb
    obtain ⟨-, rfl⟩ := Source.withHelm?_eq_some_iff.1 ht
    exact .single s ((helm?_of_source hs).symm.trans ha) hs rfl rfl
  · rename_i hs
    obtain ⟨sources, hsources, rfl⟩ := Option.map_eq_some_iff.1 hb
    obtain ⟨front, s, t, back, hbefore, rfl, ht, hback⟩ := changeLast?_eq_some_iff.1 hsources
    obtain ⟨hset, rfl⟩ := Source.withHelm?_eq_some_iff.1 ht
    have hbare : ∀ x ∈ back, x.helm = none := fun x hx =>
      Source.withHelm?_eq_none_iff.1 (hback x hx)
    obtain ⟨found, hfound⟩ := Option.isSome_iff_exists.1 hset
    have hlast : a.helm? = some found := by
      rw [helm?_of_listed hs, hbefore]
      exact findLast?_eq_some_iff.2 ⟨front, s, back, rfl, hfound, hbare⟩
    have hcounts : s.helm = some h := hfound.trans (hlast.symm.trans ha)
    exact .listed front back s hcounts hbare hs hbefore rfl hs

theorem setHelm?_self (ha : a.helm? = some h) : a.setHelm? h = some a := by
  have hsame : ∀ {s : Source}, s.helm = some h → s.withHelm? h = some s := by
    intro s hs
    refine Source.withHelm?_eq_some_iff.2 ⟨by rw [hs, Option.isSome_some], ?_⟩
    rw [← hs]
  unfold setHelm?
  split
  · rename_i s hs
    rw [hsame ((helm?_of_source hs).symm.trans ha), Option.map_some, ← hs]
  · rename_i hs
    rw [helm?_of_listed hs] at ha
    obtain ⟨front, s, back, hlist, hfound, hbare⟩ := findLast?_eq_some_iff.1 ha
    have hchange : changeLast? (Source.withHelm? h) a.spec.sources = some a.spec.sources :=
      changeLast?_eq_some_iff.2 ⟨front, s, s, back, hlist, hlist, hsame hfound, fun x hx =>
        Source.withHelm?_eq_none_iff.2 (hbare x hx)⟩
    rw [hchange, Option.map_some]

theorem replacesHelm_self (ha : a.helm? = some h) : ReplacesHelm h h a a :=
  replacesHelm_of_setHelm? ha (setHelm?_self ha)

theorem ReplacesHelm.congr {c : Application} (hb : ReplacesHelm h k a b)
    (hsource : c.spec.source = b.spec.source) (hsources : c.spec.sources = b.spec.sources) :
    ReplacesHelm h k a c := by
  cases hb with
  | single s counts before after list =>
    exact .single s counts before (hsource.trans after) (hsources.trans list)
  | listed front back s counts bare unset before after still =>
    exact .listed front back s counts bare unset before (hsources.trans after)
      (hsource.trans still)

theorem ReplacesHelm.symm (hb : ReplacesHelm h k a b) : ReplacesHelm k h b a := by
  have hback : ∀ {s : Source}, s.helm = some h →
      s = { ({ s with helm := some k } : Source) with helm := some h } := by
    intro s hs
    rw [← hs]
  cases hb with
  | single s counts before after list =>
    exact .single _ rfl after (before.trans (congrArg some (hback counts))) list.symm
  | listed front back s counts bare unset before after still =>
    refine .listed front back _ rfl bare still after ?_ unset
    rw [before, ← hback counts]

/-- The settings that are exchanged are those that are found. -/
theorem ReplacesHelm.helm?_eq (hb : ReplacesHelm h k a b) : a.helm? = some h := by
  cases hb with
  | single s counts before => exact (helm?_of_source before).trans counts
  | listed front back s counts bare unset before =>
    rw [helm?_of_listed unset, before]
    exact findLast?_eq_some_iff.2 ⟨front, s, back, rfl, counts, bare⟩

theorem ReplacesHelm.length_eq (hb : ReplacesHelm h k a b) :
    b.spec.sources.length = a.spec.sources.length := by
  cases hb with
  | single s counts before after list => rw [list]
  | listed front back s counts bare unset before after =>
    rw [before, after, List.length_append, List.length_append, List.length_cons, List.length_cons]

def SameApartFromSources (a b : Application) : Prop :=
  b = { a with spec := { a.spec with source := b.spec.source, sources := b.spec.sources } }

theorem SameApartFromSources.symm (hb : SameApartFromSources a b) : SameApartFromSources b a := by
  rw [SameApartFromSources, hb]

/-- There is a place to set them exactly where there is one to read them. -/
theorem isSome_setHelm? : (a.setHelm? k).isSome = a.helm?.isSome := by
  rw [Bool.eq_iff_iff, Option.isSome_iff_ne_none, Option.isSome_iff_ne_none, ne_eq, ne_eq,
    setHelm?_eq_none_iff]

/-- Setting the helm settings is to exchange them where they stand, and to touch nothing else. -/
theorem setHelm?_eq_some_iff (ha : a.helm? = some h) :
    a.setHelm? k = some b ↔ ReplacesHelm h k a b ∧ SameApartFromSources a b := by
  refine ⟨fun hb => ⟨replacesHelm_of_setHelm? ha hb, setHelm?_frame hb⟩, ?_⟩
  rintro ⟨hreplaced, hframe⟩
  have hset : ∀ {s : Source}, s.helm = some h →
      s.withHelm? k = some { s with helm := some k } := fun hs =>
    Source.withHelm?_eq_some_iff.2 ⟨by rw [hs, Option.isSome_some], rfl⟩
  rw [SameApartFromSources] at hframe
  cases hreplaced with
  | single s counts before after list =>
    have hchanged : a.setHelm? k
        = some { a with spec := { a.spec with source := some { s with helm := some k } } } := by
      simp only [setHelm?, before, hset counts, Option.map_some]
    rw [after, list] at hframe
    exact hchanged.trans (congrArg some hframe.symm)
  | listed front back s counts bare unset before after still =>
    have hlist : changeLast? (Source.withHelm? k) a.spec.sources = some b.spec.sources :=
      changeLast?_eq_some_iff.2 ⟨front, s, _, back, before, after, hset counts, fun t ht =>
        Source.withHelm?_eq_none_iff.2 (bare t ht)⟩
    have hchanged : a.setHelm? k
        = some { a with spec := { a.spec with sources := b.spec.sources } } := by
      simp only [setHelm?, unset, hlist, Option.map_some]
    rw [still.trans unset.symm] at hframe
    exact hchanged.trans (congrArg some hframe.symm)

end

/-! ## Reading and setting -/

/-- There is something to set exactly if there is something to read. Settings that were set are the
ones that are read, and setting the earlier ones again gives the application as it was. Setting
exchanges the settings in the place that counts; every other source, every other member of that
source and everything outside the sources stays. -/
theorem setHelm?_agrees (a : Application) (h : HelmSettings) :
    (a.setHelm? h).isSome = a.helm?.isSome
      ∧ ∀ b, a.setHelm? h = some b →
        b.helm? = some h
        ∧ ∃ old, a.helm? = some old ∧ b.setHelm? old = some a
          ∧ ReplacesHelm old h a b ∧ b.spec.sources.length = a.spec.sources.length
          ∧ SameApartFromSources a b := by
  refine ⟨isSome_setHelm?, fun b hb => ?_⟩
  obtain ⟨old, hold⟩ : ∃ old, a.helm? = some old :=
    Option.isSome_iff_exists.1 (by rw [← isSome_setHelm? (k := h), hb, Option.isSome_some])
  obtain ⟨hreplaced, hframe⟩ := (setHelm?_eq_some_iff hold).1 hb
  have hread : b.helm? = some h := hreplaced.symm.helm?_eq
  have hrestored : b.setHelm? old = some a :=
    (setHelm?_eq_some_iff hread).2 ⟨hreplaced.symm, hframe.symm⟩
  exact ⟨hread, old, hold, hrestored, hreplaced, hreplaced.length_eq, hframe⟩

/-- An application with two helm settings in its list of sources, behind them a source without. -/
def withTwoCharts : Application where
  metadata := { name := some "mcg-hub" }
  spec :=
    { sources :=
        [ { repoUrl := "https://example.com/a", chart := some "a", helm := some {} },
          { repoUrl := "https://example.com/b", chart := some "b",
            helm := some { valueFiles := ["b.yaml"] } },
          { repoUrl := "https://example.com/c", ref := some "patternref" } ]
      destination := {}
      project := "default" }

theorem setHelm?_agrees_two_charts :
    ∃ b, withTwoCharts.setHelm? { valueFiles := ["c.yaml"] } = some b
      ∧ b.helm? = some { valueFiles := ["c.yaml"] }
      ∧ b.setHelm? { valueFiles := ["b.yaml"] } = some withTwoCharts := by
  obtain ⟨b, hb⟩ : ∃ b, withTwoCharts.setHelm? { valueFiles := ["c.yaml"] } = some b :=
    Option.isSome_iff_exists.1 (by decide)
  obtain ⟨hread, old, hold, hrestored, -⟩ := (setHelm?_agrees withTwoCharts _).2 b hb
  have hbefore : withTwoCharts.helm? = some { valueFiles := ["b.yaml"] } := by decide
  cases Option.some.inj (hold.symm.trans hbefore)
  exact ⟨b, hb, hread, hrestored⟩

end Application

end PatternSync
