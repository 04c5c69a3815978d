import PatternSync.Proofs.Interleaving

/-!
# Patterns beside each other

All applications stand in one namespace, so what keeps patterns apart is the name that the
application has from its pattern. A pass changes at the one place of that name and nowhere else
(`Flight.Sound.keepsOff`). Main statement: in all interleavings, passes whose application names
differ keep off what the other has created (`keepsOff_of_created`).

The name does not tell where the name of the pattern ends (`Pattern.applicationName_eq_iff`), and it
does not mention the namespace of the pattern, so different patterns can have one application
(`removed_by_neighbour`).
-/

namespace PatternSync

open Json Pass

/-! ## Application names -/

/-- Where two texts with a dash in them agree, the dashes are one, or one text has both. -/
theorem dash_eq_iff {a b c d : String} :
    a ++ "-" ++ b = c ++ "-" ++ d ↔
      a = c ∧ b = d ∨ (∃ m, a = c ++ "-" ++ m ∧ d = m ++ "-" ++ b)
        ∨ ∃ m, c = a ++ "-" ++ m ∧ b = m ++ "-" ++ d := by
  constructor
  · intro h
    have hlists : a.toList ++ '-' :: b.toList = c.toList ++ '-' :: d.toList := by
      simpa using congrArg String.toList h
    rcases List.append_eq_append_iff.1 hlists with ⟨m, hc, hb⟩ | ⟨m, ha, hd⟩
    · cases m with
      | nil =>
        exact .inl ⟨String.toList_inj.1 (by simpa using hc.symm),
          String.toList_inj.1 (by simpa using hb)⟩
      | cons x m =>
        obtain ⟨rfl, hb⟩ := List.cons.inj hb
        exact .inr (.inr ⟨.ofList m, String.toList_inj.1 (by simpa using hc),
          String.toList_inj.1 (by simpa using hb)⟩)
    · cases m with
      | nil =>
        exact .inl ⟨String.toList_inj.1 (by simpa using ha),
          String.toList_inj.1 (by simpa using hd.symm)⟩
      | cons x m =>
        obtain ⟨rfl, hd⟩ := List.cons.inj hd
        exact .inr (.inl ⟨.ofList m, String.toList_inj.1 (by simpa using ha),
          String.toList_inj.1 (by simpa using hd)⟩)
  · rintro (⟨rfl, rfl⟩ | ⟨m, rfl, rfl⟩ | ⟨m, rfl, rfl⟩)
    · rfl
    · simp only [String.append_assoc]
    · simp only [String.append_assoc]

namespace Pattern

/-- Patterns have one application name if they agree in name and group, or if one name goes on
where the other pattern's group begins. -/
theorem applicationName_eq_iff {p q : Pattern} :
    p.applicationName = q.applicationName ↔
      p.displayName = q.displayName ∧ p.spec.clusterGroupName = q.spec.clusterGroupName
        ∨ (∃ m, p.displayName = q.displayName ++ "-" ++ m
            ∧ q.spec.clusterGroupName = m ++ "-" ++ p.spec.clusterGroupName)
        ∨ ∃ m, q.displayName = p.displayName ++ "-" ++ m
            ∧ p.spec.clusterGroupName = m ++ "-" ++ q.spec.clusterGroupName :=
  dash_eq_iff

/-- Groups without a dash leave no doubt where the name of the pattern ends. -/
theorem applicationName_eq_iff_of_plain {p q : Pattern}
    (hp : '-' ∉ p.spec.clusterGroupName.toList) (hq : '-' ∉ q.spec.clusterGroupName.toList) :
    p.applicationName = q.applicationName ↔
      p.displayName = q.displayName ∧ p.spec.clusterGroupName = q.spec.clusterGroupName := by
  rw [applicationName_eq_iff]
  refine or_iff_left ?_
  rintro (⟨m, -, hgroup⟩ | ⟨m, -, hgroup⟩)
  · exact hq (by simp [hgroup])
  · exact hp (by simp [hgroup])

end Pattern

/-! ## The place of a change -/

theorem SyncChange.place? {p : Pattern} {settings : Settings} {first : List Step} {c : Call}
    (h : SyncChange p settings first c) :
    c.place? = some { ns := settings.applicationNamespace, name := p.applicationName } := by
  cases h with
  | create => rfl
  | merge hread => rfl

/-- A pass only changes what has the application name of its pattern. -/
theorem Change.place? {p : Pattern} {around : Surroundings} {first : List Step} {c : Call}
    (h : Change p around first c) :
    ∃ ns, c.place? = some { ns, name := p.applicationName } := by
  cases h with
  | sync hsettings hopening hsync => exact ⟨_, hsync.place?⟩
  | delete hsettings hopening => exact ⟨_, rfl⟩

namespace Inventory

theorem stored_serve_of_ne {s after : Inventory} {c : Call} {fate : Fate}
    {result : Except ApiFailure Json} {place : Place}
    (h : s.serve c fate = some (result, after))
    (hplace : c.changesApplications = true → c.place? ≠ some place) :
    after.stored place = s.stored place := by
  obtain ⟨_, -, -, rfl⟩ | ⟨-, version, hperform⟩ := Handler.refused_or_performed h
  · rfl
  cases c with
  | createApplication ns a =>
    obtain ⟨-, -, rfl⟩ := perform?_create hperform
    exact if_neg fun heq => hplace rfl (congrArg some heq.symm)
  | mergeApplication ns name change =>
    obtain ⟨_, -, -, -, rfl⟩ := perform?_merge hperform
    exact if_neg fun heq => hplace rfl (congrArg some heq.symm)
  | deleteApplication ns name =>
    obtain ⟨-, rfl⟩ := perform?_delete hperform
    exact if_neg fun heq => hplace rfl (congrArg some heq.symm)
  | _ => rw [perform?_other rfl hperform]

end Inventory

/-! ## Keeping off -/

namespace Deed

def creates (place : Place) : Deed → Bool
  | asked c@(.createApplication _ _) fate _ _ _ => !fate.isRefused && c.place? = some place
  | _ => false

def removes (place : Place) : Deed → Bool
  | asked c@(.deleteApplication _ _) _ _ before after =>
    c.place? = some place && (before.stored place).isSome && (after.stored place).isNone
  | _ => false

end Deed

namespace Flight

def Creates (flight : Flight) (place : Place) : Prop :=
  ∃ deed ∈ flight.deeds, deed.creates place = true

/-- The pass neither tries to change the application at the place nor changes it. -/
structure KeepsOff (flight : Flight) (place : Place) : Prop where
  asked : ∀ c fate result before after, .asked c fate result before after ∈ flight.deeds →
    c.changesApplications = true → c.place? ≠ some place
  stored : ∀ c fate result before after, .asked c fate result before after ∈ flight.deeds →
    after.stored place = before.stored place

section

variable {flight : Flight} {s : Inventory}

theorem Sound.place? (h : flight.Sound s) {c : Call} {fate : Fate}
    {result : Except ApiFailure Json} {before after : Inventory}
    (hmem : .asked c fate result before after ∈ flight.deeds)
    (hc : c.changesApplications = true) :
    ∃ ns, c.place? = some { ns, name := flight.pattern.applicationName } := by
  obtain ⟨_, _, heq⟩ := List.append_of_mem hmem
  obtain ⟨-, -, hchange⟩ := h.around_change heq hc
  exact hchange.place?

/-- What a pass creates has the application name of its pattern. -/
theorem Sound.name_of_creates (h : flight.Sound s) {place : Place}
    (hcreates : flight.Creates place) : place.name = flight.pattern.applicationName := by
  obtain ⟨deed, hmem, hdeed⟩ := hcreates
  cases deed with
  | asked c fate result before after =>
    cases c with
    | createApplication ns a =>
      obtain ⟨_, hplace⟩ := h.place? hmem rfl
      obtain ⟨-, hat⟩ := Bool.and_eq_true_iff.1 hdeed
      rw [of_decide_eq_true hat] at hplace
      cases hplace
      rfl
    | _ => cases hdeed
  | noted n => cases hdeed

theorem Sound.keepsOff (h : flight.Sound s) {place : Place}
    (hname : place.name ≠ flight.pattern.applicationName) : flight.KeepsOff place := by
  have hasked : ∀ c fate result before after, .asked c fate result before after ∈ flight.deeds →
      c.changesApplications = true → c.place? ≠ some place := by
    intro c fate result before after hmem hc hplace
    obtain ⟨ns, hat⟩ := h.place? hmem hc
    obtain rfl := Option.some.inj (hplace.symm.trans hat)
    exact hname rfl
  refine ⟨hasked, fun c fate result before after hmem => ?_⟩
  obtain ⟨_, _, heq⟩ := List.append_of_mem hmem
  obtain ⟨-, -, hserve⟩ := h.timely heq
  exact Inventory.stored_serve_of_ne hserve (hasked _ _ _ _ _ hmem)

theorem KeepsOff.not_removes {place : Place} (h : flight.KeepsOff place) :
    ∀ deed ∈ flight.deeds, deed.removes place = false := by
  intro deed hmem
  cases deed with
  | asked c fate result before after =>
    cases c with
    | deleteApplication ns name =>
      have hne := h.asked _ _ _ _ _ hmem rfl
      simp [Deed.removes, hne]
    | _ => rfl
  | noted n => rfl

end

end Flight

/-! ## All interleavings -/

/-- However passes are interleaved with each other and with the writes of others: what a pass has
created is neither patched nor deleted by a pass with another application name. -/
theorem keepsOff_of_created {moves : List Move} {w : World}
    (hreplay : World.replay {} moves = some w) {f g : Flight} (hf : f ∈ w.flights)
    (hg : g ∈ w.flights) (hnames : f.pattern.applicationName ≠ g.pattern.applicationName)
    {place : Place} (hcreates : f.Creates place) : g.KeepsOff place := by
  have hsound := (World.sound_empty.replay hreplay).flights
  refine (hsound g hg).keepsOff ?_
  rw [(hsound f hf).name_of_creates hcreates]
  exact hnames

/-- A pattern whose name goes on from that of `finalized`, and that is deleted. -/
def leaving : Pattern where
  metadata :=
    { name := some "mcg-hub"
      namespaceName := some "default"
      finalizers := some [Pattern.finalizer]
      deletionTimestamp := some (.midnight (.newYear 2024)) }
  spec := { finalized.spec with clusterGroupName := "east" }

/-- The moves of two passes that find no settings. The first creates the application of its pattern;
the second begins meanwhile and deletes the application of `leaving`. -/
def crossing (p : Pattern) : List Move :=
  let around : Surroundings :=
    { operatorNamespace := "operators", now := .midnight (.newYear 2024) }
  let answered (version : String) : Fate := .served .null version
  let absent : Fate := .refused (.refusal { status := "", reason := "NotFound", code := 404 })
  let silent : Fate := .refused (.service "")
  [.start p around] ++ [silent, silent, absent, silent, silent, silent, absent].map (.go 0)
    ++ [.start leaving around] ++ [silent, silent, absent, silent].map (.go 1)
    ++ [silent, answered "7", silent, silent, answered "", silent].map (.go 0)
    ++ [answered "", silent, answered "", answered "", silent].map (.go 1)

def leavingPlace : Place where
  ns := "openshift-gitops"
  name := "mcg-hub-east"

theorem keepsOff_of_created_crossing :
    ∃ w, World.replay {} (.put leavingPlace (.obj []) "6" :: crossing finalized) = some w
      ∧ ∃ f ∈ w.flights, ∃ g ∈ w.flights,
        f.pattern.applicationName ≠ g.pattern.applicationName
          ∧ (∃ deed ∈ g.deeds, deed.removes leavingPlace = true)
          ∧ f.Creates { ns := "openshift-gitops", name := "mcg-hub" }
          ∧ g.KeepsOff { ns := "openshift-gitops", name := "mcg-hub" } := by
  have hruns : (World.replay {} (.put leavingPlace (.obj []) "6" :: crossing finalized)).any
      (fun w => w.flights.any fun f => w.flights.any fun g =>
        f.pattern.applicationName ≠ g.pattern.applicationName
          && g.deeds.any (Deed.removes leavingPlace)
          && f.deeds.any (Deed.creates { ns := "openshift-gitops", name := "mcg-hub" }))
        = true := by
    decide
  simp only [Option.any_eq_true, List.any_eq_true, Bool.and_eq_true, decide_eq_true_eq] at hruns
  obtain ⟨w, hreplay, f, hf, g, hg, ⟨hnames, hremoves⟩, hcreates⟩ := hruns
  exact ⟨w, hreplay, f, hf, g, hg, hnames, hremoves, hcreates,
    keepsOff_of_created hreplay hf hg hnames hcreates⟩

/-- A pattern with the name of `finalized`, and with a group that begins with the rest of the name
of `leaving`. -/
def nested : Pattern :=
  { finalized with spec := { finalized.spec with clusterGroupName := "hub-east" } }

/-- Two patterns in one namespace, of different names, can have one application: what the pass over
one has created, the cleanup of the other deletes. -/
theorem removed_by_neighbour :
    ∃ w, World.replay {} (crossing nested) = some w
      ∧ ∃ f ∈ w.flights, ∃ g ∈ w.flights,
        f.pattern.displayName ≠ g.pattern.displayName
          ∧ f.pattern.metadata.namespaceName = g.pattern.metadata.namespaceName
          ∧ f.around.operatorNamespace = g.around.operatorNamespace
          ∧ f.Creates leavingPlace ∧ (∃ deed ∈ g.deeds, deed.removes leavingPlace = true)
          ∧ ¬ g.KeepsOff leavingPlace := by
  have hruns : (World.replay {} (crossing nested)).any
      (fun w => w.flights.any fun f => w.flights.any fun g =>
        f.pattern.displayName ≠ g.pattern.displayName
          && f.pattern.metadata.namespaceName = g.pattern.metadata.namespaceName
          && f.around.operatorNamespace = g.around.operatorNamespace
          && f.deeds.any (Deed.creates leavingPlace)
          && g.deeds.any (Deed.removes leavingPlace)) = true := by
    decide
  simp only [Option.any_eq_true, List.any_eq_true, Bool.and_eq_true, decide_eq_true_eq] at hruns
  obtain ⟨w, hreplay, f, hf, g, hg, ⟨⟨⟨hnames, hnamespace⟩, hsettings⟩, hcreates⟩, deed, hdeed,
    hremoved⟩ := hruns
  refine ⟨w, hreplay, f, hf, g, hg, hnames, hnamespace, hsettings, hcreates,
    ⟨deed, hdeed, hremoved⟩, fun hkeeps => ?_⟩
  cases hremoved.symm.trans (hkeeps.not_removes deed hdeed)

end PatternSync
