import PatternSync.Proofs.Courses
import PatternSync.Proofs.Inventory

/-!
# What a pass writes

A pass changes applications by at most one call, and what it says in that call it has learnt from
its settings and from reading the application (`ReconcileCourse.oneChange`).

This is shown part by part: each part of a pass has its courses, and what is shown of a course is
put together from what was shown of the courses in it. Most parts only look (`Plain`), and all that
is ever asked about those follows from that.
-/

namespace PatternSync

open Pass

/-! ## Calls among steps -/

def Avoids (kind : Call → Bool) (steps : List Step) : Prop :=
  ∀ c result, .called c result ∈ steps → kind c = false

section

variable {kind kind' : Call → Bool} {first second steps : List Step}

theorem avoids_nil : Avoids kind [] :=
  fun _ _ h => absurd h List.not_mem_nil

theorem avoids_note (n : Note) : Avoids kind [.noted n] := by
  intro c result hmem
  cases List.mem_singleton.1 hmem

theorem avoids_call {c : Call} (hc : kind c = false) (result : Except ApiFailure Json) :
    Avoids kind [.called c result] := by
  intro d result hmem
  cases List.mem_singleton.1 hmem
  exact hc

theorem Avoids.append (h₁ : Avoids kind first) (h₂ : Avoids kind second) :
    Avoids kind (first ++ second) := by
  intro c result hmem
  rcases List.mem_append.1 hmem with hmem | hmem
  · exact h₁ c result hmem
  · exact h₂ c result hmem

theorem Avoids.mono (h : Avoids kind steps) (hkind : ∀ c, kind c = false → kind' c = false) :
    Avoids kind' steps :=
  fun c result hmem => hkind c (h c result hmem)

/-- If there is one call of the kind, then the steps can be cut at such a call in one way only. -/
theorem Avoids.cut {first' last last' : List Step} {c c' : Call}
    {result result' : Except ApiFailure Json} (hfirst : Avoids kind first)
    (hlast : Avoids kind last) (hc' : kind c' = true)
    (h : first ++ .called c result :: last = first' ++ .called c' result' :: last') :
    first = first' ∧ c = c' ∧ result = result' ∧ last = last' := by
  rcases List.append_eq_append_iff.1 h with ⟨mid, hmid, htail⟩ | ⟨mid, hmid, htail⟩
  · cases mid with
    | nil =>
      rw [List.append_nil] at hmid
      cases htail
      exact ⟨hmid.symm, rfl, rfl, rfl⟩
    | cons s mid =>
      obtain ⟨-, hrest⟩ := List.cons.inj htail
      cases hc'.symm.trans (hlast c' result' (hrest ▸ List.mem_append_right _ List.mem_cons_self))
  · cases mid with
    | nil =>
      rw [List.append_nil] at hmid
      cases htail
      exact ⟨hmid, rfl, rfl, rfl⟩
    | cons s mid =>
      obtain ⟨hs, -⟩ := List.cons.inj htail
      cases hc'.symm.trans
        (hfirst c' result' (hmid ▸ List.mem_append_right _ (hs ▸ List.mem_cons_self)))

end

def Pass.Step.call? : Step → Option (Call × Except ApiFailure Json)
  | .called c result => some (c, result)
  | .noted _ => none

/-- The calls among steps, with what came of them. -/
def callsOf (steps : List Step) : List (Call × Except ApiFailure Json) :=
  steps.filterMap Step.call?

theorem callsOf_append (first second : List Step) :
    callsOf (first ++ second) = callsOf first ++ callsOf second :=
  List.filterMap_append

theorem mem_callsOf {c : Call} {result : Except ApiFailure Json} {steps : List Step} :
    (c, result) ∈ callsOf steps ↔ .called c result ∈ steps := by
  rw [callsOf, List.mem_filterMap]
  constructor
  · rintro ⟨s, hs, hcall⟩
    cases s with
    | called d result' =>
      cases hcall
      exact hs
    | noted n => cases hcall
  · intro hmem
    exact ⟨_, hmem, rfl⟩

namespace Call

/-- Whether the call asks for more than an answer. -/
def acts : Call → Bool
  | listPatterns | readSettings _ | readConfig _ | readApplication _ _ => false
  | _ => true

def patchesPattern : Call → Bool
  | patchPattern _ _ _ => true
  | _ => false

/-- Whether the call changes the pattern, its status included. -/
def changesPattern : Call → Bool
  | patchPattern _ _ _ | recordStatus _ _ _ => true
  | _ => false

theorem patchesPattern_of_acts {c : Call} (h : c.acts = false) : c.patchesPattern = false := by
  cases c with
  | patchPattern ns name ops => cases h
  | _ => rfl

theorem changesPattern_of_acts {c : Call} (h : c.acts = false) : c.changesPattern = false := by
  cases c with
  | patchPattern ns name ops => cases h
  | recordStatus ns name status => cases h
  | _ => rfl

theorem changesPattern_of_isWrite {c : Call} (h : c.isWrite = true) :
    c.changesPattern = false := by
  cases c with
  | patchPattern ns name ops => cases h
  | recordStatus ns name status => cases h
  | _ => rfl

theorem changesApplications_of_acts {c : Call} (h : c.acts = false) :
    c.changesApplications = false := by
  cases c with
  | createApplication ns a => cases h
  | mergeApplication ns name change => cases h
  | deleteApplication ns name => cases h
  | _ => rfl

theorem changesApplications_of_isWrite {c : Call} (h : c.isWrite = true) :
    c.changesApplications = true := by
  cases c with
  | createApplication ns a => rfl
  | mergeApplication ns name change => rfl
  | _ => cases h

theorem isWrite_of_changesApplications {c : Call} (h : c.changesApplications = false) :
    c.isWrite = false := by
  rw [← Bool.not_eq_true] at h ⊢
  exact mt changesApplications_of_isWrite h

end Call

/-! ## Steps that only look -/

/-- Steps that read or write into the log. -/
def Plain (steps : List Step) : Prop :=
  ∀ s ∈ steps, (∃ line, s = .noted (.log line)) ∨ ∃ c result, s = .called c result ∧ c.acts = false

theorem plain_nil : Plain [] :=
  fun _ h => absurd h List.not_mem_nil

theorem Plain.append {first second : List Step} (h₁ : Plain first) (h₂ : Plain second) :
    Plain (first ++ second) := by
  intro s hs
  rcases List.mem_append.1 hs with hs | hs
  · exact h₁ s hs
  · exact h₂ s hs

theorem Plain.log {steps : List Step} (h : Plain steps) (line : LogLine) :
    Plain (.noted (.log line) :: steps) := by
  intro s hs
  rcases List.mem_cons.1 hs with rfl | hs
  · exact .inl ⟨line, rfl⟩
  · exact h s hs

theorem Plain.look {steps : List Step} (h : Plain steps) {c : Call} (hc : c.acts = false)
    (result : Except ApiFailure Json) : Plain (.called c result :: steps) := by
  intro s hs
  rcases List.mem_cons.1 hs with rfl | hs
  · exact .inr ⟨c, result, rfl, hc⟩
  · exact h s hs

theorem Quiet.plain {steps : List Step} (h : Quiet steps) : Plain steps :=
  fun s hs => .inl (h s hs)

theorem Plain.passive {steps : List Step} (h : Plain steps) : Avoids Call.acts steps := by
  intro c result hmem
  rcases h _ hmem with ⟨_, heq⟩ | ⟨_, _, heq, hacts⟩
  · cases heq
  · cases heq
    exact hacts

theorem Plain.harmless {steps : List Step} (h : Plain steps) :
    Avoids Call.changesApplications steps :=
  h.passive.mono fun _ => Call.changesApplications_of_acts

theorem Plain.calm {steps : List Step} (h : Plain steps) : Avoids Call.isWrite steps :=
  h.harmless.mono fun _ => Call.isWrite_of_changesApplications

theorem Plain.unpatched {steps : List Step} (h : Plain steps) : Avoids Call.patchesPattern steps :=
  h.passive.mono fun _ => Call.patchesPattern_of_acts

theorem plain_reading (p : Pattern) (settings : Settings) (result : Except ApiFailure Json)
    (line : LogLine) : Plain [.called (readCall p settings) result, .noted (.log line)] :=
  (plain_nil.log line).look rfl result

theorem SettingsCourse.plain {ns : String} {steps : List Step} {v : Except Failure Settings}
    (h : SettingsCourse ns steps v) : Plain steps := by
  cases h with
  | stored hdata => exact plain_nil.look rfl _
  | rejected hdata => exact plain_nil.look rfl _
  | absent habsent => exact (plain_nil.log _).look rfl _
  | unread habsent => exact plain_nil.look rfl _

theorem FactsCourse.plain {observed status : PatternStatus} {steps : List Step}
    (h : FactsCourse observed steps status) : Plain steps := by
  cases h with
  | known => exact ((plain_nil.look rfl _).look rfl _).look rfl _
  | unknown hlooks =>
    refine Plain.append (fun s hs => ?_) (plain_nil.log _)
    obtain ⟨object, result, rfl⟩ := hlooks s hs
    exact .inr ⟨_, _, rfl, rfl⟩

/-! ## One change -/

/-- The steps change applications by at most one call. Before it they only look, and it has to do
with what they saw as `kind` says. -/
inductive OneChange (kind : List Step → Call → Prop) (steps : List Step) : Prop where
  | none (h : Avoids Call.changesApplications steps)
  | one {first last : List Step} {c : Call} {result : Except ApiFailure Json}
      (hsteps : steps = first ++ .called c result :: last) (hfirst : Avoids Call.acts first)
      (hlast : Avoids Call.changesApplications last) (hkind : kind first c)

namespace OneChange

variable {kind kind' : List Step → Call → Prop} {steps : List Step}

theorem surround (h : OneChange kind steps) {before after : List Step}
    (hbefore : Avoids Call.acts before) (hafter : Avoids Call.changesApplications after)
    (hkind : ∀ first c, kind first c → kind' (before ++ first) c) :
    OneChange kind' (before ++ steps ++ after) := by
  cases h with
  | none h =>
    exact .none (((hbefore.mono fun _ => Call.changesApplications_of_acts).append h).append hafter)
  | @one first last c result hsteps hfirst hlast hk =>
    have hall : before ++ steps ++ after
        = (before ++ first) ++ .called c result :: (last ++ after) := by
      rw [hsteps]
      simp only [List.append_assoc, List.cons_append]
    exact .one hall (hbefore.append hfirst) (hlast.append hafter) (hkind _ _ hk)

theorem split (h : OneChange kind steps) {first last : List Step} {c : Call}
    {result : Except ApiFailure Json} (hsteps : steps = first ++ .called c result :: last)
    (hc : c.changesApplications = true) :
    Avoids Call.acts first ∧ Avoids Call.changesApplications last ∧ kind first c := by
  cases h with
  | none h =>
    cases hc.symm.trans (h c result (hsteps ▸ List.mem_append_right _ List.mem_cons_self))
  | @one first' last' d result' hsteps' hfirst hlast hkind =>
    have hbefore := hfirst.mono fun _ => Call.changesApplications_of_acts
    obtain ⟨rfl, rfl, rfl, rfl⟩ := hbefore.cut hlast hc (hsteps'.symm.trans hsteps)
    exact ⟨hfirst, hlast, hkind⟩

end OneChange

/-! ## What is written -/

/-- A change that brings the application in line: it is created, or what was read is written
back. -/
inductive SyncChange (p : Pattern) (settings : Settings) (first : List Step) : Call → Prop where
  | create : SyncChange p settings first (createCall p settings)
  | merge {j : Json} (hread : .called (readCall p settings) (.ok j) ∈ first) :
      SyncChange p settings first (mergeCall p settings j)

/-- A change of applications by a pass, with the settings that were read before it. -/
inductive Change (p : Pattern) (around : Surroundings) (first : List Step) : Call → Prop where
  | sync {opening : List Step} {settings : Settings} {status : PatternStatus} {c : Call}
      (hsettings : SettingsCourse around.operatorNamespace opening (.ok settings))
      (hopening : opening ⊆ first)
      (hsync : SyncChange { p with status := some status } settings first c) :
      Change p around first c
  | delete {opening : List Step} {settings : Settings}
      (hsettings : SettingsCourse around.operatorNamespace opening (.ok settings))
      (hopening : opening ⊆ first) :
      Change p around first
        (.deleteApplication settings.applicationNamespace p.applicationName)

theorem SyncChange.prepend {p : Pattern} {settings : Settings} {first : List Step} {c : Call}
    (h : SyncChange p settings first c) (before : List Step) :
    SyncChange p settings (before ++ first) c := by
  cases h with
  | create => exact .create
  | merge hread => exact .merge (List.mem_append_right _ hread)

theorem Change.prepend {p : Pattern} {around : Surroundings} {first : List Step} {c : Call}
    (h : Change p around first c) (before : List Step) : Change p around (before ++ first) c := by
  cases h with
  | sync hsettings hopening hsync =>
    exact .sync hsettings (List.Subset.trans hopening (List.subset_append_right _ _))
      (hsync.prepend before)
  | delete hsettings hopening =>
    exact .delete hsettings (List.Subset.trans hopening (List.subset_append_right _ _))

theorem Change.changesApplications {p : Pattern} {around : Surroundings} {first : List Step}
    {c : Call} (h : Change p around first c) : c.changesApplications = true := by
  cases h with
  | sync hsettings hopening hsync => cases hsync <;> rfl
  | delete hsettings hopening => rfl

theorem SyncCourse.oneChange {p : Pattern} {settings : Settings} {steps : List Step}
    {v : Except Failure SyncOutcome} (h : SyncCourse p settings steps v) :
    OneChange (SyncChange p settings) steps := by
  have hopening := plain_reading p settings
  cases h with
  | unread habsent => exact .none (plain_nil.look rfl _).harmless
  | created habsent => exact .one rfl (hopening _ _).passive (avoids_note _) .create
  | notCreated habsent => exact .one rfl (hopening _ _).passive avoids_nil .create
  | unchanged hupdate => exact .none (hopening _ _).harmless
  | updated hupdate =>
    exact .one rfl (hopening _ _).passive (avoids_note _) (.merge List.mem_cons_self)
  | notUpdated hupdate hwarning =>
    exact .one rfl (hopening _ _).passive hwarning.plain.harmless (.merge List.mem_cons_self)

section

variable {p : Pattern} {ns : String} {around : Surroundings} {steps : List Step}

theorem StatusCourse.oneChange {v : Except Failure PatternStatus}
    (h : StatusCourse p around steps v) : OneChange (Change p around) steps := by
  have hsync : ∀ {first second third : List Step} {settings : Settings} {status : PatternStatus}
      {w : Except Failure SyncOutcome},
      SettingsCourse around.operatorNamespace first (.ok settings) →
      FactsCourse p.observed second status →
      SyncCourse { p with status := some status } settings third w →
      ∀ last, Avoids Call.changesApplications last →
        OneChange (Change p around) (first ++ second ++ third ++ last) := by
    intro first second third settings status w hsettings hfacts hsync last hlast
    refine hsync.oneChange.surround (hsettings.plain.append hfacts.plain).passive hlast ?_
    intro before c hchange
    refine .sync hsettings ?_ (hchange.prepend _)
    rw [List.append_assoc]
    exact List.subset_append_left _ _
  cases h with
  | unsettled hsettings => exact .none hsettings.plain.harmless
  | failed hsettings hfacts hcourse =>
    have h := hsync hsettings hfacts hcourse [] avoids_nil
    rwa [List.append_nil] at h
  | synced hsettings hfacts hcourse hlast =>
    exact hsync hsettings hfacts hcourse _ hlast.plain.harmless

theorem ConvergeCourse.oneChange {v : Except Failure Requeue}
    (h : ConvergeCourse p ns around steps v) : OneChange (Change p around) steps := by
  have hclose : ∀ {first : List Step} {w : Except Failure PatternStatus},
      StatusCourse p around first w → ∀ last, Avoids Call.changesApplications last →
        OneChange (Change p around) (first ++ last) := fun h last hlast =>
    h.oneChange.surround avoids_nil hlast fun _ _ hkind => hkind
  cases h with
  | failed hsync hsame => exact hsync.oneChange
  | failureRecorded hsync hdiffers => exact hclose hsync _ (avoids_call rfl _)
  | failureNotRecorded hsync hdiffers =>
    exact hclose hsync _ ((avoids_call rfl _).append (avoids_note _))
  | same hsync hsame => exact hclose hsync _ (avoids_note _)
  | recorded hsync hdiffers => exact hclose hsync _ (avoids_call rfl _)
  | notRecorded hsync hdiffers => exact hclose hsync _ (avoids_call rfl _)

theorem TeardownCourse.oneChange {v : Except Failure Requeue}
    (h : TeardownCourse p ns around steps v) : OneChange (Change p around) steps := by
  cases h with
  | unsettled hsettings => exact .none hsettings.plain.harmless
  | notDeleted hsettings hgone =>
    exact .one rfl hsettings.plain.passive avoids_nil
      (.delete hsettings (List.Subset.refl _))
  | notPublished hsettings hgone =>
    exact .one rfl hsettings.plain.passive ((avoids_note _).append (avoids_call rfl _))
      (.delete hsettings (List.Subset.refl _))
  | published hsettings hgone =>
    exact .one rfl hsettings.plain.passive ((avoids_note _).append (avoids_call rfl _))
      (.delete hsettings (List.Subset.refl _))

theorem FinalizeCourse.oneChange {v : Except Failure Requeue}
    (h : FinalizeCourse p ns around steps v) : OneChange (Change p around) steps := by
  have hclose : ∀ {first : List Step} {w : Except Failure Requeue},
      TeardownCourse p ns around first w → ∀ last, Avoids Call.changesApplications last →
        OneChange (Change p around) (first ++ last) := fun h last hlast =>
    h.oneChange.surround avoids_nil hlast fun _ _ hkind => hkind
  cases h with
  | converged hindex hstays hconverge => exact hconverge.oneChange
  | unnamed hname => exact .none avoids_nil
  | notTornDown hindex hdeleting hteardown => exact hteardown.oneChange
  | notRemoved hindex hdeleting hname hteardown =>
    exact hclose hteardown _ (avoids_call rfl _)
  | removed hindex hdeleting hname hteardown => exact hclose hteardown _ (avoids_call rfl _)
  | notAdded hindex hstays hname => exact .none (avoids_call rfl _)
  | added hindex hstays hname => exact .none (avoids_call rfl _)
  | idle hindex hdeleting => exact .none avoids_nil

theorem ReconcileCourse.oneChange {v : Except Failure Requeue}
    (h : ReconcileCourse p around steps v) : OneChange (Change p around) steps := by
  cases h with
  | homeless hns => exact .none ((avoids_note _).append (avoids_note _))
  | @finalized ns line steps _ hns hfinalize =>
    exact hfinalize.oneChange.surround ((avoids_note .began).append (avoids_note (.log line)))
      (avoids_note _) fun _ _ hkind => hkind.prepend _

end

/-! ## What a pass never does -/

section

variable {p : Pattern} {ns : String} {around : Surroundings} {steps : List Step}

/-- Bringing the application in line only looks, and creates or changes an application. -/
theorem SyncCourse.avoids {kind : Call → Bool} {settings : Settings}
    {v : Except Failure SyncOutcome} (h : SyncCourse p settings steps v)
    (hlook : ∀ c, c.acts = false → kind c = false)
    (hwrite : ∀ c, c.isWrite = true → kind c = false) : Avoids kind steps := by
  have hopening := fun result line => (plain_reading p settings result line).passive.mono hlook
  have hcreate := avoids_call (hwrite (createCall p settings) rfl)
  have hmerge := fun j => avoids_call (hwrite (mergeCall p settings j) rfl)
  cases h with
  | unread habsent => exact avoids_call (hlook _ rfl) _
  | created habsent => exact (hopening _ _).append ((hcreate _).append (avoids_note _))
  | notCreated habsent => exact (hopening _ _).append (hcreate _)
  | unchanged hupdate => exact hopening _ _
  | updated hupdate => exact (hopening _ _).append ((hmerge _ _).append (avoids_note _))
  | notUpdated hupdate hwarning =>
    exact (hopening _ _).append ((hmerge _ _).append (hwarning.plain.passive.mono hlook))

theorem StatusCourse.avoids {kind : Call → Bool} {v : Except Failure PatternStatus}
    (h : StatusCourse p around steps v) (hlook : ∀ c, c.acts = false → kind c = false)
    (hwrite : ∀ c, c.isWrite = true → kind c = false) : Avoids kind steps := by
  cases h with
  | unsettled hsettings => exact hsettings.plain.passive.mono hlook
  | failed hsettings hfacts hsync =>
    have hopening := (hsettings.plain.append hfacts.plain).passive.mono hlook
    exact hopening.append (hsync.avoids hlook hwrite)
  | synced hsettings hfacts hsync hlast =>
    have hopening := (hsettings.plain.append hfacts.plain).passive.mono hlook
    exact (hopening.append (hsync.avoids hlook hwrite)).append (hlast.plain.passive.mono hlook)

theorem Call.patchesPattern_of_isWrite {c : Call} (h : c.isWrite = true) :
    c.patchesPattern = false := by
  cases c with
  | patchPattern ns name ops => cases h
  | _ => rfl

theorem ConvergeCourse.avoids {kind : Call → Bool} {v : Except Failure Requeue}
    (h : ConvergeCourse p ns around steps v) (hlook : ∀ c, c.acts = false → kind c = false)
    (hwrite : ∀ c, c.isWrite = true → kind c = false)
    (hrecord : ∀ ns name status, kind (.recordStatus ns name status) = false) :
    Avoids kind steps := by
  have hclose := fun status => avoids_call (hrecord ns p.displayName status)
  cases h with
  | failed hsync hsame => exact hsync.avoids hlook hwrite
  | failureRecorded hsync hdiffers => exact (hsync.avoids hlook hwrite).append (hclose _ _)
  | failureNotRecorded hsync hdiffers =>
    exact (hsync.avoids hlook hwrite).append ((hclose _ _).append (avoids_note _))
  | same hsync hsame => exact (hsync.avoids hlook hwrite).append (avoids_note _)
  | recorded hsync hdiffers => exact (hsync.avoids hlook hwrite).append (hclose _ _)
  | notRecorded hsync hdiffers => exact (hsync.avoids hlook hwrite).append (hclose _ _)

/-- A pass over a pattern that stays does not patch it. -/
theorem ConvergeCourse.unpatched {v : Except Failure Requeue}
    (h : ConvergeCourse p ns around steps v) : Avoids Call.patchesPattern steps :=
  h.avoids (fun _ => Call.patchesPattern_of_acts) (fun _ => Call.patchesPattern_of_isWrite)
    fun _ _ _ => rfl

/-- Tearing down only looks, deletes an application and publishes an event. -/
theorem TeardownCourse.avoids {kind : Call → Bool} {v : Except Failure Requeue}
    (h : TeardownCourse p ns around steps v) (hlook : ∀ c, c.acts = false → kind c = false)
    (hdelete : ∀ ns name, kind (.deleteApplication ns name) = false)
    (hpublish : ∀ ns event, kind (.publish ns event) = false) : Avoids kind steps := by
  have hplain : ∀ {steps : List Step}, Plain steps → Avoids kind steps :=
    fun hsteps => hsteps.passive.mono hlook
  cases h with
  | unsettled hsettings => exact hplain hsettings.plain
  | notDeleted hsettings hgone =>
    exact (hplain hsettings.plain).append (avoids_call (hdelete _ _) _)
  | notPublished hsettings hgone =>
    exact (hplain hsettings.plain).append ((avoids_call (hdelete _ _) _).append
      ((avoids_note _).append (avoids_call (hpublish _ _) _)))
  | published hsettings hgone =>
    exact (hplain hsettings.plain).append ((avoids_call (hdelete _ _) _).append
      ((avoids_note _).append (avoids_call (hpublish _ _) _)))

theorem TeardownCourse.unpatched {v : Except Failure Requeue}
    (h : TeardownCourse p ns around steps v) : Avoids Call.patchesPattern steps :=
  h.avoids (fun _ => Call.patchesPattern_of_acts) (fun _ _ => rfl) (fun _ _ => rfl)

/-- A pass over a pattern that is deleted writes nothing. -/
theorem TeardownCourse.calm {v : Except Failure Requeue} (h : TeardownCourse p ns around steps v) :
    Avoids Call.isWrite steps := by
  refine h.avoids (fun c hc => ?_) (fun _ _ => rfl) (fun _ _ => rfl)
  exact Call.isWrite_of_changesApplications (Call.changesApplications_of_acts hc)

end

end PatternSync
