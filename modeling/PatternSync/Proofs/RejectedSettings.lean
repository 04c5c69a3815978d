import PatternSync.Proofs.AcceptedSettings
import PatternSync.Proofs.Guards
import PatternSync.Proofs.LastError

/-!
# Settings that cannot be used

A pass goes by the settings of the operator. If these are rejected, or cannot be read for another
reason than that there are none, then it does nothing that it needs them for: it sends no request
about applications or configuration objects, publishes nothing, and takes no finalizer away. All
that is left to it is in `Hindered`, and of what is stored about the pattern it changes the last
error alone. Main statement: `unusable_settings_hinder`.

This is read off the courses of a pass. Each of them that goes on after the settings has been given
some, so that only those are left which end there (`SettingsCourse.unusable`).
-/

namespace PatternSync

open Json Pass

/-! ## No settings to go by -/

/-- What reading the settings came to gives none to go by. The pass fails with `e`. -/
inductive Unusable : Except ApiFailure Json → Failure → Prop
  | rejected {map : Json} {complaint : String}
      (hdata : Settings.ofData (settingsMapData map) = .error complaint) :
      Unusable (.ok map) (.plain (.invalidSettings complaint))
  | unread {f : ApiFailure} (habsent : f.isAbsence = false) : Unusable (.error f) (.ofApi f)

/-- Every time the settings were read among the steps there were none to go by. -/
def Unsettled (around : Surroundings) (steps : List Step) : Prop :=
  ∀ result, .called (.readSettings around.operatorNamespace) result ∈ steps →
    ∃ e, Unusable result e

section

variable {p : Pattern} {around : Surroundings} {ns : String} {first second steps : List Step}

theorem Unsettled.left (h : Unsettled around (first ++ second)) : Unsettled around first :=
  fun result hmem => h result (List.mem_append_left _ hmem)

theorem SettingsCourse.unusable {w : Except Failure Settings}
    (h : SettingsCourse around.operatorNamespace steps w) (hbad : Unsettled around steps) :
    ∃ result e, steps = [.called (.readSettings around.operatorNamespace) result]
      ∧ Unusable result e ∧ w = .error e := by
  cases h with
  | stored hdata =>
    obtain ⟨e, hunusable⟩ := hbad _ List.mem_cons_self
    cases hunusable with
    | rejected hrejected => cases hdata.symm.trans hrejected
  | rejected hdata => exact ⟨_, _, rfl, .rejected hdata, rfl⟩
  | absent habsent =>
    obtain ⟨e, hunusable⟩ := hbad _ List.mem_cons_self
    cases hunusable with
    | unread hpresent => cases habsent.symm.trans hpresent
  | unread habsent => exact ⟨_, _, rfl, .unread habsent, rfl⟩

theorem SettingsCourse.not_unsettled {settings : Settings}
    (h : SettingsCourse around.operatorNamespace first (.ok settings)) :
    ¬ Unsettled around first := by
  intro hbad
  obtain ⟨_, _, -, -, hw⟩ := h.unusable hbad
  cases hw

theorem StatusCourse.unusable {w : Except Failure PatternStatus}
    (h : StatusCourse p around steps w) (hbad : Unsettled around steps) :
    ∃ result e, steps = [.called (.readSettings around.operatorNamespace) result]
      ∧ Unusable result e ∧ w = .error e := by
  cases h with
  | unsettled hsettings =>
    obtain ⟨result, _, hsteps, hunusable, hw⟩ := hsettings.unusable hbad
    cases hw
    exact ⟨result, _, hsteps, hunusable, rfl⟩
  | failed hsettings hfacts hsync => exact absurd hbad.left.left hsettings.not_unsettled
  | synced hsettings hfacts hsync hlast => exact absurd hbad.left.left.left hsettings.not_unsettled

theorem TeardownCourse.unusable {v : Except Failure Requeue}
    (h : TeardownCourse p ns around steps v) (hbad : Unsettled around steps) :
    ∃ result e, steps = [.called (.readSettings around.operatorNamespace) result]
      ∧ Unusable result e ∧ v = .error e := by
  cases h with
  | unsettled hsettings =>
    obtain ⟨result, _, hsteps, hunusable, hw⟩ := hsettings.unusable hbad
    cases hw
    exact ⟨result, _, hsteps, hunusable, rfl⟩
  | notDeleted hsettings hgone => exact absurd hbad.left hsettings.not_unsettled
  | notPublished hsettings hgone => exact absurd hbad.left hsettings.not_unsettled
  | published hsettings hgone => exact absurd hbad.left hsettings.not_unsettled

/-! ## What is left to a pass -/

variable (p around) in
/-- The calls of a pass that has no settings to go by, and how it ends. -/
inductive Hindered : List (Call × Except ApiFailure Json) → Except Failure Requeue → Prop
  /-- The pass is over before it asks for the settings. -/
  | unasked {v : Except Failure Requeue}
      (hidle : p.metadata.namespaceName = none ∨ p.metadata.name = none
        ∨ p.isHeld = false ∧ p.metadata.isDeleting = true) :
      Hindered [] v
  /-- The pattern gets the finalizer, which asks for no settings either. -/
  | marked {ns name : String} {answer : Except ApiFailure Json} {v : Except Failure Requeue}
      (hfree : p.isHeld = false) (hstays : p.metadata.isDeleting = false)
      (hns : p.metadata.namespaceName = some ns) (hname : p.metadata.name = some name) :
      Hindered [(.patchPattern ns name p.addFinalizer, answer)] v
  /-- The pass fails and has nothing to record: the pattern is to be deleted, or the error is
  recorded already. -/
  | failed {result : Except ApiFailure Json} {e : Failure} (hunusable : Unusable result e)
      (hheld : p.isHeld = true)
      (hknown : p.metadata.isDeleting = true ∨ e.message = p.observed.lastError) :
      Hindered [(.readSettings around.operatorNamespace, result)] (.error e)
  /-- The pass fails and records the error. -/
  | recorded {ns : String} {result answer : Except ApiFailure Json} {e : Failure}
      (hunusable : Unusable result e) (hheld : p.isHeld = true)
      (hstays : p.metadata.isDeleting = false) (hns : p.metadata.namespaceName = some ns)
      (hother : e.message ≠ p.observed.lastError) :
      Hindered
        [ (.readSettings around.operatorNamespace, result),
          (.recordStatus ns p.displayName { p.observed with lastError := e.message }, answer) ]
        (.error e)

theorem ConvergeCourse.hindered {v : Except Failure Requeue}
    (h : ConvergeCourse p ns around steps v) (hbad : Unsettled around steps)
    (hns : p.metadata.namespaceName = some ns) (hheld : p.isHeld = true)
    (hstays : p.metadata.isDeleting = false) : Hindered p around (callsOf steps) v := by
  have hok : ∀ {first : List Step} {status : PatternStatus},
      StatusCourse p around first (.ok status) → Unsettled around first → False := by
    intro first status hstatus hfirst
    obtain ⟨_, _, -, -, hw⟩ := hstatus.unusable hfirst
    cases hw
  have hmessage := p.observed.differs_afterFailure
  cases h with
  | failed hsync hsame =>
    obtain ⟨result, _, rfl, hunusable, hw⟩ := hsync.unusable hbad
    cases hw
    have hknown := of_decide_eq_false ((hmessage _).symm.trans hsame)
    exact .failed hunusable hheld (.inr (Decidable.not_not.1 hknown))
  | failureRecorded hsync hdiffers =>
    obtain ⟨result, _, rfl, hunusable, hw⟩ := hsync.unusable hbad.left
    cases hw
    have hother := of_decide_eq_true ((hmessage _).symm.trans hdiffers)
    exact .recorded hunusable hheld hstays hns hother
  | failureNotRecorded hsync hdiffers =>
    obtain ⟨result, _, rfl, hunusable, hw⟩ := hsync.unusable hbad.left
    cases hw
    have hother := of_decide_eq_true ((hmessage _).symm.trans hdiffers)
    exact .recorded hunusable hheld hstays hns hother
  | same hsync hsame => exact (hok hsync hbad.left).elim
  | recorded hsync hdiffers => exact (hok hsync hbad.left).elim
  | notRecorded hsync hdiffers => exact (hok hsync hbad.left).elim

theorem FinalizeCourse.hindered {v : Except Failure Requeue}
    (h : FinalizeCourse p ns around steps v) (hbad : Unsettled around steps)
    (hns : p.metadata.namespaceName = some ns) : Hindered p around (callsOf steps) v := by
  have htorn : ∀ {first : List Step} {requeue : Requeue},
      TeardownCourse p ns around first (.ok requeue) → Unsettled around first → False := by
    intro first requeue hteardown hfirst
    obtain ⟨_, _, -, -, hw⟩ := hteardown.unusable hfirst
    cases hw
  have hfree : p.finalizerIndex? = none → p.isHeld = false := by
    intro hindex
    rw [Pattern.isHeld, hindex]
    rfl
  cases h with
  | converged hindex hstays hconverge =>
    exact hconverge.hindered hbad hns (Pattern.isHeld_of_index hindex) hstays
  | unnamed hname => exact .unasked (.inr (.inl hname))
  | notTornDown hindex hdeleting hteardown =>
    obtain ⟨result, _, rfl, hunusable, hw⟩ := hteardown.unusable hbad
    cases hw
    exact .failed hunusable (Pattern.isHeld_of_index hindex) (.inl hdeleting)
  | notRemoved hindex hdeleting hname hteardown => exact (htorn hteardown hbad.left).elim
  | removed hindex hdeleting hname hteardown => exact (htorn hteardown hbad.left).elim
  | notAdded hindex hstays hname => exact .marked (hfree hindex) hstays hns hname
  | added hindex hstays hname => exact .marked (hfree hindex) hstays hns hname
  | idle hindex hdeleting => exact .unasked (.inr (.inr ⟨hfree hindex, hdeleting⟩))

theorem ReconcileCourse.hindered {v : Except Failure Requeue}
    (h : ReconcileCourse p around steps v) (hbad : Unsettled around steps) :
    Hindered p around (callsOf steps) v := by
  cases h with
  | homeless hns => exact .unasked (.inl hns)
  | @finalized ns line body _ hns hfinalize =>
    have hbody : Unsettled around body := fun result hmem =>
      hbad result (List.mem_cons_of_mem _ (List.mem_cons_of_mem _ (List.mem_append_left _ hmem)))
    have hcalls : callsOf (.noted .began :: .noted (.log line) :: body
        ++ [.noted (.ended "pattern")]) = callsOf body := by
      rw [callsOf_append]
      exact List.append_nil _
    rw [hcalls]
    exact hfinalize.hindered hbody hns

def Call.needsSettings : Call → Bool
  | .readConfig _ | .readApplication _ _ | .createApplication _ _ | .mergeApplication _ _ _
  | .deleteApplication _ _ | .publish _ _ => true
  | c => c.isRelease

theorem Hindered.avoids {v : Except Failure Requeue} (h : Hindered p around (callsOf steps) v) :
    Avoids Call.needsSettings steps := by
  intro c result hmem
  have hcalled := mem_callsOf.2 hmem
  generalize callsOf steps = calls at h hcalled
  cases h with
  | unasked hidle => cases hcalled
  | @marked ns name _ _ hfree hstays hns hname =>
    cases List.mem_singleton.1 hcalled
    exact p.isRelease_addFinalizer ns name
  | failed hunusable hheld hknown =>
    cases List.mem_singleton.1 hcalled
    rfl
  | recorded hunusable hheld hstays hns hother =>
    rcases List.mem_cons.1 hcalled with heq | hcalled
    · cases heq
      rfl
    · cases List.mem_singleton.1 hcalled
      rfl

end

/-! ## What is stored about the pattern -/

/-- `after` is `before`, but for the last error. -/
structure SameButLastError (before after : Pattern) : Prop where
  metadata : after.metadata = before.metadata
  spec : after.spec = before.spec
  observed : after.observed = { before.observed with lastError := after.observed.lastError }

theorem sameButLastError_refl (p : Pattern) : SameButLastError p p :=
  ⟨rfl, rfl, rfl⟩

theorem SameButLastError.withLastError {p q : Pattern} (h : SameButLastError p q) (text : String) :
    SameButLastError p { q with status := some { p.observed with lastError := text } } :=
  ⟨h.metadata, h.spec, rfl⟩

namespace Account

variable {a after : Account} {p : Pattern} {around : Surroundings}

theorem shown_observed (a : Account) : a.pattern.observed.Shown := by
  have hshown := (Pattern.shown_ofJson (.obj a.members)).status
  rw [Pattern.observed]
  cases hstatus : a.pattern.status with
  | none => exact fun _ hc => absurd hc List.not_mem_nil
  | some status => exact hshown status hstatus

theorem pattern_of_record {ns name : String} {status : PatternStatus} {fate : Fate}
    {result : Except ApiFailure Json} (hshown : status.Shown)
    (h : a.serve (.recordStatus ns name status) fate = some (result, after)) :
    after.pattern = { a.pattern with status := some status } ∨ after.pattern = a.pattern := by
  have hperform : ∀ {next : Account}, a.perform? (.recordStatus ns name status) = some next →
      next.pattern = { a.pattern with status := some status } := by
    intro next hnext
    obtain ⟨rfl, -, -⟩ := perform?_record hnext
    rw [pattern, Pattern.ofJson_record, PatternStatus.ofJson_toJson_of_shown hshown, pattern]
  obtain ⟨_, _, next, j, -, -, hnext, -, rfl⟩ | ⟨f, -, -, rfl⟩ | ⟨f, _, -, -, hnext⟩ :=
    Handler.performing_cases h
  · exact .inl (hperform hnext)
  · refine .inr ?_
    rw [refused]
    split
    · rfl
    · rfl
  · exact .inl (hperform hnext)

/-- Without settings, a pass over a pattern that is held leaves it as it is but for the last
error. -/
theorem sameButLastError_of_hindered {steps : List Step} {v : Except Failure Requeue}
    (h : Hindered p around (callsOf steps) v) (hheld : p.isHeld = true) (ha : a.pattern = p)
    (htrail : Trail serve a steps after) : SameButLastError p after.pattern := by
  have hshown : ∀ text, PatternStatus.Shown { p.observed with lastError := text } :=
    fun _ => ha ▸ a.shown_observed
  refine htrail.invariant (fun s => SameButLastError p s.pattern) ?_
    (ha ▸ sameButLastError_refl p)
  intro s mid c result fate hmem hserve hs
  have hread : c = .readSettings around.operatorNamespace → SameButLastError p mid.pattern := by
    rintro rfl
    rw [pattern, members_of_serve rfl hserve]
    exact hs
  have hcalled := mem_callsOf.2 hmem
  generalize callsOf steps = calls at h hcalled
  cases h with
  | unasked hidle => cases hcalled
  | marked hfree hstays hns hname => cases hheld.symm.trans hfree
  | failed hunusable _ hknown => exact hread (congrArg Prod.fst (List.mem_singleton.1 hcalled))
  | recorded hunusable _ hstays hns hother =>
    rcases List.mem_cons.1 hcalled with heq | hcalled
    · exact hread (congrArg Prod.fst heq)
    · cases List.mem_singleton.1 hcalled
      obtain hstored | hsame := pattern_of_record (hshown _) hserve
      · rw [hstored]
        exact hs.withLastError _
      · rw [hsame]
        exact hs

end Account

/-! ## Main statement -/

/-- A map of texts is accepted exactly if it does not set the manual sync switch, or sets it to a
word for a position with nothing but blank characters around; which settings it stands for depends
on its two entries alone. Whatever pattern a pass is about, if it reads settings that are rejected,
or cannot read them for another reason than that there are none, then it is `Hindered`. It makes no
call that needs settings, and a pattern that is held stays as it is stored but for its last
error. -/
theorem unusable_settings_hinder :
    (∀ data : Keyed String,
      ((∃ s, Settings.ofData data = .ok s)
        ↔ ∀ raw, Keyed.get? data Settings.manualSyncKey = some raw →
          ∃ b, Text.Surrounds (Settings.switchWord b) raw)
      ∧ (∀ s, Settings.ofData data = .ok s ↔ Settings.Says data s)
      ∧ ∀ other, Keyed.get? other Settings.manualSyncKey
            = Keyed.get? data Settings.manualSyncKey →
          Settings.namedNamespace other = Settings.namedNamespace data →
          Settings.ofData other = Settings.ofData data)
    ∧ ∀ (p : Pattern) (around : Surroundings) (steps : List Step) (v : Except Failure Requeue),
      Course (p.reconcile around) steps v → Unsettled around steps →
        Hindered p around (callsOf steps) v
        ∧ Avoids Call.needsSettings steps
        ∧ (p.isHeld = true → ∀ a after : Account, a.pattern = p →
          Trail Account.serve a steps after → SameButLastError p after.pattern) := by
  refine ⟨fun data => ⟨Settings.accepted_iff, fun s => Settings.ofData_eq_ok_iff,
    fun other => Settings.ofData_congr⟩, fun p around steps v hcourse hbad => ?_⟩
  have hhindered := (reconcileCourse_of_course hcourse).hindered hbad
  exact ⟨hhindered, hhindered.avoids, fun hheld a after ha htrail =>
    Account.sameButLastError_of_hindered hhindered hheld ha htrail⟩

def settingsInDoubt : Json :=
  .object [("data", .object [(Settings.manualSyncKey, .str " yes ")])]

theorem unusable_settings_hinder_in_doubt :
    ∃ (around : Surroundings) (r : Conduct Account (Except Failure Requeue)),
      let p := Pattern.ofJson (.obj freshMembers)
      p.isHeld = true ∧ Course (p.reconcile around) r.steps r.value ∧ Unsettled around r.steps
        ∧ r.state.pattern.observed.lastError ≠ "" ∧ Avoids Call.needsSettings r.steps
        ∧ SameButLastError p r.state.pattern := by
  let around : Surroundings :=
    { operatorNamespace := "operators", now := .midnight (.newYear 2024) }
  let p := Pattern.ofJson (.obj freshMembers)
  have hruns : ((p.reconcile around).conduct Account.serve { members := freshMembers }
      [.served settingsInDoubt "", .served .null ""]).any (fun r =>
        r.state.pattern.observed.lastError ≠ ""
          && (callsOf r.steps).all fun called =>
            called.1 ≠ .readSettings around.operatorNamespace
              || called.2.toOption = some settingsInDoubt) = true := by
    decide +kernel
  obtain ⟨r, hr, hfacts⟩ := (Option.any_eq_true _ _).1 hruns
  rw [Bool.and_eq_true, decide_eq_true_eq, List.all_eq_true] at hfacts
  obtain ⟨herror, hreads⟩ := hfacts
  have hrejected : Settings.ofData (settingsMapData settingsInDoubt)
      = .error (Settings.badSwitch " yes ") := by
    rfl
  have hbad : Unsettled around r.steps := by
    intro result hmem
    have hread := hreads _ (mem_callsOf.2 hmem)
    cases result with
    | ok map =>
      have hmap : map = settingsInDoubt := by simpa [Except.toOption] using hread
      exact ⟨_, .rejected (hmap ▸ hrejected)⟩
    | error f => simp [Except.toOption] at hread
  have hheld : p.isHeld = true := by decide +kernel
  obtain ⟨hcourse, htrail⟩ := conduct_iff.1 ⟨_, hr⟩
  obtain ⟨-, havoids, hstored⟩ := unusable_settings_hinder.2 p around r.steps r.value hcourse hbad
  exact ⟨around, r, hheld, hcourse, hbad, herror, havoids, hstored hheld _ _ rfl htrail⟩

end PatternSync
