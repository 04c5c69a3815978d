import PatternSync.Reconcile.Pattern

/-!
# The courses of a pass

Which calls and notes a pass over a pattern can consist of, in which order, and how it ends with
each. There is one description for every part of a pass, and one lemma that says that each course
of the part has that form; the last one is about the whole pass (`reconcileCourse_of_course`).
Facts about passes are read off these descriptions.
-/

namespace PatternSync

open Pass

/-! ## Inversion -/

namespace Pass

variable {α β : Type} {steps : List Step}

theorem course_done {a b : α} (h : Course (.done a) steps b) : steps = [] ∧ b = a := by
  cases h
  exact ⟨rfl, rfl⟩

theorem course_call {c : Call} {next : Except ApiFailure Json → Pass α} {a : α}
    (h : Course (.call c next) steps a) :
    ∃ result rest, steps = .called c result :: rest ∧ Course (next result) rest a := by
  cases h with
  | call result rest => exact ⟨result, _, rfl, rest⟩

theorem course_note {n : Note} {next : Pass α} {a : α} (h : Course (.note n next) steps a) :
    ∃ rest, steps = .noted n :: rest ∧ Course next rest a := by
  cases h with
  | note rest => exact ⟨_, rfl, rest⟩

/-- An attempt that goes on with another one fails in the first or gets to the second. -/
theorem course_attempt_bind {x : Attempt α} {f : α → Attempt β} {v : Except Failure β}
    (h : Course (x >>= f).run steps v) :
    (∃ e, Course x.run steps (.error e) ∧ v = .error e)
      ∨ ∃ first second a, steps = first ++ second ∧ Course x.run first (.ok a)
        ∧ Course (f a).run second v := by
  have hbind : Course (x.run.bind (ExceptT.bindCont f)) steps v := h
  obtain ⟨first, second, r, hfirst, hsecond, rfl⟩ := course_bind.1 hbind
  cases r with
  | ok a => exact .inr ⟨first, second, a, rfl, hfirst, hsecond⟩
  | error e =>
    obtain ⟨rfl, rfl⟩ := course_done hsecond
    rw [List.append_nil]
    exact .inl ⟨e, hfirst, rfl⟩

/-- An attempt that succeeds goes on with the next one. -/
theorem course_attempt_then {x : Attempt α} {f : α → Attempt β} {first second : List Step} {a : α}
    {v : Except Failure β} (hfirst : Course x.run first (.ok a))
    (hsecond : Course (f a).run second v) : Course (x >>= f).run (first ++ second) v := by
  have hbind : Course (x.run.bind (ExceptT.bindCont f)) (first ++ second) v :=
    course_bind.2 ⟨first, second, .ok a, hfirst, hsecond, rfl⟩
  exact hbind

theorem course_outcome {x : Attempt α} {v : Except Failure (Except Failure α)}
    (h : Course (Attempt.outcome x).run steps v) : ∃ w, v = .ok w ∧ Course x.run steps w := by
  have hbind : Course (x.run.bind fun r => .done (.ok r)) steps v := h
  obtain ⟨first, second, r, hfirst, hsecond, rfl⟩ := course_bind.1 hbind
  obtain ⟨rfl, rfl⟩ := course_done hsecond
  rw [List.append_nil]
  exact ⟨r, rfl, hfirst⟩

end Pass

/-! ## Parts that passes share -/

def Quiet (steps : List Step) : Prop :=
  ∀ s ∈ steps, ∃ line, s = .noted (.log line)

theorem quiet_nil : Quiet [] :=
  fun _ h => absurd h List.not_mem_nil

theorem quiet_singleton (line : LogLine) : Quiet [.noted (.log line)] :=
  fun _ h => ⟨line, List.mem_singleton.1 h⟩

theorem course_log {level : LogLevel} {message : String} {steps : List Step}
    {v : Except Failure Unit} (h : Course (Attempt.log level message).run steps v) :
    (∃ line, steps = [.noted (.log line)]) ∧ v = .ok () := by
  obtain ⟨rest, rfl, hrest⟩ := course_note h
  obtain ⟨rfl, rfl⟩ := course_done hrest
  exact ⟨⟨_, rfl⟩, rfl⟩

/-- A line that may be written before the end. -/
theorem course_perhaps_log {α : Type} {b : Bool} {level : LogLevel} {message : String}
    {x : Attempt α} {w v : Except Failure α} {steps : List Step} (hx : x.run = .done w)
    (h : Course (if b = true then Attempt.log level message >>= fun _ => x else x).run steps v) :
    Quiet steps ∧ v = w := by
  cases b with
  | true =>
    obtain ⟨_, rfl, hdone⟩ := course_note h
    have hend : Course x.run _ v := hdone
    rw [hx] at hend
    obtain ⟨rfl, rfl⟩ := course_done hend
    exact ⟨quiet_singleton _, rfl⟩
  | false =>
    have hend : Course x.run _ v := h
    rw [hx] at hend
    obtain ⟨rfl, rfl⟩ := course_done hend
    exact ⟨quiet_nil, rfl⟩

theorem course_read? {c : Call} {steps : List Step} {v : Except Failure (Option Json)}
    (h : Course (Attempt.read? c).run steps v) :
    (∃ j, steps = [.called c (.ok j)] ∧ v = .ok (some j))
      ∨ ∃ f : ApiFailure, steps = [.called c (.error f)]
        ∧ (f.isAbsence = true ∧ v = .ok none ∨ f.isAbsence = false ∧ v = .error (.ofApi f)) := by
  obtain ⟨result, rest, rfl, hrest⟩ := course_call h
  cases result with
  | ok j =>
    obtain ⟨rfl, rfl⟩ := course_done hrest
    exact .inl ⟨j, rfl, rfl⟩
  | error f =>
    have hcourse : Course
        (if f.isAbsence then (pure none : Attempt (Option Json)) else throw (.ofApi f)).run
        rest v := hrest
    cases habsent : f.isAbsence with
    | true =>
      rw [habsent] at hcourse
      obtain ⟨rfl, rfl⟩ := course_done hcourse
      exact .inr ⟨f, rfl, .inl ⟨habsent, rfl⟩⟩
    | false =>
      rw [habsent] at hcourse
      obtain ⟨rfl, rfl⟩ := course_done hcourse
      exact .inr ⟨f, rfl, .inr ⟨habsent, rfl⟩⟩

/-! ## Settings and facts -/

/-- The courses of reading the settings in a namespace. -/
inductive SettingsCourse (ns : String) : List Step → Except Failure Settings → Prop where
  | stored {map : Json} {settings : Settings}
      (hdata : Settings.ofData (settingsMapData map) = .ok settings) :
      SettingsCourse ns [.called (.readSettings ns) (.ok map)] (.ok settings)
  | rejected {map : Json} {complaint : String}
      (hdata : Settings.ofData (settingsMapData map) = .error complaint) :
      SettingsCourse ns [.called (.readSettings ns) (.ok map)]
        (.error (.plain (.invalidSettings complaint)))
  | absent {f : ApiFailure} (habsent : f.isAbsence = true) :
      SettingsCourse ns
        [.called (.readSettings ns) (.error f), .noted (.log (Attempt.defaultsLine ns))] (.ok {})
  | unread {f : ApiFailure} (habsent : f.isAbsence = false) :
      SettingsCourse ns [.called (.readSettings ns) (.error f)] (.error (.ofApi f))

theorem settingsCourse_of_course {ns : String} {steps : List Step} {v : Except Failure Settings}
    (h : Course (Attempt.loadSettings ns).run steps v) : SettingsCourse ns steps v := by
  rcases course_attempt_bind h with ⟨e, hread, rfl⟩ | ⟨first, second, found, rfl, hread, hrest⟩
  · rcases course_read? hread with ⟨j, -, hv⟩ | ⟨f, rfl, ⟨-, hv⟩ | ⟨habsent, hv⟩⟩
    · cases hv
    · cases hv
    · cases hv
      exact .unread habsent
  · rcases course_read? hread with ⟨map, rfl, hv⟩ | ⟨f, rfl, ⟨habsent, hv⟩ | ⟨-, hv⟩⟩
    · cases hv
      dsimp only at hrest
      cases hdata : Settings.ofData (settingsMapData map) with
      | ok settings =>
        rw [hdata] at hrest
        obtain ⟨rfl, rfl⟩ := course_done hrest
        exact .stored hdata
      | error complaint =>
        rw [hdata] at hrest
        obtain ⟨rfl, rfl⟩ := course_done hrest
        exact .rejected hdata
    · cases hv
      obtain ⟨_, rfl, hdone⟩ := course_note hrest
      obtain ⟨rfl, rfl⟩ := course_done hdone
      exact .absent habsent
    · cases hv

/-- The courses of looking at the facts: the status with what is known afterwards. -/
inductive FactsCourse (observed : PatternStatus) : List Step → PatternStatus → Prop where
  | known {clusterVersion infrastructure ingress : Json} :
      FactsCourse observed
        [ .called (.readConfig .clusterVersion) (.ok clusterVersion),
          .called (.readConfig .infrastructure) (.ok infrastructure),
          .called (.readConfig .ingress) (.ok ingress) ]
        ((ClusterFacts.ofConfig clusterVersion infrastructure ingress).applyTo observed)
  | unknown {looks : List Step} {line : LogLine}
      (hlooks : ∀ s ∈ looks, ∃ object result, s = .called (.readConfig object) result) :
      FactsCourse observed (looks ++ [.noted (.log line)]) observed

theorem course_attempt_call {c : Call} {steps : List Step} {v : Except Failure Json}
    (h : Course (Attempt.call c).run steps v) :
    (∃ j, steps = [.called c (.ok j)] ∧ v = .ok j)
      ∨ ∃ f, steps = [.called c (.error f)] ∧ v = .error (.ofApi f) := by
  obtain ⟨result, rest, rfl, hrest⟩ := course_call h
  cases result with
  | ok j =>
    obtain ⟨rfl, rfl⟩ := course_done hrest
    exact .inl ⟨j, rfl, rfl⟩
  | error f =>
    obtain ⟨rfl, rfl⟩ := course_done hrest
    exact .inr ⟨f, rfl, rfl⟩

/-- Discovering the facts reads configuration objects, all three of them if it succeeds. -/
theorem course_discoverFacts {steps : List Step} {v : Except Failure ClusterFacts}
    (h : Course Attempt.discoverFacts.run steps v) :
    (∃ a b c, steps = [ .called (.readConfig .clusterVersion) (.ok a),
          .called (.readConfig .infrastructure) (.ok b), .called (.readConfig .ingress) (.ok c) ]
        ∧ v = .ok (.ofConfig a b c))
      ∨ (∃ e, v = .error e)
        ∧ ∀ s ∈ steps, ∃ object result, s = .called (.readConfig object) result := by
  have hlooks : ∀ {object : ConfigObject} {steps : List Step} {v : Except Failure Json},
      Course (Attempt.call (.readConfig object)).run steps v →
        ∀ s ∈ steps, ∃ object result, s = .called (.readConfig object) result := by
    intro object steps v h s hs
    rcases course_attempt_call h with ⟨j, rfl, -⟩ | ⟨f, rfl, -⟩
    · exact ⟨_, _, List.mem_singleton.1 hs⟩
    · exact ⟨_, _, List.mem_singleton.1 hs⟩
  rcases course_attempt_bind h with ⟨e, hversion, rfl⟩ | ⟨s₁, r₁, a, rfl, hversion, h⟩
  · exact .inr ⟨⟨e, rfl⟩, hlooks hversion⟩
  rcases course_attempt_bind h with ⟨e, hinfra, rfl⟩ | ⟨s₂, r₂, b, rfl, hinfra, h⟩
  · refine .inr ⟨⟨e, rfl⟩, fun s hs => ?_⟩
    rcases List.mem_append.1 hs with hs | hs
    · exact hlooks hversion s hs
    · exact hlooks hinfra s hs
  rcases course_attempt_bind h with ⟨e, hingress, rfl⟩ | ⟨s₃, r₃, c, rfl, hingress, h⟩
  · refine .inr ⟨⟨e, rfl⟩, fun s hs => ?_⟩
    simp only [List.mem_append] at hs
    rcases hs with hs | hs | hs
    · exact hlooks hversion s hs
    · exact hlooks hinfra s hs
    · exact hlooks hingress s hs
  obtain ⟨rfl, rfl⟩ := course_done h
  rcases course_attempt_call hversion with ⟨_, rfl, hv⟩ | ⟨_, rfl, hv⟩ <;> cases hv
  rcases course_attempt_call hinfra with ⟨_, rfl, hv⟩ | ⟨_, rfl, hv⟩ <;> cases hv
  rcases course_attempt_call hingress with ⟨_, rfl, hv⟩ | ⟨_, rfl, hv⟩ <;> cases hv
  exact .inl ⟨a, b, c, rfl, rfl⟩

theorem factsCourse_of_course {observed : PatternStatus} {steps : List Step}
    {v : Except Failure PatternStatus}
    (h : Course (Attempt.withFreshFacts observed).run steps v) :
    ∃ status, v = .ok status ∧ FactsCourse observed steps status := by
  rcases course_attempt_bind h with ⟨e, hfacts, -⟩ | ⟨first, second, w, rfl, hfacts, hrest⟩
  · obtain ⟨w, hw, -⟩ := course_outcome hfacts
    cases hw
  · obtain ⟨w', hw, hdiscover⟩ := course_outcome hfacts
    cases hw
    rcases course_discoverFacts hdiscover with ⟨a, b, c, rfl, rfl⟩ | ⟨⟨e, rfl⟩, hlooks⟩
    · obtain ⟨rfl, rfl⟩ := course_done hrest
      exact ⟨_, rfl, .known⟩
    · obtain ⟨_, rfl, hdone⟩ := course_note hrest
      obtain ⟨rfl, rfl⟩ := course_done hdone
      exact ⟨_, rfl, .unknown hlooks⟩

/-! ## The application -/

section

variable (p : Pattern) (settings : Settings)

def readCall : Call :=
  .readApplication settings.applicationNamespace (p.goal settings).displayName

def createCall : Call :=
  .createApplication settings.applicationNamespace (p.goal settings)

/-- The call that writes an application back that was read as `j`. -/
def mergeCall (j : Json) : Call :=
  .mergeApplication settings.applicationNamespace (p.goal settings).displayName
    ((p.goal settings).update (.ofJson j)).1.writeBack

/-- What a pass says of an application that was read as `j`. -/
def outcomeOf (j : Json) (action : SyncAction) : SyncOutcome where
  inSync := (p.goal settings).helmOrEmpty.inSync (Application.ofJson j).helmOrEmpty
  message := (p.goal settings).helmOrEmpty.driftMessage (Application.ofJson j).helmOrEmpty
  action

/-- The courses of bringing the application in line. -/
inductive SyncCourse : List Step → Except Failure SyncOutcome → Prop where
  | unread {f : ApiFailure} (habsent : f.isAbsence = false) :
      SyncCourse [.called (readCall p settings) (.error f)] (.error (.ofApi f))
  | created {f : ApiFailure} {line : LogLine} {j : Json} (habsent : f.isAbsence = true) :
      SyncCourse
        [ .called (readCall p settings) (.error f), .noted (.log line),
          .called (createCall p settings) (.ok j), .noted (.wrote p.displayName "create") ]
        (.ok { inSync := true
               message := "Created application " ++ (p.goal settings).displayName
               action := .created })
  | notCreated {f g : ApiFailure} {line : LogLine} (habsent : f.isAbsence = true) :
      SyncCourse
        [ .called (readCall p settings) (.error f), .noted (.log line),
          .called (createCall p settings) (.error g) ]
        (.error (.ofApi g))
  | unchanged {j : Json} {line : LogLine}
      (hupdate : ((p.goal settings).update (.ofJson j)).2 = false) :
      SyncCourse [.called (readCall p settings) (.ok j), .noted (.log line)]
        (.ok (outcomeOf p settings j .unchanged))
  | updated {j k : Json} {line : LogLine}
      (hupdate : ((p.goal settings).update (.ofJson j)).2 = true) :
      SyncCourse
        [ .called (readCall p settings) (.ok j), .noted (.log line),
          .called (mergeCall p settings j) (.ok k), .noted (.wrote p.displayName "update") ]
        (.ok (outcomeOf p settings j .updated))
  | notUpdated {j : Json} {f : ApiFailure} {line : LogLine} {warning : List Step}
      (hupdate : ((p.goal settings).update (.ofJson j)).2 = true) (hwarning : Quiet warning) :
      SyncCourse
        (.called (readCall p settings) (.ok j) :: .noted (.log line)
          :: .called (mergeCall p settings j) (.error f) :: warning)
        (.error (writeFailure f))

variable {p settings}

theorem course_createApplication {steps : List Step} {v : Except Failure SyncOutcome}
    (h : Course (Attempt.createApplication p settings (p.goal settings)).run steps v) :
    ∃ line, (∃ j, steps = [ .noted (.log line), .called (createCall p settings) (.ok j),
          .noted (.wrote p.displayName "create") ]
        ∧ v = .ok { inSync := true
                    message := "Created application " ++ (p.goal settings).displayName
                    action := .created })
      ∨ ∃ f, steps = [.noted (.log line), .called (createCall p settings) (.error f)]
        ∧ v = .error (.ofApi f) := by
  obtain ⟨_, rfl, hlogged⟩ := course_note h
  obtain ⟨result, rest, rfl, hcalled⟩ := course_call hlogged
  cases result with
  | ok j =>
    obtain ⟨_, rfl, hwrote⟩ := course_note hcalled
    obtain ⟨rfl, rfl⟩ := course_done hwrote
    exact ⟨_, .inl ⟨j, rfl, rfl⟩⟩
  | error f =>
    obtain ⟨rfl, rfl⟩ := course_done hcalled
    exact ⟨_, .inr ⟨f, rfl, rfl⟩⟩

theorem course_mergeApplication {ns name : String} {a : Application} {steps : List Step}
    {v : Except Failure Unit} (h : Course (Attempt.mergeApplication ns name a).run steps v) :
    (∃ j, steps = [.called (.mergeApplication ns name a.writeBack) (.ok j)] ∧ v = .ok ())
      ∨ ∃ f warning, steps = .called (.mergeApplication ns name a.writeBack) (.error f) :: warning
        ∧ Quiet warning ∧ v = .error (writeFailure f) := by
  obtain ⟨result, rest, rfl, hcalled⟩ := course_call h
  cases result with
  | ok j =>
    obtain ⟨rfl, rfl⟩ := course_done hcalled
    exact .inl ⟨j, rfl, rfl⟩
  | error f =>
    refine .inr ⟨f, rest, rfl, ?_⟩
    exact course_perhaps_log rfl hcalled

theorem course_updateApplication {j : Json} {steps : List Step}
    {v : Except Failure SyncOutcome}
    (h : Course (Attempt.updateApplication p settings (p.goal settings) (.ofJson j)).run steps v) :
    SyncCourse p settings (.called (readCall p settings) (.ok j) :: steps) v := by
  obtain ⟨updated, flag, hupdate⟩ : ∃ updated flag,
    (p.goal settings).update (.ofJson j) = (updated, flag) := ⟨_, _, rfl⟩
  unfold Attempt.updateApplication at h
  dsimp only at h
  rw [hupdate] at h
  cases flag with
  | false =>
    obtain ⟨_, rfl, hdone⟩ := course_note h
    obtain ⟨rfl, rfl⟩ := course_done hdone
    exact .unchanged (congrArg Prod.snd hupdate)
  | true =>
    obtain ⟨_, rfl, hlogged⟩ := course_note h
    have hflag : ((p.goal settings).update (.ofJson j)).2 = true := congrArg Prod.snd hupdate
    have hcall : mergeCall p settings j = .mergeApplication settings.applicationNamespace
        (p.goal settings).displayName updated.writeBack := by rw [mergeCall, hupdate]
    rcases course_attempt_bind hlogged with ⟨e, hmerge, rfl⟩ | ⟨s₁, s₂, u, rfl, hmerge, hrest⟩
    · rcases course_mergeApplication hmerge with ⟨_, -, hv⟩ | ⟨f, warning, rfl, hquiet, hv⟩
      · cases hv
      · cases hv
        rw [← hcall]
        exact .notUpdated hflag hquiet
    · rcases course_mergeApplication hmerge with ⟨k, rfl, -⟩ | ⟨f, warning, -, -, hv⟩
      · obtain ⟨_, rfl, hwrote⟩ := course_note hrest
        obtain ⟨rfl, rfl⟩ := course_done hwrote
        rw [← hcall]
        exact .updated hflag
      · cases hv

theorem syncCourse_of_course {steps : List Step} {v : Except Failure SyncOutcome}
    (h : Course (Attempt.syncApplication p settings).run steps v) :
    SyncCourse p settings steps v := by
  rcases course_attempt_bind h with ⟨e, hread, rfl⟩ | ⟨first, second, found, rfl, hread, hrest⟩
  · rcases course_read? hread with ⟨j, -, hv⟩ | ⟨f, rfl, ⟨-, hv⟩ | ⟨habsent, hv⟩⟩
    · cases hv
    · cases hv
    · cases hv
      exact .unread habsent
  · rcases course_read? hread with ⟨j, rfl, hv⟩ | ⟨f, rfl, ⟨habsent, hv⟩ | ⟨-, hv⟩⟩
    · cases hv
      exact course_updateApplication hrest
    · cases hv
      obtain ⟨line, ⟨j, rfl, rfl⟩ | ⟨g, rfl, rfl⟩⟩ := course_createApplication hrest
      · exact .created habsent
      · exact .notCreated habsent
    · cases hv

end

/-! ## A pattern that stays -/

/-- The courses that lead to the status to record. -/
inductive StatusCourse (p : Pattern) (around : Surroundings) :
    List Step → Except Failure PatternStatus → Prop where
  | unsettled {first : List Step} {e : Failure}
      (hsettings : SettingsCourse around.operatorNamespace first (.error e)) :
      StatusCourse p around first (.error e)
  | failed {first second third : List Step} {settings : Settings} {status : PatternStatus}
      {e : Failure} (hsettings : SettingsCourse around.operatorNamespace first (.ok settings))
      (hfacts : FactsCourse p.observed second status)
      (hsync : SyncCourse { p with status := some status } settings third (.error e)) :
      StatusCourse p around (first ++ second ++ third) (.error e)
  | synced {first second third last : List Step} {settings : Settings} {status : PatternStatus}
      {result : SyncOutcome}
      (hsettings : SettingsCourse around.operatorNamespace first (.ok settings))
      (hfacts : FactsCourse p.observed second status)
      (hsync : SyncCourse { p with status := some status } settings third (.ok result))
      (hlast : Quiet last) :
      StatusCourse p around (first ++ second ++ third ++ last)
        (.ok (status.afterSync
          (Condition.record p.conditions result.inSync result.message around.now).1 result.action))

theorem statusCourse_of_course {p : Pattern} {around : Surroundings} {steps : List Step}
    {v : Except Failure PatternStatus} (h : Course (Attempt.sync p around).run steps v) :
    StatusCourse p around steps v := by
  rcases course_attempt_bind h with ⟨e, hload, rfl⟩ | ⟨first, rest, settings, rfl, hload, h₁⟩
  · exact .unsettled (settingsCourse_of_course hload)
  have hsettings := settingsCourse_of_course hload
  rcases course_attempt_bind h₁ with ⟨e, hlook, -⟩ | ⟨second, rest, status, rfl, hlook, h₂⟩
  · obtain ⟨status, hv, -⟩ := factsCourse_of_course hlook
    cases hv
  obtain ⟨status, hv, hfacts⟩ := factsCourse_of_course hlook
  cases hv
  rcases course_attempt_bind h₂ with ⟨e, hsync, rfl⟩ | ⟨third, last, result, rfl, hsync, h₃⟩
  · rw [← List.append_assoc]
    exact .failed hsettings hfacts (syncCourse_of_course hsync)
  have hresult := syncCourse_of_course hsync
  obtain ⟨hlast, rfl⟩ := course_perhaps_log rfl h₃
  rw [← List.append_assoc, ← List.append_assoc]
  exact .synced hsettings hfacts hresult hlast

/-- The courses of a pass over a pattern that stays. -/
inductive ConvergeCourse (p : Pattern) (ns : String) (around : Surroundings) :
    List Step → Except Failure Requeue → Prop where
  | failed {steps : List Step} {e : Failure} (hsync : StatusCourse p around steps (.error e))
      (hsame : p.observed.differs (p.observed.afterFailure e) = false) :
      ConvergeCourse p ns around steps (.error e)
  | failureRecorded {steps : List Step} {e : Failure} {j : Json}
      (hsync : StatusCourse p around steps (.error e))
      (hdiffers : p.observed.differs (p.observed.afterFailure e) = true) :
      ConvergeCourse p ns around
        (steps
          ++ [.called (.recordStatus ns p.displayName (p.observed.afterFailure e)) (.ok j)])
        (.error e)
  | failureNotRecorded {steps : List Step} {e : Failure} {f : ApiFailure} {line : LogLine}
      (hsync : StatusCourse p around steps (.error e))
      (hdiffers : p.observed.differs (p.observed.afterFailure e) = true) :
      ConvergeCourse p ns around
        (steps
          ++ [ .called (.recordStatus ns p.displayName (p.observed.afterFailure e)) (.error f),
            .noted (.log line) ])
        (.error e)
  | same {steps : List Step} {status : PatternStatus} {line : LogLine}
      (hsync : StatusCourse p around steps (.ok status))
      (hsame : p.observed.differs status = false) :
      ConvergeCourse p ns around (steps ++ [.noted (.log line)]) (.ok passInterval)
  | recorded {steps : List Step} {status : PatternStatus} {j : Json}
      (hsync : StatusCourse p around steps (.ok status))
      (hdiffers : p.observed.differs status = true) :
      ConvergeCourse p ns around
        (steps ++ [.called (.recordStatus ns p.displayName status) (.ok j)]) (.ok passInterval)
  | notRecorded {steps : List Step} {status : PatternStatus} {f : ApiFailure}
      (hsync : StatusCourse p around steps (.ok status))
      (hdiffers : p.observed.differs status = true) :
      ConvergeCourse p ns around
        (steps ++ [.called (.recordStatus ns p.displayName status) (.error f)])
        (.error (.ofApi f))

/-- Recording a failure does nothing, or calls once and never fails. -/
theorem course_recordFailure {p : Pattern} {ns : String} {e : Failure} {steps : List Step}
    {v : Except Failure Unit} (h : Course (Attempt.recordFailure p ns e).run steps v) :
    v = .ok () ∧ (steps = [] ∧ p.observed.differs (p.observed.afterFailure e) = false
      ∨ p.observed.differs (p.observed.afterFailure e) = true
        ∧ ((∃ j, steps =
            [.called (.recordStatus ns p.displayName (p.observed.afterFailure e)) (.ok j)])
          ∨ ∃ f line, steps =
            [ .called (.recordStatus ns p.displayName (p.observed.afterFailure e)) (.error f),
              .noted (.log line) ])) := by
  unfold Attempt.recordFailure at h
  dsimp only at h
  cases hdiffers : p.observed.differs (p.observed.afterFailure e) with
  | false =>
    rw [hdiffers] at h
    obtain ⟨rfl, rfl⟩ := course_done h
    exact ⟨rfl, .inl ⟨rfl, rfl⟩⟩
  | true =>
    rw [hdiffers] at h
    obtain ⟨result, rest, rfl, hcalled⟩ := course_call h
    cases result with
    | ok j =>
      obtain ⟨rfl, rfl⟩ := course_done hcalled
      exact ⟨rfl, .inr ⟨rfl, .inl ⟨j, rfl⟩⟩⟩
    | error f =>
      obtain ⟨_, rfl, hdone⟩ := course_note hcalled
      obtain ⟨rfl, rfl⟩ := course_done hdone
      exact ⟨rfl, .inr ⟨rfl, .inr ⟨f, _, rfl⟩⟩⟩

/-- The end of a pass that has tried to bring the application in line. -/
def Attempt.close (p : Pattern) (ns : String) : Except Failure PatternStatus → Attempt Requeue
  | .error f => do
    recordFailure p ns f
    throw f
  | .ok status => do
    if p.observed.differs status then
      discard (call (.recordStatus ns p.displayName status))
    else
      log .debug ("Pattern " ++ ns ++ "/" ++ p.displayName ++ " status unchanged")
    return passInterval

theorem Attempt.converge_eq (p : Pattern) (ns : String) (around : Surroundings) :
    converge p ns around = outcome (sync p around) >>= close p ns :=
  rfl

section

variable {p : Pattern} {ns : String} {steps : List Step} {v : Except Failure Requeue}

/-- A pass tries to bring the application in line, and then it closes. -/
theorem course_converge {around : Surroundings}
    (h : Course (Attempt.converge p ns around).run steps v) :
    ∃ first rest w, steps = first ++ rest ∧ Course (Attempt.sync p around).run first w
      ∧ Course (Attempt.close p ns w).run rest v := by
  rw [Attempt.converge_eq] at h
  rcases course_attempt_bind h with ⟨e, hsync, -⟩ | ⟨first, rest, w', rfl, hsync, hclose⟩
  · obtain ⟨w, hw, -⟩ := course_outcome hsync
    cases hw
  · obtain ⟨w, hw, hcourse⟩ := course_outcome hsync
    cases hw
    exact ⟨first, rest, _, rfl, hcourse, hclose⟩

/-- A pass that has failed stays failed, whatever comes of the record. -/
theorem course_close_error {e : Failure} (h : Course (Attempt.close p ns (.error e)).run steps v) :
    v = .error e ∧ (steps = [] ∧ p.observed.differs (p.observed.afterFailure e) = false
      ∨ p.observed.differs (p.observed.afterFailure e) = true
        ∧ ((∃ j, steps =
            [.called (.recordStatus ns p.displayName (p.observed.afterFailure e)) (.ok j)])
          ∨ ∃ f line, steps =
            [ .called (.recordStatus ns p.displayName (p.observed.afterFailure e)) (.error f),
              .noted (.log line) ])) := by
  rcases course_attempt_bind h with ⟨g, hrecord, -⟩ | ⟨first, last, u, rfl, hrecord, hend⟩
  · cases (course_recordFailure hrecord).1
  · obtain ⟨rfl, rfl⟩ := course_done hend
    rw [List.append_nil]
    exact ⟨rfl, (course_recordFailure hrecord).2⟩

theorem course_close_ok {status : PatternStatus}
    (h : Course (Attempt.close p ns (.ok status)).run steps v) :
    p.observed.differs status = false ∧ (∃ line, steps = [.noted (.log line)])
        ∧ v = .ok passInterval
      ∨ p.observed.differs status = true
        ∧ ∃ result, steps = [.called (.recordStatus ns p.displayName status) result]
          ∧ v = (result.mapError .ofApi).map fun _ => passInterval := by
  unfold Attempt.close at h
  dsimp only at h
  cases hdiffers : p.observed.differs status with
  | false =>
    rw [hdiffers] at h
    obtain ⟨_, rfl, hdone⟩ := course_note h
    obtain ⟨rfl, rfl⟩ := course_done hdone
    exact .inl ⟨rfl, ⟨_, rfl⟩, rfl⟩
  | true =>
    rw [hdiffers] at h
    obtain ⟨result, rest, rfl, hcalled⟩ := course_call h
    refine .inr ⟨rfl, result, ?_⟩
    cases result with
    | ok j =>
      obtain ⟨rfl, rfl⟩ := course_done hcalled
      exact ⟨rfl, rfl⟩
    | error f =>
      obtain ⟨rfl, rfl⟩ := course_done hcalled
      exact ⟨rfl, rfl⟩

theorem convergeCourse_of_course {around : Surroundings}
    (h : Course (Attempt.converge p ns around).run steps v) :
    ConvergeCourse p ns around steps v := by
  obtain ⟨first, rest, w, rfl, hsync, hclose⟩ := course_converge h
  have hstatus := statusCourse_of_course hsync
  cases w with
  | error e =>
    obtain ⟨rfl, ⟨rfl, hsame⟩ | ⟨hdiffers, ⟨j, rfl⟩ | ⟨f, line, rfl⟩⟩⟩ := course_close_error hclose
    · rw [List.append_nil]
      exact .failed hstatus hsame
    · exact .failureRecorded hstatus hdiffers
    · exact .failureNotRecorded hstatus hdiffers
  | ok status =>
    obtain ⟨hsame, ⟨line, rfl⟩, rfl⟩ | ⟨hdiffers, result, rfl, rfl⟩ := course_close_ok hclose
    · exact .same hstatus hsame
    · cases result with
      | ok j => exact .recorded hstatus hdiffers
      | error f => exact .notRecorded hstatus hdiffers

end

/-! ## A pattern that is deleted -/

/-- Whether a failed deletion only means that there is nothing to delete. -/
def ApiFailure.isGone : ApiFailure → Bool
  | .refusal { code := 404, .. } => true
  | _ => false

/-- The courses of tearing everything down. -/
inductive TeardownCourse (p : Pattern) (ns : String) (around : Surroundings) :
    List Step → Except Failure Requeue → Prop where
  | unsettled {first : List Step} {e : Failure}
      (hsettings : SettingsCourse around.operatorNamespace first (.error e)) :
      TeardownCourse p ns around first (.error e)
  | notDeleted {first : List Step} {settings : Settings} {f : ApiFailure}
      (hsettings : SettingsCourse around.operatorNamespace first (.ok settings))
      (hgone : f.isGone = false) :
      TeardownCourse p ns around
        (first ++ [.called (.deleteApplication settings.applicationNamespace p.applicationName)
          (.error f)])
        (.error (.ofApi f))
  | notPublished {first : List Step} {settings : Settings} {result : Except ApiFailure Json}
      {line : LogLine} {f : ApiFailure}
      (hsettings : SettingsCourse around.operatorNamespace first (.ok settings))
      (hgone : ∀ g, result = .error g → g.isGone = true) :
      TeardownCourse p ns around
        (first
          ++ [ .called (.deleteApplication settings.applicationNamespace p.applicationName) result,
            .noted (.log line), .called (.publish ns (p.deletionEvent around.now)) (.error f) ])
        (.error (.ofApi f))
  | published {first : List Step} {settings : Settings} {result : Except ApiFailure Json}
      {line : LogLine} {j : Json}
      (hsettings : SettingsCourse around.operatorNamespace first (.ok settings))
      (hgone : ∀ g, result = .error g → g.isGone = true) :
      TeardownCourse p ns around
        (first
          ++ [ .called (.deleteApplication settings.applicationNamespace p.applicationName) result,
            .noted (.log line), .called (.publish ns (p.deletionEvent around.now)) (.ok j) ])
        (.ok .onChange)

theorem course_deleteApplication {ns name : String} {steps : List Step} {v : Except Failure Unit}
    (h : Course (Attempt.deleteApplication ns name).run steps v) :
    (∃ f, f.isGone = false ∧ steps = [.called (.deleteApplication ns name) (.error f)]
        ∧ v = .error (.ofApi f))
      ∨ ∃ result line, (∀ g, result = .error g → g.isGone = true)
        ∧ steps = [.called (.deleteApplication ns name) result, .noted (.log line)]
        ∧ v = .ok () := by
  obtain ⟨result, rest, rfl, hcalled⟩ := course_call h
  cases result with
  | ok j =>
    obtain ⟨_, rfl, hdone⟩ := course_note hcalled
    obtain ⟨rfl, rfl⟩ := course_done hdone
    exact .inr ⟨.ok j, _, (fun g hg => by cases hg), rfl, rfl⟩
  | error f =>
    have hbranch : ∀ (b : Bool) (message : String),
        Course (if b = true then Attempt.log .debug message
          else throw (.ofApi f) : Attempt Unit).run rest v →
        b = true ∧ (∃ line, rest = [.noted (.log line)]) ∧ v = .ok ()
          ∨ b = false ∧ rest = [] ∧ v = .error (.ofApi f) := by
      intro b message hcourse
      cases b with
      | true => exact .inl ⟨rfl, course_log hcourse⟩
      | false => exact .inr ⟨rfl, course_done hcourse⟩
    rcases hbranch f.isGone _ hcalled with ⟨hgone, ⟨line, rfl⟩, rfl⟩ | ⟨hgone, rfl, rfl⟩
    · exact .inr ⟨.error f, line, (fun g hg => by cases hg; exact hgone), rfl, rfl⟩
    · exact .inl ⟨f, hgone, rfl, rfl⟩

theorem teardownCourse_of_course {p : Pattern} {ns : String} {around : Surroundings}
    {steps : List Step} {v : Except Failure Requeue}
    (h : Course (Attempt.tearDown p ns around).run steps v) :
    TeardownCourse p ns around steps v := by
  rcases course_attempt_bind h with ⟨e, hload, rfl⟩ | ⟨first, rest, settings, rfl, hload, h₁⟩
  · exact .unsettled (settingsCourse_of_course hload)
  have hsettings := settingsCourse_of_course hload
  rcases course_attempt_bind h₁ with ⟨e, hdelete, rfl⟩ | ⟨second, rest, u, rfl, hdelete, h₂⟩
  · rcases course_deleteApplication hdelete with ⟨f, hgone, rfl, hv⟩ | ⟨_, _, -, -, hv⟩
    · cases hv
      exact .notDeleted hsettings hgone
    · cases hv
  rcases course_deleteApplication hdelete with ⟨_, -, -, hv⟩ | ⟨result, line, hgone, rfl, -⟩
  · cases hv
  obtain ⟨published, last, rfl, hcalled⟩ := course_call h₂
  cases published with
  | ok j =>
    obtain ⟨rfl, rfl⟩ := course_done hcalled
    exact .published hsettings hgone
  | error f =>
    obtain ⟨rfl, rfl⟩ := course_done hcalled
    exact .notPublished hsettings hgone

/-! ## The finalizer -/

/-- The courses of a pass over a pattern in a namespace. -/
inductive FinalizeCourse (p : Pattern) (ns : String) (around : Surroundings) :
    List Step → Except Failure Requeue → Prop where
  | converged {index : Nat} {steps : List Step} {v : Except Failure Requeue}
      (hindex : p.finalizerIndex? = some index) (hstays : p.metadata.isDeleting = false)
      (hconverge : ConvergeCourse p ns around steps v) : FinalizeCourse p ns around steps v
  | unnamed (hname : p.metadata.name = none) :
      FinalizeCourse p ns around [] (.error (Attempt.finalizerFailure .unnamed))
  | notTornDown {index : Nat} {steps : List Step} {e : Failure}
      (hindex : p.finalizerIndex? = some index) (hdeleting : p.metadata.isDeleting = true)
      (hteardown : TeardownCourse p ns around steps (.error e)) :
      FinalizeCourse p ns around steps (.error e)
  | notRemoved {index : Nat} {name : String} {steps : List Step} {requeue : Requeue}
      {f : ApiFailure} (hindex : p.finalizerIndex? = some index)
      (hdeleting : p.metadata.isDeleting = true) (hname : p.metadata.name = some name)
      (hteardown : TeardownCourse p ns around steps (.ok requeue)) :
      FinalizeCourse p ns around
        (steps ++ [.called (.patchPattern ns name (Pattern.removeFinalizer index)) (.error f)])
        (.error (Attempt.finalizerFailure (.removing f)))
  | removed {index : Nat} {name : String} {steps : List Step} {requeue : Requeue} {j : Json}
      (hindex : p.finalizerIndex? = some index) (hdeleting : p.metadata.isDeleting = true)
      (hname : p.metadata.name = some name)
      (hteardown : TeardownCourse p ns around steps (.ok requeue)) :
      FinalizeCourse p ns around
        (steps ++ [.called (.patchPattern ns name (Pattern.removeFinalizer index)) (.ok j)])
        (.ok requeue)
  | notAdded {name : String} {f : ApiFailure} (hindex : p.finalizerIndex? = none)
      (hstays : p.metadata.isDeleting = false) (hname : p.metadata.name = some name) :
      FinalizeCourse p ns around [.called (.patchPattern ns name p.addFinalizer) (.error f)]
        (.error (Attempt.finalizerFailure (.adding f)))
  | added {name : String} {j : Json} (hindex : p.finalizerIndex? = none)
      (hstays : p.metadata.isDeleting = false) (hname : p.metadata.name = some name) :
      FinalizeCourse p ns around [.called (.patchPattern ns name p.addFinalizer) (.ok j)]
        (.ok .onChange)
  | idle (hindex : p.finalizerIndex? = none) (hdeleting : p.metadata.isDeleting = true) :
      FinalizeCourse p ns around [] (.ok .onChange)

/-- What needs the name of the pattern fails, or goes on with the name. -/
theorem course_nameOf_bind {α : Type} {p : Pattern} {next : String → Attempt α} {steps : List Step}
    {v : Except Failure α} (h : Course (Attempt.nameOf p >>= next).run steps v) :
    (p.metadata.name = none ∧ steps = [] ∧ v = .error (Attempt.finalizerFailure .unnamed))
      ∨ ∃ name, p.metadata.name = some name ∧ Course (next name).run steps v := by
  unfold Attempt.nameOf at h
  split at h
  · rename_i name hname
    exact .inr ⟨name, hname, h⟩
  · rename_i hname
    obtain ⟨rfl, rfl⟩ := course_done h
    exact .inl ⟨hname, rfl, rfl⟩

/-- A pass that ends with a change of the finalizers fails with it, or ends as it was to end. -/
theorem course_patchFinalizers_bind {α : Type} {ns name : String} {ops : List PatchOp}
    {failure : ApiFailure → FinalizerFailure} {a : α} {steps : List Step} {v : Except Failure α}
    (h : Course (Attempt.patchFinalizers ns name ops failure >>= fun _ => pure a).run steps v) :
    (∃ j, steps = [.called (.patchPattern ns name ops) (.ok j)] ∧ v = .ok a)
      ∨ ∃ f, steps = [.called (.patchPattern ns name ops) (.error f)]
        ∧ v = .error (Attempt.finalizerFailure (failure f)) := by
  obtain ⟨result, rest, rfl, hcalled⟩ := course_call h
  cases result with
  | ok j =>
    obtain ⟨rfl, rfl⟩ := course_done hcalled
    exact .inl ⟨j, rfl, rfl⟩
  | error f =>
    obtain ⟨rfl, rfl⟩ := course_done hcalled
    exact .inr ⟨f, rfl, rfl⟩

theorem finalizeCourse_of_course {p : Pattern} {ns : String} {around : Surroundings}
    {steps : List Step} {v : Except Failure Requeue}
    (h : Course (Attempt.finalize p ns around).run steps v) :
    FinalizeCourse p ns around steps v := by
  unfold Attempt.finalize at h
  split at h
  · rename_i index hindex hstays
    exact .converged hindex hstays (convergeCourse_of_course h)
  · rename_i index hindex hdeleting
    obtain ⟨hname, rfl, rfl⟩ | ⟨name, hname, hnamed⟩ := course_nameOf_bind h
    · exact .unnamed hname
    obtain ⟨e, htear, rfl⟩ | ⟨first, last, requeue, rfl, htear, hrest⟩ :=
      course_attempt_bind hnamed
    · exact .notTornDown hindex hdeleting (teardownCourse_of_course htear)
    have hteardown := teardownCourse_of_course htear
    obtain ⟨j, rfl, rfl⟩ | ⟨f, rfl, rfl⟩ := course_patchFinalizers_bind hrest
    · exact .removed hindex hdeleting hname hteardown
    · exact .notRemoved hindex hdeleting hname hteardown
  · rename_i hindex hstays
    obtain ⟨hname, rfl, rfl⟩ | ⟨name, hname, hnamed⟩ := course_nameOf_bind h
    · exact .unnamed hname
    obtain ⟨j, rfl, rfl⟩ | ⟨f, rfl, rfl⟩ := course_patchFinalizers_bind hnamed
    · exact .added hindex hstays hname
    · exact .notAdded hindex hstays hname
  · rename_i hindex hdeleting
    obtain ⟨rfl, rfl⟩ := course_done h
    exact .idle hindex hdeleting

/-! ## The whole pass -/

/-- The courses of a pass. -/
inductive ReconcileCourse (p : Pattern) (around : Surroundings) :
    List Step → Except Failure Requeue → Prop where
  | homeless (hns : p.metadata.namespaceName = none) :
      ReconcileCourse p around [.noted .began, .noted (.ended "pattern")] (.error namespaceMissing)
  | finalized {ns : String} {line : LogLine} {steps : List Step} {v : Except Failure Requeue}
      (hns : p.metadata.namespaceName = some ns) (hfinalize : FinalizeCourse p ns around steps v) :
      ReconcileCourse p around
        (.noted .began :: .noted (.log line) :: steps ++ [.noted (.ended "pattern")]) v

theorem course_reconcile {p : Pattern} {around : Surroundings} {steps : List Step}
    {v : Except Failure Requeue} :
    Course (p.reconcile around) steps v ↔
      ∃ body, steps = .noted .began :: body ++ [.noted (.ended "pattern")]
        ∧ Course (Attempt.reconcileNamed p around).run body v := by
  constructor
  · intro h
    obtain ⟨_, rfl, hbegan⟩ := course_note h
    have hbind : Course ((Attempt.reconcileNamed p around).run.bind fun result =>
        .note (.ended "pattern") (.done result)) _ v := hbegan
    obtain ⟨body, last, result, hbody, hlast, rfl⟩ := course_bind.1 hbind
    obtain ⟨_, rfl, hdone⟩ := course_note hlast
    obtain ⟨rfl, rfl⟩ := course_done hdone
    exact ⟨body, rfl, hbody⟩
  · rintro ⟨body, rfl, hbody⟩
    have hbind : Course ((Attempt.reconcileNamed p around).run.bind fun result =>
        .note (.ended "pattern") (.done result)) (body ++ [.noted (.ended "pattern")]) v :=
      course_bind.2 ⟨_, _, _, hbody, .note (.done _), rfl⟩
    exact .note hbind

theorem reconcileCourse_of_course {p : Pattern} {around : Surroundings} {steps : List Step}
    {v : Except Failure Requeue} (h : Course (p.reconcile around) steps v) :
    ReconcileCourse p around steps v := by
  obtain ⟨body, rfl, hbody⟩ := course_reconcile.1 h
  unfold Attempt.reconcileNamed at hbody
  split at hbody
  · rename_i hns
    obtain ⟨rfl, rfl⟩ := course_done hbody
    exact .homeless hns
  · rename_i ns hns
    obtain ⟨_, rfl, hfinalize⟩ := course_note hbody
    exact .finalized hns (finalizeCourse_of_course hfinalize)

end PatternSync
