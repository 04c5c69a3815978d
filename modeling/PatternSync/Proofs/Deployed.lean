import PatternSync.Proofs.Convergence
import PatternSync.Proofs.LastError
import PatternSync.Proofs.Lists

/-!
# What is deployed is what is recorded

A pass refreshes the facts in a copy of the pattern, compares and writes the application that this
copy asks for, and then records the status of the copy by another call, or not at all. Main
statement: after a pass that succeeds, the stored pattern asks for just the application that the
pass went by (`deployed_as_recorded`). Meanwhile others may edit the pattern, as long as they leave
name, specification and recorded facts alone.

There are two reasons why the copy and the stored pattern ask for the same. Either the status was
recorded, and facts are read back as they were written. Or it was not worth a record, and then none
of its facts is new (`PatternStatus.facts_of_same`). What else a status says does not count
(`Pattern.goal_congr`).
-/

namespace PatternSync

open Json Pass Wire

/-! ## Facts of a status -/

namespace PatternStatus

theorem facts_applyTo (facts : ClusterFacts) (s : PatternStatus) :
    (facts.applyTo s).facts = facts := rfl

theorem facts_ofJson_toJson (s : PatternStatus) : (ofJson s.toJson).facts = s.facts := by
  rw [ofJson_toJson]
  rfl

theorem facts_of_same {previous next : PatternStatus} (h : previous.differs next = false) :
    next.facts = previous.facts :=
  (congrArg facts (differs_eq_false_iff.1 h).1).symm

end PatternStatus

namespace Pattern.Alike

variable {p q r : Pattern}

theorem refl (p : Pattern) : Alike p p :=
  ⟨rfl, rfl, rfl⟩

theorem trans (h : Alike p q) (h' : Alike q r) : Alike p r where
  name := h.name.trans h'.name
  spec := h.spec.trans h'.spec
  facts := h.facts.trans h'.facts

theorem syncApplication_eq (h : Alike p q) (settings : Settings) :
    Attempt.syncApplication p settings = Attempt.syncApplication q settings := by
  have hname := h.name
  have hgoal := h.goal_eq settings
  unfold Attempt.syncApplication Attempt.createApplication Attempt.updateApplication Attempt.wrote
  rw [hgoal, hname]

end Pattern.Alike

/-! ## Parts of a pass that succeeds -/

section

variable {p : Pattern} {around : Surroundings} {steps : List Step}

theorem course_config_error {object : ConfigObject} {e : Failure}
    (h : Course (Attempt.call (.readConfig object)).run steps (.error e)) :
    ∃ f, .called (.readConfig object) (.error f) ∈ steps := by
  rcases course_attempt_call h with ⟨j, -, hv⟩ | ⟨f, rfl, -⟩
  · cases hv
  · exact ⟨f, List.mem_singleton_self _⟩

/-- Discovering the facts fails with one of its reads only. -/
theorem course_discoverFacts_error {e : Failure}
    (h : Course Attempt.discoverFacts.run steps (.error e)) :
    ∃ object f, .called (.readConfig object) (.error f) ∈ steps := by
  rcases course_attempt_bind h with ⟨_, hversion, -⟩ | ⟨first, rest, a, rfl, -, h⟩
  · exact ⟨_, course_config_error hversion⟩
  rcases course_attempt_bind h with ⟨_, hinfra, -⟩ | ⟨second, rest, b, rfl, -, h⟩
  · obtain ⟨f, hf⟩ := course_config_error hinfra
    exact ⟨_, f, List.mem_append_right _ hf⟩
  rcases course_attempt_bind h with ⟨_, hingress, -⟩ | ⟨third, rest, c, rfl, -, h⟩
  · obtain ⟨f, hf⟩ := course_config_error hingress
    exact ⟨_, f, List.mem_append_right _ (List.mem_append_right _ hf)⟩
  · cases (course_done h).2

/-- Either all three reads are answered and the facts are what they say, or one of them fails and
the status stays as it was. -/
theorem course_withFreshFacts {observed status : PatternStatus}
    (h : Course (Attempt.withFreshFacts observed).run steps (.ok status)) :
    (∃ a b c, steps = [ .called (.readConfig .clusterVersion) (.ok a),
          .called (.readConfig .infrastructure) (.ok b), .called (.readConfig .ingress) (.ok c) ]
        ∧ status = (ClusterFacts.ofConfig a b c).applyTo observed)
      ∨ (∃ object f, .called (.readConfig object) (.error f) ∈ steps) ∧ status = observed := by
  rcases course_attempt_bind h with ⟨e, -, hv⟩ | ⟨first, last, w, rfl, hlook, hrest⟩
  · cases hv
  obtain ⟨_, hw, hdiscover⟩ := course_outcome hlook
  cases hw
  cases w with
  | ok facts =>
    obtain ⟨rfl, hstatus⟩ := course_done hrest
    cases hstatus
    rcases course_discoverFacts hdiscover with ⟨a, b, c, rfl, hfacts⟩ | ⟨⟨e, he⟩, -⟩
    · cases hfacts
      exact .inl ⟨a, b, c, rfl, rfl⟩
    · cases he
  | error e =>
    obtain ⟨_, rfl, hdone⟩ := course_note hrest
    obtain ⟨rfl, hstatus⟩ := course_done hdone
    cases hstatus
    obtain ⟨object, f, hf⟩ := course_discoverFacts_error hdiscover
    exact .inr ⟨⟨object, f, List.mem_append_left _ hf⟩, rfl⟩

/-- A sync that succeeds loads settings, looks at the facts, and syncs the application of the
pattern with what it knows then. -/
theorem course_sync_ok {next : PatternStatus}
    (h : Course (Attempt.sync p around).run steps (.ok next)) :
    ∃ settings status outcome loading looks syncing last,
      steps = loading ++ looks ++ syncing ++ last
        ∧ Course (Attempt.loadSettings around.operatorNamespace).run loading (.ok settings)
        ∧ Course (Attempt.withFreshFacts p.observed).run looks (.ok status)
        ∧ Course (Attempt.syncApplication { p with status := some status } settings).run syncing
          (.ok outcome)
        ∧ Quiet last ∧ next.facts = status.facts := by
  rcases course_attempt_bind h with ⟨e, -, hv⟩ | ⟨loading, rest, settings, rfl, hload, h⟩
  · cases hv
  rcases course_attempt_bind h with ⟨e, -, hv⟩ | ⟨looks, rest, status, rfl, hlook, h⟩
  · cases hv
  rcases course_attempt_bind h with ⟨e, -, hv⟩ | ⟨syncing, last, outcome, rfl, hsync, h⟩
  · cases hv
  obtain ⟨hlast, hnext⟩ := course_perhaps_log rfl h
  cases hnext
  refine ⟨settings, status, outcome, loading, looks, syncing, last, ?_, hload, hlook, hsync, hlast,
    rfl⟩
  simp only [List.append_assoc]

/-- What a pass over a pattern does that bears the finalizer and stays. -/
theorem course_reconcile_staying {index : Nat}
    (hindex : p.finalizerIndex? = some index) (hstays : p.metadata.isDeleting = false)
    {requeue : Requeue} (h : Course (p.reconcile around) steps (.ok requeue)) :
    ∃ ns line body,
      steps = .noted .began :: .noted (.log line) :: body ++ [.noted (.ended "pattern")]
      ∧ Course (Attempt.converge p ns around).run body (.ok requeue) := by
  obtain ⟨body, rfl, hbody⟩ := course_reconcile.1 h
  unfold Attempt.reconcileNamed at hbody
  split at hbody
  · cases (course_done hbody).2
  · rename_i ns hns
    obtain ⟨rest, rfl, hfinalize⟩ := course_note hbody
    refine ⟨ns, _, rest, rfl, ?_⟩
    have hconverge : Attempt.finalize p ns around = Attempt.converge p ns around := by
      rw [Attempt.finalize, hindex, hstays]
    exact hconverge ▸ hfinalize

end

/-! ## Calls that are not about an application -/

def Call.concernsApplication (c : Call) : Bool :=
  c.place?.isSome

theorem Quiet.elsewhere {steps : List Step} (h : Quiet steps) :
    Avoids Call.concernsApplication steps := by
  intro c result hmem
  obtain ⟨line, hline⟩ := h _ hmem
  cases hline

theorem SettingsCourse.elsewhere {ns : String} {steps : List Step} {v : Except Failure Settings}
    (h : SettingsCourse ns steps v) : Avoids Call.concernsApplication steps := by
  cases h with
  | stored hdata => exact avoids_call rfl _
  | rejected hdata => exact avoids_call rfl _
  | absent habsent => exact (avoids_call rfl _).append (avoids_note _)
  | unread habsent => exact avoids_call rfl _

theorem FactsCourse.elsewhere {observed status : PatternStatus} {steps : List Step}
    (h : FactsCourse observed steps status) : Avoids Call.concernsApplication steps := by
  cases h with
  | known => exact ((avoids_call rfl _).append (avoids_call rfl _)).append (avoids_call rfl _)
  | unknown hlooks =>
    refine Avoids.append (fun c result hmem => ?_) (avoids_note _)
    obtain ⟨object, _, heq⟩ := hlooks _ hmem
    cases heq
    rfl

/-! ## Edits by others -/

namespace Account

/-- The account after an edit by others, who leave name, specification and recorded facts alone. -/
def edited? (a : Account) (members : Keyed Json) : Option Account :=
  let edited := { a with members }
  if edited.pattern.displayName = a.pattern.displayName ∧ edited.pattern.spec = a.pattern.spec
      ∧ edited.pattern.observed.facts = a.pattern.observed.facts then some edited
  else none

theorem alike_of_edited {a edited : Account} {members : Keyed Json}
    (h : a.edited? members = some edited) : edited.pattern.Alike a.pattern := by
  obtain ⟨⟨hname, hspec, hfacts⟩, hedited⟩ := Option.ite_none_right_eq_some.1 h
  cases hedited
  exact ⟨hname, hspec, hfacts⟩

end Account

/-- A stored pattern, and what others make of it while a pass is running. -/
structure Shared where
  account : Account
  /-- The members that the pattern gets before each call, as long as there are any. -/
  edits : List (Keyed Json) := []

namespace Shared

def pattern (s : Shared) : Pattern :=
  s.account.pattern

/-- Serves a call after the next edit. -/
def serve : Handler Shared := fun s c fate =>
  match s.edits with
  | [] => (s.account.serve c fate).map fun (result, account) => (result, { account })
  | members :: edits =>
    (s.account.edited? members).bind fun edited =>
      (edited.serve c fate).map fun (result, account) => (result, { account, edits })

variable {s after : Shared} {c : Call} {fate : Fate} {result : Except ApiFailure Json}

theorem serve_edited (h : serve s c fate = some (result, after)) :
    ∃ edited : Account, edited.pattern.Alike s.pattern
      ∧ edited.serve c fate = some (result, after.account) := by
  unfold serve at h
  split at h
  · obtain ⟨served, hserve, heq⟩ := Option.map_eq_some_iff.1 h
    cases heq
    exact ⟨s.account, .refl _, hserve⟩
  · obtain ⟨edited, hedited, hrest⟩ := Option.bind_eq_some_iff.1 h
    obtain ⟨served, hserve, heq⟩ := Option.map_eq_some_iff.1 hrest
    cases heq
    exact ⟨edited, Account.alike_of_edited hedited, hserve⟩

theorem alike_of_serve (hc : c.changesPattern = false)
    (h : serve s c fate = some (result, after)) : after.pattern.Alike s.pattern := by
  obtain ⟨edited, halike, hserve⟩ := serve_edited h
  have hsame : after.pattern = edited.pattern := by
    rw [pattern, Account.pattern, Account.members_of_serve hc hserve, Account.pattern]
  exact hsame ▸ halike

theorem alike_of_trail {steps : List Step} (hsteps : Avoids Call.changesPattern steps)
    (htrail : Trail serve s steps after) : after.pattern.Alike s.pattern := by
  refine htrail.invariant (fun mid => mid.pattern.Alike s.pattern) ?_ (.refl _)
  intro mid next c result fate hmem hserve hmid
  exact (alike_of_serve (hsteps c result hmem) hserve).trans hmid

/-- After an answered record the stored pattern is as before but for the recorded facts. -/
theorem alike_of_record {ns name : String} {status : PatternStatus} {j : Json}
    (h : serve s (.recordStatus ns name status) fate = some (.ok j, after)) :
    after.pattern.Alike { s.pattern with status := some status } := by
  obtain ⟨edited, halike, hserve⟩ := serve_edited h
  obtain ⟨_, _, stored, k, -, -, hstored, -, hafter⟩ | ⟨f, -, hf, -⟩ | ⟨f, _, -, hf, -⟩ :=
    Handler.performing_cases hserve
  · obtain ⟨hmembers, -, -⟩ := Account.perform?_record hstored
    have hpattern : after.pattern
        = { edited.pattern with status := some (.ofJson status.toJson) } := by
      rw [pattern, hafter, hmembers]
      exact Pattern.ofJson_record _ _
    rw [hpattern]
    exact ⟨halike.name, halike.spec, status.facts_ofJson_toJson⟩
  · cases hf
  · cases hf

end Shared

/-! ## Passes that succeed -/

/-- Closing a pass that goes on with a status leaves the stored pattern with the facts of that
status. -/
theorem Shared.alike_of_close {s after : Shared} {p : Pattern} {ns : String}
    {status : PatternStatus} {requeue : Requeue} {rest : List Step} (hpattern : s.pattern.Alike p)
    (hclose : Course (Attempt.close p ns (.ok status)).run rest (.ok requeue))
    (htrail : Trail serve s rest after) :
    after.pattern.Alike { p with status := some status }
      ∧ Avoids Call.concernsApplication rest := by
  obtain ⟨hsame, ⟨line, rfl⟩, -⟩ | ⟨-, result, rfl, hv⟩ := course_close_ok hclose
  · obtain rfl := trail_nil (trail_note htrail)
    have hfacts : p.observed.facts = status.facts := (PatternStatus.facts_of_same hsame).symm
    exact ⟨hpattern.trans ⟨rfl, rfl, hfacts⟩, avoids_note _⟩
  · cases result with
    | error f => cases hv
    | ok j =>
      obtain ⟨fate, next, hserve, hend⟩ := trail_call htrail
      obtain rfl := trail_nil hend
      refine ⟨(alike_of_record hserve).trans ⟨hpattern.name, hpattern.spec, rfl⟩, ?_⟩
      exact avoids_call rfl _

/-- A successful pass over a pattern that bears the finalizer and stays brings an application in
line once, by the settings that it has read and a copy of the pattern with fresh facts, if all three
reads for them are answered, and with the facts of before otherwise. The pattern that is stored
afterwards has the facts of this copy and asks for the same application, so that to sync it would
have been the same. This holds because the name, the specification and five facts of a pattern are
all that the wanted application depends on. -/
theorem deployed_as_recorded :
    (∀ (s : Shared) (around : Surroundings) (fates : List Fate)
      (r : Conduct Shared (Except Failure Requeue)) (index : Nat) (requeue : Requeue),
      s.pattern.finalizerIndex? = some index → s.pattern.metadata.isDeleting = false →
      (s.pattern.reconcile around).conduct Shared.serve s fates = some r →
      r.value = .ok requeue →
      ∃ settings status outcome opening loading looks syncing closing,
        let copy : Pattern := { s.pattern with status := some status }
        r.steps = opening ++ loading ++ looks ++ syncing ++ closing
          ∧ Avoids Call.concernsApplication (opening ++ loading ++ looks ++ closing)
          ∧ Course (Attempt.loadSettings around.operatorNamespace).run loading (.ok settings)
          ∧ ((∃ a b c, looks = [ .called (.readConfig .clusterVersion) (.ok a),
                .called (.readConfig .infrastructure) (.ok b),
                .called (.readConfig .ingress) (.ok c) ]
              ∧ r.state.pattern.observed.facts = .ofConfig a b c)
            ∨ (∃ object f, .called (.readConfig object) (.error f) ∈ looks)
              ∧ r.state.pattern.observed.facts = s.pattern.observed.facts)
          ∧ Course (Attempt.syncApplication copy settings).run syncing (.ok outcome)
          ∧ Course (Attempt.syncApplication r.state.pattern settings).run syncing (.ok outcome)
          ∧ copy.goal settings = r.state.pattern.goal settings)
    ∧ ∀ (p q : Pattern) (settings : Settings), p.displayName = q.displayName → p.spec = q.spec →
      p.observed.clusterVersion = q.observed.clusterVersion →
      p.observed.clusterPlatform = q.observed.clusterPlatform →
      p.observed.appClusterDomain = q.observed.appClusterDomain →
      p.observed.clusterDomain = q.observed.clusterDomain →
      p.observed.clusterName = q.observed.clusterName → p.goal settings = q.goal settings := by
  refine ⟨?_, fun p q settings hname hspec hversion hplatform happs hdomain hcluster =>
    Pattern.goal_congr hname hspec hversion hplatform happs hdomain hcluster settings⟩
  intro s around fates r index requeue hindex hstays hrun hok
  obtain ⟨hcourse, htrail⟩ := conduct_iff.1 ⟨fates, hrun⟩
  rw [hok] at hcourse
  obtain ⟨ns, line, body, hsteps, hconverge⟩ := course_reconcile_staying hindex hstays hcourse
  obtain ⟨first, rest, w, rfl, hsync, hclose⟩ := course_converge hconverge
  cases w with
  | error e => cases (course_close_error hclose).1
  | ok next =>
    obtain ⟨settings, status, outcome, loading, looks, syncing, last, rfl, hload, hlook, hsyncing,
      hlast, hfacts⟩ := course_sync_ok hsync
    have hquiet : Avoids Call.changesPattern (loading ++ looks ++ syncing ++ last) :=
      (statusCourse_of_course hsync).avoids (fun _ => Call.changesPattern_of_acts)
        fun _ => Call.changesPattern_of_isWrite
    rw [hsteps] at htrail
    obtain ⟨closed, hbody, hended⟩ := trail_append.1 (trail_note (trail_note htrail))
    obtain ⟨synced, hbefore, hafter⟩ := trail_append.1 hbody
    obtain rfl := trail_nil (trail_note hended)
    have hsynced := Shared.alike_of_trail hquiet hbefore
    obtain ⟨hclosed, hrest⟩ := Shared.alike_of_close hsynced hclose hafter
    have halike : r.state.pattern.Alike { s.pattern with status := some status } :=
      hclosed.trans ⟨rfl, rfl, hfacts⟩
    refine ⟨settings, status, outcome, [.noted .began, .noted (.log line)], loading, looks, syncing,
      last ++ rest ++ [.noted (.ended "pattern")], ?_, ?_, hload, ?_, hsyncing, ?_,
      (halike.goal_eq settings).symm⟩
    · rw [hsteps]
      simp only [List.append_assoc, List.cons_append, List.nil_append]
    · obtain ⟨_, hv, hknown⟩ := factsCourse_of_course hlook
      cases hv
      have hopening : Avoids Call.concernsApplication [.noted .began, .noted (.log line)] :=
        (avoids_note _).append (avoids_note _)
      have hclosing :
          Avoids Call.concernsApplication (last ++ rest ++ [.noted (.ended "pattern")]) :=
        (hlast.elsewhere.append hrest).append (avoids_note _)
      exact ((hopening.append (settingsCourse_of_course hload).elsewhere).append
        hknown.elsewhere).append hclosing
    · rcases course_withFreshFacts hlook with ⟨a, b, c, hlooks, rfl⟩ | ⟨hfailed, rfl⟩
      · exact .inl ⟨a, b, c, hlooks, halike.facts.trans (PatternStatus.facts_applyTo _ _)⟩
      · exact .inr ⟨hfailed, halike.facts⟩
    · rw [halike.syncApplication_eq settings]
      exact hsyncing

def labelledMembers : Keyed Json :=
  Keyed.put "metadata"
    (.object
      [ ("finalizers", .arr [.str Pattern.finalizer]), ("labels", .object [("tier", .str "edge")]),
        ("name", .str "mcg"), ("namespace", .str "default") ])
    freshMembers

/-- A pass that meets a label of others on its way and learns the platform, and a status that says
much else. -/
theorem deployed_as_recorded_labelled :
    (∃ (around : Surroundings) (r : Conduct Shared (Except Failure Requeue)) (requeue : Requeue)
      (settings : Settings) (outcome : SyncOutcome) (before syncing behind : List Step),
      Course ((Pattern.ofJson (.obj freshMembers)).reconcile around) r.steps (.ok requeue)
        ∧ r.state.pattern.observed.clusterPlatform = "AWS"
        ∧ r.state.pattern.metadata.labels = some [("tier", "edge")]
        ∧ r.steps = before ++ syncing ++ behind
        ∧ Course (Attempt.syncApplication r.state.pattern settings).run syncing (.ok outcome))
    ∧ Pattern.hub.goal {} = Pattern.goal { Pattern.hub with
        status := some { Pattern.hub.observed with
          version := 7, lastStep := "Created application", lastError := "timeout",
          clusterId := "f1d2" } } {} := by
  let around : Surroundings :=
    { operatorNamespace := "operators", now := .midnight (.newYear 2024) }
  let absent : Fate := .refused (.refusal { status := "", reason := "NotFound", code := 404 })
  let served : Fate := .served .null ""
  let platform : Fate := .served (.object
    [("spec", .object [("platformSpec", .object [("type", .str "AWS")])])]) ""
  let start : Shared := { account := { members := freshMembers }, edits := [labelledMembers] }
  have hruns : ((start.pattern.reconcile around).conduct Shared.serve start
      [absent, served, platform, served, absent, served, served]).any (fun r =>
        r.value.isOk && r.state.pattern.observed.clusterPlatform = "AWS"
          && r.state.pattern.metadata.labels = some [("tier", "edge")]) = true := by
    decide +kernel
  obtain ⟨r, hrun, hreached⟩ := (Option.any_eq_true _ _).1 hruns
  simp only [Bool.and_eq_true, decide_eq_true_eq] at hreached
  obtain ⟨⟨hvalue, hplatform⟩, hlabels⟩ := hreached
  obtain ⟨requeue, hok⟩ := exists_ok_of_isOk hvalue
  obtain ⟨settings, status, outcome, opening, loading, looks, syncing, closing, hsteps, -, -, -, -,
    hsyncing, -⟩ := deployed_as_recorded.1 start around _ r 0 requeue (by decide +kernel)
      (by decide +kernel) hrun hok
  obtain ⟨hcourse, -⟩ := conduct_iff.1 ⟨_, hrun⟩
  rw [hok] at hcourse
  exact ⟨⟨around, r, requeue, settings, outcome, _, syncing, closing, hcourse, hplatform, hlabels,
    hsteps, hsyncing⟩, deployed_as_recorded.2 _ _ _ rfl rfl rfl rfl rfl rfl rfl⟩

end PatternSync
