import PatternSync.Proofs.Bookkeeping
import PatternSync.Proofs.Conduct
import PatternSync.Proofs.PatternRecords

/-!
# What the recorded version counts

A pattern is reconciled again and again, each time as it is stored by then, and any call of any
pass may fail. A pass counts a write in the version that it records afterwards, by another call.
Main statement: the stored version counts the answered writes, less those whose record was refused
(`version_counts_recorded_writes`). A refused record is never made up for: the next pass goes by
the stored version.

The induction is on the passes, and what it carries is an equation between two accounts
(`Account.Advance`). A pass is of one of two kinds (`Bookkeeping`). If it is idle, so is each of its
calls, and nothing changes that the equation is about. Otherwise there is one write more, and
afterwards a record that raises the version or is missed.
-/

namespace PatternSync

open Json Pass Wire

/-! ## Accounts -/

/-- A stored pattern, and what has become of the calls of its passes. -/
structure Account where
  /-- The members of the stored pattern. -/
  members : Keyed Json
  metrics : Metrics := {}
  /-- How many writes of an application were answered. No pass sees this. -/
  writes : Nat := 0
  /-- How many records of another version than the stored one were refused. No pass sees this. -/
  missed : Nat := 0

def Metrics.writesOf (m : Metrics) (pattern : String) : Nat :=
  m.writes.count pattern "create" + m.writes.count pattern "update"

namespace Account

def pattern (a : Account) : Pattern :=
  .ofJson (.obj a.members)

def version (a : Account) : UInt32 :=
  a.pattern.observed.version

def counted (a : Account) : Nat :=
  a.metrics.writesOf a.pattern.displayName

/-- The account after a call was carried out; nothing if a server cannot do what is asked. -/
def perform? (a : Account) (c : Call) : Option Account :=
  match c with
  | .patchPattern _ _ _ | .recordStatus _ _ _ =>
    match Server.patched (.obj a.members) c.verb with
    | .ok (.obj members) => some { a with members }
    | _ => none
  | _ => some a

def answered (a : Account) (c : Call) : Account :=
  if c.isWrite then { a with writes := a.writes + 1 } else a

def refused (a : Account) : Call → Account
  | .recordStatus _ _ status =>
    if status.version = a.version then a else { a with missed := a.missed + 1 }
  | _ => a

/-- Serves a call. What does not concern the stored pattern may be answered by anything. -/
def serve : Handler Account :=
  Handler.performing (fun a _ c => a.perform? c) answered refused

end Account

/-- What can happen next to a pattern. -/
inductive Turn where
  /-- A pass, with the fates of its calls. -/
  | pass (around : Surroundings) (fates : List Fate)
  /-- Somebody edits the pattern, but neither its name nor its status. -/
  | edit (members : Keyed Json)

namespace Account

def step? (a : Account) : Turn → Option Account
  | .pass around fates =>
    ((a.pattern.reconcile around).conduct serve a fates).map fun r =>
      { r.state with metrics := r.steps.foldl Step.count a.metrics }
  | .edit members =>
    let edited := { a with members }
    if edited.pattern.status = a.pattern.status
        ∧ edited.pattern.displayName = a.pattern.displayName then some edited
    else none

def run (a : Account) : List Turn → Option Account
  | [] => some a
  | turn :: turns => (a.step? turn).bind fun next => run next turns

end Account

/-! ## What is read of a recorded status -/

namespace PatternStatus

theorem version_ofJson_toJson (s : PatternStatus) : (ofJson s.toJson).version = s.version := by
  rw [ofJson_toJson]

end PatternStatus

theorem Call.status_statusDocument (status : PatternStatus) :
    (statusDocument status).member? "status" = some status.toJson := by
  show Keyed.get? (Keyed.ofList _) "status" = _
  rw [Keyed.get?_ofList_of_nodup (by simp)]
  simp [Keyed.get?]

theorem Pattern.ofJson_record (members : Keyed Json) (status : PatternStatus) :
    ofJson (.obj (Keyed.put "status" status.toJson members))
      = { ofJson (.obj members) with status := some (.ofJson status.toJson) } := by
  have hstatus : shape.field? (.obj (Keyed.put "status" status.toJson members)) "status"
      = some status.toJson := Keyed.get?_put_self _ _ _
  have hother : ∀ {key}, key ≠ "status" →
      shape.field? (.obj (Keyed.put "status" status.toJson members)) key
        = shape.field? (.obj members) key := fun hkey => Keyed.get?_put_of_ne hkey _ _
  have hobject : ∃ written, status.toJson = .obj written := ⟨_, objectOf_eq _⟩
  obtain ⟨written, hwritten⟩ := hobject
  rw [ofJson, hstatus, hother (by decide), hother (by decide), hwritten]
  rfl

/-! ## What is counted -/

theorem Idle.writesOf {version : UInt32} {steps : List Step} (h : Idle version steps) (m : Metrics)
    (pattern : String) : (steps.foldl Step.count m).writesOf pattern = m.writesOf pattern := by
  rw [Metrics.writesOf, writes_count h.counted]
  rfl

theorem Metrics.writesOf_wrote (m : Metrics) (pattern : String) {operation : String}
    (h : operation ∈ ["create", "update"]) :
    (m.wrote pattern operation).writesOf pattern = m.writesOf pattern + 1 := by
  simp only [List.mem_cons, List.not_mem_nil, or_false] at h
  rcases h with rfl | rfl
  · rw [writesOf, wrote, Tally.count_increment_self,
      Tally.count_increment_of_ne (.inr (by decide)), writesOf]
    omega
  · rw [writesOf, wrote, Tally.count_increment_self,
      Tally.count_increment_of_ne (.inr (by decide)), writesOf]
    omega

theorem Written.writesOf {p : Pattern} {steps : List Step} (h : Written p steps) (m : Metrics) :
    (steps.foldl Step.count m).writesOf p.displayName = m.writesOf p.displayName + 1 := by
  obtain ⟨rfl, hfirst, hlast, -, hoperation⟩ := h
  rw [List.foldl_append, List.foldl_cons, List.foldl_cons, (hlast.idle 0).writesOf]
  show (Metrics.wrote _ _ _).writesOf _ = _
  rw [Metrics.writesOf_wrote _ _ hoperation]
  show (List.foldl Step.count m _).writesOf _ + 1 = _
  rw [(hfirst.idle 0).writesOf]

/-! ## What a call does to an account -/

namespace Account

/-- The accounts agree in the recorded version, in the name of the pattern, and in what has become
of writes. -/
structure Still (a after : Account) : Prop where
  version : after.version = a.version
  name : after.pattern.displayName = a.pattern.displayName
  writes : after.writes = a.writes
  missed : after.missed = a.missed

theorem still_refl (a : Account) : a.Still a :=
  ⟨rfl, rfl, rfl, rfl⟩

section

variable {a mid after : Account}

theorem Still.trans (h : a.Still mid) (h' : mid.Still after) : a.Still after where
  version := h'.version.trans h.version
  name := h'.name.trans h.name
  writes := h'.writes.trans h.writes
  missed := h'.missed.trans h.missed

theorem Still.addWrite (h : a.Still after) :
    { a with writes := a.writes + 1 }.Still { after with writes := after.writes + 1 } :=
  ⟨h.version, h.name, congrArg (· + 1) h.writes, h.missed⟩

variable {c : Call} {fate : Fate} {result : Except ApiFailure Json}

theorem perform?_patch {ns name : String} {ops : List PatchOp}
    (hops : ∀ op ∈ ops, op.OnFinalizers)
    (h : a.perform? (.patchPattern ns name ops) = some after) : a.Still after := by
  unfold perform? at h
  dsimp only at h
  split at h
  · rename_i members hpatched
    cases h
    cases happlied : PatchOp.applyAll (.obj a.members) ops with
    | error op =>
      rw [Call.verb, Server.patched, happlied] at hpatched
      cases hpatched
    | ok j =>
      rw [Call.verb, Server.patched, happlied] at hpatched
      cases hpatched
      obtain ⟨finalizers, hpattern⟩ := Pattern.ofJson_finalizerPatch hops happlied
      refine ⟨?_, ?_, rfl, rfl⟩
      · rw [version, pattern, hpattern]
        rfl
      · rw [pattern, hpattern]
        rfl
  · cases h

theorem perform?_record {ns name : String} {status : PatternStatus}
    (h : a.perform? (.recordStatus ns name status) = some after) :
    after = { a with members := Keyed.put "status" status.toJson a.members }
      ∧ after.version = status.version
      ∧ after.pattern.displayName = a.pattern.displayName := by
  obtain rfl : { a with members := Keyed.put "status" status.toJson a.members } = after := by
    rw [perform?, Call.verb, Server.patched, Call.status_statusDocument] at h
    exact Option.some.inj h
  have hpattern := Pattern.ofJson_record a.members status
  refine ⟨rfl, ?_, ?_⟩
  · rw [version, pattern, hpattern]
    exact status.version_ofJson_toJson
  · rw [pattern, hpattern]
    rfl

theorem still_of_serve (hwrite : ∀ j, result = .ok j → c.isWrite = false)
    (hrecord : ∀ ns name status, c = .recordStatus ns name status → status.version = a.version)
    (hpatch : ∀ ns name ops, c = .patchPattern ns name ops → ∀ op ∈ ops, op.OnFinalizers)
    (h : a.serve c fate = some (result, after)) : a.Still after := by
  have hperform : ∀ {next : Account}, a.perform? c = some next → a.Still next := by
    intro next hnext
    cases c with
    | patchPattern ns name ops => exact perform?_patch (hpatch _ _ _ rfl) hnext
    | recordStatus ns name status =>
      obtain ⟨rfl, hversion, hname⟩ := perform?_record hnext
      exact ⟨hversion.trans (hrecord _ _ _ rfl), hname, rfl, rfl⟩
    | _ => exact Option.some.inj hnext ▸ still_refl a
  obtain ⟨_, _, next, j, -, hj, hnext, -, rfl⟩ | ⟨f, -, -, rfl⟩ | ⟨f, _, -, -, hnext⟩ :=
    Handler.performing_cases h
  · rw [answered, hwrite j hj]
    exact hperform hnext
  · cases c with
    | recordStatus ns name status =>
      rw [refused, if_pos (hrecord _ _ _ rfl)]
      exact still_refl a
    | _ => exact still_refl a
  · exact hperform hnext

theorem still_of_idle {steps : List Step} (hidle : Idle a.version steps)
    (htrail : Trail serve a steps after) : a.Still after := by
  -- a call is idle for the version at its own start, which is that of `a` by what is carried
  refine htrail.invariant a.Still ?_ (still_refl a)
  intro s mid c result fate hmem hserve hs
  refine hs.trans (still_of_serve ?_ ?_ ?_ hserve)
  · rintro j rfl
    exact hidle.unanswered c j hmem
  · rintro ns name status rfl
    exact (hidle.recorded _ _ _ _ hmem).trans hs.version.symm
  · rintro ns name ops rfl
    exact hidle.patches _ _ _ _ hmem

theorem serve_write {j : Json} (hc : c.isWrite = true)
    (h : a.serve c fate = some (.ok j, after)) : after = { a with writes := a.writes + 1 } := by
  obtain ⟨_, _, next, k, -, -, hnext, -, rfl⟩ | ⟨f, -, hf, -⟩ | ⟨f, _, -, hf, -⟩ :=
    Handler.performing_cases h
  · have hsame : next = a := by
      cases c with
      | createApplication ns b => exact (Option.some.inj hnext).symm
      | mergeApplication ns name change => exact (Option.some.inj hnext).symm
      | _ => cases hc
    rw [hsame, answered, if_pos hc]
  · cases hf
  · cases hf

/-- The record of the next version is stored, or it is one more that is missed. -/
theorem serve_record {ns name : String} {status : PatternStatus}
    (hstatus : status.version = a.version + 1)
    (h : a.serve (.recordStatus ns name status) fate = some (result, after)) :
    after.pattern.displayName = a.pattern.displayName ∧ after.writes = a.writes
      ∧ (after.version = a.version + 1 ∧ after.missed = a.missed
        ∨ after.version = a.version ∧ after.missed = a.missed + 1) := by
  have hperform : ∀ {next : Account}, a.perform? (.recordStatus ns name status) = some next →
      next.pattern.displayName = a.pattern.displayName ∧ next.writes = a.writes
        ∧ (next.version = a.version + 1 ∧ next.missed = a.missed
          ∨ next.version = a.version ∧ next.missed = a.missed + 1) := by
    intro next hnext
    obtain ⟨rfl, hversion, hname⟩ := perform?_record hnext
    exact ⟨hname, rfl, .inl ⟨hversion.trans hstatus, rfl⟩⟩
  obtain ⟨_, _, next, j, -, -, hnext, -, rfl⟩ | ⟨f, -, -, rfl⟩ | ⟨f, _, -, -, hnext⟩ :=
    Handler.performing_cases h
  · exact hperform hnext
  · have hother : status.version ≠ a.version := by
      rw [hstatus]
      simp
    rw [refused, if_neg hother]
    exact ⟨rfl, rfl, .inr ⟨rfl, rfl⟩⟩
  · exact hperform hnext

end

/-! ## What a pass does to an account -/

/-- What becomes of a write: there is one more, and everything else stays. -/
theorem still_of_written {a after : Account} {p : Pattern} {steps : List Step}
    (hwritten : Written p steps) (htrail : Trail serve a steps after) :
    { a with writes := a.writes + 1 }.Still after := by
  obtain ⟨rfl, hfirst, hlast, hc, -⟩ := hwritten
  obtain ⟨mid, hbefore, hrest⟩ := trail_append.1 htrail
  obtain ⟨fate, next, hserve, hnoted⟩ := trail_call hrest
  have hstill := still_of_idle (hfirst.idle _) hbefore
  obtain rfl := serve_write hc hserve
  have hstays := still_of_idle (hlast.idle _) (trail_note hnoted)
  exact hstill.addWrite.trans hstays

/-- What two accounts, of which one comes after the other, have to do with each other. -/
structure Advance (a after : Account) : Prop where
  name : after.pattern.displayName = a.pattern.displayName
  writes : a.writes ≤ after.writes
  missed : a.missed ≤ after.missed
  counted : after.counted + a.writes = a.counted + after.writes
  version : a.version.toNat + after.writes < 2 ^ 32 + a.writes →
    after.version.toNat + after.missed + a.writes = a.version.toNat + a.missed + after.writes

theorem advance_refl (a : Account) : a.Advance a :=
  ⟨rfl, Nat.le_refl _, Nat.le_refl _, rfl, fun _ => rfl⟩

section

variable {a mid after : Account}

theorem Advance.trans (h : a.Advance mid) (h' : mid.Advance after) : a.Advance after where
  name := h'.name.trans h.name
  writes := Nat.le_trans h.writes h'.writes
  missed := Nat.le_trans h.missed h'.missed
  counted := by
    have hfirst := h.counted
    have hsecond := h'.counted
    omega
  version hfits := by
    have hwrites := h'.writes
    have hmissed := h.missed
    have hfirst := h.version (by omega)
    have hsecond := h'.version (by omega)
    omega

theorem Still.advance (h : a.Still after) {steps : List Step} (hidle : Idle a.version steps) :
    a.Advance { after with metrics := steps.foldl Step.count a.metrics } where
  name := h.name
  writes := Nat.le_of_eq h.writes.symm
  missed := Nat.le_of_eq h.missed.symm
  counted := by
    show Metrics.writesOf _ after.pattern.displayName + _ = _ + after.writes
    rw [hidle.writesOf, h.name, h.writes]
    rfl
  version _ := by
    show after.version.toNat + after.missed + _ = _ + after.writes
    rw [h.version, h.missed, h.writes]

section

variable {p : Pattern} {first middle last : List Step} {ns name : String} {status : PatternStatus}
  {result : Except ApiFailure Json} (hwritten : Written p middle)
  (hfirst : Idle a.version first) (hlast : ∀ version, Idle version last)

include hwritten hfirst hlast

/-- After an answered write its record is stored, or it is one more that is missed. -/
theorem recorded_or_missed (hversion : status.version = a.version + 1)
    (htrail : Trail serve a
      (first ++ middle ++ .called (.recordStatus ns name status) result :: last) after) :
    after.pattern.displayName = a.pattern.displayName ∧ after.writes = a.writes + 1
      ∧ (after.version = a.version + 1 ∧ after.missed = a.missed
        ∨ after.version = a.version ∧ after.missed = a.missed + 1) := by
  obtain ⟨written, hopening, hrest⟩ := trail_append.1 htrail
  obtain ⟨begun, hbegun, hmiddle⟩ := trail_append.1 hopening
  obtain ⟨fate, recorded, hrecord, hend⟩ := trail_call hrest
  have hwrote : { a with writes := a.writes + 1 }.Still written :=
    (still_of_idle hfirst hbegun).addWrite.trans (still_of_written hwritten hmiddle)
  have hbefore : written.version = a.version := hwrote.version
  have hmissed : written.missed = a.missed := hwrote.missed
  obtain ⟨hname, hwrites, hstored⟩ := serve_record (hbefore ▸ hversion) hrecord
  have hstays := still_of_idle (hlast _) hend
  rw [← hstays.version, ← hstays.missed, hbefore, hmissed] at hstored
  exact ⟨(hstays.name.trans hname).trans hwrote.name,
    (hstays.writes.trans hwrites).trans hwrote.writes, hstored⟩

theorem writesOf_write (m : Metrics) :
    ((first ++ middle ++ .called (.recordStatus ns name status) result :: last).foldl Step.count
      m).writesOf p.displayName = m.writesOf p.displayName + 1 := by
  rw [List.foldl_append, List.foldl_append, List.foldl_cons, (hlast 0).writesOf]
  show (List.foldl Step.count _ middle).writesOf _ = _
  rw [hwritten.writesOf, hfirst.writesOf]

end

theorem advance_of_write {first middle last : List Step} {ns name : String}
    {status : PatternStatus} {result : Except ApiFailure Json} (hwritten : Written a.pattern middle)
    (hfirst : Idle a.version first) (hlast : ∀ version, Idle version last)
    (hversion : status.version = a.version + 1)
    (htrail : Trail serve a
      (first ++ middle ++ .called (.recordStatus ns name status) result :: last) after) :
    a.Advance { after with
      metrics := (first ++ middle ++ .called (.recordStatus ns name status) result :: last).foldl
        Step.count a.metrics } := by
  obtain ⟨hname, hwrites, hstored⟩ := recorded_or_missed hwritten hfirst hlast hversion htrail
  constructor
  · exact hname
  · show a.writes ≤ after.writes
    omega
  · show a.missed ≤ after.missed
    omega
  · show Metrics.writesOf _ after.pattern.displayName + a.writes = a.counted + after.writes
    rw [hname, writesOf_write hwritten hfirst hlast, hwrites, counted]
    omega
  · show a.version.toNat + after.writes < _ → after.version.toNat + after.missed + a.writes
      = a.version.toNat + a.missed + after.writes
    intro hfits
    rcases hstored with ⟨hnext, hmissed⟩ | ⟨hsame, hmissed⟩
    · rw [hnext, UInt32.toNat_add, UInt32.toNat_one, Nat.mod_eq_of_lt (by omega)]
      omega
    · rw [hsame]
      omega

theorem advance_of_pass {around : Surroundings} {steps : List Step} {v : Except Failure Requeue}
    (hcourse : ReconcileCourse a.pattern around steps v) (htrail : Trail serve a steps after) :
    a.Advance { after with metrics := steps.foldl Step.count a.metrics } := by
  cases hcourse.bookkeeping with
  | idle h => exact (still_of_idle h htrail).advance h
  | write hwritten hsteps hfirst hversion hlast =>
    rw [hsteps] at htrail ⊢
    exact advance_of_write hwritten hfirst hlast hversion htrail

theorem advance_step? {turn : Turn} (h : a.step? turn = some after) : a.Advance after := by
  cases turn with
  | pass around fates =>
    obtain ⟨r, hconduct, rfl⟩ := Option.map_eq_some_iff.1 h
    obtain ⟨hcourse, htrail⟩ := conduct_iff.1 ⟨fates, hconduct⟩
    exact advance_of_pass (reconcileCourse_of_course hcourse) htrail
  | edit members =>
    simp only [step?] at h
    split at h
    · rename_i hkept
      cases h
      have hversion : version { a with members } = a.version := by
        rw [version, Pattern.observed, hkept.1]
        rfl
      have hcounted : counted { a with members } = a.counted := by
        rw [counted, hkept.2]
        rfl
      refine ⟨hkept.2, Nat.le_refl _, Nat.le_refl _, ?_, fun _ => ?_⟩
      · rw [hcounted]
      · rw [hversion]
    · cases h

theorem advance_run {turns : List Turn} (h : a.run turns = some after) : a.Advance after := by
  induction turns generalizing a with
  | nil =>
    cases h
    exact advance_refl _
  | cons turn turns ih =>
    obtain ⟨next, hstep, hrest⟩ := Option.bind_eq_some_iff.1 h
    exact (advance_step? hstep).trans (ih hrest)

end

end Account

/-! ## The version and the writes -/

/-- However passes go: the counter of a pattern grows with the answered writes, and the stored
version falls behind it by the writes whose record was refused. So the version counts the writes
exactly if every record of one was stored. -/
theorem version_counts_recorded_writes {members : Keyed Json} {metrics : Metrics}
    {turns : List Turn} {after : Account}
    (hrun : ({ members, metrics } : Account).run turns = some after)
    (hfits : ({ members } : Account).version.toNat + after.writes < 2 ^ 32) :
    after.counted = ({ members, metrics } : Account).counted + after.writes
      ∧ after.version.toNat + after.missed
        = ({ members } : Account).version.toNat + after.writes := by
  have hadvance := Account.advance_run hrun
  refine ⟨hadvance.counted, hadvance.version ?_⟩
  show _ < 2 ^ 32 + 0
  rwa [Nat.add_zero]

def freshMembers : Keyed Json :=
  [ ("metadata", .object
      [ ("finalizers", .arr [.str Pattern.finalizer]), ("name", .str "mcg"),
        ("namespace", .str "default") ]),
    ("spec", .object
      [ ("clusterGroupName", .str "hub"),
        ("gitSpec", .object [("targetRepo", .str "https://example.com/mcg")]) ]) ]

/-- A pass that creates the application but cannot record it, and one that finds the application
in line and can record that. -/
def unrecorded : List Turn :=
  let around : Surroundings :=
    { operatorNamespace := "operators", now := .midnight (.newYear 2024) }
  let absent : Fate := .refused (.refusal { status := "", reason := "NotFound", code := 404 })
  let silent : Fate := .refused (.service "")
  let created : Fate := .served ((Pattern.ofJson (.obj freshMembers)).goal {}).toJson ""
  [ .pass around [absent, silent, absent, created, silent],
    .pass around [absent, silent, created, .served .null ""] ]

/-- The write that could not be recorded is never counted in the version. -/
theorem version_behind_unrecorded_write :
    ∃ after, ({ members := freshMembers } : Account).run unrecorded = some after
      ∧ after.writes = 1 ∧ after.counted = 1 ∧ after.version.toNat = 0 := by
  have hruns : (({ members := freshMembers } : Account).run unrecorded).any (fun after =>
      after.writes = 1 && after.missed = 1) = true := by
    decide +kernel
  have hstart : ({ members := freshMembers } : Account).version.toNat = 0
      ∧ ({ members := freshMembers } : Account).counted = 0 := by
    decide +kernel
  obtain ⟨after, hrun, hfacts⟩ := (Option.any_eq_true _ _).1 hruns
  simp only [Bool.and_eq_true, decide_eq_true_eq] at hfacts
  obtain ⟨hwrites, hmissed⟩ := hfacts
  obtain ⟨hcounted, hversion⟩ :=
    version_counts_recorded_writes hrun (by rw [hstart.1, hwrites]; decide)
  rw [hstart.2, hwrites] at hcounted
  rw [hstart.1, hwrites, hmissed] at hversion
  exact ⟨after, hrun, hwrites, hcounted, by omega⟩

end PatternSync
