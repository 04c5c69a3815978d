import Mathlib.Data.List.Perm.Subperm
import PatternSync.Operator.Program
import PatternSync.Proofs.Entries
import PatternSync.Proofs.Settling
import PatternSync.Proofs.Writes

/-!
# What failures are counted under

The label of a failure is cut out of its spelling as a value, at the first parenthesis, after the
whole spelling was brought into lower case. Lower-casing looks at neighbouring letters, but never
across a parenthesis (`lowercaseAfter_append`), and it brings in none
(`paren_not_mem_lowercaseAfter`). So the label is the kind of the cause and nothing of what the
cause carries (`Failure.label_eq`).

A pass notes a failure under its label only (`course_attend`). Whatever passes there were, the
counter therefore knows at most five labels for a pattern (`failures_counted_by_kind`). The
induction is on the notes that passes have left, and what it carries is `FailsByKind`.
-/

namespace PatternSync

open Pass Text

namespace Text

/-! ## Lower case in front of a parenthesis -/

theorem toLower_ne_paren {c : Char} (h : c ≠ '(') : c.toLower ≠ '(' := by
  unfold Char.toLower
  split
  · rename_i hupper
    intro heq
    have hfirst : 65 ≤ c.val.toNat := UInt32.le_iff_toNat_le.1 hupper.1
    have hlast : c.val.toNat ≤ 90 := UInt32.le_iff_toNat_le.1 hupper.2
    have hcode : (c.val.toNat + 32) % 2 ^ 32 = 40 := congrArg Char.toNat heq
    omega
  · exact h

theorem ofNat_ne_paren {n : Nat} (h : n ≠ 40) : Char.ofNat n ≠ '(' := by
  intro heq
  by_cases hvalid : n.isValidChar
  · rw [Char.ofNat, dif_pos hvalid] at heq
    exact h (congrArg Char.toNat heq)
  · rw [Char.ofNat, dif_neg hvalid] at heq
    cases heq

/-- A code is mapped to itself or into the image of a run. -/
theorem lowerCode_cases (n : Nat) (runs : List (Nat × Nat × Nat × Nat)) :
    lowerCode n runs = n ∨ ∃ run ∈ runs, run.2.2.2 ≤ lowerCode n runs := by
  induction runs with
  | nil => exact .inl rfl
  | cons run rest ih =>
    obtain ⟨first, count, step, image⟩ := run
    unfold lowerCode
    split
    · exact .inr ⟨_, List.mem_cons_self, Nat.le_add_right _ _⟩
    · rcases ih with h | ⟨run, hrun, h⟩
      · exact .inl h
      · exact .inr ⟨run, List.mem_cons_of_mem _ hrun, h⟩

theorem paren_not_mem_lowerChar {c : Char} (h : c ≠ '(') : '(' ∉ lowerChar c := by
  unfold lowerChar
  split
  · exact fun hmem => toLower_ne_paren h (List.mem_singleton.1 hmem).symm
  · rename_i hascii
    split
    · decide
    · have himages : ∀ run ∈ lowerRuns, 97 ≤ run.2.2.2 := by decide +kernel
      have hcode : lowerCode c.toNat lowerRuns ≠ 40 := by
        rcases lowerCode_cases c.toNat lowerRuns with hself | ⟨run, hrun, himage⟩
        · omega
        · have hletter := himages run hrun
          omega
      exact fun hmem => ofNat_ne_paren hcode (List.mem_singleton.1 hmem).symm

theorem paren_not_mem_lowercaseAfter {word : List Char} (h : '(' ∉ word) (before : List Char) :
    '(' ∉ lowercaseAfter before word := by
  induction word generalizing before with
  | nil => exact List.not_mem_nil
  | cons c rest ih =>
    have hc : c ≠ '(' := fun heq => h (heq ▸ List.mem_cons_self)
    have hrest : '(' ∉ rest := fun hmem => h (List.mem_cons_of_mem _ hmem)
    unfold lowercaseAfter
    rw [List.mem_append, not_or]
    refine ⟨?_, ih hrest _⟩
    split
    · split <;> decide
    · exact paren_not_mem_lowerChar hc

section

variable {stop : Char} (hcased : isCased stop = false) (hkept : isCaseIgnorable stop = false)

include hcased hkept

/-- What stands behind a character that is neither cased nor skipped does not show in front. -/
theorem startsCased_append (word rest : List Char) :
    startsCased (word ++ stop :: rest) = startsCased word := by
  induction word with
  | nil => simp [startsCased, hcased, hkept]
  | cons c word ih =>
    by_cases hc : isCaseIgnorable c = true
    · simpa [startsCased, hc] using ih
    · simp [startsCased, hc]

/-- In front of such a character a text has the lower case that it has alone. -/
theorem lowercaseAfter_append (before word rest : List Char) :
    lowercaseAfter before (word ++ stop :: rest)
      = lowercaseAfter before word ++ lowercaseAfter (word.reverse ++ before) (stop :: rest) := by
  induction word generalizing before with
  | nil => rfl
  | cons c word ih =>
    rw [List.cons_append, lowercaseAfter, lowercaseAfter, startsCased_append hcased hkept, ih,
      List.append_assoc, List.reverse_cons, List.append_assoc, List.singleton_append]

end

/-- The part of a text in front of its first parenthesis. -/
def untilParen (s : String) : String :=
  String.ofList (s.toList.takeWhile (· ≠ '('))

/-- The lower case of a word in front of a parenthesis, whatever comes behind that. -/
theorem untilParen_lowercase {word : String} (h : '(' ∉ word.toList) (payload : String) :
    untilParen (lowercase (word ++ ("(" ++ payload))) = lowercase word := by
  have htext : (word ++ ("(" ++ payload)).toList = word.toList ++ '(' :: payload.toList := by
    rw [String.toList_append, String.toList_append]
    rfl
  have hparen : ∀ before,
      (lowercaseAfter before ('(' :: payload.toList)).takeWhile (· ≠ '(') = [] :=
    fun _ => rfl
  have hword : ∀ c ∈ lowercaseAfter [] word.toList, decide (c ≠ '(') = true := by
    intro c hc
    refine decide_eq_true fun heq => ?_
    exact paren_not_mem_lowercaseAfter h [] (heq ▸ hc)
  rw [untilParen, lowercase, String.toList_ofList, htext,
    lowercaseAfter_append (by decide +kernel) (by decide +kernel),
    List.takeWhile_append_of_pos hword, hparen, List.append_nil, lowercase]

end Text

/-! ## Labels -/

/-- A cause is spelled as its kind, and what it carries stands in parentheses. -/
theorem Cause.exists_payload (c : Cause) : ∃ payload, c.debug = c.kind ++ ("(" ++ payload) := by
  have hspelled : ∀ {kind head : String}, head = kind ++ "(" → ∀ body,
      head ++ body ++ ")" = kind ++ ("(" ++ (body ++ ")")) := by
    rintro kind _ rfl body
    simp only [String.append_assoc]
  cases c with
  | serialization p =>
    have hparen : "JsonSerializationError(" = "JsonSerializationError" ++ "(" := by decide
    exact ⟨p.debug ++ ")", hspelled hparen p.debug⟩
  | api f =>
    have hparen : "KubeError(" = "KubeError" ++ "(" := by decide
    exact ⟨f.debug ++ ")", hspelled hparen f.debug⟩
  | finalizer f =>
    have hparen : "FinalizerError(" = "FinalizerError" ++ "(" := by decide
    exact ⟨f.debug ++ ")", hspelled hparen f.debug⟩
  | metadataMissing text =>
    have hparen : "MetadataMissing(" = "MetadataMissing" ++ "(" := by decide
    exact ⟨quoted text ++ ")", hspelled hparen (quoted text)⟩
  | invalidSettings text =>
    have hparen : "InvalidConfig(" = "InvalidConfig" ++ "(" := by decide
    exact ⟨quoted text ++ ")", hspelled hparen (quoted text)⟩

namespace Cause

def kinds : List String :=
  ["JsonSerializationError", "KubeError", "FinalizerError", "MetadataMissing", "InvalidConfig"]

theorem kind_mem_kinds (c : Cause) : c.kind ∈ kinds := by
  cases c <;> simp [kind, kinds]

theorem paren_not_mem_kind (c : Cause) : '(' ∉ c.kind.toList := by
  have hplain : ∀ kind ∈ kinds, '(' ∉ kind.toList := by decide
  exact hplain _ c.kind_mem_kinds

end Cause

/-- The label of a failure is the kind of its cause in lower case. -/
theorem Failure.label_eq (f : Failure) : f.label = lowercase f.cause.kind := by
  obtain ⟨payload, hdebug⟩ := f.cause.exists_payload
  show untilParen (lowercase f.cause.debug) = _
  rw [hdebug, untilParen_lowercase f.cause.paren_not_mem_kind]

def causeLabels : List String :=
  ["jsonserializationerror", "kubeerror", "finalizererror", "metadatamissing", "invalidconfig"]

theorem Failure.label_mem (f : Failure) : f.label ∈ causeLabels := by
  have hlower : ∀ kind ∈ Cause.kinds, lowercase kind ∈ causeLabels := by decide +kernel
  rw [label_eq]
  exact hlower _ f.cause.kind_mem_kinds

/-! ## Notes of passes -/

def Uncounted (steps : List Step) : Prop :=
  ∀ pattern label, .noted (.failed pattern label) ∉ steps

section

variable {first second steps : List Step}

@[simp] theorem uncounted_nil : Uncounted [] :=
  fun _ _ => List.not_mem_nil

@[simp] theorem uncounted_called {c : Call} {result : Except ApiFailure Json} :
    Uncounted (.called c result :: steps) ↔ Uncounted steps := by
  simp [Uncounted]

@[simp] theorem uncounted_noted {n : Note} :
    Uncounted (.noted n :: steps)
      ↔ (∀ pattern label, n ≠ .failed pattern label) ∧ Uncounted steps := by
  simp [Uncounted, forall_and, eq_comm]

@[simp] theorem uncounted_append :
    Uncounted (first ++ second) ↔ Uncounted first ∧ Uncounted second := by
  simp [Uncounted, forall_and]

theorem Plain.uncounted (h : Plain steps) : Uncounted steps := by
  intro pattern label hmem
  rcases h _ hmem with ⟨_, heq⟩ | ⟨_, _, heq, -⟩ <;> cases heq

variable {p : Pattern} {ns : String} {around : Surroundings}

theorem SyncCourse.uncounted {settings : Settings} {v : Except Failure SyncOutcome}
    (h : SyncCourse p settings steps v) : Uncounted steps := by
  cases h with
  | notUpdated hupdate hwarning => simpa using hwarning.plain.uncounted
  | _ => simp

theorem StatusCourse.uncounted {v : Except Failure PatternStatus}
    (h : StatusCourse p around steps v) : Uncounted steps := by
  cases h with
  | unsettled hsettings => exact hsettings.plain.uncounted
  | failed hsettings hfacts hsync =>
    simp [hsettings.plain.uncounted, hfacts.plain.uncounted, hsync.uncounted]
  | synced hsettings hfacts hsync hlast =>
    simp [hsettings.plain.uncounted, hfacts.plain.uncounted, hsync.uncounted,
      hlast.plain.uncounted]

variable {v : Except Failure Requeue}

theorem ConvergeCourse.uncounted (h : ConvergeCourse p ns around steps v) : Uncounted steps := by
  cases h with
  | failed hsync hsame => exact hsync.uncounted
  | failureRecorded hsync hdiffers => simpa using hsync.uncounted
  | failureNotRecorded hsync hdiffers => simpa using hsync.uncounted
  | same hsync hsame => simpa using hsync.uncounted
  | recorded hsync hdiffers => simpa using hsync.uncounted
  | notRecorded hsync hdiffers => simpa using hsync.uncounted

theorem TeardownCourse.uncounted (h : TeardownCourse p ns around steps v) : Uncounted steps := by
  cases h with
  | unsettled hsettings => exact hsettings.plain.uncounted
  | notDeleted hsettings hgone => simpa using hsettings.plain.uncounted
  | notPublished hsettings hgone => simpa using hsettings.plain.uncounted
  | published hsettings hgone => simpa using hsettings.plain.uncounted

theorem FinalizeCourse.uncounted (h : FinalizeCourse p ns around steps v) : Uncounted steps := by
  cases h with
  | converged hindex hstays hconverge => exact hconverge.uncounted
  | notTornDown hindex hdeleting hteardown => exact hteardown.uncounted
  | notRemoved hindex hdeleting hname hteardown => simpa using hteardown.uncounted
  | removed hindex hdeleting hname hteardown => simpa using hteardown.uncounted
  | _ => simp

theorem ReconcileCourse.uncounted (h : ReconcileCourse p around steps v) : Uncounted steps := by
  cases h with
  | homeless hns => simp
  | finalized hns hfinalize => simpa using hfinalize.uncounted

/-- A pass notes a failure exactly if it fails, and then once, under the label of the failure. -/
theorem course_attend {requeue : Requeue} (h : Course (p.attend around) steps requeue) :
    Uncounted steps
      ∨ ∃ first line, ∃ f : Failure, Uncounted first
        ∧ steps = first ++ [.noted (.log line), .noted (.failed p.displayName f.label)] := by
  obtain ⟨first, last, result, hpass, hafter, rfl⟩ := course_bind.1 h
  have hfirst := (reconcileCourse_of_course hpass).uncounted
  cases result with
  | ok next =>
    obtain ⟨rfl, -⟩ := course_done hafter
    rw [List.append_nil]
    exact .inl hfirst
  | error f =>
    obtain ⟨_, rfl, hlogged⟩ := course_note hafter
    obtain ⟨_, rfl, hcounted⟩ := course_note hlogged
    obtain ⟨rfl, -⟩ := course_done hcounted
    exact .inr ⟨first, _, f, hfirst, rfl⟩

end

/-- The note is one that a pass over some pattern can leave, whatever comes of its calls. -/
def Note.OfPass (n : Note) : Prop :=
  ∃ (p : Pattern) (around : Surroundings) (steps : List Step) (requeue : Requeue),
    Course (p.attend around) steps requeue ∧ .noted n ∈ steps

theorem ofPass_of_course {p : Pattern} {around : Surroundings} {steps : List Step} {f : Failure}
    (h : Course (p.reconcile around) steps (.error f)) :
    (Note.failed p.displayName f.label).OfPass := by
  refine ⟨p, around, _, _, course_bind.2 ⟨steps, _, _, h, .note (.note (.done _)), rfl⟩, ?_⟩
  exact List.mem_append_right _ (List.mem_cons_of_mem _ List.mem_cons_self)

theorem Note.OfPass.exists_failure {pattern label : String}
    (h : (Note.failed pattern label).OfPass) : ∃ f : Failure, label = f.label := by
  obtain ⟨p, around, steps, requeue, hcourse, hmem⟩ := h
  rcases course_attend hcourse with hnone | ⟨first, line, f, hfirst, rfl⟩
  · exact absurd hmem (hnone _ _)
  · rcases List.mem_append.1 hmem with hmem | hmem
    · exact absurd hmem (hfirst _ _)
    · simp only [List.mem_cons, List.not_mem_nil, or_false] at hmem
      rcases hmem with heq | heq <;> cases heq
      exact ⟨f, rfl⟩

/-! ## The counter -/

namespace Tally

/-- The rows stand in the order of their labels, and so do the counts in each row. -/
def Ordered (t : Tally) : Prop :=
  Keyed.Ordered t ∧ ∀ row ∈ t, Keyed.Ordered row.2

theorem Ordered.increment {t : Tally} (h : t.Ordered) (outer inner : String) :
    (t.increment outer inner).Ordered := by
  refine ⟨Keyed.ordered_put _ _ h.1, fun row hrow => ?_⟩
  rcases Keyed.eq_or_mem_of_mem_put hrow with rfl | hrow
  · refine Keyed.ordered_put _ _ ?_
    cases hfound : Keyed.get? t outer with
    | none => exact List.Pairwise.nil
    | some counts => exact h.2 _ (Keyed.mem_of_get? hfound)
  · exact h.2 row hrow

/-- The outer labels of the counts that have this inner label. -/
def column (t : Tally) (inner : String) : List String :=
  (t.entries.filter fun e => e.2.1 = inner).map (·.1)

theorem mem_of_mem_column {t : Tally} {outer inner : String} (h : outer ∈ t.column inner) :
    ∃ row ∈ t, row.1 = outer := by
  obtain ⟨e, he, rfl⟩ := List.mem_map.1 h
  obtain ⟨row, hrow, hcount⟩ := List.mem_flatMap.1 (List.mem_filter.1 he).1
  obtain ⟨_, -, rfl⟩ := List.mem_map.1 hcount
  exact ⟨row, hrow, rfl⟩

theorem Ordered.nodup_column {t : Tally} (h : t.Ordered) (inner : String) :
    (t.column inner).Nodup := by
  rw [column, List.Nodup, List.pairwise_map, List.pairwise_filter, entries, List.pairwise_flatMap]
  constructor
  · intro row hrow
    rw [List.pairwise_map]
    refine (h.2 row hrow).imp fun {a b} hab ha hb => ?_
    have hsame : a.1 = b.1 := (of_decide_eq_true ha).trans (of_decide_eq_true hb).symm
    exact absurd (hsame ▸ hab) (String.lt_irrefl _)
  · refine h.1.imp fun {a b} hab x hx y hy _ _ heq => ?_
    obtain ⟨_, -, rfl⟩ := List.mem_map.1 hx
    obtain ⟨_, -, rfl⟩ := List.mem_map.1 hy
    have hsame : a.1 = b.1 := heq
    exact absurd (hsame ▸ hab) (String.lt_irrefl _)

end Tally

namespace Metrics

/-- The labels under which failed passes over a pattern were counted. -/
def failureLabels (m : Metrics) (pattern : String) : List String :=
  m.failures.column pattern

/-- Failures are counted under kinds of causes only, and each count is there once. -/
structure FailsByKind (m : Metrics) : Prop where
  ordered : m.failures.Ordered
  labels : ∀ row ∈ m.failures, row.1 ∈ causeLabels

variable {m : Metrics}

theorem FailsByKind.count (h : m.FailsByKind) {n : Note} (hn : n.OfPass) :
    (n.count m).FailsByKind := by
  cases n with
  | failed pattern label =>
    obtain ⟨f, rfl⟩ := hn.exists_failure
    refine ⟨h.ordered.increment _ _, fun row hrow => ?_⟩
    rcases Keyed.mem_put hrow with hlabel | hrow
    · exact hlabel ▸ f.label_mem
    · exact h.labels row hrow
  | _ => exact ⟨h.ordered, h.labels⟩

theorem FailsByKind.foldl (h : m.FailsByKind) {notes : List Note}
    (hnotes : ∀ n ∈ notes, n.OfPass) : (notes.foldl Note.count m).FailsByKind := by
  induction notes generalizing m with
  | nil => exact h
  | cons n rest ih =>
    obtain ⟨hn, hrest⟩ := List.forall_mem_cons.1 hnotes
    exact ih (h.count hn) hrest

/-- The metrics are what was counted by the notes of passes. The notes may stand in any order and
some may be missing, so passes may run side by side and may be cut off. -/
def Counted (m : Metrics) : Prop :=
  ∃ notes : List Note, (∀ n ∈ notes, n.OfPass) ∧ m = Launch.countAll notes

theorem Counted.failsByKind (h : m.Counted) : m.FailsByKind := by
  obtain ⟨notes, hnotes, rfl⟩ := h
  have hnone : ∀ {P : String × Keyed Nat → Prop}, ∀ row ∈ ({} : Metrics).failures, P row :=
    fun _ h => absurd h List.not_mem_nil
  have hstart : ({} : Metrics).FailsByKind := ⟨⟨List.Pairwise.nil, hnone⟩, hnone⟩
  exact hstart.foldl hnotes

end Metrics

/-! ## The operator -/

theorem ofPass_attendAll (around : Surroundings) (patterns : List Pattern) (s : Server) :
    ∀ n ∈ ((attendAll around patterns).run s).notes, n.OfPass := by
  induction patterns generalizing s with
  | nil => exact fun _ h => absurd h List.not_mem_nil
  | cons p rest ih =>
    have hbind : attendAll around (p :: rest)
        = (p.attend around).bind fun _ => attendAll around rest := by
      show ((p.attend around).bind _).bind _ = _
      rw [bind_assoc]
      rfl
    rw [hbind, run_bind]
    intro n hn
    rcases List.mem_append.1 hn with hn | hn
    · obtain ⟨steps, hcourse, hnotes⟩ := noted_of_run s (p.attend around)
      exact ⟨p, around, steps, _, hcourse, hnotes n hn⟩
    · exact ih _ n hn

/-- The metrics that the operator shows are counted by the notes of its passes. -/
theorem Launch.counted_of_shown {l : Launch} {d : Display} {m : Metrics}
    (hdisplay : l.session.display = some d) (hshown : d.registry.shown = some m) : m.Counted := by
  unfold session sessionWith at hdisplay
  repeat' split at hdisplay
  all_goals cases hdisplay
  cases hshown
  exact ⟨_, ofPass_attendAll _ _ _, rfl⟩

/-! ## The kinds of failures -/

/-- The label of a failure is the kind of its cause in lower case, whatever the cause carries: of
any spelling that begins with the kind and a parenthesis nothing else is left. So the counter of
failures has at most the five labels of kinds for a pattern, each of them once, whatever passes were
counted; and what the operator shows was counted by its passes. -/
theorem failures_counted_by_kind :
    (∀ f : Failure, f.label = lowercase f.cause.kind)
      ∧ (∀ (c : Cause) (payload : String),
        untilParen (lowercase (c.kind ++ ("(" ++ payload))) = lowercase c.kind)
      ∧ (∀ m : Metrics, m.Counted → ∀ pattern,
        (m.failureLabels pattern).Nodup ∧ m.failureLabels pattern ⊆ causeLabels
          ∧ (m.failureLabels pattern).length ≤ 5)
      ∧ ∀ (l : Launch) (d : Display) (m : Metrics), l.session.display = some d →
        d.registry.shown = some m → m.Counted := by
  refine ⟨Failure.label_eq, fun c => untilParen_lowercase c.paren_not_mem_kind,
    fun m hm pattern => ?_, fun _ _ _ => Launch.counted_of_shown⟩
  have hkinds := hm.failsByKind
  have hnodup := hkinds.ordered.nodup_column pattern
  have hlabels : m.failureLabels pattern ⊆ causeLabels := by
    intro label hlabel
    obtain ⟨row, hrow, rfl⟩ := Tally.mem_of_mem_column hlabel
    exact hkinds.labels row hrow
  exact ⟨hnodup, hlabels, (List.subperm_of_subset hnodup hlabels).length_le⟩

/-- Two passes over patterns of one name fail for different reasons. What the second failure
carries has parentheses, quotes and a capital sigma. -/
theorem failures_counted_by_kind_twice :
    ∃ m : Metrics, m.Counted ∧ m.failureLabels "mcg" = ["finalizererror", "metadatamissing"]
      ∧ (m.failureLabels "mcg").Nodup ∧ m.failureLabels "mcg" ⊆ causeLabels := by
  let around : Surroundings :=
    { operatorNamespace := "operators", now := .midnight (.newYear 2024) }
  let homeless : Pattern := { Pattern.hub with metadata := { name := some "mcg" } }
  let refused : Failure := Attempt.finalizerFailure (.adding (.service "(ΑΣ\")"))
  let notes : List Note := [.failed "mcg" namespaceMissing.label, .failed "mcg" refused.label]
  have hhomeless : Course (homeless.reconcile around) [_, _] (.error namespaceMissing) :=
    .note (.note (.done _))
  have hrefused : Course (Pattern.hub.reconcile around) [_, _, _, _] (.error refused) :=
    .note (.note (.call (.error (.service "(ΑΣ\")")) (.note (.done _))))
  have hnotes : ∀ n ∈ notes, n.OfPass :=
    List.forall_mem_cons.2 ⟨ofPass_of_course hhomeless,
      List.forall_mem_singleton.2 (ofPass_of_course hrefused)⟩
  have hcounted : (Launch.countAll notes).Counted := ⟨notes, hnotes, rfl⟩
  have hlabels : (Launch.countAll notes).failureLabels "mcg"
      = ["finalizererror", "metadatamissing"] := by
    decide +kernel
  obtain ⟨-, -, hbound, -⟩ := failures_counted_by_kind
  obtain ⟨hnodup, hkinds, -⟩ := hbound _ hcounted "mcg"
  exact ⟨_, hcounted, hlabels, hnodup, hkinds⟩

end PatternSync
