import Mathlib.Data.List.TakeWhile
import PatternSync.Cluster.Facts

/-!
# What the facts are derived from

Every fact is a function of the texts in the configuration objects, whatever else they hold. A
domain is cut at its first dot (`domainParts_ingress`), a version is reduced to the first two of its
segments (`reduces_majorMinor`), and the version that counts is that of the first completed entry of
the update history (`runs_iff`). The entries in front of it and those behind it have no say. Main
statement: the facts of any three documents are derived in this way (`ofConfig_derived`).
-/

namespace PatternSync

/-! ## The text at a place -/

/-- What a document tells at a place: the text that stands there, and nothing where none stands. -/
inductive Tells (j : Json) (p : Pointer) : String → Prop
  | text (s : String) (stands : j.at? p = some (.str s)) : Tells j p s
  | silent (lacking : ∀ s, j.at? p ≠ some (.str s)) : Tells j p ""

theorem tells_iff {j : Json} {p : Pointer} {s : String} : Tells j p s ↔ j.textAt p = s := by
  unfold Json.textAt
  constructor
  · intro h
    cases h with
    | text s stands => rw [stands, Option.bind_some, Json.text?, Option.getD_some]
    | silent lacking =>
      cases hfound : j.at? p with
      | none => rfl
      | some found =>
        cases found with
        | str t => exact absurd hfound (lacking t)
        | _ => rfl
  · rintro rfl
    cases hfound : j.at? p with
    | none => exact .silent fun s hs => by rw [hfound] at hs; cases hs
    | some found =>
      cases found with
      | str t => exact .text t hfound
      | _ => exact .silent fun s hs => by rw [hfound] at hs; cases hs

theorem tells_textAt (j : Json) (p : Pointer) : Tells j p (j.textAt p) :=
  tells_iff.2 rfl

namespace ClusterFacts

/-! ## Cuts at a dot -/

section

variable {first rest s : String}

theorem toList_dotted (first rest : String) :
    (first ++ "." ++ rest).toList = first.toList ++ '.' :: rest.toList := by
  rw [String.toList_append, String.toList_append, List.append_assoc]
  rfl

theorem forall_ne_dot {cs : List Char} (h : '.' ∉ cs) : ∀ c ∈ cs, decide (c ≠ '.') = true :=
  fun _ hc => decide_eq_true fun hdot => h (hdot ▸ hc)

theorem beforeDot_dotted (h : '.' ∉ first.toList) : beforeDot (first ++ "." ++ rest) = first := by
  rw [beforeDot, toList_dotted, List.takeWhile_append_of_pos (forall_ne_dot h)]
  simp

theorem afterDot_dotted (h : '.' ∉ first.toList) : afterDot (first ++ "." ++ rest) = rest := by
  rw [afterDot, toList_dotted, List.dropWhile_append_of_pos (forall_ne_dot h)]
  simp

theorem beforeDot_of_not_mem (h : '.' ∉ s.toList) : beforeDot s = s := by
  rw [beforeDot, List.takeWhile_eq_self_iff.2 (forall_ne_dot h), String.ofList_toList]

theorem afterDot_of_not_mem (h : '.' ∉ s.toList) : afterDot s = "" := by
  rw [afterDot, List.dropWhile_eq_nil_iff.2 (forall_ne_dot h)]
  rfl

theorem dot_not_mem_beforeDot (s : String) : '.' ∉ (beforeDot s).toList := by
  intro h
  rw [beforeDot, String.toList_ofList] at h
  simpa using List.mem_takeWhile_imp h

/-- A text with a dot can be cut at its first one. -/
theorem exists_dotted (h : '.' ∈ s.toList) :
    ∃ first rest : String, s = first ++ "." ++ rest ∧ '.' ∉ first.toList := by
  obtain ⟨front, back, hs, hfront⟩ := List.eq_append_cons_of_mem h
  refine ⟨String.ofList front, String.ofList back, ?_, by rwa [String.toList_ofList]⟩
  rw [← String.toList_inj, toList_dotted, String.toList_ofList, String.toList_ofList, hs]

end

/-- `name` is the longest part without a dot with which a text starts. -/
structure LongestDotFree (name s : String) : Prop where
  start : name.toList <+: s.toList
  dotFree : '.' ∉ name.toList
  longest : ∀ other : String, other.toList <+: s.toList → '.' ∉ other.toList →
    other.length ≤ name.length

theorem longestDotFree_beforeDot (s : String) : LongestDotFree (beforeDot s) s where
  start := by
    rw [beforeDot, String.toList_ofList]
    exact List.takeWhile_prefix _
  dotFree := dot_not_mem_beforeDot s
  longest := by
    rintro other ⟨more, hmore⟩ hother
    have hlonger : s.toList.takeWhile (fun c => decide (c ≠ '.'))
        = other.toList ++ more.takeWhile (fun c => decide (c ≠ '.')) := by
      rw [← hmore, List.takeWhile_append_of_pos (forall_ne_dot hother)]
    rw [beforeDot, String.length_ofList, hlonger, List.length_append, String.length_toList]
    exact Nat.le_add_right _ _

/-- The domain and the name of a cluster whose applications have the domain `apps`. -/
structure DomainParts (apps domain name : String) : Prop where
  dotted : '.' ∈ apps.toList → ∃ first : String, '.' ∉ first.toList
    ∧ apps = first ++ "." ++ domain ∧ LongestDotFree name domain
  undotted : '.' ∉ apps.toList → domain = "" ∧ name = ""

theorem domainParts_apps (apps : String) :
    DomainParts apps (afterDot apps) (beforeDot (afterDot apps)) where
  dotted h := by
    obtain ⟨first, rest, rfl, hfirst⟩ := exists_dotted h
    rw [afterDot_dotted hfirst]
    exact ⟨first, hfirst, rfl, longestDotFree_beforeDot rest⟩
  undotted h := by
    rw [afterDot_of_not_mem h]
    exact ⟨rfl, rfl⟩

/-! ## Reduced versions -/

/-- The parts of a text between its dots. -/
def segments (s : String) : List String :=
  (s.toList.splitOn '.').map String.ofList

section

variable {s version major minor : String} {rest : List String}

theorem segments_of_not_mem (h : '.' ∉ s.toList) : segments s = [s] := by
  rw [segments, List.splitOn_eq_singleton h, List.map_singleton, String.ofList_toList]

theorem segments_dotted (h : '.' ∉ major.toList) (s : String) :
    segments (major ++ "." ++ s) = major :: segments s := by
  rw [segments, toList_dotted, List.splitOn_append_cons_self_of_not_mem h, List.map_cons,
    String.ofList_toList, segments]

/-- The first segment is what stands in front of the first dot. -/
theorem exists_segments (s : String) : ∃ rest, segments s = beforeDot s :: rest := by
  by_cases h : '.' ∈ s.toList
  · obtain ⟨first, rest, rfl, hfirst⟩ := exists_dotted h
    rw [beforeDot_dotted hfirst]
    exact ⟨_, segments_dotted hfirst rest⟩
  · rw [beforeDot_of_not_mem h]
    exact ⟨_, segments_of_not_mem h⟩

theorem cuts_of_segments (h : segments version = major :: minor :: rest) :
    beforeDot version = major ∧ beforeDot (afterDot version) = minor := by
  by_cases hdot : '.' ∈ version.toList
  · obtain ⟨first, back, rfl, hfirst⟩ := exists_dotted hdot
    obtain ⟨more, hmore⟩ := exists_segments back
    rw [segments_dotted hfirst, hmore] at h
    rw [beforeDot_dotted hfirst, afterDot_dotted hfirst]
    cases h
    exact ⟨rfl, rfl⟩
  · rw [segments_of_not_mem hdot] at h
    cases h

/-- A second cut that finds something finds the second segment. -/
theorem segments_of_cuts (h : beforeDot (afterDot version) ≠ "") :
    ∃ rest, segments version = beforeDot version :: beforeDot (afterDot version) :: rest := by
  by_cases hdot : '.' ∈ version.toList
  · obtain ⟨first, back, rfl, hfirst⟩ := exists_dotted hdot
    obtain ⟨more, hmore⟩ := exists_segments back
    rw [beforeDot_dotted hfirst, afterDot_dotted hfirst, segments_dotted hfirst, hmore]
    exact ⟨more, rfl⟩
  · rw [afterDot_of_not_mem hdot] at h
    exact absurd rfl h

end

/-- A version is reduced to its first two segments if none of them is empty, and else kept. -/
structure Reduces (version reduced : String) : Prop where
  firstTwo : ∀ major minor rest, segments version = major :: minor :: rest →
    major ≠ "" → minor ≠ "" → reduced = major ++ "." ++ minor ∧ segments reduced = [major, minor]
  whole : (¬ ∃ major minor rest, segments version = major :: minor :: rest
    ∧ major ≠ "" ∧ minor ≠ "") → reduced = version

theorem reduces_majorMinor (version : String) : Reduces version (majorMinor version) where
  firstTwo := by
    intro major minor rest hsegments hmajor hminor
    obtain ⟨rfl, rfl⟩ := cuts_of_segments hsegments
    have hreduced : majorMinor version
        = beforeDot version ++ "." ++ beforeDot (afterDot version) :=
      if_neg (by rintro (h | h); exacts [hmajor h, hminor h])
    rw [hreduced, segments_dotted (dot_not_mem_beforeDot _),
      segments_of_not_mem (dot_not_mem_beforeDot _)]
    exact ⟨rfl, rfl⟩
  whole := by
    intro hnone
    refine if_pos (by_contra fun h => ?_)
    obtain ⟨hmajor, hminor⟩ := not_or.1 h
    obtain ⟨rest, hsegments⟩ := segments_of_cuts hminor
    exact hnone ⟨_, _, rest, hsegments, hmajor, hminor⟩

theorem majorMinor_majorMinor (version : String) :
    majorMinor (majorMinor version) = majorMinor version := by
  by_cases h : ∃ major minor rest, segments version = major :: minor :: rest
      ∧ major ≠ "" ∧ minor ≠ ""
  · obtain ⟨major, minor, rest, hsegments, hmajor, hminor⟩ := h
    obtain ⟨hreduced, htwo⟩ :=
      (reduces_majorMinor version).firstTwo major minor rest hsegments hmajor hminor
    obtain ⟨hagain, -⟩ :=
      (reduces_majorMinor (majorMinor version)).firstTwo major minor [] htwo hmajor hminor
    exact hagain.trans hreduced.symm
  · rw [(reduces_majorMinor version).whole h, (reduces_majorMinor version).whole h]

/-! ## The version that runs -/

def updateHistory (clusterVersion : Json) : List Json :=
  ((clusterVersion.at? ["status", "history"]).bind Json.items?).getD []

def Completed (entry : Json) : Prop :=
  entry.member? "state" = some (.str "Completed")

/-- The version that runs: that of the first completed update, or the desired one if there is no
such update or it states no version. -/
inductive Runs (history : List Json) (desired : String) : String → Prop
  | completed (front back : List Json) (entry : Json) (version : String)
      (split : history = front ++ entry :: back) (pending : ∀ e ∈ front, ¬ Completed e)
      (done : Completed entry) (states : Tells entry ["version"] version) (known : version ≠ "") :
      Runs history desired version
  | unversioned (front back : List Json) (entry : Json)
      (split : history = front ++ entry :: back) (pending : ∀ e ∈ front, ¬ Completed e)
      (done : Completed entry) (silent : Tells entry ["version"] "") : Runs history desired desired
  | pending (none : ∀ e ∈ history, ¬ Completed e) : Runs history desired desired

instance : DecidablePred Completed := fun entry =>
  inferInstanceAs (Decidable (entry.member? "state" = some (.str "Completed")))

def firstCompleted? (history : List Json) : Option Json :=
  history.find? (Completed ·)

section

variable {history front back : List Json} {desired version : String} {entry : Json}

theorem completedVersion_eq (history : List Json) :
    completedVersion history = ((firstCompleted? history).map (·.textAt ["version"])).getD "" := by
  have htest : (fun e : Json => decide ((e.member? "state").bind Json.text? = some "Completed"))
      = fun e => decide (Completed e) := by
    funext e
    rw [decide_eq_decide, Completed]
    cases hstate : e.member? "state" with
    | none => simp
    | some state => cases state <;> simp [Json.text?]
  rw [completedVersion, htest, firstCompleted?]
  cases history.find? fun e => decide (Completed e) <;> rfl

theorem firstCompleted?_append (front history : List Json) :
    firstCompleted? (front ++ history) = (firstCompleted? front).or (firstCompleted? history) :=
  List.find?_append

theorem firstCompleted?_eq_none_iff :
    firstCompleted? history = none ↔ ∀ e ∈ history, ¬ Completed e := by
  simp [firstCompleted?]

theorem firstCompleted?_cons (h : Completed entry) :
    firstCompleted? (entry :: back) = some entry :=
  List.find?_cons_of_pos (decide_eq_true h)

theorem firstCompleted?_split (hpending : ∀ e ∈ front, ¬ Completed e) (hdone : Completed entry) :
    firstCompleted? (front ++ entry :: back) = some entry := by
  rw [firstCompleted?_append, firstCompleted?_eq_none_iff.2 hpending, Option.none_or,
    firstCompleted?_cons hdone]

theorem exists_split (h : firstCompleted? history = some entry) :
    Completed entry ∧ ∃ front back, history = front ++ entry :: back
      ∧ ∀ e ∈ front, ¬ Completed e := by
  obtain ⟨hdone, front, back, hsplit, hpending⟩ := List.find?_eq_some_iff_append.1 h
  exact ⟨of_decide_eq_true hdone, front, back, hsplit, fun e he =>
    of_decide_eq_false (Bool.not_eq_true' _ ▸ hpending e he)⟩

/-- There is always one version that runs. -/
theorem runs_iff :
    Runs history desired version
      ↔ version = if completedVersion history = "" then desired else completedVersion history := by
  rw [completedVersion_eq]
  constructor
  · intro h
    cases h with
    | completed front back entry version split pending done states known =>
      rw [split, firstCompleted?_split pending done, Option.map_some, Option.getD_some,
        tells_iff.1 states, if_neg known]
    | unversioned front back entry split pending done silent =>
      rw [split, firstCompleted?_split pending done, Option.map_some, Option.getD_some,
        tells_iff.1 silent, if_pos rfl]
    | pending none => rw [firstCompleted?_eq_none_iff.2 none, Option.map_none, Option.getD_none,
        if_pos rfl]
  · rintro rfl
    cases hfirst : firstCompleted? history with
    | none => exact .pending (firstCompleted?_eq_none_iff.1 hfirst)
    | some entry =>
      obtain ⟨hdone, front, back, hsplit, hpending⟩ := exists_split hfirst
      rw [Option.map_some, Option.getD_some]
      by_cases hversion : entry.textAt ["version"] = ""
      · rw [if_pos hversion]
        exact .unversioned front back entry hsplit hpending hdone (tells_iff.2 hversion)
      · rw [if_neg hversion]
        exact .completed front back entry _ hsplit hpending hdone (tells_textAt _ _) hversion

end

/-- Another history in which the first completed entry is the same: there is more in front of it
that is not completed, or something else behind it. -/
inductive SameFirstCompleted (history : List Json) : List Json → Prop
  | prepended (front : List Json) (pending : ∀ e ∈ front, ¬ Completed e) :
      SameFirstCompleted history (front ++ history)
  | replaced (front back back' : List Json) (entry : Json) (done : Completed entry)
      (split : history = front ++ entry :: back) :
      SameFirstCompleted history (front ++ entry :: back')

theorem SameFirstCompleted.firstCompleted?_eq {history other : List Json}
    (h : SameFirstCompleted history other) : firstCompleted? other = firstCompleted? history := by
  cases h with
  | prepended front pending =>
    rw [firstCompleted?_append, firstCompleted?_eq_none_iff.2 pending, Option.none_or]
  | replaced front back back' entry done split =>
    rw [split, firstCompleted?_append, firstCompleted?_append, firstCompleted?_cons done,
      firstCompleted?_cons done]

theorem currentVersion_eq (clusterVersion : Json) :
    currentVersion clusterVersion
      = majorMinor (if completedVersion (updateHistory clusterVersion) = ""
          then clusterVersion.textAt ["status", "desired", "version"]
          else completedVersion (updateHistory clusterVersion)) :=
  rfl

/-- The version of a cluster is the one that runs, reduced. -/
theorem exists_running (clusterVersion : Json) :
    ∃ desired running, Tells clusterVersion ["status", "desired", "version"] desired
      ∧ (∀ version, Runs (updateHistory clusterVersion) desired version ↔ version = running)
      ∧ currentVersion clusterVersion = majorMinor running :=
  ⟨_, _, tells_textAt _ _, fun _ => runs_iff, currentVersion_eq clusterVersion⟩

theorem currentVersion_congr {clusterVersion other : Json}
    (hdesired : other.textAt ["status", "desired", "version"]
      = clusterVersion.textAt ["status", "desired", "version"])
    (hhistory : SameFirstCompleted (updateHistory clusterVersion) (updateHistory other)) :
    currentVersion other = currentVersion clusterVersion := by
  rw [currentVersion_eq, currentVersion_eq, hdesired, completedVersion_eq, completedVersion_eq,
    hhistory.firstCompleted?_eq]

/-! ## The facts of a cluster -/

/-- How the facts of a cluster are derived, whatever the three documents hold: from the text at a
place, from the domain of the applications, and from the version that runs. Entries of the history
in front of the first completed one and behind it do not count, and what one document tells does not
depend on the other two. -/
theorem ofConfig_derived (clusterVersion infrastructure ingress : Json) :
    let facts := ofConfig clusterVersion infrastructure ingress
    (Tells clusterVersion ["spec", "clusterID"] facts.clusterId
      ∧ Tells infrastructure ["spec", "platformSpec", "type"] facts.clusterPlatform
      ∧ Tells ingress ["spec", "domain"] facts.appClusterDomain)
    ∧ DomainParts facts.appClusterDomain facts.clusterDomain facts.clusterName
    ∧ (∃ desired running, Tells clusterVersion ["status", "desired", "version"] desired
      ∧ (∀ version, Runs (updateHistory clusterVersion) desired version ↔ version = running)
      ∧ facts.clusterVersion = majorMinor running)
    ∧ (∀ version, Reduces version (majorMinor version)
      ∧ majorMinor (majorMinor version) = majorMinor version)
    ∧ (∀ other : Json, other.textAt ["status", "desired", "version"]
          = clusterVersion.textAt ["status", "desired", "version"] →
        SameFirstCompleted (updateHistory clusterVersion) (updateHistory other) →
        (ofConfig other infrastructure ingress).clusterVersion = facts.clusterVersion)
    ∧ ∀ a b : Json,
      ((ofConfig clusterVersion a b).clusterId = facts.clusterId
        ∧ (ofConfig clusterVersion a b).clusterVersion = facts.clusterVersion)
      ∧ (ofConfig a infrastructure b).clusterPlatform = facts.clusterPlatform
      ∧ (ofConfig a b ingress).appClusterDomain = facts.appClusterDomain
      ∧ (ofConfig a b ingress).clusterDomain = facts.clusterDomain
      ∧ (ofConfig a b ingress).clusterName = facts.clusterName := by
  dsimp only [ofConfig]
  have hcongr : ∀ other : Json, other.textAt ["status", "desired", "version"]
        = clusterVersion.textAt ["status", "desired", "version"] →
      SameFirstCompleted (updateHistory clusterVersion) (updateHistory other) →
      currentVersion other = currentVersion clusterVersion :=
    fun other hdesired hhistory => currentVersion_congr hdesired hhistory
  exact ⟨⟨tells_textAt _ _, tells_textAt _ _, tells_textAt _ _⟩, domainParts_apps _,
    exists_running clusterVersion,
    fun version => ⟨reduces_majorMinor version, majorMinor_majorMinor version⟩,
    hcongr,
    fun _ _ => ⟨⟨rfl, rfl⟩, rfl, rfl, rfl, rfl⟩⟩

def updating (history : List Json) : Json :=
  .object
    [ ("status", .object
        [ ("desired", .object [("version", .str "4.14.0-rc.1")]), ("history", .arr history) ]) ]

theorem ofConfig_derived_updating :
    let started : List Json := [.str "Completed", .object [("state", .str "Partial")]]
    let done : Json := .object [("state", .str "Completed"), ("version", .str "4.13.2")]
    let ingress : Json :=
      .object [("spec", .object [("domain", .str "apps.hub.example.com")])]
    let facts := ofConfig (updating [done]) .null ingress
    (facts.clusterVersion = "4.13" ∧ facts.clusterName = "hub")
      ∧ (ofConfig (updating (started ++ [done])) .null ingress).clusterVersion
        = facts.clusterVersion
      ∧ ∃ first : String, '.' ∉ first.toList
        ∧ facts.appClusterDomain = first ++ "." ++ facts.clusterDomain
        ∧ LongestDotFree facts.clusterName facts.clusterDomain := by
  intro started done ingress facts
  obtain ⟨-, hdomain, -, -, hother, -⟩ := ofConfig_derived (updating [done]) .null ingress
  have hpending : ∀ e ∈ started, ¬ Completed e := by decide
  have happs : '.' ∈ facts.appClusterDomain.toList := by decide
  have hdesired : (updating (started ++ [done])).textAt ["status", "desired", "version"]
      = (updating [done]).textAt ["status", "desired", "version"] := by decide
  have hhistory : SameFirstCompleted (updateHistory (updating [done]))
      (updateHistory (updating (started ++ [done]))) := by
    have hbefore : updateHistory (updating [done]) = [done] := by decide
    have hafter : updateHistory (updating (started ++ [done])) = started ++ [done] := by decide
    rw [hbefore, hafter]
    exact .prepended started hpending
  exact ⟨by decide, hother _ hdesired hhistory, hdomain.dotted happs⟩

end ClusterFacts

end PatternSync
