import Periscope.Crawler
import Periscope.Proofs.Steps
import Mathlib.Data.List.Forall2

/-!
# The attempts of a crawl

A crawl attempts each configured feature of each target in order, and each attempt finds the
session that the one before it has left. The theorems here say that a crawl none of whose
attempts halts returns a report for each target, and that the report holds what became of the
attempts at this target, and nothing else.
-/

namespace Periscope

variable {σ : Type}

/-- An attempt to collect a feature of a target. -/
structure CollectAttempt (σ : Type) where
  /-- The target. -/
  target : Target
  /-- The feature. -/
  feature : Feature
  /-- The session that the attempt found. -/
  before : Session σ
  /-- What collecting the feature came to. -/
  result : Except Halt (Except CrawlError Json)

namespace CollectAttempt

/-- The attempt came to a value or to an error, and did not halt. -/
def Ends (a : CollectAttempt σ) : Prop := ∃ result, a.result = .ok result

/-- What a report says about the attempt: the value, or the wording of the error. An attempt
that halted is in no report. -/
def outcome? (a : CollectAttempt σ) : Option FeatureOutcome :=
  match a.result with
  | .ok (.ok value) => some (.ok value)
  | .ok (.error cause) => some (.failed cause.message)
  | .error _ => none

/-- The latest attempt at a feature. -/
def latest (feature : Feature) (attempts : List (CollectAttempt σ)) : Option (CollectAttempt σ) :=
  attempts.reverse.find? fun a => a.feature = feature

/-- An attempt in front of others is the latest if none of them is at its feature. -/
theorem latest_cons (feature : Feature) (a : CollectAttempt σ) (rest : List (CollectAttempt σ)) :
    latest feature (a :: rest) =
      (latest feature rest).or (if a.feature = feature then some a else none) := by
  rw [latest, List.reverse_cons, List.find?_append, ← latest, List.find?_singleton]
  simp only [decide_eq_true_eq]

/-- Every feature that was attempted has a latest attempt. -/
theorem exists_latest {feature : Feature} {attempts : List (CollectAttempt σ)}
    (h : feature ∈ attempts.map CollectAttempt.feature) :
    ∃ a ∈ attempts, latest feature attempts = some a ∧ a.feature = feature := by
  obtain ⟨a, ha, hfeature⟩ := List.mem_map.mp h
  cases hlatest : latest feature attempts with
  | none =>
    have hnone := List.find?_eq_none.mp hlatest a (List.mem_reverse.mpr ha)
    exact absurd hfeature (by simpa using hnone)
  | some b =>
    have hb := List.find?_some hlatest
    have hmem := List.mem_of_find?_eq_some hlatest
    exact ⟨b, List.mem_reverse.mp hmem, rfl, by simpa using hb⟩

end CollectAttempt

/-- What was attempted at a target. -/
structure Visit (σ : Type) where
  /-- The target. -/
  target : Target
  /-- The attempts, in order. -/
  attempts : List (CollectAttempt σ)

/-- A report says about a visit what became of it: it lists the features that were to be
collected in report order, each once and with what the latest attempt at it came to. -/
structure Visit.Reported (features : List Feature) (visit : Visit σ) (report : ContainerReport) :
    Prop where
  /-- The report is about the target's container. -/
  containerId_eq : report.containerId = visit.target.containerId
  /-- It names the process through which the container was reached. -/
  pid_eq : report.pid = visit.target.pid
  /-- Just the features that were to be collected are listed. -/
  listed_eq : report.features.map Prod.fst = Feature.all.filter (· ∈ features)
  /-- Each is listed with the outcome of an attempt at it. -/
  outcome_eq : ∀ feature ∈ features, ∃ a ∈ visit.attempts,
    CollectAttempt.latest feature visit.attempts = some a ∧ a.feature = feature ∧
      a.outcome?.isSome ∧ Pairs.find? feature report.features = a.outcome?

namespace Crawler

variable (world : CrawlWorld σ) (crawler : Crawler)

/-- The attempts at features of a target in a row. One that fails does not keep the next from
being made. -/
def attempts (target : Target) : List Feature → Session σ → List (CollectAttempt σ)
  | [], _ => []
  | feature :: rest, s =>
    ⟨target, feature, s, (crawler.collect world target feature s).1⟩ ::
      attempts target rest (crawler.attempt world target feature s).2

/-- The visits to targets in a row. -/
def visits : List Target → Session σ → List (Visit σ)
  | [], _ => []
  | target :: rest, s =>
    ⟨target, crawler.attempts world target crawler.config.features s⟩ ::
      visits rest (crawler.crawlContainer world target s).2

variable {world crawler} {s s' : Session σ} {target : Target} {feature : Feature}

/-- Each feature is attempted once for each time that it is listed. -/
theorem map_feature_attempts (features : List Feature) (s : Session σ) :
    (crawler.attempts world target features s).map CollectAttempt.feature = features := by
  induction features generalizing s with
  | nil => rfl
  | cons feature rest ih => rw [attempts, List.map_cons, ih]

/-- All attempts of a visit are at its target, and each is what collecting the feature comes to
in the session that it finds. -/
theorem attempts_collect {features : List Feature} {a : CollectAttempt σ}
    (ha : a ∈ crawler.attempts world target features s) :
    a.target = target ∧ a.result = (crawler.collect world target a.feature a.before).1 := by
  induction features generalizing s with
  | nil => cases ha
  | cons feature rest ih =>
    rcases List.mem_cons.mp ha with rfl | ha
    · exact ⟨rfl, rfl⟩
    · exact ih ha

/-- Every target is visited, and every configured feature is attempted there. -/
theorem visits_complete (targets : List Target) (s : Session σ) :
    (crawler.visits world targets s).map Visit.target = targets ∧
      ∀ visit ∈ crawler.visits world targets s,
        visit.attempts.map CollectAttempt.feature = crawler.config.features ∧
          ∀ a ∈ visit.attempts, a.target = visit.target ∧
            a.result = (crawler.collect world a.target a.feature a.before).1 := by
  induction targets generalizing s with
  | nil => exact ⟨rfl, by simp [visits]⟩
  | cons target rest ih =>
    obtain ⟨htargets, hrest⟩ := ih (crawler.crawlContainer world target s).2
    refine ⟨by rw [visits, List.map_cons, htargets], List.forall_mem_cons.mpr ⟨?_, hrest⟩⟩
    refine ⟨map_feature_attempts _ _, fun a ha => ?_⟩
    obtain ⟨htarget, hresult⟩ := attempts_collect ha
    exact ⟨htarget, by rw [htarget, hresult]⟩

/-- An attempt that does not halt has the outcome that a report tells. -/
theorem attempt_of_ends {result : Except CrawlError Json}
    (h : (crawler.collect world target feature s).1 = .ok result) :
    ∃ outcome, (crawler.attempt world target feature s).1 = .ok outcome ∧
      CollectAttempt.outcome? ⟨target, feature, s, .ok result⟩ = some outcome := by
  generalize hattempt : crawler.attempt world target feature s = out
  obtain ⟨r, s'⟩ := out
  rcases Call.of_bind hattempt with ⟨x, s₁, hcollect, hrest⟩ | ⟨halt, hcollect, _⟩
  · obtain rfl : x = result := Except.ok.inj ((congrArg Prod.fst hcollect).symm.trans h)
    cases x with
    | ok value =>
      obtain ⟨rfl, _⟩ := Call.of_pure hrest
      exact ⟨_, rfl, rfl⟩
    | error cause =>
      obtain ⟨_, s₂, _, hrest⟩ := Call.of_perform hrest
      obtain ⟨rfl, _⟩ := Call.of_pure hrest
      exact ⟨_, rfl, rfl⟩
  · cases (congrArg Prod.fst hcollect).symm.trans h

/-- Attempts in a row that do not halt leave a table of the features: those of before and those
that were attempted, in report order, each with the outcome of the latest attempt at it. -/
private theorem attemptAll_of_ends {features : List Feature}
    (hends : ∀ a ∈ crawler.attempts world target features s, a.Ends)
    {outcomes : List (Feature × FeatureOutcome)}
    (hsorted : (outcomes.map Prod.fst).Pairwise (compare · · = .lt)) :
    ∃ table, (crawler.attemptAll world target features outcomes s).1 = .ok table ∧
      (table.map Prod.fst).Pairwise (compare · · = .lt) ∧
      (∀ f, f ∈ table.map Prod.fst ↔ f ∈ features ∨ f ∈ outcomes.map Prod.fst) ∧
      (∀ a ∈ crawler.attempts world target features s, a.outcome?.isSome) ∧
      ∀ f, Pairs.find? f table =
        ((CollectAttempt.latest f (crawler.attempts world target features s)).bind
          CollectAttempt.outcome?).or (Pairs.find? f outcomes) := by
  induction features generalizing s outcomes with
  | nil => exact ⟨outcomes, rfl, hsorted, by simp, by simp [attempts], fun f => rfl⟩
  | cons feature rest ih =>
    rw [attempts] at hends ⊢
    obtain ⟨⟨result, hresult⟩, hrest⟩ := List.forall_mem_cons.mp hends
    obtain ⟨outcome, hattempt, houtcome⟩ := attempt_of_ends hresult
    replace hresult : (crawler.collect world target feature s).1 = .ok result := hresult
    rw [← hresult] at houtcome
    obtain ⟨table, htable, hordered, hkeys, hsome, hfind⟩ :=
      ih hrest (Pairs.pairwise_insert feature outcome hsorted)
    refine ⟨table, ?_, hordered, fun f => ?_, ?_, fun f => ?_⟩
    · have hfirst : crawler.attempt world target feature s =
          (.ok outcome, (crawler.attempt world target feature s).2) := Prod.ext hattempt rfl
      rw [attemptAll, ← htable]
      simp only [bind, ExceptT.bind, ExceptT.mk, StateT.bind]
      rw [hfirst]
      rfl
    · rw [hkeys, Pairs.mem_keys_insert, List.mem_cons, or_left_comm, or_assoc]
    · exact List.forall_mem_cons.mpr ⟨by rw [houtcome]; rfl, hsome⟩
    · rw [hfind, CollectAttempt.latest_cons]
      by_cases hf : feature = f
      · subst hf
        rw [Pairs.find?_insert_self]
        cases hlatest : CollectAttempt.latest feature
            (crawler.attempts world target rest (crawler.attempt world target feature s).2) with
        | none => simp [houtcome]
        | some a =>
          have ha := List.mem_reverse.mp (List.mem_of_find?_eq_some hlatest)
          obtain ⟨told, htold⟩ := Option.isSome_iff_exists.mp (hsome a ha)
          simp [htold]
      · rw [Pairs.find?_insert_of_ne (Ne.symm hf), if_neg hf, Option.or_none]

/-- A visit none of whose attempts halts is reported. -/
theorem crawlContainer_of_ends
    (hends : ∀ a ∈ crawler.attempts world target crawler.config.features s, a.Ends) :
    ∃ report, (crawler.crawlContainer world target s).1 = .ok report ∧
      Visit.Reported crawler.config.features
        ⟨target, crawler.attempts world target crawler.config.features s⟩ report := by
  obtain ⟨table, htable, hordered, hkeys, hsome, hfind⟩ :=
    attemptAll_of_ends hends (show (([] : List (Feature × FeatureOutcome)).map Prod.fst).Pairwise
      (compare · · = .lt) from .nil)
  generalize hcrawl : crawler.crawlContainer world target s = out
  obtain ⟨r, s'⟩ := out
  rcases Call.of_bind hcrawl with ⟨x, s₁, hall, hrest⟩ | ⟨halt, hall, _⟩
  · obtain rfl : x = table := Except.ok.inj ((congrArg Prod.fst hall).symm.trans htable)
    obtain ⟨rfl, _⟩ := Call.of_pure hrest
    refine ⟨_, rfl, rfl, rfl, Feature.eq_filter_all hordered (by simpa using hkeys), ?_⟩
    intro f hf
    have hattempted : f ∈ (crawler.attempts world target crawler.config.features s).map
        CollectAttempt.feature := by
      rw [map_feature_attempts]
      exact hf
    obtain ⟨a, ha, hlatest, hfeature⟩ := CollectAttempt.exists_latest hattempted
    refine ⟨a, ha, hlatest, hfeature, hsome a ha, ?_⟩
    rw [hfind, hlatest]
    exact Option.or_none
  · cases (congrArg Prod.fst hall).symm.trans htable

/-- A crawl none of whose attempts halts returns the reports of its visits, in order. -/
theorem crawl_of_ends {targets : List Target}
    (hends : ∀ visit ∈ crawler.visits world targets s, ∀ a ∈ visit.attempts, a.Ends) :
    ∃ reports, (crawler.crawl world targets s).1 = .ok reports ∧
      List.Forall₂ (Visit.Reported crawler.config.features) (crawler.visits world targets s)
        reports := by
  induction targets generalizing s with
  | nil => exact ⟨[], rfl, .nil⟩
  | cons target rest ih =>
    rw [visits] at hends ⊢
    obtain ⟨hfirst, hrest⟩ := List.forall_mem_cons.mp hends
    obtain ⟨report, hreport, hreported⟩ := crawlContainer_of_ends hfirst
    obtain ⟨reports, hreports, hall⟩ := ih hrest
    generalize hcrawl : crawler.crawl world (target :: rest) s = out
    obtain ⟨r, s'⟩ := out
    rcases Call.of_bind hcrawl with ⟨x, s₁, hcontainer, htail⟩ | ⟨halt, hcontainer, _⟩
    · obtain rfl : x = report :=
        Except.ok.inj ((congrArg Prod.fst hcontainer).symm.trans hreport)
      obtain rfl : (crawler.crawlContainer world target s).2 = s₁ := congrArg Prod.snd hcontainer
      rcases Call.of_bind htail with ⟨y, s₂, hothers, hdone⟩ | ⟨halt, hothers, _⟩
      · obtain rfl : y = reports := Except.ok.inj ((congrArg Prod.fst hothers).symm.trans hreports)
        obtain ⟨rfl, _⟩ := Call.of_pure hdone
        exact ⟨_, rfl, .cons hreported hall⟩
      · cases (congrArg Prod.fst hothers).symm.trans hreports
    · cases (congrArg Prod.fst hcontainer).symm.trans hreport

end Crawler

end Periscope
