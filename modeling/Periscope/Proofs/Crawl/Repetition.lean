import Periscope.Proofs.Crawl.Stillness

/-!
# Features that are named again

A report is a table, so a feature that is named again takes no more room in it. But it is
collected again. While the world stands still this changes nothing, except for the use of the
processor: its second sample begins where the first has ended, and is the one that is reported.
-/

namespace Periscope

variable {σ : Type} {holds : σ → Prop} {s t : Session σ}

/-- The features without those that were seen or are named again, except that the use of the
processor is left wherever it is named. -/
def Feature.dropRepeats (seen : List Feature) : List Feature → List Feature
  | [] => []
  | feature :: rest =>
    if feature ∈ seen then dropRepeats seen rest
    else feature :: dropRepeats (if feature = .cpu then seen else feature :: seen) rest

/-- Where the use of the processor is named once at most, nothing is named again. -/
theorem Feature.dropRepeats_eq {features seen : List Feature} (hseen : .cpu ∉ seen)
    (honce : features.count .cpu ≤ 1) :
    dropRepeats seen features = (features.filter (· ∉ seen)).eraseDups := by
  induction features generalizing seen with
  | nil => rfl
  | cons feature rest ih =>
    have hrest : rest.count .cpu ≤ 1 := le_trans (List.count_le_count_cons) honce
    rw [dropRepeats]
    by_cases hmem : feature ∈ seen
    · rw [if_pos hmem, List.filter_cons_of_neg (by simpa using hmem)]
      exact ih hseen hrest
    · rw [if_neg hmem, List.filter_cons_of_pos (by simpa using hmem), List.eraseDups_cons,
        List.filter_filter]
      congr 1
      by_cases hcpu : feature = .cpu
      · subst hcpu
        have hnone : .cpu ∉ rest := by
          rw [List.count_cons_self] at honce
          exact List.count_eq_zero.mp (by omega)
        rw [if_pos rfl, ih hseen hrest]
        congr 1
        refine List.filter_congr fun other hother => ?_
        have hne : other ≠ .cpu := fun h => hnone (h ▸ hother)
        simp [hne]
      · rw [if_neg hcpu, ih (by simp [hseen, Ne.symm hcpu]) hrest]
        congr 1
        refine List.filter_congr fun other _ => ?_
        by_cases hother : other = feature <;> simp [hother]

/-- A call that, from hooks that have come so far on, always returns this and changes no more than
the journal. -/
def Call.Repeats {α : Type} (holds : σ → Prop) (loading : Loading) (a : Call σ α) (x : α) : Prop :=
  ∀ s, holds s.world → s.loading = loading ∨ s.loading = .loaded →
    ∃ s', a s = (.ok x, s') ∧ s'.Alike holds s

/-- An idle call that has returned does so again. -/
theorem Call.Idle.repeats {α : Type} {a : Call σ α} {x : α} (h : Idle holds a)
    (hs : holds s.world) (hx : (a s).1 = .ok x) : Repeats holds (a s).2.loading a x := by
  obtain ⟨hload, hagain⟩ := h.again s x hs hx
  intro u hu huload
  have hreturns : (a u).1 = .ok x ∧ (a u).2.loading = u.loading := by
    rcases huload with huload | huload
    · rcases hload with hload | hload
      · obtain ⟨hends, hleft⟩ := h.same s u hs hu (hload.symm.trans huload.symm)
        exact ⟨hends.symm.trans hx, hleft.symm.trans huload.symm⟩
      · obtain ⟨hends, hleft⟩ := hagain u hu (huload.trans hload)
        exact ⟨hends, hleft.trans (huload.trans hload).symm⟩
    · obtain ⟨hends, hleft⟩ := hagain u hu huload
      exact ⟨hends, hleft.trans huload.symm⟩
  obtain ⟨hworld, hsamples⟩ := h.still u hu
  exact ⟨(a u).2, Prod.ext hreturns.1 rfl, hworld, hsamples, hreturns.2, hworld ▸ hu⟩

/-- Hooks only go on. -/
theorem Call.Repeats.later {α : Type} {a : Call σ α} {x : α} {loading later : Loading}
    (h : Repeats holds loading a x) (hlater : later = loading ∨ later = .loaded) :
    Repeats holds later a x := fun u hu huload =>
  h u hu (huload.elim (fun heq => hlater.imp heq.trans heq.trans) .inr)

/-- Storing a value that is stored changes nothing. -/
theorem Pairs.insert_of_find? {κ α : Type} [Ord κ] [Std.TransOrd κ] [Std.LawfulEqOrd κ] {key : κ}
    {value : α} {pairs : List (κ × α)} (hsorted : (pairs.map Prod.fst).Pairwise (compare · · = .lt))
    (h : find? key pairs = some value) : insert key value pairs = pairs := by
  induction pairs with
  | nil => cases h
  | cons pair rest ih =>
    obtain ⟨other, old⟩ := pair
    obtain ⟨hfirst, hrest⟩ := List.pairwise_cons.mp hsorted
    rw [find?] at h
    by_cases hkey : compare key other = .eq
    · rw [if_pos hkey] at h
      obtain rfl := Option.some.inj h
      obtain rfl : key = other := Std.LawfulEqOrd.eq_of_compare hkey
      simp [insert]
    · rw [if_neg hkey] at h
      have hgt : compare key other = .gt := by
        obtain ⟨found, hmem, hfound, _⟩ := exists_mem_of_find? h
        obtain rfl : key = found.1 := Std.LawfulEqOrd.eq_of_compare hfound
        exact Std.OrientedCmp.gt_of_lt (hfirst _ (List.mem_map_of_mem hmem))
      simp only [insert, hgt]
      rw [ih hrest h]

namespace Crawler

variable {world : CrawlWorld σ} {crawler : Crawler} {target : Target}

/-- An attempt that came through is followed by the others. -/
private theorem attemptAll_of_ok {feature : Feature} {rest : List Feature}
    {outcomes : List (Feature × FeatureOutcome)} {outcome : FeatureOutcome} {s' : Session σ}
    (h : crawler.attempt world target feature s = (.ok outcome, s')) :
    crawler.attemptAll world target (feature :: rest) outcomes s =
      crawler.attemptAll world target rest (Pairs.insert feature outcome outcomes) s' :=
  Call.bind_of_ok _ h

/-- An attempt that was halted is not followed by any. -/
private theorem attemptAll_of_error {feature : Feature} {rest : List Feature}
    {outcomes : List (Feature × FeatureOutcome)} {halt : Halt} {s' : Session σ}
    (h : crawler.attempt world target feature s = (.error halt, s')) :
    crawler.attemptAll world target (feature :: rest) outcomes s = (.error halt, s') :=
  Call.bind_of_error _ h

/-- A feature was attempted, and from here on an attempt comes to what the table has. -/
private def Settled (holds : σ → Prop) (world : CrawlWorld σ) (crawler : Crawler) (target : Target)
    (loading : Loading) (outcomes : List (Feature × FeatureOutcome)) (feature : Feature) : Prop :=
  ∃ outcome, Pairs.find? feature outcomes = some outcome ∧
    Call.Repeats holds loading (crawler.attempt world target feature) outcome

/-- An attempt at another feature leaves it settled. -/
private theorem Settled.insert {loading later : Loading} {feature other : Feature}
    {outcomes : List (Feature × FeatureOutcome)} (outcome : FeatureOutcome)
    (h : Settled holds world crawler target loading outcomes feature) (hne : feature ≠ other)
    (hlater : later = loading ∨ later = .loaded) :
    Settled holds world crawler target later (Pairs.insert other outcome outcomes) feature := by
  obtain ⟨stored, hstored, hrepeats⟩ := h
  exact ⟨stored, (Pairs.find?_insert_of_ne hne _ _).trans hstored, hrepeats.later hlater⟩

/-- An attempt at a settled feature changes neither table nor world. -/
private theorem Settled.attemptAll {feature : Feature}
    {outcomes : List (Feature × FeatureOutcome)}
    (h : Settled holds world crawler target s.loading outcomes feature) (hs : holds s.world)
    (hsorted : (outcomes.map Prod.fst).Pairwise (compare · · = .lt)) :
    ∃ s', s'.Alike holds s ∧ ∀ rest, crawler.attemptAll world target (feature :: rest) outcomes s =
      crawler.attemptAll world target rest outcomes s' := by
  obtain ⟨outcome, hstored, hrepeats⟩ := h
  obtain ⟨s', hattempt, hsame⟩ := hrepeats s hs (.inl rfl)
  refine ⟨s', hsame, fun rest => (attemptAll_of_ok hattempt).trans ?_⟩
  rw [Pairs.insert_of_find? hsorted hstored]

/-- Attempts at features in a row come to the same without those that are named again. -/
private theorem attemptAll_dropRepeats (h : world.Still crawler.executor.timeout holds)
    {features seen : List Feature} {outcomes : List (Feature × FeatureOutcome)}
    (hst : s.Alike holds t) (hsorted : (outcomes.map Prod.fst).Pairwise (compare · · = .lt))
    (hseen : ∀ f ∈ seen, Settled holds world crawler target s.loading outcomes f) :
    (crawler.attemptAll world target features outcomes s).1 =
        (crawler.attemptAll world target (Feature.dropRepeats seen features) outcomes t).1 ∧
      (crawler.attemptAll world target features outcomes s).2.Alike holds
        (crawler.attemptAll world target (Feature.dropRepeats seen features) outcomes t).2 := by
  induction features generalizing seen outcomes s t with
  | nil => exact ⟨rfl, hst⟩
  | cons feature rest ih =>
    rw [Feature.dropRepeats]
    by_cases hmem : feature ∈ seen
    · rw [if_pos hmem]
      obtain ⟨s', hsame, hrun⟩ := (hseen feature hmem).attemptAll hst.holds hsorted
      rw [hrun]
      exact ih (hsame.trans hst) hsorted (hsame.loading ▸ hseen)
    · rw [if_neg hmem]
      obtain ⟨hends, hleft, hload⟩ := @attempt_alike _ _ _ _ _ _ target h feature hst
      obtain ⟨r, s', hfirst⟩ : ∃ r s', crawler.attempt world target feature s = (r, s') :=
        ⟨_, _, rfl⟩
      obtain ⟨t', hother⟩ : ∃ t', crawler.attempt world target feature t = (r, t') := by
        rw [hfirst] at hends
        exact ⟨(crawler.attempt world target feature t).2, Prod.ext hends.symm rfl⟩
      rw [hfirst] at hleft hload
      rw [hother] at hleft
      cases r with
      | error halt =>
        rw [attemptAll_of_error hfirst, attemptAll_of_error hother]
        exact ⟨rfl, hleft⟩
      | ok outcome =>
        rw [attemptAll_of_ok hfirst, attemptAll_of_ok hother]
        refine ih hleft (Pairs.pairwise_insert feature outcome hsorted) fun f hf => ?_
        have hold (hf : f ∈ seen) : Settled holds world crawler target s'.loading
            (Pairs.insert feature outcome outcomes) f :=
          (hseen f hf).insert outcome (fun heq => hmem (heq ▸ hf)) (hload outcome rfl)
        have hrepeats (hcpu : feature ≠ .cpu) :
            Call.Repeats holds s'.loading (crawler.attempt world target feature) outcome := by
          have hidle := @attempt_idle _ _ _ _ target h feature hcpu
          have hloading := hidle.repeats hst.holds (congrArg Prod.fst hfirst)
          rwa [hfirst] at hloading
        split at hf
        · exact hold hf
        · next hcpu =>
          rcases List.mem_cons.mp hf with rfl | hf
          · exact ⟨outcome, Pairs.find?_insert_self _ _ _, hrepeats hcpu⟩
          · exact hold hf

/-- Two crawlers come to the same for a target: the report, or what halts the crawl, and the world
and the cache that are left. -/
structure SameCrawl (world : CrawlWorld σ) (target : Target) (s : Session σ)
    (crawler other : Crawler) : Prop where
  /-- The report is the same. -/
  report_eq : (crawler.crawlContainer world target s).1 = (other.crawlContainer world target s).1
  /-- So is the world. -/
  world_eq : (crawler.crawlContainer world target s).2.world =
    (other.crawlContainer world target s).2.world
  /-- So is the cache. -/
  samples_eq : (crawler.crawlContainer world target s).2.samples =
    (other.crawlContainer world target s).2.samples

/-- The crawler with other features to collect. -/
def collecting (crawler : Crawler) (features : List Feature) : Crawler :=
  { crawler with config := { crawler.config with features } }

/-- The features to collect have no part in how one is attempted. -/
private theorem attemptAll_collecting (features listed : List Feature)
    (outcomes : List (Feature × FeatureOutcome)) :
    (crawler.collecting features).attemptAll world target listed outcomes =
      crawler.attemptAll world target listed outcomes := by
  induction listed generalizing outcomes with
  | nil => rfl
  | cons feature rest ih =>
    rw [attemptAll, attemptAll]
    refine congrArg₂ _ ?_ (funext fun outcome => ih _)
    cases feature <;> rfl

/-- What a crawl of a container comes to follows from its attempts. -/
private theorem crawlContainer_collecting (features : List Feature) (s : Session σ) :
    (crawler.collecting features).crawlContainer world target s =
      ((crawler.attemptAll world target features [] s).1.map fun outcomes =>
        ⟨target.containerId, target.pid, outcomes⟩,
        (crawler.attemptAll world target features [] s).2) := by
  rw [crawlContainer, attemptAll_collecting]
  generalize hrun : crawler.attemptAll world target features [] s = out
  obtain ⟨r, s'⟩ := out
  cases r with
  | ok outcomes => exact Call.bind_of_ok _ hrun
  | error halt => exact Call.bind_of_error _ hrun

/-- **Features that are named again.** While a container is crawled, its files and what the system
answers about namespaces and workers stay as they are; the clock, the cache and the host's window
may be in any state. Then it makes no difference to the report, nor to the cache and the window
afterwards, whether a feature other than the use of the processor is named once or again. So if
the use of the processor is named once at most, a crawl comes to the same as with each feature
named once. -/
theorem repeated_features (world : CrawlWorld σ) (crawler : Crawler) (target : Target)
    (s : Session σ) (holds : σ → Prop) (hstill : world.Still crawler.executor.timeout holds)
    (hs : holds s.world) (features : List Feature) :
    SameCrawl world target s (crawler.collecting features)
        (crawler.collecting (Feature.dropRepeats [] features)) ∧
      (features.count .cpu ≤ 1 → SameCrawl world target s (crawler.collecting features)
        (crawler.collecting features.eraseDups)) := by
  have hsame : SameCrawl world target s (crawler.collecting features)
      (crawler.collecting (Feature.dropRepeats [] features)) := by
    have hself : s.Alike holds s := ⟨rfl, rfl, rfl, hs⟩
    obtain ⟨hends, hleft⟩ := @attemptAll_dropRepeats _ _ _ _ _ _ target hstill features [] [] hself
      .nil (by simp)
    refine ⟨?_, ?_, ?_⟩ <;> rw [crawlContainer_collecting, crawlContainer_collecting]
    · rw [hends]
    · exact hleft.world
    · exact hleft.samples
  refine ⟨hsame, fun honce => ?_⟩
  have hdrop : Feature.dropRepeats [] features = features.eraseDups := by
    have hnone : .cpu ∉ ([] : List Feature) := by simp
    simpa using Feature.dropRepeats_eq hnone honce
  rw [← hdrop]
  exact hsame

/-- A machine whose files stay as they are. Each look at the clock or at the host's processor
figures moves it on. -/
private def movingWorld : CrawlWorld Nat where
  namespaces :=
    { openNamespace := fun _ _ w => (none, w)
      enterNamespace := fun _ w => (none, w)
      closeNamespace := fun _ w => (none, w)
      currentDirectory := fun w => (.ok "/", w)
      changeDirectory := fun _ w => (none, w) }
  workers :=
    { tryChild := ChildEnding.always
      startReader := fun w => (none, w)
      startWorker := fun w => (none, w)
      uptime := fun w => (⟨0⟩, w) }
  source :=
    { readText := fun path w =>
        (if path = "cg/cpuacct/docker/a/cpuacct.usage_percpu" then .ok "40 50"
          else if path = "cg/cpuacct/docker/a/cpuacct.stat" then .ok "user 1\nsystem 2\n"
          else .error (.described .invalidData "missing"), w)
      now := fun w => (.ok ⟨w⟩, w + 1)
      sleep := fun _ w => (.ok (), w + 1)
      hostShares := fun w => (.ok (.ok []), w + 1)
      hostFree := fun w => (.ok (.ok 100), w) }
  identify := fun _ => .panicked
  listProcesses := fun _ => .panicked

private theorem movingWorld_still : movingWorld.Still (.ofSeconds 30) (fun _ => True) where
  openNamespace _ _ := ⟨_, fun _ _ => rfl⟩
  enterNamespace _ _ := ⟨_, fun _ _ _ => rfl⟩
  closeNamespace _ _ := ⟨_, fun _ _ _ => rfl⟩
  directory := ⟨_, fun _ _ => rfl, fun _ _ => ⟨_, fun _ _ => rfl⟩⟩
  tryChild _ _ := rfl
  startReader := ⟨_, fun _ _ => rfl⟩
  startWorker := ⟨_, fun _ _ => rfl⟩
  uptime := ⟨true, fun _ _ => ⟨⟨0⟩, rfl, by decide⟩⟩
  readText _ := ⟨_, fun _ _ => rfl⟩
  hostFree := ⟨_, fun _ _ => rfl⟩
  identify := ⟨_, fun _ _ => rfl⟩
  listProcesses := ⟨_, fun _ _ => rfl⟩
  now _ _ := trivial
  sleep _ _ _ := trivial
  hostShares _ _ := trivial

private def movingCrawler : Crawler where
  config := { cgroupRoot := "cg" }
  executor := {}

/-- Memory figures and the operating system may be named again on either side of the processor. -/
theorem repeated_features_moving :
    [Feature.memory, .os, .cpu, .memory, .os].eraseDups = [.memory, .os, .cpu] ∧
      SameCrawl movingWorld ⟨"a", 7⟩ { world := 5 }
        (movingCrawler.collecting [.memory, .os, .cpu, .memory, .os])
        (movingCrawler.collecting [.memory, .os, .cpu]) := by
  obtain ⟨_, honce⟩ := repeated_features movingWorld movingCrawler ⟨"a", 7⟩ { world := 5 }
    (fun _ => True) movingWorld_still trivial [.memory, .os, .cpu, .memory, .os]
  exact ⟨by decide, honce (by decide)⟩

/-- The use of the processor is sampled as often as it is named: with it named again the cache holds
a later sample, and the host's window has moved on once more. -/
theorem repeated_cpu_moves_on :
    let once := ((movingCrawler.collecting [.cpu]).crawlContainer movingWorld ⟨"a", 7⟩
      { world := 5 }).2
    let again := ((movingCrawler.collecting [.cpu, .cpu]).crawlContainer movingWorld ⟨"a", 7⟩
      { world := 5 }).2
    [Feature.cpu, .cpu].eraseDups = [.cpu] ∧
      (once.world, once.samples) = (10, [("a", ⟨[40, 50], ⟨8⟩⟩)]) ∧
      (again.world, again.samples) = (12, [("a", ⟨[40, 50], ⟨10⟩⟩)]) := by
  decide +kernel

end Crawler

end Periscope
