import Periscope.Proofs.Namespace.Requests

/-!
# Opening pairs of handles

Attaching first opens the caller's and the target's namespace of each requested kind. The
handles are kept in two tables by kind. Because the kinds come in joining order, each at
most once, no handle in the tables is ever replaced, and a handle whose counterpart could
not be opened is given back at once.
-/

namespace Periscope

variable {σ : Type} {system : NamespaceSystem σ} {s s' : Session σ}

/-- Kinds in joining order, each at most once. -/
abbrev Increasing (kinds : List NamespaceKind) : Prop :=
  kinds.Pairwise fun a b => a.rank < b.rank

namespace ProcessContext

variable {c c₁ c' : ProcessContext}

/-- The kinds of which both namespaces are open. -/
def openKinds (c : ProcessContext) : List NamespaceKind := c.hostHandles.map Prod.fst

/-- The open handles come in pairs, one of the caller's and one of the target's namespace
of each kind, in joining order. -/
structure Paired (c : ProcessContext) : Prop where
  /-- The target's handles are of the same kinds. -/
  sameKinds : c.targetHandles.map Prod.fst = c.openKinds
  /-- The kinds are in joining order. -/
  increasing : Increasing c.openKinds
  /-- The first handles are of the caller's namespaces. -/
  host : ∀ pair ∈ c.hostHandles, pair.2.owner = .caller ∧ pair.2.kind = pair.1
  /-- The second handles are of the target's namespaces. -/
  target : ∀ pair ∈ c.targetHandles, pair.2.owner = .process c.pid ∧ pair.2.kind = pair.1

/-- Where a context is in its life does not matter to its handles. -/
theorem Paired.withState (hc : c.Paired) (state : ContextState) : Paired { c with state } :=
  ⟨hc.sameKinds, hc.increasing, hc.host, hc.target⟩

/-- What an attempt to open a pair of handles adds to the journal. -/
private theorem openPair_cases {pid : Int32} {kind : NamespaceKind}
    {result : Except IoError (Handle × Handle)}
    (h : Action.openPair system pid kind s = (result, s')) :
    (∃ cause trace, result = .error cause ∧ Concerns trace [.opening, .closing, .notice] ∧
      (∀ handle, .opened handle ∈ trace → handle.owner = .caller) ∧
      ∀ held, (s.ledger held).Sound → s.Gains held trace s' held) ∨
    (∃ host target, result = .ok (host, target) ∧ host = ⟨s.nextHandle, .caller, kind⟩ ∧
      target = ⟨s.nextHandle + 1, .process pid, kind⟩ ∧
      ∀ held, s.Gains held [.opened host, .opened target] s'
        (insert target (insert host held))) := by
  obtain ⟨first, s₁, hopen, h⟩ := Action.of_bind h
  rcases Action.openNamespace_cases hopen with
    ⟨cause, rfl, hgains⟩ | ⟨host, rfl, hhost, hgains⟩
  · obtain ⟨rfl, rfl⟩ := Action.of_pure h
    refine .inl ⟨cause, _, rfl, ?_, ?_, fun held _ => hgains held⟩
    · simp [Concerns, Entry.topic]
    · simp
  · obtain ⟨second, s₂, hopen', h⟩ := Action.of_bind h
    rcases Action.openNamespace_cases hopen' with
      ⟨cause, rfl, hgains'⟩ | ⟨target, rfl, htarget, hgains'⟩
    · obtain ⟨_, s₃, hclose, h⟩ := Action.of_bind h
      obtain ⟨rfl, rfl⟩ := Action.of_pure h
      obtain ⟨closing, hclosing, hgains''⟩ := Action.closeNamespace_gains hclose
      refine .inl ⟨cause, [.opened host, .openFailed (.process pid) kind] ++ closing, rfl, ?_, ?_,
        fun held hsound => ?_⟩
      · exact Concerns.append (by simp [Concerns, Entry.topic]) (hclosing.mono (by simp))
      · intro handle hopened
        rcases List.mem_append.mp hopened with hopened | hopened
        · have heq : handle = host := by simpa using hopened
          rw [heq, hhost]
        · have := hclosing _ hopened
          simp [Entry.topic] at this
      · have hnew : host ∉ held := by
          intro hheld
          have : host.id < s.nextHandle := hsound host hheld
          rw [hhost] at this
          exact absurd this (Nat.lt_irrefl _)
        have h₁ := ((hgains held).trans (hgains' _)).trans
          (hgains'' _ (Finset.mem_insert_self host held))
        rwa [Finset.erase_insert hnew] at h₁
    · obtain ⟨rfl, rfl⟩ := Action.of_pure h
      have hnext : s₁.nextHandle = s.nextHandle + 1 := by
        have := congrArg (Option.map Ledger.nextHandle) (hgains ∅).replay_eq
        simpa [Ledger.replay, Ledger.after, Session.ledger, hhost, eq_comm] using this
      refine .inr ⟨host, target, rfl, hhost, by rw [htarget, hnext], fun held => ?_⟩
      exact (hgains held).trans (hgains' _)

/-- What opening the namespaces of some kinds does: `c` becomes `c'` and the entries of
`trace` are added. -/
structure OpenCourse (c : ProcessContext) (kinds : List NamespaceKind)
    (failure : Option CrawlError) (c' : ProcessContext) (trace : List Entry) : Prop where
  /-- Nothing is entered. -/
  concerns : Concerns trace [.opening, .closing, .notice]
  /-- The handles that are left come in pairs. -/
  paired : c'.Paired
  /-- They are of the kinds that were asked for. -/
  openKinds_sublist : c'.openKinds.Sublist (c.openKinds ++ kinds)
  /-- Only the mount namespace is worth giving up. -/
  failure_cases : failure = none ∨ ∃ cause, failure = some (.namespaceAttach .mnt cause)
  /-- No handle is lost. -/
  handles_subset : ∀ handle ∈ c.handles, handle ∈ c'.handles
  /-- The handles that are left were opened here or before. -/
  opened : ∀ handle ∈ c'.handles, handle ∈ c.handles ∨ .opened handle ∈ trace
  /-- A handle of the target that was opened is left. -/
  kept : ∀ handle, .opened handle ∈ trace → handle.owner = .process c.pid → handle ∈ c'.handles
  /-- Handles and skipped kinds apart, the context stays as it was. -/
  frame : c' = { c with
    hostHandles := c'.hostHandles, targetHandles := c'.targetHandles, skipped := c'.skipped }

private theorem insert_eq_append_of_rank_lt {kind : NamespaceKind} {handle : Handle}
    {pairs : List (NamespaceKind × Handle)}
    (h : ∀ other ∈ pairs.map Prod.fst, other.rank < kind.rank) :
    Pairs.insert kind handle pairs = pairs ++ [(kind, handle)] := by
  apply Pairs.insert_eq_append
  intro pair hpair
  exact NamespaceKind.compare_eq_gt.mpr (h _ (List.mem_map_of_mem hpair))

/-- A pair of the next kind is put behind the others. Since the kinds come in joining
order, no handle is replaced. -/
private theorem Paired.keep (hc : c.Paired) {kind : NamespaceKind} {host target : Handle}
    (hlt : ∀ other ∈ c.openKinds, other.rank < kind.rank)
    (hhost : host.owner = .caller ∧ host.kind = kind)
    (htarget : target.owner = .process c.pid ∧ target.kind = kind)
    (heq : c' = { c with
      hostHandles := Pairs.insert kind host c.hostHandles
      targetHandles := Pairs.insert kind target c.targetHandles }) :
    c'.Paired ∧ c'.openKinds = c.openKinds ++ [kind] ∧
      c'.handles.Perm (host :: target :: c.handles) := by
  have hhosts : Pairs.insert kind host c.hostHandles = c.hostHandles ++ [(kind, host)] :=
    insert_eq_append_of_rank_lt hlt
  have htargets : Pairs.insert kind target c.targetHandles = c.targetHandles ++ [(kind, target)] :=
    insert_eq_append_of_rank_lt (hc.sameKinds ▸ hlt)
  rw [hhosts, htargets] at heq
  subst heq
  refine ⟨⟨?_, ?_, ?_, ?_⟩, by simp [openKinds], ?_⟩
  · simp [openKinds, hc.sameKinds]
  · simp only [openKinds, List.map_append, List.map_cons, List.map_nil]
    exact List.pairwise_append.mpr ⟨hc.increasing, by simp, fun a ha b hb => by
      rw [List.mem_singleton.mp hb]; exact hlt a ha⟩
  · intro pair hpair
    rcases List.mem_append.mp hpair with hpair | hpair
    · exact hc.host pair hpair
    · rw [List.mem_singleton.mp hpair]
      exact hhost
  · intro pair hpair
    rcases List.mem_append.mp hpair with hpair | hpair
    · exact hc.target pair hpair
    · rw [List.mem_singleton.mp hpair]
      exact htarget
  · simp only [handles, List.map_append, List.map_cons, List.map_nil]
    rw [List.perm_iff_count]
    intro other
    simp only [List.count_append, List.count_cons, List.count_nil]
    omega

/-- A kind that cannot be opened is passed over. -/
private theorem OpenCourse.skip {kind : NamespaceKind} {rest : List NamespaceKind}
    {failure : Option CrawlError} {first second : List Entry} {missed : List SkippedNamespace}
    (hfirst : Concerns first [.opening, .closing, .notice])
    (howner : ∀ handle, .opened handle ∈ first → handle.owner = .caller)
    (h : OpenCourse { c with skipped := missed } rest failure c' second) :
    OpenCourse c (kind :: rest) failure c' (first ++ second) where
  concerns := hfirst.append h.concerns
  paired := h.paired
  openKinds_sublist :=
    h.openKinds_sublist.trans (List.Sublist.append_left (List.sublist_cons_self kind rest) _)
  failure_cases := h.failure_cases
  handles_subset := h.handles_subset
  opened := fun handle hhandle =>
    (h.opened handle hhandle).imp_right fun hopened => List.mem_append_right _ hopened
  kept := by
    intro handle hopened hprocess
    rcases List.mem_append.mp hopened with hopened | hopened
    · rw [howner handle hopened] at hprocess
      cases hprocess
    · exact h.kept handle hopened hprocess
  frame := h.frame

/-- A pair of handles is kept. -/
private theorem OpenCourse.keep {kind : NamespaceKind} {rest : List NamespaceKind}
    {failure : Option CrawlError} {second : List Entry} {host target : Handle}
    (hperm : c₁.handles.Perm (host :: target :: c.handles))
    (hopen : c₁.openKinds = c.openKinds ++ [kind])
    (hframe : c₁ = { c with hostHandles := c₁.hostHandles, targetHandles := c₁.targetHandles })
    (htarget : target.owner = .process c.pid) (hhost : host.owner = .caller)
    (h : OpenCourse c₁ rest failure c' second) :
    OpenCourse c (kind :: rest) failure c' (.opened host :: .opened target :: second) where
  concerns := .cons (by simp [Entry.topic]) (.cons (by simp [Entry.topic]) h.concerns)
  paired := h.paired
  openKinds_sublist := by simpa [hopen] using h.openKinds_sublist
  failure_cases := h.failure_cases
  handles_subset := fun handle hhandle =>
    h.handles_subset handle (hperm.mem_iff.mpr (by simp [hhandle]))
  opened := by
    intro handle hhandle
    rcases h.opened handle hhandle with hold | hopened
    · rcases List.mem_cons.mp (hperm.mem_iff.mp hold) with rfl | hold
      · exact .inr (by simp)
      · rcases List.mem_cons.mp hold with rfl | hold
        · exact .inr (by simp)
        · exact .inl hold
    · exact .inr (by simp [hopened])
  kept := by
    intro handle hopened hprocess
    have hpid : c₁.pid = c.pid := by rw [hframe]
    simp only [List.mem_cons, Entry.opened.injEq] at hopened
    rcases hopened with rfl | rfl | hopened
    · rw [hhost] at hprocess
      cases hprocess
    · exact h.handles_subset _ (hperm.mem_iff.mpr (by simp))
    · exact h.kept handle hopened (hpid ▸ hprocess)
  frame := by
    rw [hframe] at h
    exact h.frame

/-- Opening ends at the mount namespace if that cannot be opened. -/
private theorem OpenCourse.stop (hc : c.Paired) {rest : List NamespaceKind} {cause : IoError}
    {first : List Entry} (hfirst : Concerns first [.opening, .closing, .notice])
    (howner : ∀ handle, .opened handle ∈ first → handle.owner = .caller) :
    OpenCourse c (.mnt :: rest) (some (.namespaceAttach .mnt cause)) c first where
  concerns := hfirst
  paired := hc
  openKinds_sublist := by simp
  failure_cases := .inr ⟨cause, rfl⟩
  handles_subset := fun _ => id
  opened := fun _ => .inl
  kept := by
    intro handle hopened hprocess
    rw [howner handle hopened] at hprocess
    cases hprocess
  frame := rfl

/-- A pair of new handles is none of those that were given out before. -/
private theorem nodup_newPair {next : Nat} {handles : List Handle} (hnodup : handles.Nodup)
    (hold : ∀ handle ∈ handles, handle.id < next) (pid : Int32) (kind : NamespaceKind) :
    ((⟨next, .caller, kind⟩ : Handle) :: ⟨next + 1, .process pid, kind⟩ :: handles).Nodup := by
  have hhost : (⟨next, .caller, kind⟩ : Handle) ∉ handles := fun hmem =>
    Nat.lt_irrefl _ (hold _ hmem)
  have htarget : (⟨next + 1, .process pid, kind⟩ : Handle) ∉ handles := fun hmem =>
    absurd (hold _ hmem) (Nat.not_lt_of_gt (Nat.lt_succ_self next))
  simp [hhost, htarget, hnodup]

/-- Opening namespaces keeps pairs of handles and gives back all other handles. -/
theorem openAll_course {kinds : List NamespaceKind} {failure : Option CrawlError}
    (h : openAll system kinds c s = ((failure, c'), s')) (hc : c.Paired)
    (hkinds : Increasing (c.openKinds ++ kinds)) :
    ∃ trace, OpenCourse c kinds failure c' trace ∧
      ∀ held, (s.ledger held).Sound → c.handles.Nodup → (∀ handle ∈ c.handles, handle ∈ held) →
        c'.handles.Nodup ∧ s.Gains held trace s' (held ∪ c'.handles.toFinset) := by
  have hunion {d : ProcessContext} {held : Finset Handle}
      (hheld : ∀ handle ∈ d.handles, handle ∈ held) : held ∪ d.handles.toFinset = held :=
    Finset.union_eq_left.mpr fun handle hhandle => hheld handle (List.mem_toFinset.mp hhandle)
  induction kinds generalizing c s with
  | nil =>
    obtain ⟨hout, rfl⟩ := Action.of_pure h
    obtain ⟨rfl, rfl⟩ := Prod.mk.inj hout
    refine ⟨[], ⟨.nil _, hc, by simp, .inl rfl, fun _ => id, fun _ => .inl, by simp, rfl⟩, ?_⟩
    exact fun held _ hnodup hheld => ⟨hnodup, by rw [hunion hheld]; exact .refl _ held⟩
  | cons kind rest ih =>
    obtain ⟨result, s₁, hpair, h⟩ := Action.of_bind h
    rcases openPair_cases hpair with
      ⟨cause, first, rfl, hconcerns, howner, hgains⟩ |
      ⟨host, target, rfl, hhost, htarget, hgains⟩
    · by_cases hmandatory : kind.isMandatory = true
      · simp only [if_pos hmandatory] at h
        obtain ⟨hout, rfl⟩ := Action.of_pure h
        obtain ⟨rfl, rfl⟩ := Prod.mk.inj hout
        obtain rfl := NamespaceKind.isMandatory_iff.mp hmandatory
        refine ⟨first, .stop hc hconcerns howner, fun held hsound hnodup hheld => ⟨hnodup, ?_⟩⟩
        rw [hunion hheld]
        exact hgains held hsound
      · simp only [if_neg hmandatory] at h
        obtain ⟨_, s₂, hnotice, h⟩ := Action.of_bind h
        have hskip : Increasing (c.openKinds ++ rest) :=
          hkinds.sublist (List.Sublist.append_left (List.sublist_cons_self kind rest) _)
        obtain ⟨second, hcourse, hgains₂⟩ :=
          ih h ⟨hc.sameKinds, hc.increasing, hc.host, hc.target⟩ hskip
        have htold : Concerns (first ++ [.noticed (.namespaceNotOpened c.pid kind cause) s₁.depth])
            [.opening, .closing, .notice] :=
          hconcerns.append (by simp [Concerns, Entry.topic])
        refine ⟨_, hcourse.skip htold ?_, ?_⟩
        · intro handle hopened
          exact howner handle (by simpa using hopened)
        · intro held hsound hnodup hheld
          have hnoticed := (hgains held hsound).trans (Action.notice_gains hnotice held)
          obtain ⟨hnodup', hgains'⟩ := hgains₂ held (hnoticed.sound hsound) hnodup hheld
          exact ⟨hnodup', hnoticed.trans hgains'⟩
    · have hlt : ∀ other ∈ c.openKinds, other.rank < kind.rank := fun other hother =>
        (List.pairwise_append.mp hkinds).2.2 other hother kind List.mem_cons_self
      have hhost' : host.owner = .caller ∧ host.kind = kind := by simp [hhost]
      have htarget' : target.owner = .process c.pid ∧ target.kind = kind := by simp [htarget]
      obtain ⟨hc₁, hopen, hperm⟩ := hc.keep hlt hhost' htarget' rfl
      obtain ⟨second, hcourse, hgains₂⟩ := ih h hc₁ (by rw [hopen]; simpa using hkinds)
      refine ⟨_, hcourse.keep hperm hopen rfl (by rw [htarget]) (by rw [hhost]), ?_⟩
      intro held hsound hnodup hheld
      have hnodup₁ : (host :: target :: c.handles).Nodup := by
        rw [hhost, htarget]
        exact nodup_newPair hnodup (fun handle hhandle => hsound handle (hheld handle hhandle)) _ _
      have hheld₁ : ∀ handle ∈ host :: target :: c.handles,
          handle ∈ insert target (insert host held) := by
        simp only [List.mem_cons, Finset.mem_insert]
        rintro handle (rfl | rfl | hmem)
        · simp
        · simp
        · exact .inr (.inr (hheld handle hmem))
      obtain ⟨hnodup', hgains'⟩ := hgains₂ _ ((hgains held).sound hsound)
        (hperm.nodup_iff.mpr hnodup₁) fun handle hmem => hheld₁ handle (hperm.mem_iff.mp hmem)
      have hhost' := hcourse.handles_subset host (hperm.mem_iff.mpr (by simp))
      have htarget' := hcourse.handles_subset target (hperm.mem_iff.mpr (by simp))
      have hsame : insert target (insert host held) ∪ c'.handles.toFinset =
          held ∪ c'.handles.toFinset := by
        ext handle
        simp only [Finset.mem_union, Finset.mem_insert, List.mem_toFinset]
        grind
      exact ⟨hnodup', hsame ▸ (hgains held).trans hgains'⟩

end ProcessContext

end Periscope
