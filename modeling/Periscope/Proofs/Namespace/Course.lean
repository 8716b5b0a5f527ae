import Periscope.Proofs.Namespace.Opening

/-!
# The course of a stay

Attaching opens pairs of handles and then tries to enter the target's namespaces;
detaching tries to enter the caller's namespaces again, goes home and gives every handle
back. The theorems here say which entries each of them adds and what context it leaves.
Since the mount namespace comes last, a failed attempt to attach never has to restore it.
-/

namespace Periscope

variable {σ : Type} {system : NamespaceSystem σ} {s s' : Session σ}

/-- The kinds of the namespaces that were entered by some attempts. -/
def joinedKinds (attempts : List Attempt) : List NamespaceKind :=
  (attempts.filter fun a => a.failure.isNone).map fun a => a.handle.kind

namespace ProcessContext

variable {c c' : ProcessContext} {failure : Option CrawlError} {attempts : List Attempt}

/-- What entering namespaces does: the handles are tried in order until the mount
namespace fails. -/
structure EnterCourse (c : ProcessContext) (handles : List Handle)
    (failure : Option CrawlError) (c' : ProcessContext) (attempts : List Attempt) : Prop where
  /-- The kinds that were joined are noted, in order. -/
  frame : c' = { c with entered := c.entered ++ joinedKinds attempts, skipped := c'.skipped }
  /-- Either every handle was tried and the mount namespace did not fail, or it failed in
  the last attempt. -/
  outcome : (failure = none ∧ attempts.map Attempt.handle = handles ∧
      mountFailure attempts = none) ∨
    ∃ cause earlier last untried, failure = some (.namespaceAttach .mnt cause) ∧
      attempts = earlier ++ [⟨last, some cause⟩] ∧ last.kind = .mnt ∧
      handles = earlier.map Attempt.handle ++ last :: untried

/-- Entering namespaces leaves out those that fail and stops at the mount namespace. -/
theorem enterAll_course {handles : List Handle}
    (h : enterAll system handles c s = ((failure, c'), s')) :
    ∃ attempts, EnterCourse c handles failure c' attempts ∧
      ∀ held, (∀ handle ∈ handles, handle ∈ held) →
        s.Gains held (attempts.map Attempt.entry) s' held := by
  induction handles generalizing c s with
  | nil =>
    obtain ⟨hout, rfl⟩ := Action.of_pure h
    obtain ⟨rfl, rfl⟩ := Prod.mk.inj hout
    exact ⟨[], ⟨by simp [joinedKinds], .inl ⟨rfl, rfl, rfl⟩⟩, fun held _ => .refl _ held⟩
  | cons handle rest ih =>
    obtain ⟨result, s₁, henter, h⟩ := Action.of_bind h
    have hgains {held : Finset Handle} (hheld : ∀ other ∈ handle :: rest, other ∈ held) :=
      Action.enterNamespace_gains henter (hheld handle List.mem_cons_self)
    cases result with
    | none =>
      obtain ⟨attempts, hcourse, hgains'⟩ := ih h
      refine ⟨⟨handle, none⟩ :: attempts, ⟨?_, ?_⟩, fun held hheld => ?_⟩
      · rw [hcourse.frame]
        simp [joinedKinds]
      · rcases hcourse.outcome with
          ⟨hnone, hall, hmount⟩ | ⟨cause, earlier, last, untried, hsome, rfl, hlast, rfl⟩
        · exact .inl ⟨hnone, by simp [hall], by simpa [mountFailure] using hmount⟩
        · exact .inr ⟨cause, ⟨handle, none⟩ :: earlier, last, untried, hsome, rfl, hlast, rfl⟩
      · exact (hgains hheld).trans (hgains' held (List.forall_mem_cons.mp hheld).2)
    | some cause =>
      by_cases hmandatory : handle.kind.isMandatory = true
      · simp only [if_pos hmandatory] at h
        obtain ⟨hout, rfl⟩ := Action.of_pure h
        obtain ⟨rfl, rfl⟩ := Prod.mk.inj hout
        have hmnt := NamespaceKind.isMandatory_iff.mp hmandatory
        refine ⟨[⟨handle, some cause⟩], ⟨by simp [joinedKinds], .inr ?_⟩, fun held => hgains⟩
        exact ⟨cause, [], handle, rest, by rw [hmnt], rfl, hmnt, rfl⟩
      · simp only [if_neg hmandatory] at h
        have hother : handle.kind ≠ .mnt := fun heq =>
          hmandatory (NamespaceKind.isMandatory_iff.mpr heq)
        obtain ⟨attempts, hcourse, hgains'⟩ := ih h
        refine ⟨⟨handle, some cause⟩ :: attempts, ⟨?_, ?_⟩, fun held hheld => ?_⟩
        · rw [hcourse.frame]
          simp [joinedKinds]
        · rcases hcourse.outcome with
            ⟨hnone, hall, hmount⟩ | ⟨cause', earlier, last, untried, hsome, rfl, hlast, rfl⟩
          · exact .inl ⟨hnone, by simp [hall], by simpa [mountFailure, hother] using hmount⟩
          · exact .inr ⟨cause', ⟨handle, some cause⟩ :: earlier, last, untried, hsome, rfl, hlast,
              rfl⟩
        · exact (hgains hheld).trans (hgains' held (List.forall_mem_cons.mp hheld).2)

/-- The caller's handles of entered namespaces are open. -/
theorem mem_handles_of_entered {handle : Handle} (h : handle ∈ c.enteredHandles) :
    ∃ pair ∈ c.hostHandles, pair.2 = handle := by
  obtain ⟨kind, _, hfind⟩ := List.mem_filterMap.mp h
  obtain ⟨pair, hpair, _, hhandle⟩ := Pairs.exists_mem_of_find? hfind
  exact ⟨pair, hpair, hhandle⟩

/-- Paired handles are found again: there is one of the caller's namespace of each entered
kind, in the order of entering, so none is passed over. -/
theorem Paired.enteredHandles (hc : c.Paired) (hentered : c.entered ⊆ c.openKinds) :
    c.enteredHandles.map Handle.kind = c.entered ∧
      ∀ handle ∈ c.enteredHandles, handle.owner = .caller := by
  have hfind : ∀ kind ∈ c.entered, ∃ handle, Pairs.find? kind c.hostHandles = some handle ∧
      handle.kind = kind := by
    intro kind hkind
    obtain ⟨handle, hhandle⟩ := Option.isSome_iff_exists.mp (Pairs.find?_isSome (hentered hkind))
    obtain ⟨pair, hpair, hkey, rfl⟩ := Pairs.exists_mem_of_find? hhandle
    exact ⟨pair.2, hhandle, (hc.host pair hpair).2.trans (Std.compare_eq_iff_eq.mp hkey).symm⟩
  refine ⟨?_, fun handle hhandle => ?_⟩
  · unfold ProcessContext.enteredHandles
    generalize c.entered = kinds at hfind
    induction kinds with
    | nil => rfl
    | cons kind rest ih =>
      obtain ⟨⟨handle, hhandle, hkind⟩, hrest⟩ := List.forall_mem_cons.mp hfind
      simp [hhandle, hkind, ih hrest]
  · obtain ⟨pair, hpair, rfl⟩ := mem_handles_of_entered hhandle
    exact (hc.host pair hpair).1

/-- A context that is through and has given its handles back. -/
def released (c : ProcessContext) : ProcessContext :=
  { c with state := .detached, hostHandles := [], targetHandles := [] }

@[simp] theorem handles_released : c.released.handles = [] := rfl

/-- What leaving the target's namespaces does: it tries to enter the caller's namespaces
again, goes home unless the mount namespace is lost, ends the scope and then only tells
and closes. -/
structure Departure (system : NamespaceSystem σ) (c : ProcessContext) (lost : Option CrawlError)
    (attempts : List Attempt) (homeward tail : List Entry) : Prop where
  /-- The caller's handles of all entered namespaces are tried. -/
  tried : attempts.map Attempt.handle = c.enteredHandles
  /-- Only the mount namespace can be lost. -/
  lost_eq : lost = (mountFailure attempts).map (.namespaceRestore .mnt)
  /-- The only way is home, and only if the mount namespace is not lost. -/
  homeward_cases : homeward = [] ∨
    ∃ path, c.homeDirectory = some path ∧ lost = none ∧ homeward = [.directoryChanged path]
  /-- If the caller knows its home it gets there, or the system refuses and this is told. -/
  home : ∀ path, lost = none → c.homeDirectory = some path →
    homeward = [.directoryChanged path] ∨
      ∃ w cause depth, (system.changeDirectory path w).1 = some cause ∧
        .noticed (.directoryNotRestored cause) depth ∈ tail
  /-- In the end handles are given back. -/
  concerns : Concerns tail [.notice, .closing]

/-- The entries of leaving the target's namespaces. -/
def departureTrace (attempts : List Attempt) (homeward tail : List Entry) : List Entry :=
  attempts.map Attempt.entry ++ (homeward ++ .resumed :: tail)

/-- Going home is written down if it succeeds. -/
private theorem goHome_cases {reachable : Bool} {failure : Option IoError}
    (h : goHome system c reachable s = (failure, s')) :
    ∃ homeward, (∀ held, s.Gains held homeward s' held) ∧
      ((homeward = [] ∧ (reachable = false ∨ c.homeDirectory = none ∨
          ∃ path cause w, c.homeDirectory = some path ∧ failure = some cause ∧
            (system.changeDirectory path w).1 = some cause)) ∨
        ∃ path, c.homeDirectory = some path ∧ reachable = true ∧
          homeward = [.directoryChanged path]) := by
  unfold goHome at h
  cases reachable with
  | false =>
    obtain ⟨rfl, rfl⟩ := Action.of_pure h
    exact ⟨[], .refl _, .inl ⟨rfl, .inl rfl⟩⟩
  | true =>
    cases hhome : c.homeDirectory with
    | none =>
      simp only [hhome] at h
      obtain ⟨rfl, rfl⟩ := Action.of_pure h
      exact ⟨[], .refl _, .inl ⟨rfl, .inr (.inl rfl)⟩⟩
    | some path =>
      simp only [hhome] at h
      obtain ⟨result, s₁, hask, h⟩ := Action.of_bind h
      have hanswer := (Action.of_ask hask).1
      cases result with
      | none =>
        obtain ⟨rfl, rfl⟩ := Prod.mk.inj h
        exact ⟨[.directoryChanged path], fun held => (Action.ask_gains hask held).trans
          (Action.record_gains (s := s₁) rfl held rfl), .inr ⟨path, rfl, rfl, rfl⟩⟩
      | some cause =>
        obtain ⟨rfl, rfl⟩ := Action.of_pure h
        exact ⟨[], Action.ask_gains hask,
          .inl ⟨rfl, .inr (.inr ⟨path, cause, s.world, rfl, rfl, hanswer.symm⟩)⟩⟩

/-- Closing all handles of a context leaves it without any. -/
private theorem closeAll_cases (h : closeAll system c s = (c', s')) :
    ∃ trace, Concerns trace [.closing, .notice] ∧
      c' = { c with hostHandles := [], targetHandles := [] } ∧
      ∀ held, c.handles.Nodup → (∀ handle ∈ c.handles, handle ∈ held) →
        s.Gains held trace s' (held \ c.handles.toFinset) := by
  obtain ⟨_, s₁, hclose, h⟩ := Action.of_bind h
  obtain ⟨rfl, rfl⟩ := Action.of_pure h
  obtain ⟨trace, hconcerns, hgains⟩ := Action.closeHandles_gains hclose
  exact ⟨trace, hconcerns, rfl, hgains⟩

/-- Detaching an attached context leaves the target and gives every handle back. -/
theorem detach_course {lost : Option CrawlError} (h : detach system c s = ((lost, c'), s'))
    (hc : c.state = .attached) :
    ∃ attempts homeward tail, Departure system c lost attempts homeward tail ∧
      c' = c.released ∧
      ∀ held, c.handles.Nodup → (∀ handle ∈ c.handles, handle ∈ held) →
        s.Gains held (departureTrace attempts homeward tail) s' (held \ c.handles.toFinset) := by
  rw [detach, if_neg (not_not.mpr hc)] at h
  obtain ⟨⟨lost', failures⟩, s₁, hreenter, h⟩ := Action.of_bind h
  obtain ⟨homeless, s₂, hhome, h⟩ := Action.of_bind h
  obtain ⟨_, s₃, hresume, h⟩ := Action.of_bind h
  obtain ⟨_, s₄, htell, h⟩ := Action.of_bind h
  obtain ⟨c₅, s₅, hclose, h⟩ := Action.of_bind h
  obtain ⟨hout, rfl⟩ := Action.of_pure h
  obtain ⟨rfl, rfl⟩ := Prod.mk.inj hout
  obtain ⟨attempts, htried, hlost, hgains₁⟩ := Action.reenter_gains hreenter
  obtain ⟨homeward, hgains₂, hhomeward⟩ := goHome_cases hhome
  obtain ⟨closing, hclosing, rfl, hgains₅⟩ := closeAll_cases hclose
  refine ⟨attempts, homeward,
    (c.departureNotices failures homeless).map (.noticed · s₃.depth) ++ closing,
    ⟨htried, by rw [hlost], ?_, ?_, ?_⟩, rfl, ?_⟩
  · rcases hhomeward with ⟨hnil, _⟩ | ⟨path, hpath, hreachable, hway⟩
    · exact .inl hnil
    · exact .inr ⟨path, hpath, by simpa using hreachable, hway⟩
  · intro path hnone hpath
    have hkept : lost' = none := Option.map_eq_none_iff.mp hnone
    rcases hhomeward with ⟨_, hcause⟩ | ⟨path', hpath', _, hway⟩
    · obtain ⟨cause, w, rfl, hrefused⟩ : ∃ cause w, homeless = some cause ∧
          (system.changeDirectory path w).1 = some cause := by
        simpa [hpath, hkept] using hcause
      exact .inr ⟨w, cause, s₃.depth, hrefused, by simp [departureNotices]⟩
    · obtain rfl : path' = path := Option.some.inj (hpath'.symm.trans hpath)
      exact .inl hway
  · refine Concerns.append ?_ (hclosing.mono (by simp))
    intro entry hentry
    obtain ⟨n, _, rfl⟩ := List.mem_map.mp hentry
    simp [Entry.topic]
  · intro held hnodup hheld
    have hentered : ∀ handle ∈ c.enteredHandles, handle ∈ held := by
      intro handle hhandle
      obtain ⟨pair, hpair, rfl⟩ := mem_handles_of_entered hhandle
      exact hheld _ (List.mem_append_left _ (List.mem_map_of_mem hpair))
    exact (hgains₁ held hentered).trans <| (hgains₂ held).trans <|
      (Action.resume_gains hresume held).trans <| (Action.notices_gains htell held).trans <|
        hgains₅ held hnodup hheld

/-- What an attached context is like: its handles come in pairs, and it entered only
namespaces of which it has handles. -/
structure Attached (c : ProcessContext) : Prop where
  /-- It is attached. -/
  state_eq : c.state = .attached
  /-- Its handles come in pairs. -/
  paired : c.Paired
  /-- It has handles of what it entered. -/
  entered_sublist : c.entered.Sublist c.openKinds

/-- The kinds of paired handles of the target. -/
theorem Paired.targetKinds (hc : c.Paired) :
    (c.targetHandles.map Prod.snd).map Handle.kind = c.openKinds := by
  rw [← hc.sameKinds, List.map_map]
  exact List.map_congr_left fun pair hpair => (hc.target pair hpair).2

/-- The handles are tried in order from the first on. -/
theorem EnterCourse.handles_prefix {handles : List Handle}
    (h : EnterCourse c handles failure c' attempts) : attempts.map Attempt.handle <+: handles := by
  rcases h.outcome with ⟨_, rfl, _⟩ | ⟨cause, earlier, last, untried, _, rfl, _, rfl⟩
  · exact List.prefix_rfl
  · exact ⟨untried, by simp⟩

/-- The namespaces are tried in joining order. -/
theorem EnterCourse.tried (h : EnterCourse c (c.targetHandles.map Prod.snd) failure c' attempts)
    (hc : c.Paired) :
    (attempts.map fun a => a.handle.kind) <+: c.openKinds := by
  have hkinds : attempts.map (fun a => a.handle.kind) =
      (attempts.map Attempt.handle).map Handle.kind := by simp
  rw [hkinds, ← hc.targetKinds]
  exact h.handles_prefix.map _

/-- Entering namespaces of paired handles leaves an attached context. If it had to stop,
the mount namespace was not entered. -/
theorem EnterCourse.attached (h : EnterCourse c (c.targetHandles.map Prod.snd) failure c' attempts)
    (hc : c.Paired) (hstate : c.state = .attached) (hentered : c.entered = []) :
    c'.Attached ∧ c'.entered = joinedKinds attempts ∧ (failure.isSome → .mnt ∉ c'.entered) := by
  have hjoined : c'.entered = joinedKinds attempts := by
    rw [h.frame]
    simp [hentered]
  have htried := h.tried hc
  refine ⟨⟨?_, ?_, ?_⟩, hjoined, fun hfailed hmnt => ?_⟩
  · rw [h.frame]
    exact hstate
  · rw [h.frame]
    exact ⟨hc.sameKinds, hc.increasing, hc.host, hc.target⟩
  · rw [hjoined]
    have hopen : c'.openKinds = c.openKinds := by rw [h.frame]; rfl
    rw [hopen]
    exact ((List.filter_sublist (l := attempts)).map _).trans htried.sublist
  · rcases h.outcome with ⟨hnone, _⟩ | ⟨cause, earlier, last, untried, _, rfl, hlast, _⟩
    · simp [hnone] at hfailed
    · have hincreasing := hc.increasing.sublist htried.sublist
      simp only [List.map_append, List.map_cons, List.map_nil, hlast] at hincreasing
      rw [hjoined] at hmnt
      obtain ⟨a, ha, hkind⟩ := List.mem_map.mp hmnt
      obtain ⟨ha, hjoin⟩ := List.mem_filter.mp ha
      rcases List.mem_append.mp ha with ha | ha
      · have hlt := (List.pairwise_append.mp hincreasing).2.2 a.handle.kind
          (List.mem_map_of_mem (f := fun a => a.handle.kind) ha) .mnt (by simp)
        rw [hkind] at hlt
        exact absurd hlt (Nat.lt_irrefl _)
      · obtain rfl := List.mem_singleton.mp ha
        simp at hjoin

/-- Where the mount namespace was not entered it cannot be lost. -/
theorem Departure.lost_eq_none {lost : Option CrawlError} {homeward tail : List Entry}
    (h : Departure system c lost attempts homeward tail) (hc : c.Attached)
    (hmnt : .mnt ∉ c.entered) : lost = none := by
  rw [h.lost_eq, Option.map_eq_none_iff, mountFailure_eq_none]
  intro a ha hkind
  have hmem : a.handle.kind ∈ c.enteredHandles.map Handle.kind := by
    rw [← h.tried, List.map_map]
    exact List.mem_map_of_mem (f := Handle.kind ∘ Attempt.handle) ha
  rw [(hc.paired.enteredHandles hc.entered_sublist.subset).1, hkind] at hmem
  exact absurd hmem hmnt

/-- A context that was not used, with the kinds to join in order. -/
structure Fresh (c : ProcessContext) : Prop where
  /-- It was not used. -/
  state_eq : c.state = .created
  /-- It has no handle of the caller's namespaces. -/
  hostHandles_eq : c.hostHandles = []
  /-- It has no handle of the target's namespaces. -/
  targetHandles_eq : c.targetHandles = []
  /-- It entered nothing. -/
  entered_eq : c.entered = []
  /-- Each kind is to be joined once, in joining order. -/
  increasing : Increasing c.requested

theorem new_fresh (pid : Int32) (kinds : List NamespaceKind) : (new pid kinds).Fresh :=
  ⟨rfl, rfl, rfl, rfl, NamespaceKind.joiningOrder_pairwise kinds⟩

/-- Noting the directory leaves a context fresh. -/
theorem Fresh.withHome (hc : c.Fresh) (home : Option String) :
    Fresh { c with homeDirectory := home } :=
  ⟨hc.state_eq, hc.hostHandles_eq, hc.targetHandles_eq, hc.entered_eq, hc.increasing⟩

theorem Fresh.openKinds_eq (hc : c.Fresh) : c.openKinds = [] := by
  simp [openKinds, hc.hostHandles_eq]

theorem Fresh.handles_eq (hc : c.Fresh) : c.handles = [] := by
  simp [handles, hc.hostHandles_eq, hc.targetHandles_eq]

theorem Fresh.paired (hc : c.Fresh) : c.Paired where
  sameKinds := by simp [hc.openKinds_eq, hc.targetHandles_eq]
  increasing := by simp [hc.openKinds_eq]
  host := by simp [hc.hostHandles_eq]
  target := by simp [hc.targetHandles_eq]

/-- Attaching opened every handle that it left open. -/
theorem OpenCourse.opened_of_fresh {kinds : List NamespaceKind} {opening : List Entry}
    (h : OpenCourse c kinds failure c' opening) (hc : c.Fresh) :
    ∀ handle ∈ c'.handles, .opened handle ∈ opening := by
  intro handle hhandle
  refine (h.opened handle hhandle).resolve_left ?_
  simp [hc.handles_eq]

/-- A fresh context is attached once its handles are opened and the target's entered. -/
theorem EnterCourse.attached_of_fresh {c₁ : ProcessContext} {stopped : Option CrawlError}
    {opening : List Entry}
    (h : EnterCourse { c₁ with state := .attached } (c₁.targetHandles.map Prod.snd) failure c'
      attempts)
    (hopen : OpenCourse c c.requested stopped c₁ opening) (hc : c.Fresh) :
    c'.Attached ∧ c'.entered = joinedKinds attempts ∧ (failure.isSome → .mnt ∉ c'.entered) := by
  refine h.attached (hopen.paired.withState .attached) rfl ?_
  rw [hopen.frame]
  exact hc.entered_eq

/-- What attaching a fresh context does. -/
inductive Arrival (system : NamespaceSystem σ) (c : ProcessContext) :
    Option CrawlError → ProcessContext → List Entry → Prop where
  /-- The mount namespace could not be opened, and all handles were given back. -/
  | unopened {c₁ : ProcessContext} {cause : IoError} {opening closing : List Entry}
      (hopen : OpenCourse c c.requested (some (.namespaceAttach .mnt cause)) c₁ opening)
      (hclose : Concerns closing [.closing, .notice]) :
      Arrival system c (some (.namespaceAttach .mnt cause)) c₁.released (opening ++ closing)
  /-- The target's namespaces were entered. -/
  | joined {c₁ c₂ : ProcessContext} {opening : List Entry} {attempts : List Attempt}
      (hopen : OpenCourse c c.requested none c₁ opening)
      (henter : EnterCourse { c₁ with state := .attached } (c₁.targetHandles.map Prod.snd) none c₂
        attempts) :
      Arrival system c none c₂ (opening ++ .suppressed :: attempts.map Attempt.entry)
  /-- The mount namespace could not be entered, and the others were left again. -/
  | turnedBack {c₁ c₂ : ProcessContext} {cause : IoError} {opening : List Entry}
      {attempts returns : List Attempt} {homeward tail : List Entry}
      (hopen : OpenCourse c c.requested none c₁ opening)
      (henter : EnterCourse { c₁ with state := .attached } (c₁.targetHandles.map Prod.snd)
        (some (.namespaceAttach .mnt cause)) c₂ attempts)
      (hreturn : Departure system c₂ none returns homeward tail) :
      Arrival system c (some (.namespaceAttach .mnt cause)) c₂.released
        (opening ++ .suppressed ::
          (attempts.map Attempt.entry ++ departureTrace returns homeward tail))

/-- Notices in front of the first request change nothing. -/
private theorem OpenCourse.afterNotices {kinds : List NamespaceKind} {first second : List Entry}
    (hfirst : Concerns first [.notice]) (h : OpenCourse c kinds failure c' second) :
    OpenCourse c kinds failure c' (first ++ second) where
  concerns := (hfirst.mono (by simp)).append h.concerns
  paired := h.paired
  openKinds_sublist := h.openKinds_sublist
  failure_cases := h.failure_cases
  handles_subset := h.handles_subset
  opened := fun handle hhandle =>
    (h.opened handle hhandle).imp_right fun hopened => List.mem_append_right _ hopened
  kept := by
    intro handle hopened
    rcases List.mem_append.mp hopened with hopened | hopened
    · have := hfirst _ hopened
      simp [Entry.topic] at this
    · exact h.kept handle hopened
  frame := h.frame

/-- The directory is noted if it can be told. -/
private theorem captureDirectory_cases {home : Option String}
    (h : captureDirectory system s = (home, s')) :
    home = (system.currentDirectory s.world).1.toOption ∧
      ∃ trace, Concerns trace [.notice] ∧ ∀ held, s.Gains held trace s' held := by
  obtain ⟨result, s₁, hask, h⟩ := Action.of_bind h
  obtain ⟨hresult, _⟩ := Action.of_ask hask
  rw [← hresult]
  cases result with
  | ok path =>
    obtain ⟨rfl, rfl⟩ := Action.of_pure h
    exact ⟨rfl, [], .nil _, Action.ask_gains hask⟩
  | error cause =>
    obtain ⟨_, s₂, hnotice, h⟩ := Action.of_bind h
    obtain ⟨rfl, rfl⟩ := Action.of_pure h
    exact ⟨rfl, _, by simp [Concerns, Entry.topic], fun held =>
      (Action.ask_gains hask held).trans (Action.notice_gains hnotice held)⟩

/-- Attaching a fresh context takes one of three courses. Handles that are held in the end
are those of the context. -/
theorem attach_course (h : attach system c s = ((failure, c'), s')) (hc : c.Fresh) :
    ∃ trace, Arrival system
        { c with homeDirectory := (system.currentDirectory s.world).1.toOption } failure c' trace ∧
      ∀ held, (s.ledger held).Sound →
        c'.handles.Nodup ∧ s.Gains held trace s' (held ∪ c'.handles.toFinset) := by
  rw [attach, if_neg (not_not.mpr hc.state_eq)] at h
  obtain ⟨home, s₁, hhome, h⟩ := Action.of_bind h
  obtain ⟨⟨stopped, c₁⟩, s₂, hopen, h⟩ := Action.of_bind h
  obtain ⟨rfl, first, hfirst, hgains₁⟩ := captureDirectory_cases hhome
  generalize hhomed : { c with homeDirectory := (system.currentDirectory s.world).1.toOption } = c₀
    at hopen ⊢
  have hc₀ : c₀.Fresh := hhomed ▸ hc.withHome _
  obtain ⟨second, hcourse, hgains₂⟩ := openAll_course hopen hc₀.paired
    (by rw [hc₀.openKinds_eq]; exact hc₀.increasing)
  replace hcourse := hcourse.afterNotices hfirst
  have hgains : ∀ held, (s.ledger held).Sound →
      c₁.handles.Nodup ∧ s.Gains held (first ++ second) s₂ (held ∪ c₁.handles.toFinset) := by
    intro held hsound
    obtain ⟨hnodup, hgains₂⟩ := hgains₂ held ((hgains₁ held).sound hsound)
      (by simp [hc₀.handles_eq]) (by simp [hc₀.handles_eq])
    exact ⟨hnodup, (hgains₁ held).trans hgains₂⟩
  -- The handles that were opened are new, so giving them back leaves what was held before.
  have hback (held : Finset Handle) (hsound : (s.ledger held).Sound) :
      (held ∪ c₁.handles.toFinset) \ c₁.handles.toFinset = held :=
    (hgains held hsound).2.union_sdiff_of_opened hsound (hcourse.opened_of_fresh hc₀)
  cases stopped with
  | some cause =>
    obtain ⟨c₃, s₃, hclose, h⟩ := Action.of_bind h
    obtain ⟨hout, rfl⟩ := Action.of_pure h
    obtain ⟨rfl, rfl⟩ := Prod.mk.inj hout
    obtain ⟨closing, hclosing, rfl, hgains₃⟩ := closeAll_cases hclose
    rcases hcourse.failure_cases with hnone | ⟨cause, hsome⟩
    · cases hnone
    · obtain rfl := Option.some.inj hsome
      have harrival : Arrival system c₀ _ c₁.released _ := .unopened hcourse hclosing
      refine ⟨_, harrival, fun held hsound => ⟨List.nodup_nil, ?_⟩⟩
      obtain ⟨hnodup, hheld⟩ := hgains held hsound
      have hclosed := hheld.trans (hgains₃ _ hnodup (by simp +contextual))
      rw [hback held hsound] at hclosed
      exact (Finset.union_empty held).symm ▸ hclosed
  | none =>
    obtain ⟨_, s₃, hsuppress, h⟩ := Action.of_bind h
    obtain ⟨⟨failed, c₄⟩, s₄, henter, h⟩ := Action.of_bind h
    obtain ⟨attempts, hentered, hgains₄⟩ := enterAll_course henter
    have hattached := hentered.attached_of_fresh hcourse hc₀
    have hsame : c₄.handles = c₁.handles := by rw [hentered.frame]; rfl
    have hjoin : ∀ held, (s.ledger held).Sound → s.Gains held
        ((first ++ second) ++ .suppressed :: attempts.map Attempt.entry) s₄
        (held ∪ c₁.handles.toFinset) := by
      intro held hsound
      refine (hgains held hsound).2.trans ((Action.suppress_gains hsuppress _).trans ?_)
      refine hgains₄ _ fun handle hhandle => Finset.mem_union_right _ (List.mem_toFinset.mpr ?_)
      exact List.mem_append_right _ hhandle
    cases failed with
    | none =>
      obtain ⟨hout, rfl⟩ := Action.of_pure h
      obtain ⟨rfl, rfl⟩ := Prod.mk.inj hout
      refine ⟨_, .joined hcourse hentered, fun held hsound => ?_⟩
      rw [hsame]
      exact ⟨(hgains held hsound).1, hjoin held hsound⟩
    | some cause =>
      obtain ⟨⟨lost, c₅⟩, s₅, hdetach, h⟩ := Action.of_bind h
      obtain ⟨hout, rfl⟩ := Action.of_pure h
      obtain ⟨rfl, rfl⟩ := Prod.mk.inj hout
      obtain ⟨returns, homeward, tail, hreturn, rfl, hgains₅⟩ :=
        detach_course hdetach hattached.1.state_eq
      obtain rfl := hreturn.lost_eq_none hattached.1 (hattached.2.2 rfl)
      obtain ⟨cause, rfl⟩ : ∃ reason, cause = .namespaceAttach .mnt reason := by
        rcases hentered.outcome with ⟨hnone, _⟩ | ⟨reason, _, _, _, hsome, _⟩
        · cases hnone
        · exact ⟨reason, Option.some.inj hsome⟩
      refine ⟨_, .turnedBack hcourse hentered hreturn, fun held hsound => ⟨List.nodup_nil, ?_⟩⟩
      have hreturned := (hjoin held hsound).trans
        (hgains₅ _ (hsame ▸ (hgains held hsound).1) (by rw [hsame]; simp +contextual))
      rw [hsame, hback held hsound] at hreturned
      rw [handles_released, List.toFinset_nil, Finset.union_empty]
      simpa using hreturned

/-- If attaching fails no handle is left. -/
theorem Arrival.handles_eq_nil {trace : List Entry} {cause : CrawlError}
    (h : Arrival system c (some cause) c' trace) : c'.handles = [] := by
  cases h with
  | unopened => rfl
  | turnedBack => rfl

/-- An attached context opened its handles. -/
theorem Arrival.opened {trace : List Entry} (h : Arrival system c none c' trace) (hc : c.Fresh) :
    ∀ handle ∈ c'.handles, .opened handle ∈ trace := by
  cases h with
  | @joined c₁ _ opening attempts hopen henter =>
    have hsame : c'.handles = c₁.handles := by rw [henter.frame]; rfl
    intro handle hhandle
    exact List.mem_append_left _ (hopen.opened_of_fresh hc handle (hsame ▸ hhandle))

/-- Entering the target's namespaces attaches the context. -/
theorem Arrival.attached {trace : List Entry} (h : Arrival system c none c' trace) (hc : c.Fresh) :
    c'.Attached := by
  cases h with
  | joined hopen henter => exact (henter.attached_of_fresh hopen hc).1

/-- A context that was used cannot be attached, and nothing happens. -/
theorem attach_of_used (hc : c.state ≠ .created) :
    attach system c s = ((some (.config (.contextUsed c.pid)), c), s) := by
  rw [attach, if_pos hc]
  rfl

/-- Detaching a context that is not attached only tells so. -/
theorem detach_of_idle (hc : c.state ≠ .attached) :
    detach system c s =
      ((none, c), s.record (.noticed (.detachedWithoutAttach c.pid c.state) s.depth)) := by
  rw [detach, if_pos hc]
  rfl

/-- Dropping a context that is not attached does nothing. -/
theorem drop_of_idle (hc : c.state ≠ .attached) : drop system c s = (.ok (), s) := by
  rw [drop, if_neg hc]
  rfl

/-- Dropping an attached context detaches it and ends the program if the mount namespace
is lost. -/
theorem drop_of_attached (hc : c.state = .attached) {lost : Option CrawlError}
    (h : detach system c s = ((lost, c'), s')) :
    (lost = none ∧ drop system c s = (.ok (), s')) ∨
      ∃ cause, lost = some cause ∧ drop system c s =
        (.error .aborted, s'.record (.noticed (.hostLost none cause) s'.depth)) := by
  rw [drop, if_pos hc, Call.perform_bind, h]
  cases lost with
  | none => exact .inl ⟨rfl, rfl⟩
  | some cause => exact .inr ⟨cause, rfl, rfl⟩

end ProcessContext

end Periscope
