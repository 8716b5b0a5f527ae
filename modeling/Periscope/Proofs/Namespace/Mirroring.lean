import Mathlib.Data.List.Forall2
import Periscope.Namespace.Context
import Periscope.Proofs.Mirroring

/-!
# Contexts over systems that mirror each other

Two systems that answer alike are joined and left alike. Handles may have other numbers in the
second session, so contexts correspond rather than agree.
-/

namespace Periscope

variable {σ τ : Type} {R : Session σ → Session τ → Prop} {H : Handle → Handle → Prop}
  {home : String → Prop}

/-- Two systems answer alike in sessions that are related. Directories that they are sent back
to are among those of `home`. -/
structure NamespaceSystem.Mirrors (R : Session σ → Session τ → Prop) (H : Handle → Handle → Prop)
    (home : String → Prop) (system : NamespaceSystem σ) (other : NamespaceSystem τ) : Prop where
  /-- The relation outlasts what is noted. -/
  outlasts : Session.Outlasts R H
  /-- Handles that correspond are of the same namespace. -/
  sameNamespace : ∀ {h h'}, H h h' → h.owner = h'.owner ∧ h.kind = h'.kind
  /-- Both open alike. -/
  openNamespace : ∀ owner kind, Action.Mirrors R Eq (Action.ask (system.openNamespace owner kind))
    (Action.ask (other.openNamespace owner kind))
  /-- Both enter alike. -/
  enterNamespace : ∀ {h h'}, H h h' → Action.Mirrors R Eq (Action.ask (system.enterNamespace h))
    (Action.ask (other.enterNamespace h'))
  /-- Both close alike. -/
  closeNamespace : ∀ {h h'}, H h h' → Action.Mirrors R Eq (Action.ask (system.closeNamespace h))
    (Action.ask (other.closeNamespace h'))
  /-- Both tell the same directory. -/
  currentDirectory : Action.Mirrors R (fun x y => x = y ∧ ∀ path, x = .ok path → home path)
    (Action.ask system.currentDirectory) (Action.ask other.currentDirectory)
  /-- Both change to a directory alike. -/
  changeDirectory : ∀ {path}, home path → Action.Mirrors R Eq
    (Action.ask (system.changeDirectory path)) (Action.ask (other.changeDirectory path))

/-- Handles by kind that correspond. -/
abbrev HandlesMirror (H : Handle → Handle → Prop) :
    List (NamespaceKind × Handle) → List (NamespaceKind × Handle) → Prop :=
  List.Forall₂ fun pair other => pair.1 = other.1 ∧ H pair.2 other.2

theorem HandlesMirror.insert {pairs others : List (NamespaceKind × Handle)}
    (h : HandlesMirror H pairs others) (kind : NamespaceKind) {handle handle' : Handle}
    (hnew : H handle handle') :
    HandlesMirror H (Pairs.insert kind handle pairs) (Pairs.insert kind handle' others) := by
  induction h with
  | nil => exact .cons ⟨rfl, hnew⟩ .nil
  | @cons pair other pairs others hhead hrest ih =>
    obtain ⟨key, old⟩ := pair
    obtain ⟨key', old'⟩ := other
    obtain ⟨rfl, hold⟩ : key = key' ∧ H old old' := hhead
    simp only [Pairs.insert]
    split
    · exact .cons ⟨rfl, hnew⟩ (.cons ⟨rfl, hold⟩ hrest)
    · exact .cons ⟨rfl, hnew⟩ hrest
    · exact .cons ⟨rfl, hold⟩ ih

/-- The same kinds are found, with handles that correspond. -/
theorem HandlesMirror.find? {pairs others : List (NamespaceKind × Handle)}
    (h : HandlesMirror H pairs others) (kind : NamespaceKind) :
    Option.Rel H (Pairs.find? kind pairs) (Pairs.find? kind others) := by
  induction h with
  | nil => exact .none
  | @cons pair other pairs others hhead _ ih =>
    simp only [Pairs.find?, ← hhead.1]
    split
    · exact .some hhead.2
    · exact ih

theorem HandlesMirror.handles {pairs others : List (NamespaceKind × Handle)}
    (h : HandlesMirror H pairs others) :
    List.Forall₂ H (pairs.map Prod.snd) (others.map Prod.snd) :=
  List.forall₂_map_left_iff.mpr (List.forall₂_map_right_iff.mpr (h.imp fun _ _ hpair => hpair.2))

/-- Contexts that agree but for their handles, which correspond. -/
structure ProcessContext.Mirrors (H : Handle → Handle → Prop) (home : String → Prop)
    (c c' : ProcessContext) : Prop where
  /-- Handles apart they agree. -/
  frame : c' = { c with hostHandles := c'.hostHandles, targetHandles := c'.targetHandles }
  /-- The caller's handles correspond. -/
  host : HandlesMirror H c.hostHandles c'.hostHandles
  /-- The target's handles correspond. -/
  target : HandlesMirror H c.targetHandles c'.targetHandles
  /-- The way home is one of those that are known. -/
  home : ∀ path, c.homeDirectory = some path → home path

/-- The second context is the first with other handles. -/
theorem ProcessContext.Mirrors.exists_eq {c c' : ProcessContext} (h : c.Mirrors H home c') :
    ∃ hosts targets, c' = { c with hostHandles := hosts, targetHandles := targets } :=
  ⟨_, _, h.frame⟩

/-- Contexts with the same handles that correspond are the same. -/
theorem ProcessContext.Mirrors.eq {c c' : ProcessContext} (h : c.Mirrors Eq home c') : c = c' := by
  have heq {pairs others : List (NamespaceKind × Handle)} (h : HandlesMirror Eq pairs others) :
      pairs = others := List.forall₂_eq_eq_eq ▸ h.imp fun _ _ hpair => Prod.ext hpair.1 hpair.2
  rw [h.frame, ← heq h.host, ← heq h.target]

/-- The caller's handles of the namespaces that were entered correspond. -/
theorem ProcessContext.Mirrors.enteredHandles {c c' : ProcessContext} (hc : c.Mirrors H home c') :
    List.Forall₂ H c.enteredHandles c'.enteredHandles := by
  have hentered : c'.entered = c.entered := by rw [hc.frame]
  rw [ProcessContext.enteredHandles, ProcessContext.enteredHandles, hentered]
  induction c.entered with
  | nil => exact .nil
  | cons kind rest ih =>
    have hfind := hc.host.find? kind
    rw [List.filterMap_cons, List.filterMap_cons]
    generalize Pairs.find? kind c.hostHandles = x at hfind
    generalize Pairs.find? kind c'.hostHandles = y at hfind
    cases hfind with
    | none => exact ih
    | some hh => exact .cons hh ih

/-- Two attempts to get something fail alike, or get things that correspond. -/
inductive Obtained {α β : Type} (V : α → β → Prop) :
    Except IoError α → Except IoError β → Prop where
  /-- Both fail. -/
  | error (cause : IoError) : Obtained V (.error cause) (.error cause)
  /-- Both succeed. -/
  | ok {x : α} {y : β} (h : V x y) : Obtained V (.ok x) (.ok y)

variable {system : NamespaceSystem σ} {other : NamespaceSystem τ}
  (hsys : system.Mirrors R H home other)
include hsys

namespace Action

theorem notices_mirrors (list : List Notice) : Mirrors R Eq (notices list) (notices list) := by
  induction list with
  | nil => exact .pure rfl
  | cons n rest ih => exact (Mirrors.notice hsys.outlasts n).bindEq fun _ => ih

theorem openNamespace_mirrors (owner : Owner) (kind : NamespaceKind) :
    Mirrors R (Obtained H) (openNamespace system owner kind) (openNamespace other owner kind) := by
  refine (hsys.openNamespace owner kind).bindEq fun failure => ?_
  cases failure with
  | some cause =>
    exact (Mirrors.record hsys.outlasts (.openFailed owner kind)).bindEq fun _ =>
      .pure (.error cause)
  | none =>
    intro s t hst
    obtain ⟨hhandle, hst⟩ := hsys.outlasts.number hst owner kind
    exact ⟨.ok hhandle, hsys.outlasts.recordHandle hst hhandle .opened⟩

variable {h h' : Handle}

theorem enterNamespace_mirrors (hh : H h h') :
    Mirrors R Eq (enterNamespace system h) (enterNamespace other h') := by
  refine (hsys.enterNamespace hh).bindEq fun failure => ?_
  refine Mirrors.bindEq ?_ fun _ => .pure rfl
  cases failure with
  | some cause => exact .recordHandle hsys.outlasts hh .enterFailed
  | none => exact .recordHandle hsys.outlasts hh .entered

theorem closeNamespace_mirrors (hh : H h h') :
    Mirrors R Eq (closeNamespace system h) (closeNamespace other h') := by
  refine (hsys.closeNamespace hh).bindEq fun failure => ?_
  cases failure with
  | some cause =>
    refine (Mirrors.recordHandle hsys.outlasts hh .closeFailed).bindEq fun _ => ?_
    rw [(hsys.sameNamespace hh).2]
    exact .notice hsys.outlasts _
  | none => exact .recordHandle hsys.outlasts hh .closed

theorem closeHandles_mirrors {handles others : List Handle} (hall : List.Forall₂ H handles others) :
    Mirrors R Eq (closeHandles system handles) (closeHandles other others) := by
  induction hall with
  | nil => exact .pure rfl
  | cons hh _ ih => exact (closeNamespace_mirrors hsys hh).bindEq fun _ => ih

theorem openPair_mirrors (pid : Int32) (kind : NamespaceKind) :
    Mirrors R (Obtained fun x y => H x.1 y.1 ∧ H x.2 y.2) (openPair system pid kind)
      (openPair other pid kind) := by
  refine (openNamespace_mirrors hsys .caller kind).bind fun x y hhost => ?_
  cases hhost with
  | error cause => exact .pure (.error cause)
  | ok hhost =>
    refine (openNamespace_mirrors hsys (.process pid) kind).bind fun x y htarget => ?_
    cases htarget with
    | error cause => exact (closeNamespace_mirrors hsys hhost).bindEq fun _ => .pure (.error cause)
    | ok htarget => exact .pure (.ok ⟨hhost, htarget⟩)

theorem reenter_mirrors {handles others : List Handle} (hall : List.Forall₂ H handles others) :
    Mirrors R Eq (reenter system handles) (reenter other others) := by
  induction hall with
  | nil => exact .pure rfl
  | cons hh _ ih =>
    refine (enterNamespace_mirrors hsys hh).bindEq fun failure => ih.bindEq fun rest => ?_
    obtain ⟨lost, failures⟩ := rest
    refine .pure ?_
    rw [(hsys.sameNamespace hh).2]

end Action

namespace ProcessContext

open Periscope.Action

variable {c c' : ProcessContext}

/-- What joining or leaving returns: the same failure, if any, and contexts that correspond. -/
abbrev ResultMirrors (H : Handle → Handle → Prop) (home : String → Prop)
    (x y : Option CrawlError × ProcessContext) : Prop :=
  x.1 = y.1 ∧ x.2.Mirrors H home y.2

theorem openAll_mirrors (kinds : List NamespaceKind) (hc : c.Mirrors H home c') :
    Action.Mirrors R (ResultMirrors H home) (openAll system kinds c)
      (openAll other kinds c') := by
  induction kinds generalizing c c' with
  | nil => exact .pure ⟨rfl, hc⟩
  | cons kind rest ih =>
    have hpid : c'.pid = c.pid := by rw [hc.frame]
    have hopen := openPair_mirrors hsys c.pid kind
    rw [openAll, openAll, hpid]
    refine hopen.bind fun x y hpair => ?_
    cases hpair with
    | @ok x y hpair =>
      refine ih ⟨?_, hc.host.insert kind hpair.1, hc.target.insert kind hpair.2, hc.home⟩
      rw [hc.frame]
    | error cause =>
      dsimp only
      split
      · exact .pure ⟨rfl, hc⟩
      · refine (Action.Mirrors.notice hsys.outlasts _).bindEq fun _ => ih ⟨?_, hc.host, hc.target,
          hc.home⟩
        rw [hc.frame]

theorem enterAll_mirrors {handles others : List Handle} (hall : List.Forall₂ H handles others)
    (hc : c.Mirrors H home c') :
    Action.Mirrors R (ResultMirrors H home) (enterAll system handles c)
      (enterAll other others c') := by
  induction hall generalizing c c' with
  | nil => exact .pure ⟨rfl, hc⟩
  | @cons handle handle' _ _ hh _ ih =>
    have hkind := (hsys.sameNamespace hh).2
    refine (enterNamespace_mirrors hsys hh).bindEq fun failure => ?_
    cases failure with
    | none =>
      refine ih ⟨?_, hc.host, hc.target, hc.home⟩
      rw [hc.frame, hkind]
    | some cause =>
      dsimp only
      rw [hkind]
      split
      · exact .pure ⟨rfl, hc⟩
      · refine ih ⟨?_, hc.host, hc.target, hc.home⟩
        rw [hc.frame]

theorem closeAll_mirrors (hc : c.Mirrors H home c') :
    Action.Mirrors R (ProcessContext.Mirrors H home) (closeAll system c) (closeAll other c') := by
  refine (closeHandles_mirrors hsys (List.rel_append hc.host.handles hc.target.handles)).bindEq
    fun _ => .pure ⟨?_, .nil, .nil, hc.home⟩
  rw [hc.frame]

theorem goHome_mirrors (hc : c.Mirrors H home c') (reachable : Bool) :
    Action.Mirrors R Eq (goHome system c reachable) (goHome other c' reachable) := by
  have hsame : c'.homeDirectory = c.homeDirectory := by rw [hc.frame]
  unfold goHome
  rw [hsame]
  split
  · next path hpath =>
    refine (hsys.changeDirectory (hc.home path hpath)).bindEq fun failure => ?_
    cases failure with
    | some cause => exact .pure rfl
    | none =>
      exact (Action.Mirrors.record hsys.outlasts (.directoryChanged path)).bindEq fun _ => .pure rfl
  · exact .pure rfl

theorem detach_mirrors (hc : c.Mirrors H home c') :
    Action.Mirrors R (ResultMirrors H home) (detach system c) (detach other c') := by
  obtain ⟨hosts, targets, rfl⟩ := hc.exists_eq
  rw [detach, detach]
  split
  · exact (Action.Mirrors.notice hsys.outlasts _).bindEq fun _ => .pure ⟨rfl, hc⟩
  · refine (reenter_mirrors hsys hc.enteredHandles).bindEq fun failed => ?_
    obtain ⟨lost, failures⟩ := failed
    refine (goHome_mirrors hsys hc lost.isNone).bindEq fun homeless => ?_
    refine (Action.Mirrors.resume hsys.outlasts).bindEq fun _ => ?_
    refine (notices_mirrors hsys _).bindEq fun _ => ?_
    have hleft : ProcessContext.Mirrors H home { c with state := .detached }
        { c with state := .detached, hostHandles := hosts, targetHandles := targets } :=
      ⟨rfl, hc.host, hc.target, hc.home⟩
    exact (closeAll_mirrors hsys hleft).bind fun x y hxy => .pure ⟨rfl, hxy⟩

theorem captureDirectory_mirrors :
    Action.Mirrors R (fun x y => x = y ∧ ∀ path, x = some path → home path)
      (captureDirectory system) (captureDirectory other) := by
  refine hsys.currentDirectory.bind fun x y hxy => ?_
  obtain ⟨rfl, hhome⟩ := hxy
  cases x with
  | ok path =>
    exact .pure ⟨rfl, fun other hother => hhome other (congrArg _ (Option.some.inj hother))⟩
  | error cause =>
    exact (Action.Mirrors.notice hsys.outlasts _).bindEq fun _ => .pure ⟨rfl, by simp⟩

/-- Attaching contexts that correspond comes to the same, and to contexts that correspond. -/
theorem attach_mirrors (hc : c.Mirrors H home c') :
    Action.Mirrors R (ResultMirrors H home) (attach system c) (attach other c') := by
  obtain ⟨hosts, targets, rfl⟩ := hc.exists_eq
  rw [attach, attach]
  split
  · exact .pure ⟨rfl, hc⟩
  · refine (captureDirectory_mirrors hsys).bind fun x y hxy => ?_
    obtain ⟨rfl, hhome⟩ := hxy
    have hhomed : ProcessContext.Mirrors H home { c with homeDirectory := x }
        { c with homeDirectory := x, hostHandles := hosts, targetHandles := targets } :=
      ⟨rfl, hc.host, hc.target, hhome⟩
    refine (openAll_mirrors hsys c.requested hhomed).bind fun x y hxy => ?_
    obtain ⟨stopped, c₁⟩ := x
    obtain ⟨stopped', c₁'⟩ := y
    obtain ⟨rfl, hc₁⟩ : stopped = stopped' ∧ c₁.Mirrors H home c₁' := hxy
    cases stopped with
    | some failure =>
      refine (closeAll_mirrors hsys hc₁).bind fun x y hxy =>
        .pure ⟨rfl, ?_, hxy.host, hxy.target, hxy.home⟩
      rw [hxy.frame]
    | none =>
      refine (Action.Mirrors.suppress hsys.outlasts).bindEq fun _ => ?_
      have hattached : ProcessContext.Mirrors H home { c₁ with state := .attached }
          { c₁' with state := .attached } :=
        ⟨by rw [hc₁.frame], hc₁.host, hc₁.target, hc₁.home⟩
      refine (enterAll_mirrors hsys hc₁.target.handles hattached).bind fun x y hxy => ?_
      obtain ⟨failed, c₂⟩ := x
      obtain ⟨failed', c₂'⟩ := y
      obtain ⟨rfl, hc₂⟩ : failed = failed' ∧ c₂.Mirrors H home c₂' := hxy
      cases failed with
      | none => exact .pure ⟨rfl, hc₂⟩
      | some failure =>
        refine (detach_mirrors hsys hc₂).bind fun x y hxy => .pure ⟨?_, hxy.2⟩
        rw [hxy.1]

/-- Giving up contexts that correspond comes to the same. -/
theorem drop_mirrors (hc : c.Mirrors H home c') :
    Call.Mirrors R (drop system c) (drop other c') := by
  have hstate : c'.state = c.state := by rw [hc.frame]
  rw [drop, drop, hstate]
  split
  · refine Call.Mirrors.performBind (detach_mirrors hsys hc) fun x y hxy => ?_
    obtain ⟨lost, c₁⟩ := x
    obtain ⟨lost', c₁'⟩ := y
    obtain ⟨rfl, _⟩ : lost = lost' ∧ c₁.Mirrors H home c₁' := hxy
    cases lost with
    | none => exact .pure ()
    | some cause =>
      exact Call.Mirrors.performBindEq (.notice hsys.outlasts _) fun _ => .halt .aborted
  · exact .pure ()

end ProcessContext

end Periscope
