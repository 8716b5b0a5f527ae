import Periscope.Proofs.Namespace.Custody
import Periscope.Proofs.Namespace.Mirroring

/-!
# Listening to a system

A listener beside the world notes what the system answers and disturbs nothing. The journal tells
the same as its notes: of each namespace that was asked for, entered or closed whether this was
granted, in order, and of readers and workers that they were started. A deed that was heard of is
owed to the journal until it is written down, and every program here settles what it owes.
-/

namespace Periscope

variable {σ ν α β γ : Type}

/-- An answer to a request about a namespace: why it was refused, if it was. -/
inductive NamespaceAnswer where
  /-- To opening a namespace. -/
  | opening (owner : Owner) (kind : NamespaceKind) (refusal : Option IoError)
  /-- To entering the namespace of a handle. -/
  | entering (handle : Handle) (refusal : Option IoError)
  /-- To closing a handle. -/
  | closing (handle : Handle) (refusal : Option IoError)

/-- The system with a listener that makes a note of every answer about a namespace. -/
def NamespaceSystem.overheard (toNote : NamespaceAnswer → ν) (system : NamespaceSystem σ) :
    NamespaceSystem (σ × List ν) where
  openNamespace owner kind := noted (fun refusal => toNote (.opening owner kind refusal))
    (system.openNamespace owner kind)
  enterNamespace handle := noted (fun refusal => toNote (.entering handle refusal))
    (system.enterNamespace handle)
  closeNamespace handle := noted (fun refusal => toNote (.closing handle refusal))
    (system.closeNamespace handle)
  currentDirectory := besideNotes system.currentDirectory
  changeDirectory path := besideNotes (system.changeDirectory path)

/-- The listener disturbs nothing. -/
theorem NamespaceSystem.overheard_mirrors (toNote : NamespaceAnswer → ν)
    (system : NamespaceSystem σ) :
    system.Mirrors Session.Beside Eq (fun _ => True) (system.overheard toNote) where
  outlasts := Session.Beside.outlasts
  sameNamespace := by
    rintro h _ rfl
    exact ⟨rfl, rfl⟩
  openNamespace owner kind := .noted (fun refusal => toNote (.opening owner kind refusal)) _
  enterNamespace := by
    rintro h _ rfl
    exact .noted (fun refusal => toNote (.entering h refusal)) _
  closeNamespace := by
    rintro h _ rfl
    exact .noted (fun refusal => toNote (.closing h refusal)) _
  currentDirectory := by
    rintro s t rfl
    exact ⟨⟨rfl, fun _ _ => trivial⟩, rfl⟩
  changeDirectory _ := .besideNotes _

/-- An answer of the system about namespaces or workers. -/
inductive SystemAnswer where
  /-- About a namespace. -/
  | namespaces (answer : NamespaceAnswer)
  /-- To starting a reader: why it was refused, if it was. -/
  | reader (refusal : Option IoError)
  /-- To starting a worker. -/
  | worker (refusal : Option IoError)

/-- What the system was asked for, and whether it granted that. -/
inductive Deed where
  /-- To open a namespace. -/
  | opening (owner : Owner) (kind : NamespaceKind) (granted : Bool)
  /-- To enter the namespace of a handle. -/
  | entering (handle : Handle) (granted : Bool)
  /-- To close a handle. -/
  | closing (handle : Handle) (granted : Bool)
  /-- To start a reader, which it did. -/
  | reader
  /-- To start a worker, which it did. -/
  | worker

/-- What an answer is about. Readers and workers that were refused count for nothing. -/
def SystemAnswer.deed? : SystemAnswer → Option Deed
  | .namespaces (.opening owner kind refusal) => some (.opening owner kind refusal.isNone)
  | .namespaces (.entering handle refusal) => some (.entering handle refusal.isNone)
  | .namespaces (.closing handle refusal) => some (.closing handle refusal.isNone)
  | .reader none => some .reader
  | .worker none => some .worker
  | .reader (some _) | .worker (some _) => none

/-- What an entry is about. -/
def Entry.deed? : Entry → Option Deed
  | .opened handle => some (.opening handle.owner handle.kind true)
  | .openFailed owner kind => some (.opening owner kind false)
  | .entered handle => some (.entering handle true)
  | .enterFailed handle => some (.entering handle false)
  | .closed handle => some (.closing handle true)
  | .closeFailed handle => some (.closing handle false)
  | .readerStarted => some .reader
  | .workerStarted => some .worker
  | _ => none

/-- Entries tell the same as the answers that were heard. -/
def Tells (trace : List Entry) (heard : List SystemAnswer) : Prop :=
  trace.filterMap Entry.deed? = heard.filterMap SystemAnswer.deed?

namespace Tells

variable {trace : List Entry} {heard : List SystemAnswer}

theorem deed_mem_iff (h : Tells trace heard) (deed : Deed) :
    (∃ entry ∈ trace, entry.deed? = some deed) ↔ ∃ answer ∈ heard, answer.deed? = some deed := by
  rw [← List.mem_filterMap, h, List.mem_filterMap]

/-- An entering that is written down as refused was refused. -/
theorem enterFailed_mem_iff (h : Tells trace heard) (handle : Handle) :
    .enterFailed handle ∈ trace ↔
      ∃ cause, .namespaces (.entering handle (some cause)) ∈ heard := by
  have hentry (entry : Entry) :
      entry.deed? = some (.entering handle false) ↔ entry = .enterFailed handle := by
    cases entry <;> simp [Entry.deed?]
  have hanswer (answer : SystemAnswer) : answer.deed? = some (.entering handle false) ↔
      ∃ cause, answer = .namespaces (.entering handle (some cause)) := by
    rcases answer with ⟨_ | ⟨_, _ | _⟩ | _⟩ | ⟨_ | _⟩ | ⟨_ | _⟩ <;> simp [SystemAnswer.deed?]
  have hdeed := h.deed_mem_iff (.entering handle false)
  simp only [hentry, hanswer] at hdeed
  simpa [and_comm] using hdeed

/-- A worker that is written down as started was granted. -/
theorem workerStarted_mem_iff (h : Tells trace heard) :
    .workerStarted ∈ trace ↔ .worker none ∈ heard := by
  have hentry (entry : Entry) : entry.deed? = some .worker ↔ entry = .workerStarted := by
    cases entry <;> simp [Entry.deed?]
  have hanswer (answer : SystemAnswer) :
      answer.deed? = some .worker ↔ answer = .worker none := by
    rcases answer with ⟨_ | ⟨_, _ | _⟩ | _⟩ | ⟨_ | _⟩ | ⟨_ | _⟩ <;> simp [SystemAnswer.deed?]
  have hdeed := h.deed_mem_iff .worker
  simp only [hentry, hanswer] at hdeed
  simpa using hdeed

end Tells

/-- From one session to the other the deeds that were owed are written down, and then those that
were heard of meanwhile. -/
def Session.Settled (owed : List Deed) (s s' : Session (σ × List SystemAnswer)) : Prop :=
  ∃ trace heard, s'.journal = s.journal ++ trace ∧ s'.world.2 = s.world.2 ++ heard ∧
    trace.filterMap Entry.deed? = owed ++ heard.filterMap SystemAnswer.deed?

namespace Session.Settled

variable {owed : List Deed} {s s₁ s' : Session (σ × List SystemAnswer)}

/-- Where nothing is written down and nothing is heard, nothing is owed. -/
theorem of_silent (hjournal : s'.journal = s.journal) (hworld : s'.world.2 = s.world.2) :
    Settled [] s s' := ⟨[], [], by simp [hjournal], by simp [hworld], rfl⟩

theorem trans (h : Settled owed s s₁) (h' : Settled [] s₁ s') : Settled owed s s' := by
  obtain ⟨first, heard, hjournal, hworld, hfirst⟩ := h
  obtain ⟨second, heard', hjournal', hworld', hsecond⟩ := h'
  refine ⟨first ++ second, heard ++ heard', ?_, ?_, ?_⟩
  · rw [hjournal', hjournal, List.append_assoc]
  · rw [hworld', hworld, List.append_assoc]
  · rw [List.filterMap_append, hfirst, hsecond, List.filterMap_append, List.append_assoc]
    rfl

end Session.Settled

/-- An action settles what it owes in every session. -/
def Action.Settles (owed : List Deed) (a : Action (σ × List SystemAnswer) α) : Prop :=
  ∀ s : Session (σ × List SystemAnswer), s.Settled owed (a s).2

namespace Action

section Steps

variable {owed : List Deed} {a : Action (σ × List SystemAnswer) α}
  {f : α → Action (σ × List SystemAnswer) β}

theorem Settles.pure (x : α) : Settles [] (pure x : Action (σ × List SystemAnswer) α) :=
  fun _ => .of_silent rfl rfl

theorem Settles.bind (h : Settles owed a) (hthen : ∀ x, Settles [] (f x)) :
    Settles owed (a >>= f) := fun s => (h s).trans (hthen (a s).1 (a s).2)

/-- What is asked beside the notes is not heard. -/
theorem Settles.besideNotes (answer : σ → α × σ) :
    Settles [] (ask (besideNotes answer) : Action (σ × List SystemAnswer) α) :=
  fun _ => .of_silent rfl rfl

theorem Settles.record (entry : Entry) :
    Settles entry.deed?.toList (Action.record entry : Action (σ × List SystemAnswer) Unit) := by
  intro s
  refine ⟨[entry], [], rfl, (List.append_nil _).symm, ?_⟩
  cases hdeed : entry.deed? <;> simp [hdeed]

theorem Settles.notice (n : Notice) :
    Settles [] (Action.notice n : Action (σ × List SystemAnswer) Unit) :=
  fun s => ⟨[.noticed n s.depth], [], rfl, (List.append_nil _).symm, rfl⟩

/-- An answer that is heard is owed to the journal. -/
theorem Settles.notedBind (toNote : α → SystemAnswer) (answer : σ → α × σ)
    (h : ∀ x, Settles (toNote x).deed?.toList (f x)) :
    Settles [] (ask (noted toNote answer) >>= f) := by
  intro s
  obtain ⟨trace, heard, hjournal, hworld, htold⟩ := h (answer s.world.1).1
    { s with world := (noted toNote answer s.world).2 }
  refine ⟨trace, toNote (answer s.world.1).1 :: heard, hjournal, ?_, ?_⟩
  · rw [List.append_cons]
    exact hworld
  · rw [htold]
    cases hdeed : (toNote (answer s.world.1).1).deed? <;> simp [hdeed]

end Steps

variable (system : NamespaceSystem σ)

theorem openNamespace_settles (owner : Owner) (kind : NamespaceKind) :
    Settles [] (openNamespace (system.overheard .namespaces) owner kind) := by
  refine Settles.notedBind (fun refusal => .namespaces (.opening owner kind refusal)) _
    fun failure => ?_
  cases failure with
  | some cause => exact (Settles.record (.openFailed owner kind)).bind fun _ => .pure _
  | none => exact fun s =>
      ⟨[.opened ⟨s.nextHandle, owner, kind⟩], [], rfl, (List.append_nil _).symm, rfl⟩

theorem enterNamespace_settles (handle : Handle) :
    Settles [] (enterNamespace (system.overheard .namespaces) handle) := by
  refine Settles.notedBind (fun refusal => .namespaces (.entering handle refusal)) _
    fun failure => ?_
  cases failure with
  | some cause => exact (Settles.record (.enterFailed handle)).bind fun _ => .pure _
  | none => exact (Settles.record (.entered handle)).bind fun _ => .pure _

theorem closeNamespace_settles (handle : Handle) :
    Settles [] (closeNamespace (system.overheard .namespaces) handle) := by
  refine Settles.notedBind (fun refusal => .namespaces (.closing handle refusal)) _
    fun failure => ?_
  cases failure with
  | some cause => exact (Settles.record (.closeFailed handle)).bind fun _ => .notice _
  | none => exact .record (.closed handle)

theorem closeHandles_settles (handles : List Handle) :
    Settles [] (closeHandles (system.overheard .namespaces) handles) := by
  induction handles with
  | nil => exact .pure ()
  | cons handle rest ih => exact (closeNamespace_settles system handle).bind fun _ => ih

theorem openPair_settles (pid : Int32) (kind : NamespaceKind) :
    Settles [] (openPair (system.overheard .namespaces) pid kind) := by
  refine (openNamespace_settles system .caller kind).bind fun host => ?_
  cases host with
  | error cause => exact .pure _
  | ok host =>
    refine (openNamespace_settles system (.process pid) kind).bind fun target => ?_
    cases target with
    | ok target => exact .pure _
    | error cause => exact (closeNamespace_settles system host).bind fun _ => .pure _

theorem reenter_settles (handles : List Handle) :
    Settles [] (reenter (system.overheard .namespaces) handles) := by
  induction handles with
  | nil => exact .pure _
  | cons handle rest ih =>
    exact (enterNamespace_settles system handle).bind fun _ => ih.bind fun _ => .pure _

theorem notices_settles (list : List Notice) :
    Settles [] (notices list : Action (σ × List SystemAnswer) Unit) := by
  induction list with
  | nil => exact .pure ()
  | cons n rest ih => exact (Settles.notice n).bind fun _ => ih

end Action

/-- A call settles what it owes, whether it comes to its end or not. -/
def Call.Settles (owed : List Deed) (a : Call (σ × List SystemAnswer) α) : Prop :=
  ∀ s : Session (σ × List SystemAnswer), s.Settled owed (a s).2

namespace Call.Settles

variable {owed : List Deed} {a : Call (σ × List SystemAnswer) α}
  {f : α → Call (σ × List SystemAnswer) β} {b : Action (σ × List SystemAnswer) α}

theorem pure (x : α) : Settles [] (pure x : Call (σ × List SystemAnswer) α) :=
  fun _ => .of_silent rfl rfl

theorem halt (cause : Halt) : Settles [] (halt cause : Call (σ × List SystemAnswer) α) :=
  fun _ => .of_silent rfl rfl

theorem bind (h : Settles owed a) (hthen : ∀ x, Settles [] (f x)) : Settles owed (a >>= f) := by
  intro s
  rw [bind_apply]
  cases (a s).1 with
  | ok x => exact (h s).trans (hthen x (a s).2)
  | error cause => exact h s

/-- An action in front of a call. -/
theorem performBind (h : Action.Settles owed b) (hthen : ∀ x, Settles [] (f x)) :
    Settles owed (perform b >>= f) := fun s => (h s).trans (hthen (b s).1 (b s).2)

/-- An answer that is heard is owed to the journal. -/
theorem notedBind {answer : σ → γ × σ} {g : γ → Call (σ × List SystemAnswer) β}
    (toNote : γ → SystemAnswer) (h : ∀ x, Settles (toNote x).deed?.toList (g x)) :
    Settles [] (perform (Action.ask (noted toNote answer)) >>= g) :=
  Action.Settles.notedBind toNote answer h

/-- A call with a handler. -/
theorem tryCatch {g : Halt → Call (σ × List SystemAnswer) α} (h : Settles owed a)
    (hcatch : ∀ cause, Settles [] (g cause)) : Settles owed (tryCatch a g) := by
  intro s
  have hfirst := h s
  generalize hrun : a s = out at hfirst
  obtain ⟨r, s₁⟩ := out
  cases r with
  | ok x =>
    rw [tryCatch_of_ok hrun]
    exact hfirst
  | error cause =>
    rw [tryCatch_of_error hrun]
    exact hfirst.trans (hcatch cause s₁)

end Call.Settles

namespace ProcessContext

open Periscope.Action

variable (system : NamespaceSystem σ)

theorem openAll_settles (kinds : List NamespaceKind) (c : ProcessContext) :
    Settles [] (openAll (system.overheard .namespaces) kinds c) := by
  induction kinds generalizing c with
  | nil => exact .pure _
  | cons kind rest ih =>
    refine (openPair_settles system c.pid kind).bind fun pair => ?_
    cases pair with
    | ok pair => exact ih _
    | error cause =>
      dsimp only
      split
      · exact .pure _
      · exact (Settles.notice _).bind fun _ => ih _

theorem enterAll_settles (handles : List Handle) (c : ProcessContext) :
    Settles [] (enterAll (system.overheard .namespaces) handles c) := by
  induction handles generalizing c with
  | nil => exact .pure _
  | cons handle rest ih =>
    refine (enterNamespace_settles system handle).bind fun failure => ?_
    cases failure with
    | none => exact ih _
    | some cause =>
      dsimp only
      split
      · exact .pure _
      · exact ih _

theorem closeAll_settles (c : ProcessContext) :
    Settles [] (closeAll (system.overheard .namespaces) c) :=
  (closeHandles_settles system c.handles).bind fun _ => .pure _

theorem goHome_settles (c : ProcessContext) (reachable : Bool) :
    Settles [] (goHome (system.overheard .namespaces) c reachable) := by
  unfold goHome
  split
  · next path _ =>
    refine (Settles.besideNotes (system.changeDirectory path)).bind fun failure => ?_
    cases failure with
    | some cause => exact .pure _
    | none => exact (Settles.record (.directoryChanged path)).bind fun _ => .pure _
  · exact .pure _

theorem detach_settles (c : ProcessContext) :
    Settles [] (detach (system.overheard .namespaces) c) := by
  have hresume : Settles [] (resume : Action (σ × List SystemAnswer) Unit) :=
    fun s => ⟨[.resumed], [], rfl, (List.append_nil _).symm, rfl⟩
  rw [detach]
  split
  · exact (Settles.notice _).bind fun _ => .pure _
  · refine (reenter_settles system c.enteredHandles).bind fun failed => ?_
    refine (goHome_settles system c failed.1.isNone).bind fun homeless => ?_
    exact hresume.bind fun _ => (notices_settles _).bind fun _ =>
      (closeAll_settles system _).bind fun _ => .pure _

theorem captureDirectory_settles :
    Settles [] (captureDirectory (system.overheard .namespaces)) := by
  refine (Settles.besideNotes system.currentDirectory).bind fun answer => ?_
  cases answer with
  | ok path => exact .pure _
  | error cause => exact (Settles.notice _).bind fun _ => .pure _

theorem attach_settles (c : ProcessContext) :
    Settles [] (attach (system.overheard .namespaces) c) := by
  have hsuppress : Settles [] (suppress : Action (σ × List SystemAnswer) Unit) :=
    fun s => ⟨[.suppressed], [], rfl, (List.append_nil _).symm, rfl⟩
  rw [attach]
  split
  · exact .pure _
  · refine (captureDirectory_settles system).bind fun home => ?_
    refine (openAll_settles system c.requested _).bind fun opened => ?_
    obtain ⟨stopped, c₁⟩ := opened
    cases stopped with
    | some failure => exact (closeAll_settles system c₁).bind fun _ => .pure _
    | none =>
      refine hsuppress.bind fun _ => (enterAll_settles system _ _).bind fun entered => ?_
      obtain ⟨failed, c₂⟩ := entered
      cases failed with
      | none => exact .pure _
      | some failure => exact (detach_settles system c₂).bind fun _ => .pure _

theorem drop_settles (c : ProcessContext) :
    Call.Settles [] (drop (system.overheard .namespaces) c) := by
  rw [drop]
  split
  · refine Call.Settles.performBind (detach_settles system c) fun left => ?_
    obtain ⟨lost, c'⟩ := left
    cases lost with
    | none => exact .pure ()
    | some cause => exact .performBind (.notice _) fun _ => .halt .aborted
  · exact .pure ()

theorem performAll_settles (calls : List ContextCall) (c : ProcessContext) :
    Settles [] (performAll (system.overheard .namespaces) calls c) := by
  induction calls generalizing c with
  | nil => exact .pure c
  | cons call rest ih =>
    cases call with
    | attach => exact (attach_settles system c).bind fun out => ih out.2
    | detach => exact (detach_settles system c).bind fun out => ih out.2

theorem performAll_mirrors {τ : Type} {R : Session σ → Session τ → Prop}
    {H : Handle → Handle → Prop} {home : String → Prop} {system : NamespaceSystem σ}
    {other : NamespaceSystem τ} (hsystem : system.Mirrors R H home other)
    (calls : List ContextCall) {c c' : ProcessContext} (hc : c.Mirrors H home c') :
    Action.Mirrors R (ProcessContext.Mirrors H home) (performAll system calls c)
      (performAll other calls c') := by
  induction calls generalizing c c' with
  | nil => exact .pure hc
  | cons call rest ih =>
    cases call with
    | attach => exact (attach_mirrors hsystem hc).bind fun out out' hout => ih hout.2
    | detach => exact (detach_mirrors hsystem hc).bind fun out out' hout => ih hout.2

/-- **The journal of a context tells what the system answered.** Whatever is requested, called and
answered, while the context lives and when it is given up: the entries about opening, entering and
closing namespaces are those of the requests that were made, in the order in which they were made,
and each tells whether its request was granted. The answers are those that a listener notes, who
disturbs nothing. -/
theorem life_told (system : NamespaceSystem σ) (pid : Int32) (kinds : List NamespaceKind)
    (calls : List ContextCall) (s : Session σ) :
    let lived := performAll system calls (new pid kinds) s
    let left := lived.1.drop system lived.2
    let listened := system.overheard SystemAnswer.namespaces
    let heard := performAll listened calls (new pid kinds) (s.inWorld (s.world, []))
    let heardLeft := heard.1.drop listened heard.2
    lived = (heard.1, heard.2.inWorld heard.2.world.1) ∧
      left = (heardLeft.1, heardLeft.2.inWorld heardLeft.2.world.1) ∧
      ∃ trace ending, lived.2.journal = s.journal ++ trace ∧
        left.2.journal = lived.2.journal ++ ending ∧ Tells trace heard.2.world.2 ∧
        Tells (trace ++ ending) heardLeft.2.world.2 := by
  intro lived left listened heard heardLeft
  have hsystem := system.overheard_mirrors SystemAnswer.namespaces
  have hnew : ProcessContext.Mirrors Eq (fun _ => True) (new pid kinds) (new pid kinds) :=
    ⟨rfl, .nil, .nil, fun _ _ => trivial⟩
  obtain ⟨hcontext, hsession⟩ :=
    performAll_mirrors hsystem calls hnew s (s.inWorld (s.world, [])) rfl
  obtain ⟨hends, hleft⟩ := drop_mirrors hsystem hcontext lived.2 heard.2 hsession
  obtain ⟨trace, notes, hjournal, hnotes, htold⟩ :=
    performAll_settles system calls (new pid kinds) (s.inWorld (s.world, []))
  obtain ⟨ending, notes', hjournal', hnotes', htold'⟩ := drop_settles system heard.1 heard.2
  obtain rfl : notes = heard.2.world.2 := hnotes.symm
  have hsame : lived.2.journal = heard.2.journal := congrArg Session.journal hsession
  refine ⟨Prod.ext hcontext.eq hsession, Prod.ext hends hleft, trace, ending, hsame.trans hjournal,
    ?_, htold, ?_⟩
  · rw [hsame]
    exact (congrArg Session.journal hleft).trans hjournal'
  · rw [Tells, List.filterMap_append, htold, htold', hnotes', List.filterMap_append]
    rfl

end ProcessContext

end Periscope
