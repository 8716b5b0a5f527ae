import Periscope.Machine
import Periscope.Proofs.Host.Ticks

/-!
# The windows of the host's shares abut

Shares are told of the time since the latest call that told any. A call that cannot read the
statistics file, or stops, leaves that window alone. So the windows of the calls that tell shares
follow upon each other: while the counters of a core only grow, each of its ticks is told of once.
-/

namespace Periscope

namespace CoreTicks

/-- The lines of the statistics file that belong to single cores, in order. -/
def coreLines (text : String) : List (List Char) := (linesOf text.toList).filter isCoreLine

/-- The ticks in a line. -/
def ofLine (line : List Char) : CoreTicks := ofCounts ((fieldsOf line).tail.map count)

theorem parse_eq (text : String) : parse text = (coreLines text).map ofLine := rfl

/-- A text has the ticks of a line at its place. -/
theorem parse_getD {text : String} {line : List Char} {i : Nat}
    (h : (coreLines text)[i]? = some line) : (parse text).getD i {} = ofLine line := by
  rw [parse_eq, List.getD_eq_getElem?_getD, List.getElem?_map, h]
  rfl

/-- No counter of a core went back. -/
structure Grows (before now : CoreTicks) : Prop where
  /-- Programs of normal priority. -/
  user : before.user.toNat ≤ now.user.toNat
  /-- Programs of low priority. -/
  nice : before.nice.toNat ≤ now.nice.toNat
  /-- The system itself. -/
  system : before.system.toNat ≤ now.system.toNat
  /-- Nothing to do. -/
  idle : before.idle.toNat ≤ now.idle.toNat
  /-- Waiting for devices. -/
  iowait : before.iowait.toNat ≤ now.iowait.toNat
  /-- Interrupts served in hardware. -/
  irq : before.irq.toNat ≤ now.irq.toNat
  /-- Interrupts served in software. -/
  softirq : before.softirq.toNat ≤ now.softirq.toNat
  /-- Taken by the machine that hosts this one. -/
  steal : before.steal.toNat ≤ now.steal.toNat

variable {before now : CoreTicks}

theorem Grows.ofKind_le (h : before.Grows now) (kind : ShareKind) :
    before.ofKind kind ≤ now.ofKind kind := by
  cases kind with
  | nice => exact h.nice
  | iowait => exact h.iowait
  | irq => exact Nat.add_le_add h.irq h.softirq
  | steal => exact h.steal

theorem Grows.sum_le (h : before.Grows now) : before.sum ≤ now.sum := by
  obtain ⟨_, _, _, _, _, _, _, _⟩ := h
  rw [sum, sum]
  omega

end CoreTicks

/-- The window that a machine's next call finds. -/
def HostCpuRule.window : HostCpuRule → List CoreTicks
  | .statistics _ window => window
  | _ => []

/-- A call for the host's shares. -/
structure ShareCall (α : Type) where
  /-- The window that the call finds. -/
  window : List CoreTicks
  /-- The text of the statistics file, or the error in its place. -/
  content : Except IoError String
  /-- What the call came to. -/
  outcome : Except Panic (Except IoError (List (HostShares α)))
  /-- The window that the call leaves. -/
  after : List CoreTicks

variable {α : Type}

namespace ShareCall

/-- The text that a call has told the shares of, if it has told any. -/
def text? (call : ShareCall α) : Option String :=
  match call.outcome, call.content with
  | .ok (.ok _), .ok text => some text
  | _, _ => none

/-- How many ticks a call has told of at a place of the file. -/
def told (measure : CoreTicks → Nat) (i : Nat) (call : ShareCall α) : Nat :=
  match call.text? with
  | none => 0
  | some text =>
    measure ((CoreTicks.parse text).getD i {}) - measure (call.window.getD i {})

end ShareCall

/-- The texts that calls have told the shares of, in order. -/
def toldTexts (calls : List (ShareCall α)) : List String := calls.filterMap ShareCall.text?

/-- The ticks of the latest text that a call has told the shares of. -/
def latestTicks (past : List (ShareCall α)) : List CoreTicks :=
  ((toldTexts past).getLast?.map CoreTicks.parse).getD []

/-- The ticks of the texts that were told of, at a place of the file. -/
def ticksAt (i : Nat) (calls : List (ShareCall α)) : List CoreTicks :=
  (toldTexts calls).map fun text => (CoreTicks.parse text).getD i {}

variable {past : List (ShareCall α)} {call : ShareCall α}

theorem latestTicks_append_singleton :
    latestTicks (past ++ [call]) =
      match call.text? with
      | some text => CoreTicks.parse text
      | none => latestTicks past := by
  rw [latestTicks, toldTexts, List.filterMap_append]
  cases htext : call.text? with
  | none => simp [htext, latestTicks, toldTexts]
  | some text => simp [htext]

/-- Calls that tell nothing leave the latest ticks where they are. -/
theorem latestTicks_of_text? {between : List (ShareCall α)} {text : String}
    (htext : call.text? = some text) (hbetween : ∀ other ∈ between, other.text? = none) :
    latestTicks (past ++ call :: between) = CoreTicks.parse text := by
  have hnone : toldTexts between = [] := List.filterMap_eq_nil_iff.mpr hbetween
  have htold : toldTexts (past ++ call :: between) = toldTexts past ++ [text] := by
    rw [toldTexts, List.filterMap_append, List.filterMap_cons_some htext]
    exact congrArg (toldTexts past ++ text :: ·) hnone
  rw [latestTicks, htold]
  simp

/-- A call that has told of a text has read it. -/
theorem ShareCall.told_of_text? {text : String} (h : call.text? = some text) :
    call.content = .ok text ∧ ∃ shares, call.outcome = .ok (.ok shares) := by
  rw [ShareCall.text?] at h
  split at h
  · next houtcome hcontent =>
    obtain rfl := Option.some.inj h
    exact ⟨hcontent, _, houtcome⟩
  · cases h

variable [Figure α]

/-- The call that finds a window and a text. -/
def ShareCall.of (window : List CoreTicks) (content : Except IoError String) : ShareCall α where
  window := window
  content := content
  outcome := (readHostShares window content).1
  after := (readHostShares (α := α) window content).2

/-- Calls in a row, each of which finds the window that the one before it has left. Between them
the file may become anything. -/
def shareCalls (window : List CoreTicks) : List (Except IoError String) → List (ShareCall α)
  | [] => []
  | content :: rest =>
    let call := ShareCall.of window content
    call :: shareCalls call.after rest

variable {later : List (ShareCall α)} {window : List CoreTicks}
  {contents : List (Except IoError String)}

/-- What a call does after others. -/
structure ShareCall.Continues (past : List (ShareCall α)) (call : ShareCall α) : Prop where
  /-- It finds the ticks of the latest text that was told of; before any there are none. -/
  window : call.window = latestTicks past
  /-- It leaves the latest ticks likewise. -/
  after : call.after = latestTicks (past ++ [call])
  /-- Without a text of its own it leaves the window as it was. -/
  kept : call.text? = none → call.after = call.window
  /-- A file that cannot be read is reported. -/
  unread : ∀ cause, call.content = .error cause → call.outcome = .ok (.error cause)
  /-- A core whose ticks are no word stops the call. -/
  stopped : CoreTicks.Overflows call.content → call.outcome = .error .sumOverflow
  /-- Otherwise the call tells the shares of each line of a core, in order, between the window and
  the text: for each kind what its ticks have gained, in percent of what all have gained. -/
  told : ∀ text, call.content = .ok text → ¬ CoreTicks.Overflows call.content →
    call.text? = some text ∧ ∃ shares, call.outcome = .ok (.ok shares) ∧
      shares.length = (CoreTicks.coreLines text).length ∧
      ∀ (i : Nat) (share : HostShares α), shares[i]? = some share →
        ∃ line, (CoreTicks.coreLines text)[i]? = some line ∧
          CoreTicks.sharesBetween (call.window.getD i {}) (CoreTicks.ofLine line) = .ok share ∧
          ∀ kind, share.ofKind kind =
            CoreTicks.share (call.told (·.ofKind kind) i) (call.told CoreTicks.sum i)

/-- A call that finds the latest ticks and reads as it should continues the calls before it. -/
theorem continues_of_course
    (hcourse : CoreTicks.ReadCourse call.window call.content call.outcome call.after)
    (hfits : ∀ t ∈ call.window, t.Fits) (hwindow : call.window = latestTicks past) :
    call.Continues past := by
  obtain ⟨window, content, outcome, after⟩ := call
  dsimp only at hcourse hfits hwindow
  cases hcourse with
  | unread hcontent =>
    subst hcontent
    refine ⟨hwindow, ?_, fun _ => rfl, fun _ h => ?_, fun h => ?_, fun _ h => ?_⟩
    · rw [latestTicks_append_singleton]
      exact hwindow
    · obtain rfl := Except.error.inj h
      rfl
    · exact absurd h (CoreTicks.not_overflows_error _)
    · cases h
  | stopped hover =>
    refine ⟨hwindow, ?_, fun _ => rfl, fun _ h => ?_, fun _ => rfl, fun _ _ h => ?_⟩
    · rw [latestTicks_append_singleton]
      exact hwindow
    · obtain rfl : content = _ := h
      exact absurd hover (CoreTicks.not_overflows_error _)
    · exact absurd hover h
  | @told text shares hcontent hticks hshares =>
    subst hcontent
    refine ⟨hwindow, ?_, fun h => ?_, fun _ h => ?_, fun h => ?_, fun _ h _ => ?_⟩
    · rw [latestTicks_append_singleton]
      rfl
    · cases h
    · cases h
    · exact absurd h (CoreTicks.not_overflows_of_fits hticks)
    · obtain rfl := Except.ok.inj h
      obtain ⟨hlength, hentries⟩ := CoreTicks.sharesSince_getElem? hshares
      have hcount : shares.length = (CoreTicks.coreLines text).length := by
        rw [hlength, CoreTicks.parse_eq, List.length_map]
      refine ⟨rfl, shares, rfl, hcount, fun i share hshare => ?_⟩
      obtain ⟨hi, _⟩ := List.getElem?_eq_some_iff.mp hshare
      obtain ⟨line, hline⟩ : ∃ line, (CoreTicks.coreLines text)[i]? = some line :=
        ⟨_, List.getElem?_eq_getElem (hcount ▸ hi)⟩
      have hbetween := hentries i share hshare
      refine ⟨line, hline, CoreTicks.parse_getD hline ▸ hbetween, ?_⟩
      obtain ⟨share', hshare', hkinds⟩ := CoreTicks.sharesBetween_of_fits (α := α)
        (CoreTicks.fits_getD hfits i) (CoreTicks.fits_getD hticks i)
      obtain rfl := Except.ok.inj (hbetween.symm.trans hshare')
      exact hkinds

/-- Calls that find the latest ticks, and a window that fits, continue the calls before them one by
one. -/
theorem shareCalls_continue (hwindow : window = latestTicks past) (hfits : ∀ t ∈ window, t.Fits)
    {front : List (ShareCall α)} (hsplit : shareCalls window contents = front ++ call :: later) :
    call.Continues (past ++ front) := by
  induction contents generalizing window past front with
  | nil => simp [shareCalls] at hsplit
  | cons content rest ih =>
    rw [shareCalls] at hsplit
    have hcourse := CoreTicks.readHostShares_course (α := α) hfits content
    have hfirst : (ShareCall.of window content : ShareCall α).Continues past :=
      continues_of_course hcourse hfits hwindow
    cases front with
    | nil =>
      obtain ⟨rfl, _⟩ := List.cons.inj hsplit
      simpa using hfirst
    | cons first front =>
      obtain ⟨rfl, htail⟩ := List.cons.inj hsplit
      rw [List.append_cons]
      exact ih hfirst.after (CoreTicks.readHostShares_of_fits hfits content).2.2 htail

/-- From the first call on there is no window. -/
theorem continues_of_split (hsplit : shareCalls [] contents = past ++ call :: later) :
    call.Continues past := by
  have hnone : ([] : List CoreTicks) = latestTicks ([] : List (ShareCall α)) := rfl
  have hempty : ∀ t ∈ ([] : List CoreTicks), t.Fits := by simp
  exact shareCalls_continue hnone hempty hsplit

/-- Behind a call the calls go on with the window that it has left. -/
theorem shareCalls_behind {front : List (ShareCall α)}
    (hsplit : shareCalls window contents = front ++ call :: later) :
    ∃ rest, later = shareCalls call.after rest := by
  induction contents generalizing window front with
  | nil => simp [shareCalls] at hsplit
  | cons content rest ih =>
    rw [shareCalls] at hsplit
    cases front with
    | nil =>
      obtain ⟨rfl, rfl⟩ := List.cons.inj hsplit
      exact ⟨rest, rfl⟩
    | cons first front =>
      obtain ⟨_, htail⟩ := List.cons.inj hsplit
      exact ih htail

/-- A call either tells nothing and leaves the window alone, or it makes its text the window. -/
theorem of_cases (window : List CoreTicks) (content : Except IoError String) :
    ((ShareCall.of window content : ShareCall α).text? = none ∧
      (ShareCall.of window content : ShareCall α).after = window) ∨
    ∃ text, (ShareCall.of window content : ShareCall α).text? = some text ∧
      (ShareCall.of window content : ShareCall α).after = CoreTicks.parse text := by
  cases content with
  | error cause => exact .inl ⟨rfl, rfl⟩
  | ok text =>
    cases hshares : (CoreTicks.sharesSince window (CoreTicks.parse text) :
        Except Panic (List (HostShares α))) with
    | error cause =>
      left
      simp [ShareCall.of, ShareCall.text?, readHostShares, hshares]
    | ok shares =>
      right
      exact ⟨text, by simp [ShareCall.of, ShareCall.text?, readHostShares, hshares]⟩

/-- While the counters of a core only grow, what the calls tell of adds up to the difference
between the last text and the window that the first call finds. -/
theorem add_told (measure : CoreTicks → Nat)
    (hmeasure : ∀ {before now}, CoreTicks.Grows before now → measure before ≤ measure now)
    (i : Nat)
    (hgrows : (window.getD i {} :: ticksAt i (shareCalls (α := α) window contents)).IsChain
      CoreTicks.Grows) :
    measure (window.getD i {}) +
        ((shareCalls (α := α) window contents).map (ShareCall.told measure i)).sum =
      measure ((ticksAt i (shareCalls (α := α) window contents)).getLastD (window.getD i {})) := by
  induction contents generalizing window with
  | nil => rfl
  | cons content rest ih =>
    rw [shareCalls] at hgrows ⊢
    rw [List.map_cons, List.sum_cons, ShareCall.told]
    rcases of_cases (α := α) window content with ⟨htext, hafter⟩ | ⟨text, htext, hafter⟩
    · have hticks (later : List (ShareCall α)) :
          ticksAt i (ShareCall.of window content :: later) = ticksAt i later := by
        rw [ticksAt, toldTexts, List.filterMap_cons_none htext]
        rfl
      rw [hticks, hafter] at hgrows ⊢
      rw [htext, Nat.zero_add]
      exact ih hgrows
    · have hticks (later : List (ShareCall α)) : ticksAt i (ShareCall.of window content :: later) =
          (CoreTicks.parse text).getD i {} :: ticksAt i later := by
        rw [ticksAt, toldTexts, List.filterMap_cons_some htext]
        rfl
      rw [hticks, hafter] at hgrows ⊢
      obtain ⟨hfirst, hrest⟩ := List.isChain_cons_cons.mp hgrows
      have hle := hmeasure hfirst
      have hgained := ih hrest
      rw [htext, List.getLastD_cons, ← hgained]
      show _ + (_ - measure (window.getD i {}) + _) = _
      omega

/-- Each call reads the text that is there for it. -/
theorem content_shareCalls (window : List CoreTicks) (contents : List (Except IoError String)) :
    (shareCalls (α := α) window contents).map ShareCall.content = contents := by
  induction contents generalizing window with
  | nil => rfl
  | cons content rest ih =>
    rw [shareCalls, List.map_cons, ih]
    rfl

/-- From a telling call on, what the later calls tell of adds up to the difference between its text
and the last one. -/
theorem add_told_behind (hsplit : shareCalls [] contents = past ++ call :: later)
    {opening closing : String} (hopening : call.text? = some opening)
    (hclosing : (toldTexts (call :: later)).getLast? = some closing) (i : Nat)
    (hgrows : (ticksAt i (call :: later)).IsChain CoreTicks.Grows) (measure : CoreTicks → Nat)
    (hmeasure : ∀ {before now}, CoreTicks.Grows before now → measure before ≤ measure now) :
    measure ((CoreTicks.parse opening).getD i {}) +
        (later.map (ShareCall.told measure i)).sum =
      measure ((CoreTicks.parse closing).getD i {}) := by
  have hafter : call.after = CoreTicks.parse opening := by
    rw [(continues_of_split hsplit).after, latestTicks_append_singleton, hopening]
  obtain ⟨rest, rfl⟩ := shareCalls_behind hsplit
  have hticks : ticksAt i (call :: shareCalls call.after rest) =
      (CoreTicks.parse opening).getD i {} :: ticksAt i (shareCalls (α := α) call.after rest) := by
    rw [ticksAt, toldTexts, List.filterMap_cons_some hopening]
    rfl
  have hlast : (ticksAt i (call :: shareCalls call.after rest)).getLast? =
      some ((CoreTicks.parse closing).getD i {}) := by
    rw [ticksAt, List.getLast?_map, hclosing]
    rfl
  rw [hticks] at hgrows hlast
  rw [List.getLast?_cons, ← List.getLastD_eq_getLast?] at hlast
  rw [hafter] at hgrows hlast ⊢
  have hadded := add_told (α := α) measure hmeasure i hgrows
  rw [Option.some.inj hlast] at hadded
  exact hadded

/-- The calls on a machine whose files are replaced before each of them. -/
def Machine.shareCalls (root : String) : List FileTree → Machine → List (ShareCall Float)
  | [], _ => []
  | files :: rest, m =>
    let found := { m with files }
    let left := found.hostShares.2
    { window := found.hostCpu.window
      content := found.readText (hostCpuPath root)
      outcome := found.hostShares.1
      after := left.hostCpu.window } :: shareCalls root rest left

/-- These are calls in a row over what the machine's files tell. -/
theorem Machine.shareCalls_eq (root : String) (trees : List FileTree) (m : Machine)
    (window : List CoreTicks) :
    Machine.shareCalls root trees { m with hostCpu := .statistics root window } =
      Periscope.shareCalls window
        (trees.map fun files => { m with files }.readText (hostCpuPath root)) := by
  induction trees generalizing m window with
  | nil => rfl
  | cons files rest ih =>
    rw [Machine.shareCalls, List.map_cons, Periscope.shareCalls]
    congr 1
    exact ih { m with files } _

/-- The calls on a machine that tells the host's shares from its statistics file, from the first
one on. -/
def Machine.statisticsCalls (m : Machine) (root : String) (trees : List FileTree) :
    List (ShareCall Float) :=
  Machine.shareCalls root trees { m with hostCpu := .statistics root [] }

/-- **The windows of the host's shares abut.** A machine tells the host's shares from its statistics
file, and between the calls its files become anything. Each call reads what the file is then. It
finds the ticks of the latest text that was told of, and tells the shares of each core's line
between these and the text; if it fails or stops it leaves them alone. So from one telling call on,
at a place of the file where no counter goes back, the ticks that later calls tell of add up to
what the place has gained since: for each kind, and for all ticks together. -/
theorem share_windows_abut (m : Machine) (root : String) (trees : List FileTree) :
    (m.statisticsCalls root trees).map ShareCall.content =
      trees.map (fun files => { m with files }.readText (hostCpuPath root)) ∧
    (∀ past call later, m.statisticsCalls root trees = past ++ call :: later →
      call.Continues past) ∧
    ∀ past first rest, m.statisticsCalls root trees = past ++ first :: rest →
      ∀ opening closing, first.text? = some opening →
        (toldTexts (first :: rest)).getLast? = some closing →
          ∀ i, (ticksAt i (first :: rest)).IsChain CoreTicks.Grows →
            (∀ kind, ((CoreTicks.parse opening).getD i {}).ofKind kind +
                (rest.map (ShareCall.told (·.ofKind kind) i)).sum =
              ((CoreTicks.parse closing).getD i {}).ofKind kind) ∧
            ((CoreTicks.parse opening).getD i {}).sum +
                (rest.map (ShareCall.told CoreTicks.sum i)).sum =
              ((CoreTicks.parse closing).getD i {}).sum := by
  rw [Machine.statisticsCalls, Machine.shareCalls_eq]
  refine ⟨?_, fun past call later hsplit => ?_, ?_⟩
  · exact content_shareCalls _ _
  · exact continues_of_split hsplit
  · intro past first rest hsplit opening closing hopening hclosing i hgrows
    constructor
    · intro kind
      exact add_told_behind hsplit hopening hclosing i hgrows _ fun h => h.ofKind_le kind
    · exact add_told_behind hsplit hopening hclosing i hgrows _ fun h => h.sum_le

/-- While the file is missing nothing is told, and behind it the ticks since the latest text are. -/
theorem share_windows_abut_missing :
    ∃ first missing second : ShareCall Float,
      ({} : Machine).statisticsCalls "p"
        [({} : FileTree).writeFile ["p", "stat"] "cpu0 0 3 0 7\n".toUTF8, {},
          ({} : FileTree).writeFile ["p", "stat"] "cpu0 0 5 0 9\n".toUTF8] =
        [first, missing, second] ∧
      first.text? = some "cpu0 0 3 0 7\n" ∧ missing.text? = none ∧
      second.text? = some "cpu0 0 5 0 9\n" ∧
      second.told (·.ofKind .nice) 0 = 2 ∧ second.told CoreTicks.sum 0 = 4 := by
  obtain ⟨first, missing, second, hcalls, hfirst, hmissing, hsecond, hticks⟩ :
      ∃ first missing second : ShareCall Float,
        ({} : Machine).statisticsCalls "p"
          [({} : FileTree).writeFile ["p", "stat"] "cpu0 0 3 0 7\n".toUTF8, {},
            ({} : FileTree).writeFile ["p", "stat"] "cpu0 0 5 0 9\n".toUTF8] =
          [first, missing, second] ∧
        first.text? = some "cpu0 0 3 0 7\n" ∧ missing.text? = none ∧
        second.text? = some "cpu0 0 5 0 9\n" ∧
        ticksAt 0 [first, missing, second] = [{ nice := 3, idle := 7 }, { nice := 5, idle := 9 }] :=
    ⟨_, _, _, rfl, by decide +kernel, by decide +kernel, by decide +kernel, by decide +kernel⟩
  have hlast : (toldTexts [first, missing, second]).getLast? = some "cpu0 0 5 0 9\n" := by
    simp [toldTexts, hfirst, hmissing, hsecond]
  have hgrows : (ticksAt 0 [first, missing, second]).IsChain CoreTicks.Grows := by
    rw [hticks]
    exact List.isChain_cons_cons.mpr ⟨by constructor <;> decide, .singleton _⟩
  obtain ⟨hkinds, hall⟩ := (share_windows_abut {} "p" _).2.2 [] first [missing, second] hcalls
    "cpu0 0 3 0 7\n" "cpu0 0 5 0 9\n" hfirst hlast 0 hgrows
  have hopening : (CoreTicks.parse "cpu0 0 3 0 7\n").getD 0 {} = { nice := 3, idle := 7 } := by
    decide +kernel
  have hclosing : (CoreTicks.parse "cpu0 0 5 0 9\n").getD 0 {} = { nice := 5, idle := 9 } := by
    decide +kernel
  have htold (measure : CoreTicks → Nat) : missing.told measure 0 = 0 := by
    rw [ShareCall.told, hmissing]
  have hnice := hkinds .nice
  rw [hopening, hclosing] at hnice hall
  simp only [List.map_cons, List.map_nil, List.sum_cons, List.sum_nil, htold] at hnice hall
  have hnice : 3 + (0 + (second.told (·.ofKind .nice) 0 + 0)) = 5 := hnice
  have hall : 10 + (0 + (second.told CoreTicks.sum 0 + 0)) = 14 := hall
  exact ⟨first, missing, second, hcalls, hfirst, hmissing, hsecond, by omega, by omega⟩

end Periscope
