import Mathlib.Algebra.GroupWithZero.Nat
import Periscope.Channel.Receiver

/-!
# A result is handed over once

The turns of the reader and the waits for its result may be interleaved in any way. Until the
result is handed over, a wait that runs out of time loses nothing. The first wait that lasts until
the reader has put its result into the channel returns it. From then on each wait runs out of time
or learns that the reader is gone.
-/

namespace Periscope

/-- What happens at a receiver. -/
inductive ReceiverMove where
  /-- The reader takes a turn while nobody waits. -/
  | turn
  /-- Somebody waits, and in each pause between two looks the reader takes so many turns. -/
  | wait (pauses : List Nat)

namespace Receiver

variable {α : Type}

/-- What some moves leave. -/
def after : List ReceiverMove → Receiver α → Receiver α
  | [], r => r
  | .turn :: rest, r => after rest r.turn
  | .wait pauses :: rest, r => after rest (r.waitThrough pauses).2

/-- What the waits among some moves come to, in order. -/
def answers : List ReceiverMove → Receiver α → List (Received α)
  | [], _ => []
  | .turn :: rest, r => answers rest r.turn
  | .wait pauses :: rest, r => (r.waitThrough pauses).1 :: answers rest (r.waitThrough pauses).2

/-- The reader is gone. -/
def Gone (r : Receiver α) : Prop := r.stage = .gone

variable {r : Receiver α} {result : Except IoError (Reply α)} {moves : List ReceiverMove}
  {pauses : List Nat}

theorem turns_add (first second : Nat) (r : Receiver α) :
    r.turns (first + second) = (r.turns first).turns second := by
  induction first generalizing r with
  | zero => rw [Nat.zero_add, turns]
  | succ first ih => rw [Nat.succ_add, turns, turns, ih]

/-- A turn that changes nothing may be taken again and again. -/
theorem turns_of_turn_eq (h : r.turn = r) (count : Nat) : r.turns count = r := by
  induction count with
  | zero => rfl
  | succ count ih => rw [turns, h, ih]

/-- A reader that is gone takes no turns. -/
theorem Gone.turns_eq (h : r.Gone) (count : Nat) : r.turns count = r := by
  rw [Gone] at h
  exact turns_of_turn_eq (by rw [turn, h]) count

theorem waitThrough_of_look {found : Received α × Receiver α} (h : r.look = some found)
    (pauses : List Nat) : r.waitThrough pauses = found := by
  cases pauses <;> rw [waitThrough, h]
  rfl

/-! ## Receivers with nothing to hand over -/

/-- Nothing lies in the channel, and nothing will any more. -/
inductive Spent : Receiver α → Prop where
  /-- The stream is silent. -/
  | silent : Spent ⟨.silent, .reading, none⟩
  /-- The reader will stop. -/
  | stopping : Spent ⟨.stopped, .reading, none⟩
  /-- The result was taken while the reader was still there. -/
  | finishing (reception : Reception α) : Spent ⟨reception, .finishing, none⟩
  /-- The reader is gone, and there was no result or it was taken. -/
  | gone (reception : Reception α) : Spent ⟨reception, .gone, none⟩

/-- What a wait for nothing comes to, given where the reader is when the time has run out: the time
runs out, unless the reader is gone. -/
inductive Vain (reached : Receiver α) : Received α → Prop where
  /-- The reader is still there. -/
  | late (hthere : ¬ reached.Gone) : Vain reached .timedOut
  /-- The reader is gone. -/
  | gone (hgone : reached.Gone) : Vain reached (.broken .readerGone)

theorem Spent.turn (h : r.Spent) : r.turn.Spent := by
  cases h with
  | silent => exact .silent
  | stopping => exact .gone _
  | finishing reception => exact .gone reception
  | gone reception => exact .gone reception

theorem Spent.turns (h : r.Spent) (count : Nat) : (r.turns count).Spent := by
  induction count generalizing r with
  | zero => exact h
  | succ count ih => exact ih h.turn

/-- In such a channel only the absence of the reader is found. -/
theorem Spent.look_cases (h : r.Spent) :
    (r.Gone ∧ r.look = some (.broken .readerGone, r)) ∨ (¬ r.Gone ∧ r.look = none) := by
  cases h with
  | gone => exact .inl ⟨rfl, rfl⟩
  | silent | stopping | finishing => exact .inr ⟨nofun, rfl⟩

/-- A wait for nothing is in vain, and the reader takes all its turns. -/
theorem Spent.waitThrough (h : r.Spent) (pauses : List Nat) :
    Vain (r.turns pauses.sum) (r.waitThrough pauses).1 ∧
      (r.waitThrough pauses).2 = r.turns pauses.sum := by
  induction pauses generalizing r with
  | nil =>
    rcases h.look_cases with ⟨hgone, hlook⟩ | ⟨hthere, hlook⟩ <;> rw [Receiver.waitThrough, hlook]
    · exact ⟨.gone hgone, rfl⟩
    · exact ⟨.late hthere, rfl⟩
  | cons pause rest ih =>
    rcases h.look_cases with ⟨hgone, hlook⟩ | ⟨_, hlook⟩
    · -- The turns that are left behind this look change nothing.
      rw [waitThrough_of_look hlook, hgone.turns_eq]
      exact ⟨.gone hgone, rfl⟩
    · rw [Receiver.waitThrough, hlook, List.sum_cons, turns_add]
      exact ih (h.turns pause)

/-- Once the reader is gone all waits tell so. -/
theorem Spent.answers_of_gone (h : r.Spent) (hgone : r.Gone) (moves : List ReceiverMove) :
    ∃ vain, r.answers moves = List.replicate vain (.broken .readerGone) := by
  induction moves with
  | nil => exact ⟨0, rfl⟩
  | cons move rest ih =>
    obtain ⟨vain, hanswers⟩ := ih
    cases move with
    | turn =>
      have hturn : r.turn = r := hgone.turns_eq 1
      exact ⟨vain, by rw [answers, hturn, hanswers]⟩
    | wait pauses =>
      have hlook : r.look = some (.broken .readerGone, r) := by
        rcases h.look_cases with ⟨_, hlook⟩ | ⟨hthere, _⟩
        · exact hlook
        · exact absurd hgone hthere
      refine ⟨vain + 1, ?_⟩
      rw [answers, waitThrough_of_look hlook, hanswers]
      rfl

/-- Waits for nothing run out of time until the reader is gone, and tell so from then on. -/
theorem Spent.answers (h : r.Spent) (moves : List ReceiverMove) :
    ∃ late vain, r.answers moves =
      List.replicate late .timedOut ++ List.replicate vain (.broken .readerGone) := by
  induction moves generalizing r with
  | nil => exact ⟨0, 0, rfl⟩
  | cons move rest ih =>
    cases move with
    | turn => exact ih h.turn
    | wait pauses =>
      obtain ⟨hanswer, hleft⟩ := h.waitThrough pauses
      have hspent : (r.waitThrough pauses).2.Spent := hleft ▸ h.turns pauses.sum
      rw [Receiver.answers]
      generalize (r.waitThrough pauses).1 = answer at hanswer
      cases hanswer with
      | late =>
        obtain ⟨late, vain, hanswers⟩ := ih hspent
        exact ⟨late + 1, vain, by rw [hanswers]; rfl⟩
      | gone hgone =>
        obtain ⟨vain, hanswers⟩ := hspent.answers_of_gone (hleft ▸ hgone) rest
        exact ⟨0, vain + 1, by rw [hanswers]; rfl⟩

theorem Spent.after (h : r.Spent) (moves : List ReceiverMove) : (r.after moves).Spent := by
  induction moves generalizing r with
  | nil => exact h
  | cons move rest ih =>
    cases move with
    | turn => exact ih h.turn
    | wait pauses =>
      have hleft := (h.waitThrough pauses).2
      rw [Receiver.after, hleft]
      exact ih (h.turns pauses.sum)

/-! ## Receivers whose result is to be handed over -/

/-- The result is on its way to the one who waits. -/
inductive Pending (result : Except IoError (Reply α)) : Receiver α → Prop where
  /-- The reader has still to read it. -/
  | reading : Pending result ⟨.result result, .reading, none⟩
  /-- The reader has it. -/
  | holding (reception : Reception α) : Pending result ⟨reception, .holding result, none⟩
  /-- It lies in the channel. -/
  | finishing (reception : Reception α) : Pending result ⟨reception, .finishing, some result⟩
  /-- It lies in the channel, and the reader is gone. -/
  | gone (reception : Reception α) : Pending result ⟨reception, .gone, some result⟩

/-- What a wait for a result comes to, given where the reader is when the time has run out: it
returns the result, just if that lies in the channel then. -/
inductive Awaited (result : Except IoError (Reply α)) (reached : Receiver α) :
    Received α → Receiver α → Prop where
  /-- The time runs out first, and the result is still on its way. -/
  | late (hslot : reached.slot = none) : Awaited result reached .timedOut reached
  /-- The result is returned. -/
  | taken {left : Receiver α} (hslot : reached.slot = some result) (hleft : left.Spent) :
      Awaited result reached (.ofResult result) left

theorem Pending.turn (h : Pending result r) : Pending result r.turn := by
  cases h with
  | reading => exact .holding _
  | holding reception => exact .finishing reception
  | finishing reception => exact .gone reception
  | gone reception => exact .gone reception

theorem Pending.turns (h : Pending result r) (count : Nat) : Pending result (r.turns count) := by
  induction count generalizing r with
  | zero => exact h
  | succ count ih => exact ih h.turn

/-- A result that lies in the channel stays there. -/
theorem Pending.slot_turns (h : Pending result r) (hslot : r.slot = some result) (count : Nat) :
    (r.turns count).slot = some result := by
  induction count generalizing r with
  | zero => exact hslot
  | succ count ih =>
    refine ih h.turn ?_
    cases h with
    | reading | holding => cases hslot
    | finishing | gone => rfl

/-- Two turns are enough for it to get there. -/
theorem Pending.slot_of_two_le (h : Pending result r) {count : Nat} (hcount : 2 ≤ count) :
    (r.turns count).slot = some result := by
  have htwo : (r.turns 2).slot = some result := by
    cases h <;> rfl
  obtain ⟨more, rfl⟩ := Nat.exists_eq_add_of_le hcount
  rw [turns_add]
  exact (h.turns 2).slot_turns htwo more

/-- In such a channel only the result is found, and then it is taken. -/
theorem Pending.look_cases (h : Pending result r) :
    (r.slot = some result ∧ ∃ left, r.look = some (.ofResult result, left) ∧ left.Spent) ∨
      (r.slot = none ∧ r.look = none) := by
  cases h with
  | reading | holding => exact .inr ⟨rfl, rfl⟩
  | finishing reception => exact .inl ⟨rfl, _, rfl, .finishing reception⟩
  | gone reception => exact .inl ⟨rfl, _, rfl, .gone reception⟩

/-- A wait returns the result if the reader puts it into the channel in time, and loses nothing
otherwise. -/
theorem Pending.waitThrough (h : Pending result r) (pauses : List Nat) :
    Awaited result (r.turns pauses.sum) (r.waitThrough pauses).1 (r.waitThrough pauses).2 := by
  induction pauses generalizing r with
  | nil =>
    rcases h.look_cases with ⟨hslot, left, hlook, hleft⟩ | ⟨hslot, hlook⟩ <;>
      rw [Receiver.waitThrough, hlook]
    · exact .taken hslot hleft
    · exact .late hslot
  | cons pause rest ih =>
    rcases h.look_cases with ⟨hslot, left, hlook, hleft⟩ | ⟨_, hlook⟩
    · rw [waitThrough_of_look hlook]
      exact .taken (h.slot_turns hslot _) hleft
    · rw [Receiver.waitThrough, hlook, List.sum_cons, turns_add]
      exact ih (h.turns pause)

/-- What the waits among some moves come to if there is a result: they run out of time, or up to
one that returns the result. -/
inductive Handover (result : Except IoError (Reply α)) : List (Received α) → Receiver α → Prop where
  /-- All of them run out of time, and the result is still on its way. -/
  | pending {left : Receiver α} (late : Nat) (hleft : Pending result left) :
      Handover result (List.replicate late .timedOut) left
  /-- One returns the result. Those behind it run out of time until the reader is gone, and tell so
  from then on. -/
  | done {left : Receiver α} (early late vain : Nat) (hleft : left.Spent) :
      Handover result
        (List.replicate early .timedOut ++ .ofResult result ::
          (List.replicate late .timedOut ++ List.replicate vain (.broken .readerGone))) left

theorem Handover.cons {answers : List (Received α)} {left : Receiver α}
    (h : Handover result answers left) : Handover result (.timedOut :: answers) left := by
  cases h with
  | pending late hleft => exact .pending (late + 1) hleft
  | done early late vain hleft => exact .done (early + 1) late vain hleft

/-- However turns and waits are interleaved, the result is handed over once. -/
theorem Pending.handover (h : Pending result r) (moves : List ReceiverMove) :
    Handover result (r.answers moves) (r.after moves) := by
  induction moves generalizing r with
  | nil => exact .pending 0 h
  | cons move rest ih =>
    cases move with
    | turn => exact ih h.turn
    | wait pauses =>
      have hwait := h.waitThrough pauses
      rw [answers, after]
      generalize (r.waitThrough pauses).1 = answer, (r.waitThrough pauses).2 = left at hwait
      cases hwait with
      | late => exact (ih (h.turns pauses.sum)).cons
      | taken _ hleft =>
        obtain ⟨late, vain, hanswers⟩ := hleft.answers rest
        rw [hanswers]
        exact .done 0 late vain (hleft.after rest)

/-! ## What is received -/

/-- What all waits come to if reading comes to a result. -/
structure HandedOverOnce (result : Except IoError (Reply α)) (r : Receiver α)
    (moves : List ReceiverMove) : Prop where
  /-- All waits run out of time, or one returns the result and those in front of it run out of
  time; those behind it run out of time until the reader is gone, and tell so from then on. -/
  order : (∃ late, r.answers moves = List.replicate late .timedOut) ∨
    ∃ early late vain, r.answers moves =
      List.replicate early .timedOut ++ .ofResult result ::
        (List.replicate late .timedOut ++ List.replicate vain (.broken .readerGone))
  /-- While all waits have run out of time, the next one returns the result if the reader puts it
  into the channel before the time runs out, and runs out of time only if it does not. -/
  next : (∀ answer ∈ r.answers moves, answer = .timedOut) → ∀ pauses,
    let reached := (r.after moves).turns pauses.sum
    let answer := ((r.after moves).waitThrough pauses).1
    (reached.slot = some result ∧ answer = .ofResult result) ∨
      (reached.slot = none ∧ answer = .timedOut)
  /-- A wait that lasts for two turns of the reader is long enough. -/
  enough : (∀ answer ∈ r.answers moves, answer = .timedOut) → ∀ pauses, 2 ≤ pauses.sum →
    ((r.after moves).waitThrough pauses).1 = .ofResult result
  /-- Once a wait has returned the result, the next one tells that the reader is gone if it is gone
  before the time runs out, and runs out of time otherwise. -/
  spent : (∃ answer ∈ r.answers moves, answer ≠ .timedOut) → ∀ pauses,
    Vain ((r.after moves).turns pauses.sum) ((r.after moves).waitThrough pauses).1

theorem ofResult_ne_timedOut (result : Except IoError (Reply α)) :
    Received.ofResult result ≠ .timedOut := by
  cases result <;> exact nofun

theorem Pending.handedOverOnce (h : Pending result r) (moves : List ReceiverMove) :
    HandedOverOnce result r moves := by
  have hhandover := h.handover moves
  generalize hanswers : r.answers moves = answers, hafter : r.after moves = left at hhandover
  cases hhandover with
  | pending late hleft =>
    subst hafter
    refine ⟨.inl ⟨late, hanswers⟩, fun _ pauses => ?_, fun _ pauses htwo => ?_,
      fun ⟨answer, hmem, hne⟩ => ?_⟩
    · have hwait := hleft.waitThrough pauses
      generalize ((r.after moves).waitThrough pauses).1 = answer,
        ((r.after moves).waitThrough pauses).2 = left at hwait ⊢
      cases hwait with
      | late hslot => exact .inr ⟨hslot, rfl⟩
      | taken hslot => exact .inl ⟨hslot, rfl⟩
    · have hslot := hleft.slot_of_two_le htwo
      have hwait := hleft.waitThrough pauses
      generalize ((r.after moves).waitThrough pauses).1 = answer,
        ((r.after moves).waitThrough pauses).2 = left at hwait ⊢
      cases hwait with
      | late hnone => cases hnone.symm.trans hslot
      | taken => rfl
    · rw [hanswers] at hmem
      exact absurd (List.eq_of_mem_replicate hmem) hne
  | done early late vain hleft =>
    subst hafter
    have hreturned : ¬ ∀ answer ∈ r.answers moves, answer = .timedOut := fun hlate =>
      ofResult_ne_timedOut result (hlate _ (by simp [hanswers]))
    exact ⟨.inr ⟨early, late, vain, hanswers⟩, fun hlate => absurd hlate hreturned,
      fun hlate => absurd hlate hreturned, fun _ pauses => (hleft.waitThrough pauses).1⟩

/-- A wait for a silent stream runs out of time. -/
theorem waitThrough_of_silent (pauses : List Nat) :
    (⟨.silent, .reading, none⟩ : Receiver α).waitThrough pauses =
      (.timedOut, ⟨.silent, .reading, none⟩) := by
  induction pauses with
  | nil => rfl
  | cons pause rest ih =>
    have hturns := turns_of_turn_eq (r := (⟨.silent, .reading, none⟩ : Receiver α)) rfl pause
    rw [waitThrough, hturns, ih]
    rfl

theorem answers_of_silent (moves : List ReceiverMove) :
    ∃ late, (⟨.silent, .reading, none⟩ : Receiver α).answers moves =
      List.replicate late .timedOut := by
  induction moves with
  | nil => exact ⟨0, rfl⟩
  | cons move rest ih =>
    cases move with
    | turn => exact ih
    | wait pauses =>
      obtain ⟨late, hanswers⟩ := ih
      exact ⟨late + 1, by rw [answers, waitThrough_of_silent, hanswers]; rfl⟩

/-- **A result is handed over once.** However the turns of the reader and the waits are
interleaved: if reading the stream comes to a result, one wait at most returns it, those in front of
it run out of time and lose nothing, so that one that lasts long enough returns it, and those
behind it run out of time until the reader is gone and are told of a broken pipe from then on. If
the reader stops, waits run out of time until then and are told the same; if the stream is silent,
they run out of time for ever. -/
theorem result_handed_over_once (value : Json.Decoder α) (s : Stream)
    (moves : List ReceiverMove) :
    let r := Receiver.start value s
    (∀ result, (receiveReply value s).1 = .result result → r.HandedOverOnce result moves) ∧
    ((receiveReply value s).1 = .stopped →
      (∃ late vain, r.answers moves =
        List.replicate late .timedOut ++ List.replicate vain (.broken .readerGone)) ∧
      ∀ pauses, Vain ((r.after moves).turns pauses.sum)
        ((r.after moves).waitThrough pauses).1) ∧
    ((receiveReply value s).1 = .silent →
      ∃ late, r.answers moves = List.replicate late .timedOut) ∧
    IoError.readerGone.kind = .brokenPipe := by
  intro r
  refine ⟨fun result hresult => ?_, fun hstopped => ?_, fun hsilent => ?_, rfl⟩
  · have hpending : r.Pending result := by
      show Pending result ⟨(receiveReply value s).1, .reading, none⟩
      rw [hresult]
      exact .reading
    exact hpending.handedOverOnce moves
  · have hspent : r.Spent := by
      show Spent ⟨(receiveReply value s).1, .reading, none⟩
      rw [hstopped]
      exact .stopping
    exact ⟨hspent.answers moves, fun pauses => ((hspent.after moves).waitThrough pauses).1⟩
  · have hstart : r = ⟨.silent, .reading, none⟩ := by
      show (⟨(receiveReply value s).1, .reading, none⟩ : Receiver α) = _
      rw [hsilent]
    rw [hstart]
    exact answers_of_silent moves

example : (⟨.result (.ok (.ok 7)), .reading, none⟩ : Receiver Nat).answers
    [.wait [1], .wait [1], .wait [], .wait [1]] =
      [.timedOut, .ofResult (.ok (.ok 7)), .timedOut, .broken .readerGone] := rfl

end Receiver

end Periscope
