import Hotplug.Proofs.Docket

/-!
# Closing the buffer of signals

The same can become of a coordinator whether the buffer of signals is closed or nobody sends any.
Once the buffer is closed and empty the coordinator has to find that out, in a step of its own;
from then on it polls the signals no more.

* `Coordinator.opened`, `ShutdownRun.opened` — the same as long as signals can still be sent.
* `opened_occur` — what happens in the one happens in the other, but for the passing of time.
* `Pads` — a list with some more incidents in between.
* `exists_silence` — whatever a run comes to after the closing, it comes to in silence as well.
* `exists_closing` — and the other way round.
-/

namespace Hotplug

namespace Coordinator

/-- A coordinator to whom signals can still be sent, and who polls them. -/
def opened (k : Coordinator) : Coordinator :=
  { k with signals := { k.signals with isSending := true }, signalsOpen := true }

variable (k : Coordinator) (c : Chronicle)

theorem opened_eq (hsending : k.signals.isSending = true) (hopen : k.signalsOpen = true) :
    k.opened = k := by
  have hsignals : { k.signals with isSending := true } = k.signals := by rw [← hsending]
  unfold opened
  rw [hsignals, ← hopen]

theorem post_opened (t : Termination) :
    k.opened.post c t = ((k.post c t).1.opened, (k.post c t).2) := by
  have hlistening : k.opened.isListening = k.isListening := rfl
  unfold post
  rw [hlistening]
  split <;> rfl

theorem fireTimer?_opened :
    k.opened.fireTimer? c = (k.fireTimer? c).map fun x => (x.1.opened, x.2) := by
  have htimers : k.opened.timers = k.timers := rfl
  unfold fireTimer?
  rw [htimers]
  cases k.timers.due? c.now with
  | none => rfl
  | some a =>
    let fired : Coordinator := { k with timers := (k.timers.fire c a).1 }
    exact congrArg some (fired.post_opened _ a.termination)

theorem decidePosted?_opened :
    k.opened.decidePosted? c = (k.decidePosted? c).map fun x => (x.1.opened, x.2) := by
  have hrun : k.opened.isRunning = k.isRunning := rfl
  have hposted : k.opened.posted = k.posted := rfl
  unfold decidePosted?
  rw [hrun, hposted]
  cases k.isRunning <;> cases k.posted <;> rfl

/-- A signal that waits is taken whether or not others can come. -/
theorem takeSignal?_opened_of_waiting (hopen : k.signalsOpen = true) {s : Signal}
    {later : List Signal} (hwaiting : k.signals.waiting = s :: later) :
    k.opened.takeSignal? c = (k.takeSignal? c).map fun x => (x.1.opened, x.2) := by
  have hphase : k.opened.phase = k.phase := rfl
  have hwaiting' : k.opened.signals.waiting = s :: later := hwaiting
  have hopen' : k.opened.signalsOpen = true := rfl
  unfold takeSignal? poll? SignalBuffer.receive
  rw [hphase, hwaiting, hwaiting', hopen, hopen']
  cases k.phase <;> rfl

/-- As long as none waits and others can come, none is taken. -/
theorem takeSignal?_opened_of_empty (hwaiting : k.signals.waiting = []) :
    k.opened.takeSignal? c = none :=
  takeSignal?_eq_none.2 fun _ _ => SignalBuffer.receive_eq_pending.2 ⟨hwaiting, rfl⟩

end Coordinator

namespace Incident

/-- Whether an incident is that time passes. -/
def isPass : Incident → Bool
  | pass _ => true
  | _ => false

end Incident

namespace ShutdownRun

variable {r : ShutdownRun} {i : Incident} {time : Nat}

/-- A run in which signals can still be sent, and are polled. -/
def opened (r : ShutdownRun) : ShutdownRun :=
  { r with coordinator := r.coordinator.opened }

/-! ## One incident -/

theorem attempt_opened (hi : i ≠ .takeSignal) (r : ShutdownRun) :
    r.opened.attempt i = (r.attempt i).map fun x => (x.1.opened, x.2) := by
  cases i with
  | fireTimer => exact r.coordinator.fireTimer?_opened r.chronicle
  | decide => exact r.coordinator.decidePosted?_opened r.chronicle
  | takeSignal => exact absurd rfl hi
  | _ => rfl

theorem opened_turn (h : r.opened.attempt i = (r.attempt i).map fun x => (x.1.opened, x.2)) :
    (r.turn i).opened = r.opened.turn i := by
  unfold turn
  rw [h]
  cases r.attempt i <;> rfl

/-- Whoever finds that no signal can come any more is as if none had come yet. -/
theorem opened_takeSignal (h : r.Attentive) :
    (r.occur .takeSignal).opened = r.opened.occur .takeSignal := by
  cases hwaiting : r.coordinator.signals.waiting with
  | cons s later =>
    have hopen : r.coordinator.signalsOpen = true := by
      by_contra hignored
      rw [(h (Bool.not_eq_true _ ▸ hignored)).1] at hwaiting
      cases hwaiting
    exact opened_turn (r.coordinator.takeSignal?_opened_of_waiting r.chronicle hopen hwaiting)
  | nil =>
    have hnone := r.coordinator.takeSignal?_opened_of_empty r.chronicle hwaiting
    rw [occur_of_none (r := r.opened) (i := .takeSignal) rfl hnone]
    cases htake : r.coordinator.takeSignal? r.chronicle with
    | none => rw [occur_of_none (i := .takeSignal) rfl htake]
    | some x =>
      rw [occur_of_some (i := .takeSignal) rfl htake]
      obtain ⟨-, ⟨s, b, hreceive, -⟩ | ⟨-, -, rfl⟩⟩ := Coordinator.takeSignal?_eq_some htake
      · obtain ⟨later, hlater, -⟩ := SignalBuffer.receive_eq_signal.1 hreceive
        rw [hwaiting] at hlater
        cases hlater
      · rfl

/-- What is no sending of signals happens whether or not they can be sent. -/
theorem opened_occur (h : r.Attentive) (hi : i.isSending = false) (hpass : i.isPass = false) :
    (r.occur i).opened = r.opened.occur i := by
  cases i with
  | signal s | closeSignals => cases hi
  | pass time => cases hpass
  | trigger | run =>
    have hidle : r.opened.coordinator.isIdle = r.coordinator.isIdle := rfl
    simp only [occur, hidle]
    split <;> rfl
  | post t =>
    have hpost := r.coordinator.post_opened r.chronicle t
    have hopened : r.opened.coordinator.post r.opened.chronicle t = _ := hpost
    simp only [occur, hopened]
    rfl
  | fireTimer => exact opened_turn (attempt_opened (by decide) r)
  | decide => exact opened_turn (attempt_opened (by decide) r)
  | takeSignal => exact opened_takeSignal h

/-! ## The passing of time -/

/-- Time may pass in a run if it rests, and nothing is due on the way. -/
theorem mayPass_iff :
    r.mayPass time = true ↔ r.rests = true ∧ r.now ≤ time ∧
      ∀ a ∈ r.coordinator.timers.armed, time ≤ a.deadline := by
  simp [mayPass, and_assoc]

theorem rests_iff :
    r.rests = true ↔ r.attempt .fireTimer = none ∧ r.attempt .decide = none ∧
      r.coordinator.takeSignal? r.chronicle = none := by
  simp [rests, and_assoc, attempt]

/-- Time that may pass may also pass as long as signals can still be sent. -/
theorem mayPass_opened (h : r.Attentive) (hmay : r.mayPass time = true) :
    r.opened.mayPass time = true := by
  obtain ⟨hrests, hle, hdue⟩ := mayPass_iff.1 hmay
  refine mayPass_iff.2 ⟨?_, hle, hdue⟩
  obtain ⟨hfire, hdecide, -⟩ := rests_iff.1 hrests
  refine rests_iff.2 ⟨?_, ?_, Coordinator.takeSignal?_eq_none.2 fun hrun _ => ?_⟩
  · rw [attempt_opened (by decide), hfire]
    rfl
  · rw [attempt_opened (by decide), hdecide]
    rfl
  · have hwaiting := waiting_of_rests h hrests hrun
    exact SignalBuffer.receive_eq_pending.2 ⟨hwaiting, rfl⟩

theorem opened_pass (hmay : r.mayPass time = true) (hopened : r.opened.mayPass time = true) :
    (r.occur (.pass time)).opened = r.opened.occur (.pass time) := by
  simp only [occur, hmay, hopened, if_true]
  rfl

/-- If time may pass only as long as signals can still be sent, the coordinator has yet to find that
they cannot. -/
theorem mayPass_takeSignal (hmay : ¬ r.mayPass time = true)
    (hopened : r.opened.mayPass time = true) :
    (r.occur .takeSignal).mayPass time = true ∧ (r.occur .takeSignal).opened = r.opened := by
  obtain ⟨hrests, hle, hdue⟩ := mayPass_iff.1 hopened
  obtain ⟨hfire, hdecide, hnone⟩ := rests_iff.1 hrests
  -- A run that is the same but for its signals makes none of the other steps either.
  have hidle {v : ShutdownRun} (hv : v.opened = r.opened)
      (htake : v.coordinator.takeSignal? v.chronicle = none) : v.rests = true := by
    rw [← hv] at hfire hdecide
    rw [attempt_opened (by decide), Option.map_eq_none_iff] at hfire hdecide
    exact rests_iff.2 ⟨hfire, hdecide, htake⟩
  cases htake : r.coordinator.takeSignal? r.chronicle with
  | none => exact absurd (mayPass_iff.2 ⟨hidle rfl htake, hle, hdue⟩) hmay
  | some x =>
    obtain ⟨hopen, ⟨s, b, hreceive, -⟩ | ⟨-, -, rfl⟩⟩ := Coordinator.takeSignal?_eq_some htake
    · obtain ⟨later, hwaiting, -⟩ := SignalBuffer.receive_eq_signal.1 hreceive
      have hsame := r.coordinator.takeSignal?_opened_of_waiting r.chronicle hopen hwaiting
      rw [show r.coordinator.opened.takeSignal? r.chronicle = none from hnone, htake] at hsame
      cases hsame
    · rw [occur_of_some (i := .takeSignal) rfl htake]
      refine ⟨mayPass_iff.2 ⟨hidle rfl ?_, hle, hdue⟩, rfl⟩
      exact Coordinator.takeSignal?_eq_none.2 fun _ => by rintro ⟨⟩

/-! ## Lists of incidents -/

/-- `Pads p xs ys`: `ys` is `xs` with some more incidents in between, all of which are `p`. -/
inductive Pads (p : Incident → Bool) : List Incident → List Incident → Prop
  | nil : Pads p [] []
  | keep (i : Incident) {xs ys : List Incident} (h : Pads p xs ys) : Pads p (i :: xs) (i :: ys)
  | insert {i : Incident} (hi : p i = true) {xs ys : List Incident} (h : Pads p xs ys) :
      Pads p xs (i :: ys)

namespace Pads

variable {p : Incident → Bool} {xs ys : List Incident}

theorem refl (xs : List Incident) : Pads p xs xs := by
  induction xs with
  | nil => exact .nil
  | cons i xs ih => exact .keep i ih

theorem subset (h : Pads p xs ys) : xs ⊆ ys := by
  induction h with
  | nil => exact List.Subset.refl _
  | keep i _ ih => exact List.cons_subset_cons i ih
  | insert _ _ ih => exact List.subset_cons_of_subset _ ih

end Pads

/-! ## Closed buffers -/

/-- Nothing is sent to a closed buffer. -/
theorem occur_of_closed (hclosed : r.coordinator.signals.isSending = false)
    (hi : i.isSending = true) : r.occur i = r := by
  cases i with
  | signal s =>
    simp [occur, SignalBuffer.forward, SignalBuffer.offer, hclosed, SignalBuffer.remark?,
      Docket.send]
  | closeSignals =>
    have hsignals : { r.coordinator.signals with isSending := false } = r.coordinator.signals := by
      rw [← hclosed]
    simp only [occur, SignalBuffer.stopSending, hsignals]
  | _ => cases hi

/-- A closed buffer stays closed. -/
theorem isSending_occur (hclosed : r.coordinator.signals.isSending = false) (i : Incident) :
    (r.occur i).coordinator.signals.isSending = false := by
  have hs := r.step_occur i
  generalize r.occur i = v at hs
  cases hs <;> first | rfl | exact hclosed

theorem follow_filter_of_closed (hclosed : r.coordinator.signals.isSending = false)
    (is : List Incident) : r.follow (is.filter fun i => !i.isSending) = r.follow is := by
  induction is generalizing r with
  | nil => rfl
  | cons i is ih =>
    have hrest := ih (isSending_occur hclosed i)
    cases hi : i.isSending with
    | true =>
      rw [List.filter_cons_of_neg (by simp [hi])]
      rw [occur_of_closed hclosed hi] at hrest
      exact hrest.trans (congrArg (follow · is) (occur_of_closed hclosed hi).symm)
    | false =>
      rw [List.filter_cons_of_pos (by simp [hi])]
      exact hrest

/-- What becomes of a run with a closed buffer becomes of it in silence as well, without the time
that could not pass. -/
theorem exists_opened_follow (h : r.Attentive) {is : List Incident}
    (his : ∀ i ∈ is, i.isSending = false) :
    ∃ js, Pads Incident.isPass js is ∧ (r.follow is).opened = r.opened.follow js := by
  induction is generalizing r with
  | nil => exact ⟨[], .nil, rfl⟩
  | cons i is ih =>
    obtain ⟨hi, hrest⟩ := List.forall_mem_cons.1 his
    obtain ⟨js, hpads, hfollow⟩ := ih (h.step (r.step_occur i)) hrest
    have hkeep (hoccur : (r.occur i).opened = r.opened.occur i) :
        ∃ js, Pads Incident.isPass js (i :: is) ∧
          (r.follow (i :: is)).opened = r.opened.follow js :=
      ⟨i :: js, .keep i hpads, hfollow.trans (congrArg (follow · js) hoccur)⟩
    cases i with
    | pass time =>
      by_cases hmay : r.mayPass time = true
      · exact hkeep (opened_pass hmay (mayPass_opened h hmay))
      · have hstay : r.occur (.pass time) = r := if_neg hmay
        exact ⟨js, .insert rfl hpads, hfollow.trans (by rw [hstay])⟩
    | _ => exact hkeep (opened_occur h hi rfl)

/-- What becomes of a run in silence becomes of it with a closed buffer as well, once the
coordinator has found that no signal can come any more. -/
theorem exists_follow_opened (h : r.Attentive) {is : List Incident}
    (his : ∀ i ∈ is, i.isSending = false) :
    ∃ js, Pads (· == .takeSignal) is js ∧ (r.follow js).opened = r.opened.follow is := by
  induction is generalizing r with
  | nil => exact ⟨[], .nil, rfl⟩
  | cons i is ih =>
    obtain ⟨hi, hrest⟩ := List.forall_mem_cons.1 his
    have hkeep (hoccur : (r.occur i).opened = r.opened.occur i) :
        ∃ js, Pads (· == .takeSignal) (i :: is) js ∧
          (r.follow js).opened = r.opened.follow (i :: is) := by
      obtain ⟨js, hpads, hfollow⟩ := ih (h.step (r.step_occur i)) hrest
      exact ⟨i :: js, .keep i hpads, hfollow.trans (congrArg (follow · is) hoccur)⟩
    cases i with
    | pass time =>
      by_cases hmay : r.mayPass time = true
      · exact hkeep (opened_pass hmay (mayPass_opened h hmay))
      · by_cases hopened : r.opened.mayPass time = true
        · obtain ⟨hmay', hsame⟩ := mayPass_takeSignal hmay hopened
          let v := (r.occur .takeSignal).occur (.pass time)
          have hv : v.opened = r.opened.occur (.pass time) := by
            rw [← hsame] at hopened ⊢
            exact opened_pass hmay' hopened
          have hattentive : v.Attentive := (h.step (r.step_occur _)).step (step_occur _ _)
          obtain ⟨js, hpads, hfollow⟩ := ih hattentive hrest
          exact ⟨.takeSignal :: .pass time :: js, .insert rfl (.keep _ hpads),
            hfollow.trans (congrArg (follow · is) hv)⟩
        · refine hkeep ?_
          rw [show r.occur (.pass time) = r from if_neg hmay]
          exact (if_neg hopened).symm
    | _ => exact hkeep (opened_occur h hi rfl)

/-! ## Open buffers -/

theorem opened_of_sending (h : r.Attentive) (hsending : r.coordinator.signals.isSending = true) :
    r.opened = r := by
  have hopen : r.coordinator.signalsOpen = true := by
    by_contra hignored
    rw [(h (Bool.not_eq_true _ ▸ hignored)).2] at hsending
    cases hsending
  exact congrArg (fun k => { r with coordinator := k }) (r.coordinator.opened_eq hsending hopen)

/-- An open buffer stays open until somebody closes it. -/
theorem opened_follow_of_opened (h : r.Attentive) (hopened : r.opened = r) {is : List Incident}
    (his : ∀ i ∈ is, i.isSending = false) : (r.follow is).opened = r.follow is := by
  induction is generalizing r with
  | nil => exact hopened
  | cons i is ih =>
    obtain ⟨hi, hrest⟩ := List.forall_mem_cons.1 his
    refine ih (h.step (r.step_occur i)) ?_ hrest
    cases i with
    | pass time =>
      by_cases hmay : r.mayPass time = true
      · rw [opened_pass hmay (hopened.symm ▸ hmay), hopened]
      · rw [show r.occur (.pass time) = r from if_neg hmay, hopened]
    | _ => rw [opened_occur h hi rfl, hopened]

/-! ## The closing -/

/-- Whatever a run comes to after the closing of the buffer, it comes to as well if nobody sends any
signals instead. -/
theorem exists_silence (h : r.Attentive) (after : List Incident) :
    ∃ silence, Pads Incident.isPass silence (after.filter fun i => !i.isSending) ∧
      ((r.occur .closeSignals).follow after).opened = (r.follow silence).opened := by
  have hclosed : (r.occur .closeSignals).coordinator.signals.isSending = false := rfl
  have hsilent : ∀ i ∈ after.filter fun i => !i.isSending, i.isSending = false := by simp
  rw [← follow_filter_of_closed hclosed]
  cases hsending : r.coordinator.signals.isSending with
  | false => exact ⟨_, .refl _, by rw [occur_of_closed hsending rfl]⟩
  | true =>
    have hopened := opened_of_sending h hsending
    obtain ⟨js, hpads, hfollow⟩ :=
      exists_opened_follow (h.step (r.step_occur .closeSignals)) hsilent
    refine ⟨js, hpads, hfollow.trans ?_⟩
    rw [opened_follow_of_opened h hopened fun i hi => hsilent i (hpads.subset hi)]
    exact congrArg (follow · js) hopened

/-- Whatever a run comes to if nobody sends any signals, it comes to as well after the closing of
the buffer. -/
theorem exists_closing (h : r.Attentive) {silence : List Incident}
    (hsilent : ∀ i ∈ silence, i.isSending = false) :
    ∃ after, Pads (· == .takeSignal) silence after ∧
      ((r.occur .closeSignals).follow after).opened = (r.follow silence).opened := by
  cases hsending : r.coordinator.signals.isSending with
  | false => exact ⟨silence, .refl _, by rw [occur_of_closed hsending rfl]⟩
  | true =>
    have hopened := opened_of_sending h hsending
    obtain ⟨js, hpads, hfollow⟩ :=
      exists_follow_opened (h.step (r.step_occur .closeSignals)) hsilent
    refine ⟨js, hpads, hfollow.trans ?_⟩
    rw [opened_follow_of_opened h hopened hsilent]
    exact congrArg (follow · silence) hopened

end ShutdownRun

end Hotplug
