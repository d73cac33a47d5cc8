import Hotplug.Proofs.Releases

/-!
# What the event loops are told of the end

An event loop is told that its session is over once the driver was removed.  It is also told so
when the call to remove the driver has panicked and nobody else holds a sender: the manager, with
its own sender, is lost in the panic, and the queue counts as disconnected.

* `removalsOf`, `Conduct.RemovesOnce` — the call to remove a driver ends once at most.
* `Queue.holds`, `Traffic.Connected` — who holds the senders of the queue.
* `Supervision.dismissed_after_removal` — what was the case when an event loop was told that there
  is nothing more.
* `Supervision.orphaning` — a run in which the event loop is told so by a panic.
-/

namespace Hotplug

/-! ## The end of the removal -/

/-- How a call to remove the driver ended. -/
def Happening.removed? : Happening → Option CallResult
  | callEnded .remove r => some r
  | _ => none

/-- How the calls to remove the driver ended, as a story tells. -/
def removalsOf (l : List Happening) : List CallResult :=
  l.filterMap Happening.removed?

theorem mem_removalsOf {l : List Happening} {r : CallResult} :
    r ∈ removalsOf l ↔ .callEnded .remove r ∈ l := by
  constructor
  · intro h
    obtain ⟨x, hx, hr⟩ := List.mem_filterMap.1 h
    unfold Happening.removed? at hr
    split at hr
    · obtain rfl := Option.some.inj hr
      exact hx
    · cases hr
  · exact fun h => List.mem_filterMap.2 ⟨_, h, rfl⟩

/-- Whether the call to remove the driver of the latest session has not ended. -/
def Duty.isBeforeRemoval : Duty → Bool
  | adding .. | stranded .. | skipping _ | serving .. | removing .. | cut (some .remove) => true
  | _ => false

theorem Duty.isBeforeRemoval_of_afterCut {d : Duty} (h : d.afterCut.isBeforeRemoval = true) :
    d.isBeforeRemoval = true := by
  cases d <;> first | exact h | rfl

@[simp] theorem Duty.isBeforeRemoval_afterLoop (d : Duty) :
    d.afterLoop.isBeforeRemoval = d.isBeforeRemoval := by
  cases d <;> rfl

/-- A session whose call to remove the driver has ended was told so. -/
theorem Session.stage_of_not_isBeforeRemoval {x : Session}
    (h : ¬ x.duty.isBeforeRemoval = true) :
    (∃ timer loop, x.stage = .running (.removed timer) loop) ∨
      ∃ timer loop, x.stage = .running (.failed timer) loop := by
  unfold duty at h
  split at h
  case h_6 timer loop hst => exact .inl ⟨timer, loop, hst⟩
  case h_7 timer loop hst => exact .inr ⟨timer, loop, hst⟩
  all_goals exact absurd rfl h

namespace Conduct

variable {g : Settings} {c c' : Conduct}

/-- In each session the call to remove the driver ends once at most. -/
structure RemovesOnce (c : Conduct) : Prop where
  once : ∀ n, (removalsOf (storyOf n c.outline)).length ≤ 1
  ahead : ∀ n, c.count < n ∨ n = c.count ∧ c.duty.isBeforeRemoval = true →
    removalsOf (storyOf n c.outline) = []

namespace RemovesOnce

/-- No call to remove the driver ends. -/
theorem keep (h : c.RemovesOnce) (hadds : Adds (·.removed?.isNone) c.outline c'.outline)
    (hahead : ∀ n, c'.count < n ∨ n = c'.count ∧ c'.duty.isBeforeRemoval = true →
      c.count < n ∨ n = c.count ∧ c.duty.isBeforeRemoval = true) : c'.RemovesOnce := by
  have hsame : ∀ n, removalsOf (storyOf n c'.outline) = removalsOf (storyOf n c.outline) :=
    hadds.filterMap_storyOf
  constructor
  · intro n
    rw [hsame]
    exact h.once n
  · intro n hn
    rw [hsame]
    exact h.ahead n (hahead n hn)

/-- The latest session goes on. -/
theorem go (h : c.RemovesOnce) (hadds : Adds (·.removed?.isNone) c.outline c'.outline)
    (hcount : c'.count = c.count)
    (hduty : c'.duty.isBeforeRemoval = true → c.duty.isBeforeRemoval = true) : c'.RemovesOnce :=
  h.keep hadds fun n hn => by
    rw [hcount] at hn
    exact hn.imp_right fun hlatest => ⟨hlatest.1, hduty hlatest.2⟩

/-- The call to remove the driver of the latest session ends. -/
theorem remove (h : c.RemovesOnce) (hduty : c.duty.isBeforeRemoval = true)
    (hbegun : begunIn c.outline = c.count) (r : CallResult)
    (hadds : Adds (·.removed?.isNone) (c.tell (.callEnded .remove r)).outline c'.outline)
    (hcount : c'.count = c.count) (hafter : c'.duty.isBeforeRemoval = false) :
    c'.RemovesOnce := by
  have hrec : Recounts c.count c.outline (c.tell (.callEnded .remove r)).outline
      [.callEnded .remove r] :=
    (Recounts.refl _ _).late hbegun (fun _ _ => rfl) rfl
  have hsame : ∀ n, removalsOf (storyOf n c'.outline) =
      removalsOf (storyOf n (c.tell (.callEnded .remove r)).outline) := hadds.filterMap_storyOf
  have hothers : ∀ n, n ≠ c.count →
      removalsOf (storyOf n c'.outline) = removalsOf (storyOf n c.outline) := by
    intro n hn
    rw [hsame, hrec.others n hn]
  constructor
  · intro n
    by_cases hn : n = c.count
    · have hnone : removalsOf (storyOf c.count c.outline) = [] := h.ahead _ (.inr ⟨rfl, hduty⟩)
      rw [hsame, hn, hrec.own, removalsOf, List.filterMap_append, ← removalsOf, hnone]
      exact Nat.le_refl 1
    · rw [hothers n hn]
      exact h.once n
  · rintro n (hlater | ⟨-, hbefore⟩)
    · rw [hcount] at hlater
      rw [hothers n (Nat.ne_of_gt hlater)]
      exact h.ahead n (.inl hlater)
    · rw [hafter] at hbefore
      cases hbefore

theorem step (h : c.RemovesOnce) (hbegun : begunIn c.outline = c.count) (hs : Step g c c') :
    c'.RemovesOnce := by
  cases hs with
  | quiet => exact h
  | signals | ignoreSignals | pass => exact h.go (Adds.refl _) rfl id
  | look => exact h.go ((Adds.refl _).cons rfl) rfl id
  | fire => exact h.go (adds_post ((Adds.refl _).cons rfl) _ rfl) rfl id
  | firstSignal s b =>
    exact h.go ((adds_raiseStop (c := (c.setSignals b).tell (.signalTaken s))
      ((Adds.refl _).cons rfl) rfl).cons rfl) rfl id
  | decide => exact h.go ((Adds.refl _).cons rfl) rfl Duty.isBeforeRemoval_of_afterCut
  | secondSignal =>
    exact h.go (((Adds.refl _).cons rfl).cons rfl) rfl Duty.isBeforeRemoval_of_afterCut
  | loopPanicked =>
    exact h.go (adds_post ((Adds.refl _).cons rfl) _ rfl) rfl Duty.isBeforeRemoval_of_afterCut
  | loopEnded n hloop =>
    exact h.go ((Adds.refl _).cons rfl) rfl (by simp [turn, tell])
  | beginStop => exact h.go ((Adds.refl _).cons rfl) rfl (by rintro ⟨⟩)
  | stopped => exact h.go (adds_post ((Adds.refl _).cons rfl) _ rfl) rfl (by rintro ⟨⟩)
  | beginSession =>
    refine h.keep ((((Adds.refl _).cons rfl).cons rfl |>.cons rfl).cons rfl) fun n hn => ?_
    have hn' : c.count + 1 < n ∨ n = c.count + 1 ∧ _ := hn
    rcases hn' with hlater | ⟨rfl, -⟩
    · exact .inl (Nat.lt_of_succ_lt hlater)
    · exact .inl (Nat.lt_succ_self _)
  | added n timer ok hduty =>
    exact h.go (((Adds.refl _).cons rfl).cons rfl |>.cons rfl) rfl
      (by rw [hduty]; exact fun _ => rfl)
  | skipped n timer hduty | addPanicked n timer reason hduty =>
    exact h.go ((Adds.refl _).cons rfl) rfl (by rw [hduty]; exact fun _ => rfl)
  | skipStopped | sessionEnded => exact h.go ((Adds.refl _).cons rfl) rfl (by rintro ⟨⟩)
  | skipEnded => exact h.go (((Adds.refl _).cons rfl).cons rfl) rfl (by rintro ⟨⟩)
  | beginRemoval n isOver hduty =>
    exact h.go ((((Adds.refl _).cons rfl).cons rfl |>.cons rfl).cons rfl) rfl
      (by rw [hduty]; exact fun _ => rfl)
  | driverRemoved n timer isOver hduty =>
    exact h.remove (by rw [hduty]; rfl) hbegun (.returned true) (Adds.refl _) rfl rfl
  | removalFailed n timer isOver r hduty =>
    exact h.remove (by rw [hduty]; rfl) hbegun r ((Adds.refl _).cons rfl) rfl rfl
  | lateEnd k r hduty =>
    cases k with
    | remove => exact h.remove (by rw [hduty]; rfl) hbegun r (Adds.refl _) rfl rfl
    | add | stop => exact h.go ((Adds.refl _).cons rfl) rfl (by rintro ⟨⟩)

end RemovesOnce

theorem Reached.removesOnce (h : Reached g c) : c.RemovesOnce := by
  induction h with
  | begun b | refused b r => exact ⟨fun n => Nat.zero_le 1, fun _ _ => rfl⟩
  | step hr hs ih => exact ih.step hr.narrated.begun hs

end Conduct

/-! ## Who holds the senders -/

namespace Queue

theorem holds_dropSender (q : Queue) {i j : Nat} (h : i ≠ j) :
    (q.dropSender i).2.holds j = q.holds j := by
  simp [dropSender, holds, h]

theorem hasSender_of_holds {q : Queue} {i : Nat} (h : q.holds i = true) : q.hasSender = true := by
  unfold holds at h
  rw [List.getD_eq_getElem?_getD] at h
  cases hi : q.senders[i]? with
  | none =>
    rw [hi] at h
    cases h
  | some b =>
    rw [hi] at h
    obtain rfl : b = true := h
    exact List.contains_iff_mem.2 (List.mem_of_getElem? hi)

/-- A queue that is taken from is disconnected just if nobody holds a sender. -/
theorem holds_of_disconnected {q : Queue} (htaking : q.receiver = .taking)
    (h : q.receive.1 = .disconnected) (i : Nat) : q.holds i = false := by
  refine eq_false_of_ne_true fun hi => ?_
  unfold receive at h
  split at h
  · cases h
  · simp [htaking, hasSender_of_holds hi] at h

end Queue

/-- What has come stays in the story of its session. -/
theorem mem_storyOf_of_suffix {n : SessionId} {hs hs' : List (Nat × Happening)} {x : Happening}
    (h : hs <:+ hs') (hx : x ∈ storyOf n hs) : x ∈ storyOf n hs' := by
  obtain ⟨new, rfl⟩ := h
  induction new with
  | nil => exact hx
  | cons e new ih => exact mem_storyOf_cons.2 (.inr ih)

namespace Traffic

variable {may : Deed → Prop} {f g : Traffic}

/-- How the call to remove the driver of session `n` has ended, as far as the traffic knows. -/
def Ended (f : Traffic) (n : SessionId) (r : CallResult) : Prop :=
  .callEnded .remove r ∈ storyOf n f.chronicle.happenings

/-- The manager may be lost. -/
def Orphaned (f : Traffic) : Prop :=
  match f.service with
  | .over | .stranded _ => True
  | .failing n => ∃ reason, f.Ended n (.panicked reason)
  | _ => False

/-- The manager and somebody else hold the senders of a queue that is not closed, as long as
neither has given its own up. -/
structure Connected (may : Deed → Prop) (f : Traffic) : Prop where
  unclosed : f.queue.receiver ≠ .closed
  manager : f.queue.holds 0 = true ∨ f.Orphaned
  outside : f.service ≠ .over → f.queue.holds World.outsideSender = true ∨ may .detach
  dismissed : ∀ n, f.service = .dismissing n → f.Ended n (.returned true)

namespace Connected

/-- The senders stay where they are, and the session under way stays as it is. -/
theorem congr (h : f.Connected may)
    (hsuffix : f.chronicle.happenings <:+ g.chronicle.happenings)
    (hserv : g.service = f.service) (hsenders : g.queue.senders = f.queue.senders)
    (hreceiver : g.queue.receiver = f.queue.receiver) : g.Connected may := by
  have hholds : ∀ i, g.queue.holds i = f.queue.holds i := fun i => by
    unfold Queue.holds
    rw [hsenders]
  refine ⟨hreceiver ▸ h.unclosed, ?_, ?_, ?_⟩
  · rw [hholds]
    refine h.manager.imp_right fun horphaned => ?_
    unfold Orphaned at horphaned ⊢
    rw [hserv]
    split at horphaned
    · trivial
    · trivial
    · exact horphaned.imp fun _ => mem_storyOf_of_suffix hsuffix
    · exact horphaned
  · rw [hserv, hholds]
    exact h.outside
  · rw [hserv]
    exact fun n hn => mem_storyOf_of_suffix hsuffix (h.dismissed n hn)

/-- The manager is held by the session under way, which goes on or ends. -/
theorem go (h : f.Connected may) (horphaned : ¬ f.Orphaned) (hover : f.service ≠ .over)
    (hsenders : g.queue.senders = f.queue.senders)
    (hreceiver : g.queue.receiver = f.queue.receiver)
    (hdismissed : ∀ n, g.service = .dismissing n → g.Ended n (.returned true)) :
    g.Connected may := by
  have hholds : ∀ i, g.queue.holds i = f.queue.holds i := fun i => by
    unfold Queue.holds
    rw [hsenders]
  refine ⟨hreceiver ▸ h.unclosed, .inl ?_, fun _ => ?_, hdismissed⟩
  · rw [hholds]
    exact h.manager.resolve_right horphaned
  · rw [hholds]
    exact h.outside hover

/-- The manager is lost. -/
theorem lose (h : f.Connected may) (horphaned : g.Orphaned) (hover : f.service ≠ .over)
    (hqueue : g.queue = (f.queue.dropSender 0).2)
    (hdismissed : ∀ n, g.service ≠ .dismissing n) : g.Connected may := by
  refine ⟨?_, .inr horphaned, fun _ => ?_, fun n hn => absurd hn (hdismissed n)⟩
  · rw [hqueue]
    exact h.unclosed
  · rw [hqueue, Queue.holds_dropSender _ (by decide)]
    exact h.outside hover

theorem deliver (h : f.Connected may) (k : Notification) : (f.deliver k).Connected may := by
  have hqueue : (f.deliver k).queue.senders = f.queue.senders ∧
      (f.deliver k).queue.receiver = f.queue.receiver := by
    by_cases htaking : f.queue.receiver = .taking
    · rw [(deliver_of_taking htaking k).1]
      exact ⟨rfl, rfl⟩
    · rw [(deliver_of_not_taking htaking k).1]
      exact ⟨rfl, rfl⟩
  have hstep : f.Step (fun _ => True) (f.deliver k) := .deliver k trivial
  exact h.congr hstep.suffix rfl hqueue.1 hqueue.2

theorem step (h : f.Connected may) (hclose : ¬ may (.ask .closeQueue)) (hs : f.Step may g) :
    g.Connected may := by
  have hgoes : ∀ n, f.service = .attaching n ∨ f.service = .serving n → ¬ f.Orphaned ∧
      f.service ≠ .over := by
    rintro n (hserv | hserv) <;> simp [Orphaned, hserv]
  have hsuffix := hs.suffix
  cases hs with
  | quiet | reply | take | drop | leave | stop => exact h.congr hsuffix rfl rfl rfl
  | deliver k => exact h.deliver k
  | report home kind =>
    rw [report_eq]
    exact deliver (f := f.issued) (h.congr (List.suffix_refl _) rfl rfl rfl) _
  | begin hidle =>
    exact h.go (by simp [Orphaned, hidle]) (by rw [hidle]; rintro ⟨⟩) rfl rfl (by rintro n ⟨⟩)
  | strand n hserv =>
    exact h.lose trivial (hgoes n (.inl hserv)).2 rfl (by rintro m ⟨⟩)
  | serve n hserv =>
    exact h.go (hgoes n (.inl hserv)).1 (hgoes n (.inl hserv)).2 rfl rfl (by rintro m ⟨⟩)
  | close hask => exact absurd hask hclose
  | dismiss n hserv htold =>
    refine h.go (hgoes n (.inr hserv)).1 (hgoes n (.inr hserv)).2 rfl rfl fun m hm => ?_
    obtain rfl := Service.dismissing.inj hm
    exact htold
  | fail n hserv =>
    exact h.go (hgoes n (.inr hserv)).1 (hgoes n (.inr hserv)).2 rfl rfl (by rintro m ⟨⟩)
  | orphan n reason hserv htold =>
    refine h.lose ?_ (by rw [hserv]; rintro ⟨⟩) rfl fun m hm => ?_
    · simp only [Orphaned, dropSender, hserv]
      exact ⟨reason, htold⟩
    · rw [show f.service = _ from hm] at hserv
      cases hserv
  | clear n hserv =>
    refine h.go ?_ ?_ rfl rfl (by rintro m ⟨⟩)
    · rcases hserv with hserv | hserv <;> simp [Orphaned, hserv]
    · rcases hserv with hserv | hserv <;> simp [hserv]
  | shut => exact ⟨by rintro ⟨⟩, .inr trivial, fun hover => absurd rfl hover, by rintro n ⟨⟩⟩
  | part hover =>
    refine ⟨h.unclosed, .inr ?_, fun hlive => absurd hover hlive, h.dismissed⟩
    simp [Orphaned, dropSender, hover]
  | detach hmay =>
    refine ⟨h.unclosed, h.manager.imp_left fun hholds => ?_, fun _ => .inr hmay, h.dismissed⟩
    exact (Queue.holds_dropSender _ (by decide)).trans hholds

/-- Whoever finds the queue disconnected in a session has lost the manager in the removal, and
nobody else reports to the queue any more. -/
theorem of_disconnected (h : f.Connected may) (hsealed : f.Sealed) {n : SessionId}
    (hloop : f.service.looping? = some n) (hnone : f.queue.receive.1 = .disconnected) :
    (∃ reason, f.Ended n (.panicked reason)) ∧ may .detach := by
  have hover : f.service ≠ .over := Sealed.looping ⟨n, hloop⟩
  have htaking : f.queue.receiver = .taking := by
    cases hr : f.queue.receiver with
    | taking => rfl
    | closed => exact absurd hr h.unclosed
    | dropped => exact absurd (hsealed.receiver.2 hr) hover
  have hnobody := Queue.holds_of_disconnected htaking hnone
  constructor
  · have horphaned : f.Orphaned := h.manager.resolve_left (by simp [hnobody])
    unfold Orphaned at horphaned
    split at horphaned
    · exact absurd ‹_› hover
    · rename_i hserv
      rw [hserv] at hloop
      cases hloop
    · rename_i m hserv
      rw [hserv] at hloop
      obtain rfl : m = n := Option.some.inj hloop
      exact horphaned
    · exact horphaned.elim
  · exact (h.outside hover).resolve_left (by simp [hnobody])

end Connected

end Traffic

/-! ## Runs -/

namespace Supervision

variable {L : EventLoop} (s : Supervision L)

/-- The event loop never closes the queue. -/
def LeavesOpen (os : List Occurrence) : Prop :=
  ∀ before after, os = before ++ .move .eventLoop :: after →
    L.request (s.after before).loop ≠ .closeQueue

/-- What was the case when an event loop was told that there is nothing more. -/
structure DismissedAfterRemoval (os : List Occurrence) : Prop where
  /-- Whoever waits to be told so is told once the driver was removed. -/
  quitSignalled : ∀ newer older t n,
    s.history os = newer ++ (t, .loopReplied n .quitSignalled) :: older →
      .callEnded .remove (.returned true) ∈ storyOf n older
  /-- Whoever asks for the next event is told once the driver was removed, or once its removal
  panicked and the library reports to nobody else. -/
  noMore : ∀ newer older t n, s.history os = newer ++ (t, .loopReplied n .noMore) :: older →
    .callEnded .remove (.returned true) ∈ storyOf n older ∨
      (∃ reason, .callEnded .remove (.panicked reason) ∈ storyOf n older) ∧ .detach ∈ os
  /-- Nobody is told so in a session whose driver could not be removed. -/
  failed : ∀ n, .callEnded .remove (.returned false) ∈ storyOf n (s.history os) →
    ∀ t, (t, .loopReplied n .noMore) ∉ s.history os ∧
      (t, .loopReplied n .quitSignalled) ∉ s.history os
  /-- A session is quitting just if its driver was removed. -/
  quitting : ∀ x ∈ (s.after os).session,
    x.isQuitting = true ↔ .callEnded .remove (.returned true) ∈ storyOf x.id (s.history os)

theorem removesOnce_after (os : List Occurrence) : (s.after os).frame.conduct.RemovesOnce :=
  (s.reached_after os).removesOnce

/-- The call to remove a driver has one result. -/
theorem removal_unique (os : List Occurrence) {n : SessionId} {r r' : CallResult}
    (h : .callEnded .remove r ∈ storyOf n (s.history os))
    (h' : .callEnded .remove r' ∈ storyOf n (s.history os)) : r = r' := by
  have honce := (s.removesOnce_after os).once n
  rw [s.storyOf_outline] at honce
  rw [← mem_removalsOf] at h h'
  cases hl : removalsOf (storyOf n (s.history os)) with
  | nil =>
    rw [hl] at h
    cases h
  | cons a rest =>
    rw [hl] at honce h h'
    obtain rfl : rest = [] :=
      List.length_eq_zero_iff.1 (Nat.le_zero.1 (Nat.le_of_succ_le_succ honce))
    rw [List.mem_singleton.1 h, List.mem_singleton.1 h']

theorem not_deeds_of_leavesOpen {os : List Occurrence} (hopen : s.LeavesOpen os) :
    ¬ s.deeds os (.ask .closeQueue) := by
  rintro ⟨before, after, heq, hask⟩
  exact hopen before after heq hask

theorem connected_start (may : Deed → Prop) : s.start.traffic.Connected may := by
  obtain ⟨hqueue, -, hserv, -, -⟩ := s.traffic_start
  cases hrefused : s.refusal?.isSome with
  | false =>
    simp only [hrefused, Bool.false_eq_true, if_false] at hqueue hserv
    refine ⟨?_, .inl ?_, fun _ => .inl ?_, fun n hn => ?_⟩
    · rw [hqueue]
      rintro ⟨⟩
    · rw [hqueue]
      rfl
    · rw [hqueue]
      rfl
    · rw [hserv] at hn
      cases hn
  | true =>
    simp only [hrefused, if_true] at hqueue hserv
    refine ⟨?_, .inr ?_, fun hlive => absurd hserv hlive, fun n hn => ?_⟩
    · rw [hqueue]
      rintro ⟨⟩
    · simp [Traffic.Orphaned, hserv]
    · rw [hserv] at hn
      cases hn

section Told

variable {os : List Occurrence} (hopen : s.LeavesOpen os) (n : SessionId)

include hopen

/-- What an event loop is told comes while the queue is connected. -/
theorem before_of_connected {x : Happening} (hx : x.isSilent = false)
    {Q : Nat → List (Nat × Happening) → Prop}
    (hQ : ∀ f : Traffic, f.Sealed → f.Connected (s.deeds os) → f.Voices (s.deeds os) x →
      Q f.chronicle.now f.chronicle.happenings) : Before x Q (s.history os) :=
  s.before_of_voices os (P := fun f => f.Sealed ∧ f.Connected (s.deeds os))
    ⟨s.sealed_after [], s.connected_start _⟩
    (fun _ _ hs h => ⟨h.1.step hs, h.2.step (s.not_deeds_of_leavesOpen hopen) hs⟩) hx
    fun f hf => hQ f hf.1 hf.2

theorem quitSignalled_after : Before (.loopReplied n .quitSignalled)
    (fun _ older => .callEnded .remove (.returned true) ∈ storyOf n older) (s.history os) := by
  refine s.before_of_connected hopen rfl ?_
  rintro f - hconnected ⟨-, q, -, htells⟩
  cases q with
  | awaitQuit => exact hconnected.dismissed n htells
  | _ => exact htells.elim

theorem noMore_after : Before (.loopReplied n .noMore)
    (fun _ older => .callEnded .remove (.returned true) ∈ storyOf n older ∨
      (∃ reason, .callEnded .remove (.panicked reason) ∈ storyOf n older) ∧ .detach ∈ os)
    (s.history os) := by
  refine s.before_of_connected hopen rfl ?_
  rintro f hsealed hconnected ⟨hloop, q, -, htells⟩
  cases q with
  | nextEvent =>
    rcases htells with hserv | hnone
    · exact .inl (hconnected.dismissed n hserv)
    · exact .inr (hconnected.of_disconnected hsealed hloop hnone)
  | _ => exact htells.elim

end Told

/-- What was in the story of a session as something came still is. -/
theorem mem_storyOf_history {os : List Occurrence} {newer older : List (Nat × Happening)}
    {e : Nat × Happening} (heq : s.history os = newer ++ e :: older) {n : SessionId}
    {x : Happening} (hx : x ∈ storyOf n older) : x ∈ storyOf n (s.history os) := by
  rw [heq]
  exact mem_storyOf_of_suffix ((List.suffix_cons _ _).trans (List.suffix_append _ _)) hx

/-- A session whose driver was removed tells its event loop so. -/
theorem isQuitting_of_removed (os : List Occurrence) {x : Session}
    (hx : x ∈ (s.after os).session)
    (h : .callEnded .remove (.returned true) ∈ storyOf x.id (s.history os)) :
    x.isQuitting = true := by
  have hord := s.orderly_after os
  have hs : (s.after os).frame.session = some x := hx
  have hduty : (s.after os).frame.conduct.duty = x.duty := hord.duty_eq hs
  have hnot : ¬ x.duty.isBeforeRemoval = true := by
    intro hbefore
    have hnone := (s.removesOnce_after os).ahead x.id
      (.inr ⟨hord.session_id x hs, by rw [hduty]; exact hbefore⟩)
    rw [s.storyOf_outline] at hnone
    rw [← mem_removalsOf, hnone] at h
    cases h
  refine (s.quitsRemoved_after os x hx).2 ?_
  rcases Session.stage_of_not_isBeforeRemoval hnot with hremoved | ⟨timer, loop, hst⟩
  · exact hremoved
  · -- The session was aborted as the call ended otherwise.
    have hrecalls := s.recalls_after os hx
    rw [show x.duty = .failed x.id timer loop.isReturned by simp [Session.duty, hst]] at hrecalls
    have hlawful := (s.lawful_after os x.id).1
    have hreaches := hlawful.reaches
    rw [show stateOf _ = .aborted from hrecalls] at hreaches
    obtain ⟨before, m, after, heq, -, before', r, rfl, hr, -⟩ :=
      hlawful.passes (a := .removing) (b := .aborted)
        (by rw [show changesOf _ = _ from hreaches]; decide)
    have hmem : .callEnded .remove r ∈ storyOf x.id (s.history os) := by
      rw [heq]
      simp
    exact absurd (s.removal_unique os hmem h) hr

/-- **An event loop is told that its session is over once the driver was removed**, or once its
removal panicked and the library had given up reporting from elsewhere; never when the driver
could not be removed. -/
theorem dismissed_after_removal (os : List Occurrence) (hopen : s.LeavesOpen os) :
    s.DismissedAfterRemoval os where
  quitSignalled newer older t n := s.quitSignalled_after hopen n newer older t
  noMore newer older t n := s.noMore_after hopen n newer older t
  failed n hfailed t := by
    have hnot : ∀ r older newer x, s.history os = newer ++ (t, x) :: older →
        .callEnded .remove r ∈ storyOf n older → r = .returned false :=
      fun r older newer x heq hr => s.removal_unique os (s.mem_storyOf_history heq hr) hfailed
    constructor
    · intro hmem
      obtain ⟨newer, older, heq⟩ := List.append_of_mem hmem
      rcases s.noMore_after hopen n newer older t heq with hr | ⟨⟨reason, hr⟩, -⟩
      · cases hnot _ older newer _ heq hr
      · cases hnot _ older newer _ heq hr
    · intro hmem
      obtain ⟨newer, older, heq⟩ := List.append_of_mem hmem
      cases hnot _ older newer _ heq (s.quitSignalled_after hopen n newer older t heq)
  quitting x hx := ⟨(s.sessions_in_order os).quitting x hx, s.isQuitting_of_removed os hx⟩

/-- No script closes the queue. -/
theorem leavesOpen_script {scripts : List (List Instruction)}
    (s : Supervision (Script.loop scripts)) (os : List Occurrence) : s.LeavesOpen os := by
  rintro before - -
  change Script.request (s.after before).loop ≠ .closeQueue
  unfold Script.request
  split
  · rintro ⟨⟩
  · split
    · rintro ⟨⟩
    · rename_i i rest hrest
      cases i <;> rintro ⟨⟩

/-- A run whose library panics as it removes the driver, and whose event loop asks for events until
there are no more. -/
def orphaning : Supervision (Script.loop [[.drain]]) where
  files := .plugged
  library := { removing := fun _ => { hold := some 1, result := .panicked "remove failed" } }
  loop := {}

/-- The library reports nothing from elsewhere, a session runs, and a signal has its driver
removed. -/
def orphaningCourse : List Occurrence :=
  [.detach, .move .cycle, .move .cycle, .move .endCall, .move .watchRemoval, .signal .terminate,
    .move .takeSignal, .move .forwardStop, .move .session, .pass 1, .move .endCall,
    .move .eventLoop]

theorem dismissed_after_removal_orphaning :
    orphaning.LeavesOpen orphaningCourse ∧ orphaning.DismissedAfterRemoval orphaningCourse :=
  ⟨leavesOpen_script orphaning orphaningCourse,
    dismissed_after_removal orphaning orphaningCourse (leavesOpen_script orphaning orphaningCourse)⟩

/-- The event loop is told that there is nothing more although the driver was not removed: the
call panicked, and with the manager the last sender was lost. -/
theorem noMore_without_removal :
    (orphaning.history orphaningCourse).head? = some (1, .loopReplied 1 .noMore) ∧
      .callEnded .remove (.returned true) ∉ storyOf 1 (orphaning.history orphaningCourse) ∧
      (orphaning.after orphaningCourse).session.map (·.isQuitting) = some false := by
  decide +kernel

end Supervision

end Hotplug
