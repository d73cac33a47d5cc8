import Hotplug.Proofs.Verdict

/-!
# Two signals are enough

A buffer for two signals drops some of those that are sent, but never one of the first two.  So
whoever sends two signals ends the run: it has ended when the coordinator has drained the buffer.

The subject is the signal listener of the lifecycle component, and the coordinator that it sends
to.

* `Buffered` — what the buffer has made of the signals that were sent.
* `Heeded` — whatever the coordinator decides on was posted, or it has taken a second signal.
* `ShutdownRun.coalescing_keeps_escalation` — the second signal is not lost.
-/

namespace Hotplug.ShutdownRun

variable {r v : ShutdownRun} {capacity : Nat} {s : Signal} {later : List Signal}

/-! ## The buffer -/

/-- Those of the signals that got into the buffer. -/
def admitted (r : ShutdownRun) : List Signal :=
  r.docket.arrivals.map (·.2)

/-- The buffer holds what was not taken of the signals that got into it, which are the first of
those that were sent and perhaps some later ones. -/
structure Buffered (capacity : Nat) (r : ShutdownRun) : Prop where
  capacity_eq : r.coordinator.signals.capacity = capacity
  unread_le : r.coordinator.signals.waiting.length ≤ capacity
  taken : r.received ++ r.coordinator.signals.waiting <+: r.admitted
  whole : r.coordinator.signals.isRead = true →
    r.received ++ r.coordinator.signals.waiting = r.admitted
  order : r.admitted.Sublist r.docket.forwarded
  first : r.docket.forwarded.take capacity <+: r.admitted

namespace Buffered

theorem congr (h : r.Buffered capacity)
    (hcapacity : v.coordinator.signals.capacity = r.coordinator.signals.capacity)
    (hwaiting : v.coordinator.signals.waiting = r.coordinator.signals.waiting)
    (hread : v.coordinator.signals.isRead = r.coordinator.signals.isRead)
    (hreceived : v.received = r.received) (harrivals : v.docket.arrivals = r.docket.arrivals)
    (hforwarded : v.docket.forwarded = r.docket.forwarded) : v.Buffered capacity := by
  have hadmitted : v.admitted = r.admitted := by
    rw [admitted, harrivals, admitted]
  constructor
  · rw [hcapacity, h.capacity_eq]
  · rw [hwaiting]
    exact h.unread_le
  · rw [hreceived, hwaiting, hadmitted]
    exact h.taken
  · rw [hread, hreceived, hwaiting, hadmitted]
    exact h.whole
  · rw [hadmitted, hforwarded]
    exact h.order
  · rw [hadmitted, hforwarded]
    exact h.first

/-- No more signals wait than got into the buffer. -/
theorem length_le (h : r.Buffered capacity) :
    r.coordinator.signals.waiting.length ≤ r.admitted.length := by
  have hlength := h.taken.length_le
  rw [List.length_append] at hlength
  omega

/-- As long as fewer signals were sent than the buffer holds, all of them got into it. -/
theorem forwarded_eq (h : r.Buffered capacity) (hfew : r.docket.forwarded.length ≤ capacity) :
    r.admitted = r.docket.forwarded := by
  have hfirst := h.first
  rw [List.take_of_length_le hfew] at hfirst
  exact h.order.eq_of_length_le hfirst.length_le

/-- A signal gets into the buffer. -/
theorem queue (h : r.Buffered capacity)
    (hroom : r.coordinator.signals.waiting.length < r.coordinator.signals.capacity)
    (hread : r.coordinator.signals.isRead = true)
    (hcapacity : v.coordinator.signals.capacity = r.coordinator.signals.capacity)
    (hwaiting : v.coordinator.signals.waiting = r.coordinator.signals.waiting ++ [s])
    (hreceived : v.received = r.received)
    (hadmitted : v.admitted = r.admitted ++ [s])
    (hforwarded : v.docket.forwarded = r.docket.forwarded ++ [s]) : v.Buffered capacity := by
  have hwhole : v.received ++ v.coordinator.signals.waiting = v.admitted := by
    rw [hreceived, hwaiting, hadmitted, ← List.append_assoc, h.whole hread]
  constructor
  · rw [hcapacity, h.capacity_eq]
  · rw [h.capacity_eq] at hroom
    rw [hwaiting, List.length_append, List.length_singleton]
    omega
  · exact hwhole ▸ List.prefix_refl _
  · exact fun _ => hwhole
  · rw [hadmitted, hforwarded]
    exact h.order.append_right [s]
  · rw [hadmitted, hforwarded]
    by_cases hfew : r.docket.forwarded.length < capacity
    · rw [h.forwarded_eq (Nat.le_of_lt hfew)]
      exact List.take_prefix _ _
    · rw [List.take_append_of_le_length (Nat.le_of_not_lt hfew)]
      exact h.first.trans (List.prefix_append _ _)

/-- A signal is coalesced.  It is not one of the first. -/
theorem coalesce (h : r.Buffered capacity)
    (hfull : r.coordinator.signals.capacity ≤ r.coordinator.signals.waiting.length)
    (hsignals : v.coordinator.signals = r.coordinator.signals) (hreceived : v.received = r.received)
    (harrivals : v.docket.arrivals = r.docket.arrivals)
    (hforwarded : v.docket.forwarded = r.docket.forwarded ++ [s]) : v.Buffered capacity := by
  have hadmitted : v.admitted = r.admitted := by
    rw [admitted, harrivals, admitted]
  have hmany : capacity ≤ r.docket.forwarded.length := by
    have hlength := h.order.length_le
    have hwaiting := h.length_le
    rw [h.capacity_eq] at hfull
    omega
  constructor
  · rw [hsignals, h.capacity_eq]
  · rw [hsignals]
    exact h.unread_le
  · rw [hreceived, hsignals, hadmitted]
    exact h.taken
  · rw [hsignals, hreceived, hadmitted]
    exact h.whole
  · rw [hadmitted, hforwarded]
    exact h.order.trans (List.sublist_append_left _ _)
  · rw [hadmitted, hforwarded, List.take_append_of_le_length hmany]
    exact h.first

/-- The coordinator takes a signal. -/
theorem take (h : r.Buffered capacity) (hwaiting : r.coordinator.signals.waiting = s :: later)
    (hsignals : v.coordinator.signals = { r.coordinator.signals with waiting := later })
    (hreceived : v.received = r.received ++ [s]) (hdocket : v.docket = r.docket) :
    v.Buffered capacity := by
  have hadmitted : v.admitted = r.admitted := by
    rw [admitted, hdocket, admitted]
  have hsame : v.received ++ v.coordinator.signals.waiting =
      r.received ++ r.coordinator.signals.waiting := by
    simp [hreceived, hsignals, hwaiting]
  have hless := h.unread_le
  rw [hwaiting, List.length_cons] at hless
  constructor
  · rw [hsignals]
    exact h.capacity_eq
  · rw [hsignals]
    exact Nat.le_of_succ_le hless
  · rw [hsame, hadmitted]
    exact h.taken
  · rw [hsame, hadmitted, hsignals]
    exact h.whole
  · rw [hadmitted, hdocket]
    exact h.order
  · rw [hadmitted, hdocket]
    exact h.first

/-- The coordinator gives up the buffer with all that waits there. -/
theorem stopReading (h : r.Buffered capacity)
    (hsignals : v.coordinator.signals = r.coordinator.signals.stopReading)
    (hreceived : v.received = r.received) (hdocket : v.docket = r.docket) :
    v.Buffered capacity := by
  have hadmitted : v.admitted = r.admitted := by
    rw [admitted, hdocket, admitted]
  constructor
  · rw [hsignals]
    exact h.capacity_eq
  · rw [hsignals]
    exact Nat.zero_le _
  · rw [hsignals, hreceived, hadmitted]
    simpa [SignalBuffer.stopReading] using (List.prefix_append _ _).trans h.taken
  · rw [hsignals]
    rintro ⟨⟩
  · rw [hadmitted, hdocket]
    exact h.order
  · rw [hadmitted, hdocket]
    exact h.first

theorem step (h : r.Buffered capacity) (hs : r.Step v) : v.Buffered capacity := by
  cases hs with
  | stay => exact h
  | trigger c _ hc | expire a fired c _ _ hc | ignore t c _ hc =>
    exact h.congr rfl rfl rfl (gather_taken_aside hc) rfl rfl
  | run | close | pass | ignoreSignals => exact h.congr rfl rfl rfl rfl rfl rfl
  | post => exact h.congr rfl rfl rfl (gather_taken_record rfl) rfl rfl
  | queue s hread _ hroom =>
    refine h.queue hroom hread rfl rfl rfl ?_ rfl
    simp [admitted, Docket.send]
  | coalesce s c _ hfull hc => exact h.coalesce hfull rfl (gather_taken_aside hc) rfl rfl
  | fire a fired c _ _ _ hc =>
    exact h.congr rfl rfl rfl ((gather_taken_record rfl).trans (gather_taken_aside hc)) rfl rfl
  | decide t => exact h.stopReading rfl (gather_taken_record rfl) rfl
  | first s later c _ hwaiting hc =>
    exact h.take hwaiting rfl ((gather_taken_aside hc).trans gather_taken_signal) rfl
  | second s later grace c _ hwaiting hc =>
    let taken : ShutdownRun :=
      { r with
        coordinator := { r.coordinator with
          signals := { r.coordinator.signals with waiting := later } }
        chronicle := c }
    have htaken : taken.Buffered capacity :=
      h.take hwaiting rfl ((gather_taken_aside hc).trans gather_taken_signal) rfl
    exact htaken.stopReading rfl (gather_taken_record rfl) rfl

/-- Once the buffer is drained, the first of the signals that were sent have been taken. -/
theorem drained (h : r.Buffered capacity) (hread : r.coordinator.signals.isRead = true)
    (hwaiting : r.coordinator.signals.waiting = []) :
    r.docket.forwarded.take capacity <+: r.received ∧
      (0 < capacity → r.received.head? = r.docket.forwarded.head?) := by
  have hwhole := h.whole hread
  rw [hwaiting, List.append_nil] at hwhole
  have hfirst := h.first
  have horder := h.order
  rw [← hwhole] at hfirst horder
  refine ⟨hfirst, fun hpos => ?_⟩
  cases hforwarded : r.docket.forwarded with
  | nil =>
    rw [hforwarded, List.sublist_nil] at horder
    rw [horder]
  | cons s rest =>
    obtain ⟨n, rfl⟩ := Nat.exists_eq_add_of_lt hpos
    obtain ⟨later, hreceived⟩ := hfirst
    rw [hforwarded, Nat.zero_add, List.take_succ_cons] at hreceived
    rw [← hreceived]
    rfl

end Buffered

/-! ## What the coordinator was asked for -/

theorem adds_taken {c d : Chronicle} (hc : (c.record (.signalTaken s)).Aside d) :
    Adds (!·.isTermination) c.happenings d.happenings := by
  obtain ⟨new, heq, hnew⟩ := hc.adds_untold
  refine ⟨new ++ [(c.now, .signalTaken s)], ?_, ?_⟩
  · rw [heq]
    simp [Chronicle.record]
  · intro e he
    rcases List.mem_append.1 he with hlater | htaken
    · exact hnew e hlater
    · rw [List.mem_singleton.1 htaken]
      rfl

/-- What waits for the coordinator was posted, and so was what it has decided on, unless it has
taken a second signal. -/
structure Heeded (r : ShutdownRun) : Prop where
  posted : ∀ t ∈ r.coordinator.posted,
    ∃ time, (time, .terminationPosted t) ∈ r.chronicle.happenings
  decided : ∀ t, Before (.terminated t)
    (fun _ older => t = .repeatedSignal ∨ ∃ time, (time, .terminationPosted t) ∈ older)
      r.chronicle.happenings

namespace Heeded

/-- What the coordinator records besides its decision leaves the decision as it was. -/
theorem adds (h : r.Heeded)
    (hadds : Adds (!·.isTermination) r.chronicle.happenings v.chronicle.happenings)
    (hposted : ∀ t ∈ v.coordinator.posted, t ∈ r.coordinator.posted ∨
      ∃ time, (time, .terminationPosted t) ∈ v.chronicle.happenings) : v.Heeded where
  posted t ht := by
    obtain ⟨new, heq, -⟩ := hadds
    rcases hposted t ht with hold | hnew
    · obtain ⟨time, hmem⟩ := h.posted t hold
      exact ⟨time, heq ▸ List.mem_append_right new hmem⟩
    · exact hnew
  decided t := (h.decided t).adds rfl hadds

theorem congr (h : r.Heeded)
    (hadds : Adds (!·.isTermination) r.chronicle.happenings v.chronicle.happenings)
    (hposted : v.coordinator.posted = r.coordinator.posted) : v.Heeded := by
  apply h.adds hadds
  intro t ht
  exact .inl (hposted ▸ ht)

/-- The coordinator is asked for a termination. -/
theorem post (h : r.Heeded) {c : Chronicle} {t : Termination}
    (hadds : Adds (!·.isTermination) r.chronicle.happenings c.happenings)
    (hposted : v.coordinator.posted = r.coordinator.posted ++ [t])
    (hchronicle : v.chronicle = c.record (.terminationPosted t)) : v.Heeded := by
  apply h.adds
  · rw [hchronicle]
    exact hadds.cons rfl
  · intro u hu
    rw [hposted] at hu
    rcases List.mem_append.1 hu with hold | hnew
    · exact .inl hold
    · obtain rfl := List.mem_singleton.1 hnew
      exact .inr ⟨c.now, by simp [hchronicle, Chronicle.record]⟩

/-- The coordinator decides. -/
theorem decide (h : r.Heeded) {c : Chronicle} {t : Termination}
    (hadds : Adds (!·.isTermination) r.chronicle.happenings c.happenings)
    (ht : t = .repeatedSignal ∨ ∃ time, (time, .terminationPosted t) ∈ r.chronicle.happenings)
    (hposted : v.coordinator.posted = [])
    (hchronicle : v.chronicle = c.record (.terminated t)) : v.Heeded where
  posted u hu := by
    rw [hposted] at hu
    cases hu
  decided u := by
    rw [hchronicle]
    refine Before.cons_iff.2 ⟨?_, (h.decided u).adds rfl hadds⟩
    rintro ⟨⟩
    obtain ⟨new, heq, -⟩ := hadds
    rw [heq]
    exact ht.imp_right fun ⟨time, hmem⟩ => ⟨time, List.mem_append_right new hmem⟩

theorem step (h : r.Heeded) (hs : r.Step v) : v.Heeded := by
  have hrefl := Adds.refl (p := (!·.isTermination)) r.chronicle.happenings
  cases hs with
  | stay => exact h
  | trigger c _ hc | expire a fired c _ _ hc | ignore t c _ hc | coalesce s c _ _ hc =>
    exact h.congr hc.adds_untold rfl
  | run | close | queue | pass | ignoreSignals => exact h.congr hrefl rfl
  | post t => exact h.post hrefl rfl rfl
  | fire a fired c _ _ _ hc => exact h.post hc.adds_untold rfl rfl
  | decide t later _ hposted =>
    exact h.decide hrefl (.inr (h.posted t (by simp [hposted]))) rfl rfl
  | first s later c _ _ hc => exact h.congr (adds_taken hc) rfl
  | second s later grace c _ _ hc => exact h.decide (adds_taken hc) (.inl rfl) rfl rfl

end Heeded

/-! ## The second signal -/

/-- One whose buffer is drained although two signals were sent has decided. -/
theorem Standing.escalates (h : r.Standing) (hbuffered : r.Buffered 2)
    (hsent : 2 ≤ r.docket.forwarded.length) (hwaiting : r.coordinator.signals.waiting = []) :
    r.coordinator.decision? ≠ none := by
  have hadmitted : 2 ≤ r.admitted.length := by
    have hlength := hbuffered.first.length_le
    rw [List.length_take] at hlength
    omega
  cases h with
  | idle h | awaiting start h =>
    rw [admitted, ← h.waiting, hwaiting] at hadmitted
    cases hadmitted
  | stopping start first rest h =>
    have hrest : rest = [] := by
      simpa [hwaiting] using h.waiting
    rw [admitted, h.arrivals, hrest] at hadmitted
    simp at hadmitted
  | concluded time t h => simp [Coordinator.decision?, h.phase]

/-- A coordinator that is run and to whom two signals were sent has decided when it rests. -/
theorem Standing.escalates_at_rest (h : r.Standing) (hbuffered : r.Buffered 2)
    (hattentive : r.Attentive) (hsent : 2 ≤ r.docket.forwarded.length)
    (hbegun : r.docket.begun ≠ none) (hrests : r.rests = true) :
    r.coordinator.decision? ≠ none := by
  have hdrained (hrun : r.coordinator.isRunning = true) : r.coordinator.decision? ≠ none :=
    h.escalates hbuffered hsent (waiting_of_rests hattentive hrests hrun)
  cases h with
  | idle h => exact absurd h.begun hbegun
  | awaiting start h => exact hdrained h.isRunning
  | stopping start first rest h => exact hdrained h.isRunning
  | concluded time t h => simp [Coordinator.decision?, h.phase]

theorem Chain.docket {is : List Incident} (h : Chain r is) : (r.follow is).docket = r.docket := by
  induction h with
  | nil => rfl
  | @cons r i is x hsome hrest ih =>
    have hoccur := occur_of_some (isOwn_of_attempt hsome) hsome
    have hfollow : r.follow (i :: is) = (r.occur i).follow is := rfl
    rw [hfollow, ih, hoccur]

/-- What becomes of the signals that are sent, in a run with a buffer for two of them. -/
structure KeepsEscalation (gracePeriod : Nat) (is : List Incident) (r : ShutdownRun) : Prop where
  /-- The coordinator takes some of the signals that are sent, in their order. -/
  order : r.received.Sublist r.docket.forwarded
  /-- A signal is dropped only if two wait. -/
  coalesced : ∀ before s after, is = before ++ .signal s :: after →
    let u := (fresh gracePeriod 2).follow before
    (u.coordinator.signals.forward u.chronicle s).1 = .coalesced →
      u.coordinator.signals.waiting.length = 2
  /-- As long as the buffer is read, draining it gives two of them if there are so many, and the
  first one first. -/
  drained : r.coordinator.signals.isRead = true → r.coordinator.signals.waiting = [] →
    min r.docket.forwarded.length 2 ≤ r.received.length ∧
      r.received.head? = r.docket.forwarded.head?
  /-- Once two were sent, the coordinator has decided when the buffer is drained, … -/
  escalates : 2 ≤ r.docket.forwarded.length → r.coordinator.signals.waiting = [] →
    r.coordinator.decision? ≠ none
  /-- … to which a few of its steps lead at once if it is run, … -/
  returns : 2 ≤ r.docket.forwarded.length → r.docket.begun ≠ none →
    ∃ js, Chain r js ∧ (r.follow js).now = r.now ∧ (r.follow js).coordinator.decision? ≠ none
  /-- … and it has decided on this, or on what was posted before. -/
  heeded : ∀ t, Before (.terminated t)
    (fun _ older => t = .repeatedSignal ∨ ∃ time, (time, .terminationPosted t) ∈ older)
      r.chronicle.happenings

theorem buffered_follow (gracePeriod capacity : Nat) (is : List Incident) :
    ((fresh gracePeriod capacity).follow is).Buffered capacity := by
  apply follow_induction
  · exact fun r v hs h => h.step hs
  · constructor <;> simp [fresh, received, admitted]

theorem heeded_follow (gracePeriod capacity : Nat) (is : List Incident) :
    ((fresh gracePeriod capacity).follow is).Heeded := by
  apply follow_induction
  · exact fun r v hs h => h.step hs
  · constructor
    · simp [fresh]
    · exact fun t => Before.nil

/-- A signal is coalesced only with as many as the buffer holds. -/
theorem Buffered.length_of_coalesced (h : r.Buffered capacity)
    (hcoalesced : (r.coordinator.signals.forward r.chronicle s).1 = .coalesced) :
    r.coordinator.signals.waiting.length = capacity := by
  have hle := h.unread_le
  have hfull : r.coordinator.signals.capacity ≤ r.coordinator.signals.waiting.length := by
    simp only [SignalBuffer.forward, SignalBuffer.offer] at hcoalesced
    split at hcoalesced
    · cases hcoalesced
    · split at hcoalesced
      · cases hcoalesced
      · split at hcoalesced
        · assumption
        · cases hcoalesced
  rw [h.capacity_eq] at hfull
  omega

/-- **Coalescing loses no escalation.**  With a buffer for two signals, the first two that are
sent get through, whatever is dropped; the second ends the run. -/
theorem coalescing_keeps_escalation (gracePeriod : Nat) (is : List Incident) :
    KeepsEscalation gracePeriod is ((fresh gracePeriod 2).follow is) := by
  have hbuffered := buffered_follow gracePeriod 2 is
  have hstanding := (kept_follow gracePeriod 2 is).standing
  constructor
  · exact ((List.prefix_append _ _).trans hbuffered.taken).sublist.trans hbuffered.order
  · rintro before s after rfl u hcoalesced
    exact (buffered_follow gracePeriod 2 before).length_of_coalesced hcoalesced
  · intro hread hwaiting
    obtain ⟨hfirst, hhead⟩ := hbuffered.drained hread hwaiting
    have hlength := hfirst.length_le
    rw [List.length_take] at hlength
    exact ⟨by omega, hhead (by omega)⟩
  · intro hsent hwaiting
    exact hstanding.escalates hbuffered hsent hwaiting
  · intro hsent hbegun
    obtain ⟨js, hchain, hrests⟩ := exists_chain ((fresh gracePeriod 2).follow is)
    refine ⟨js, hchain, hchain.spec.1, ?_⟩
    have hdocket := hchain.docket
    rw [← follow_append] at hdocket hrests ⊢
    rw [← hdocket] at hsent hbegun
    exact (kept_follow gracePeriod 2 (is ++ js)).standing.escalates_at_rest
      (buffered_follow gracePeriod 2 (is ++ js)) (attentive_follow gracePeriod 2 (is ++ js)) hsent
      hbegun hrests
  · exact (heeded_follow gracePeriod 2 is).decided

end Hotplug.ShutdownRun
