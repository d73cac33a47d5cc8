import Hotplug.Proofs.Deadlines
import Hotplug.Proofs.Traffic.Ledger

/-!
# Every notification is released once

A managed notification that was passed on waits in the queue, is held by the event loop, or was
released, and only one of these.  Once the supervisor's own loop has come to its end, all of them
were released, and whatever is passed on later is refused and released at once.

* `Traffic.Balanced` — every managed notification is in one place.
* `Prompt` — whatever is refused is released at once.
* `Traffic.Sealed` — at the end the queue is dropped, and nothing is left.
* `Supervision.released_once` — so it is in every run.
-/

namespace Hotplug

open Traffic (Flows Step)

/-! ## Every notification is in one place -/

theorem count_filter_isManaged {k : Notification} (hk : k.isManaged = true)
    (ks : List Notification) : (ks.filter (·.isManaged)).count k = ks.count k :=
  List.count_filter hk

namespace Traffic

variable {may : Deed → Prop} {f g : Traffic}

/-- Every managed notification that was passed on waits, is held, or was released. -/
def Balanced (f : Traffic) : Prop :=
  ∀ k : Notification, k.isManaged = true →
    (gather Happening.handed? f.chronicle.happenings).count k =
      f.queue.items.count k + f.held.count k +
        (gather Happening.released? f.chronicle.happenings).count k

namespace Balanced

/-- Some notifications are passed on, some change their place, and some are released. -/
theorem move (h : f.Balanced) (handed released : List Notification)
    (hhanded : gather Happening.handed? g.chronicle.happenings =
      gather Happening.handed? f.chronicle.happenings ++ handed)
    (hreleased : gather Happening.released? g.chronicle.happenings =
      gather Happening.released? f.chronicle.happenings ++ released.filter (·.isManaged))
    (hplaces : ∀ k, f.queue.items.count k + f.held.count k + handed.count k =
      g.queue.items.count k + g.held.count k + released.count k) : g.Balanced := by
  intro k hk
  have hold := h k hk
  have hmoved := hplaces k
  rw [hhanded, hreleased, List.count_append, List.count_append, count_filter_isManaged hk]
  omega

/-- No notification changes its place. -/
theorem stay (h : f.Balanced) (hitems : g.queue.items = f.queue.items) (hheld : g.held = f.held)
    (hhanded : gather Happening.handed? g.chronicle.happenings =
      gather Happening.handed? f.chronicle.happenings)
    (hreleased : gather Happening.released? g.chronicle.happenings =
      gather Happening.released? f.chronicle.happenings) : g.Balanced := by
  unfold Balanced
  rw [hitems, hheld, hhanded, hreleased]
  exact h

theorem deliver (h : f.Balanced) (k : Notification) : (f.deliver k).Balanced := by
  have hheld : (f.deliver k).held = f.held := rfl
  by_cases htaking : f.queue.receiver = .taking
  · obtain ⟨hqueue, hc⟩ := deliver_of_taking htaking k
    refine h.move [k] [] ?_ ?_ fun k' => ?_
    · rw [hc, gather_cons]
      rfl
    · rw [hc, gather_cons]
      rfl
    · rw [hqueue, hheld, List.count_append, List.count_nil]
      omega
  · obtain ⟨hqueue, hc⟩ := deliver_of_not_taking htaking k
    refine h.move [k] [k] ?_ ?_ fun k' => ?_
    · rw [hc, Chronicle.gather_release]
      simp [Happening.handed?]
    · rw [hc, Chronicle.gather_release]
      simp [Happening.released?, List.filter_cons]
    · rw [hqueue, hheld]

/-- What is only released is not passed on. -/
theorem handed_of_adds {c c' : Chronicle}
    (hadds : Adds (·.handed?.isNone) c.happenings c'.happenings) :
    gather Happening.handed? c'.happenings = gather Happening.handed? c.happenings ++ [] := by
  rw [hadds.gather fun x hx => Option.isNone_iff_eq_none.1 hx, List.append_nil]

theorem step (h : f.Balanced) (hs : f.Step may g) : g.Balanced := by
  cases hs with
  | quiet c hquiet =>
    refine h.stay rfl rfl ?_ ?_
    · exact hquiet.adds.gather fun x hx => (Happening.pick_eq_none hx).1
    · exact hquiet.adds.gather fun x hx => (Happening.pick_eq_none hx).2.2.1
  | deliver k => exact h.deliver k
  | report home kind =>
    rw [report_eq]
    exact deliver (f := f.issued) h _
  | begin | strand | serve | dismiss | fail | orphan | part | detach => exact h
  | reply n q r =>
    exact h.stay rfl rfl (by simp [reply, Happening.handed?]) (by simp [reply, Happening.released?])
  | take n q k rest hloop hask hlets hitems =>
    refine h.move [] [] (by simp [take, Happening.handed?]) (by simp [take, Happening.released?]) ?_
    intro k'
    simp only [take, hitems, List.count_cons, List.count_nil]
    omega
  | drop ks rest hheld =>
    refine h.move [] ks ?_ (Chronicle.gather_releaseAll _ ks) fun k => ?_
    · exact handed_of_adds (Chronicle.adds_releaseAll (fun _ => rfl) (Adds.refl _) ks)
    · have hcount := hheld.count_eq k
      simp only [drop, List.count_append, List.count_nil] at hcount ⊢
      omega
  | close => exact h.stay f.queue.items_close rfl rfl rfl
  | clear n =>
    refine h.move [] f.queue.items ?_ (Chronicle.gather_discardAll n _ _) fun k => ?_
    · exact handed_of_adds
        (Chronicle.adds_discardAll (fun _ => rfl) (fun _ _ => rfl) (Adds.refl _) n _)
    · simp only [clear, List.count_nil]
      omega
  | leave n a => exact h.stay rfl rfl (by simp [Happening.handed?]) (by simp [Happening.released?])
  | stop isDriven =>
    have hadds := adds_stop (p := fun x => x.handed?.isNone && x.released?.isNone) rfl
      (fun _ => rfl) (fun _ _ => rfl) f isDriven
    refine h.stay rfl rfl (hadds.gather fun x hx => ?_) (hadds.gather fun x hx => ?_) <;>
      simp_all
  | shut =>
    refine h.move [] (f.held ++ f.queue.items) ?_ ?_ fun k => ?_
    · exact handed_of_adds (Chronicle.adds_releaseAll (fun _ => rfl)
        (Chronicle.adds_releaseAll (fun _ => rfl) (Adds.refl _) _) _)
    · rw [List.filter_append, ← List.append_assoc, ← Chronicle.gather_releaseAll]
      exact Chronicle.gather_releaseAll _ _
    · simp only [shut, Queue.dropReceiver, List.count_append, List.count_nil]
      omega

end Balanced

end Traffic

/-! ## Whatever is refused is released -/

/-- Whatever was refused, and had to be released, was released at once. -/
def Prompt (hs : List (Nat × Happening)) : Prop :=
  ∀ newer older t k, hs = newer ++ (t, .refused k) :: older → k.isManaged = true →
    ∃ rest, newer = rest ++ [(t, .released k)]

namespace Prompt

variable {hs hs' : List (Nat × Happening)}

theorem nil : Prompt [] := by
  intro newer older t k heq
  simp at heq

theorem cons (h : Prompt hs) {e : Nat × Happening}
    (he : ∀ k, e.2 = .refused k → k.isManaged = false) : Prompt (e :: hs) := by
  intro newer older t k heq hk
  cases newer with
  | nil =>
    obtain ⟨rfl, -⟩ := List.cons_eq_cons.1 heq
    rw [he k rfl] at hk
    cases hk
  | cons d newer =>
    obtain ⟨rfl, hrest⟩ := List.cons_eq_cons.1 heq
    obtain ⟨rest, rfl⟩ := h newer older t k hrest hk
    exact ⟨e :: rest, rfl⟩

theorem cons_cons (h : Prompt hs) (t : Nat) (k : Notification) :
    Prompt ((t, .released k) :: (t, .refused k) :: hs) := by
  intro newer older t' k' heq hk
  match newer, heq with
  | [d], heq =>
    obtain ⟨rfl, hrest⟩ := List.cons_eq_cons.1 heq
    obtain ⟨rfl, hrefused⟩ := Prod.mk.inj (List.cons_eq_cons.1 hrest).1
    obtain rfl := Happening.refused.inj hrefused
    exact ⟨[], rfl⟩
  | d :: d' :: newer, heq =>
    obtain ⟨rfl, hsecond⟩ := List.cons_eq_cons.1 heq
    obtain ⟨rfl, hrest⟩ := List.cons_eq_cons.1 hsecond
    obtain ⟨rest, rfl⟩ := h newer older t' k' hrest hk
    exact ⟨_ :: _ :: rest, rfl⟩

/-- A refusal is followed by a release. -/
theorem refuse {c : Chronicle} (h : Prompt c.happenings) (k : Notification) :
    Prompt ((c.record (.refused k)).release k).happenings := by
  rw [Chronicle.happenings_release]
  split
  · exact h.cons_cons c.now k
  · rename_i hk
    refine h.cons fun k' heq => ?_
    obtain rfl := Happening.refused.inj heq
    exact eq_false_of_ne_true hk

/-- It stays so as long as nothing is refused. -/
theorem adds (h : Prompt hs) {p : Happening → Bool} (hp : ∀ k, p (.refused k) = false)
    (hadds : Adds p hs hs') : Prompt hs' := by
  obtain ⟨new, rfl, hnew⟩ := hadds
  induction new with
  | nil => exact h
  | cons e new ih =>
    refine (ih fun d hd => hnew d (List.mem_cons_of_mem _ hd)).cons fun k heq => ?_
    have hpe := hnew e List.mem_cons_self
    rw [heq, hp] at hpe
    cases hpe

end Prompt

/-- Whether a happening is not that a notification is refused. -/
def Happening.isNoRefusal : Happening → Bool
  | refused _ => false
  | _ => true

namespace Traffic

variable {may : Deed → Prop} {f g : Traffic}

theorem prompt_deliver (h : Prompt f.chronicle.happenings) (k : Notification) :
    Prompt (f.deliver k).chronicle.happenings := by
  by_cases htaking : f.queue.receiver = .taking
  · rw [(deliver_of_taking htaking k).2]
    exact h.cons fun k hk => by cases hk
  · rw [(deliver_of_not_taking htaking k).2]
    refine Prompt.refuse ?_ k
    exact h.cons fun k hk => by cases hk

theorem Step.prompt (hs : f.Step may g) (h : Prompt f.chronicle.happenings) :
    Prompt g.chronicle.happenings := by
  cases hs with
  | quiet c hquiet =>
    refine h.adds (p := (!·.isTraffic)) (fun _ => rfl) hquiet.adds
  | deliver k => exact prompt_deliver h k
  | report home kind =>
    rw [report_eq]
    exact prompt_deliver (f := f.issued) h _
  | begin | strand | serve | close | dismiss | fail | orphan | part | detach => exact h
  | reply | take | leave => exact h.cons fun k hk => by cases hk
  | stop isDriven =>
    exact h.adds (p := Happening.isNoRefusal) (fun _ => rfl)
      (adds_stop rfl (fun _ => rfl) (fun _ _ => rfl) f isDriven)
  | drop ks rest =>
    exact h.adds (p := Happening.isNoRefusal) (fun _ => rfl)
      (Chronicle.adds_releaseAll (fun _ => rfl) (Adds.refl _) ks)
  | clear n =>
    exact h.adds (p := Happening.isNoRefusal) (fun _ => rfl)
      (Chronicle.adds_discardAll (fun _ => rfl) (fun _ _ => rfl) (Adds.refl _) n _)
  | shut =>
    exact h.adds (p := Happening.isNoRefusal) (fun _ => rfl)
      (Chronicle.adds_releaseAll (fun _ => rfl)
        (Chronicle.adds_releaseAll (fun _ => rfl) (Adds.refl _) _) _)

/-! ## The end -/

/-- Just at the end of the supervisor's own loop the queue is dropped, and nothing is left. -/
structure Sealed (f : Traffic) : Prop where
  receiver : f.service = .over ↔ f.queue.receiver = .dropped
  items : f.service = .over → f.queue.items = []
  held : f.service = .over → f.held = []

namespace Sealed

/-- The supervisor's own loop is under way. -/
theorem live (hserv : g.service ≠ .over) (hreceiver : g.queue.receiver ≠ .dropped) : g.Sealed where
  receiver := iff_of_false hserv hreceiver
  items hover := absurd hover hserv
  held hover := absurd hover hserv

/-- The supervisor's own loop goes on. -/
theorem go (h : f.Sealed) (hlive : f.service ≠ .over) (hserv : g.service ≠ .over)
    (hreceiver : g.queue.receiver = f.queue.receiver) : g.Sealed :=
  live hserv (by rw [hreceiver]; exact mt h.receiver.2 hlive)

/-- A session under way means that the supervisor's own loop is. -/
theorem looping (hloop : ∃ n, f.service.looping? = some n) : f.service ≠ .over := by
  rintro hover
  obtain ⟨n, hn⟩ := hloop
  rw [hover] at hn
  cases hn

theorem deliver (h : f.Sealed) (k : Notification) : (f.deliver k).Sealed := by
  by_cases htaking : f.queue.receiver = .taking
  · have hlive : f.service ≠ .over := by
      rw [ne_eq, h.receiver, htaking]
      rintro ⟨⟩
    refine h.go hlive hlive ?_
    rw [(deliver_of_taking htaking k).1]
  · obtain ⟨hqueue, -⟩ := deliver_of_not_taking htaking k
    constructor
    · rw [hqueue]
      exact h.receiver
    · rw [hqueue]
      exact h.items
    · exact h.held

/-- Nothing is put in or taken out. -/
theorem congr (h : f.Sealed) (hserv : g.service = f.service)
    (hreceiver : g.queue.receiver = .dropped ↔ f.queue.receiver = .dropped)
    (hitems : g.queue.items = f.queue.items) (hheld : f.held = [] → g.held = []) : g.Sealed where
  receiver := by rw [hserv, hreceiver, h.receiver]
  items := by rw [hserv, hitems]; exact h.items
  held hover := hheld (h.held (hserv.symm.trans hover))

theorem step (h : f.Sealed) (hs : f.Step may g) : g.Sealed := by
  cases hs with
  | quiet | orphan | part | detach | reply | leave | stop => exact h.congr rfl Iff.rfl rfl id
  | deliver k => exact h.deliver k
  | report home kind =>
    rw [report_eq]
    exact deliver (f := f.issued) (h.congr rfl Iff.rfl rfl id) _
  | begin hidle => exact h.go (by rw [hidle]; rintro ⟨⟩) (by rintro ⟨⟩) rfl
  | strand n hserv | serve n hserv | dismiss n hserv | fail n hserv =>
    exact h.go (by rw [hserv]; rintro ⟨⟩) (by rintro ⟨⟩) rfl
  | take n q k rest hloop => exact h.go (looping ⟨n, hloop⟩) (looping ⟨n, hloop⟩) rfl
  | drop ks rest hheld =>
    refine h.congr rfl Iff.rfl rfl fun hnil => ?_
    rw [hnil] at hheld
    exact (List.append_eq_nil_iff.1 hheld.symm.eq_nil).2
  | close => exact h.congr rfl f.queue.receiver_close_eq_dropped f.queue.items_close id
  | clear n hserv =>
    refine h.go ?_ (by rintro ⟨⟩) rfl
    rcases hserv with hserv | hserv <;> rw [hserv] <;> rintro ⟨⟩
  | shut => exact ⟨⟨fun _ => rfl, fun _ => rfl⟩, fun _ => rfl, fun _ => rfl⟩

end Sealed

/-- The supervisor's own loop never comes back, and nothing is accepted any more. -/
theorem Step.over (hs : f.Step may g) (h : f.Sealed) (hover : f.service = .over) :
    g.service = .over ∧
      gather Happening.accepted? g.chronicle.happenings =
        gather Happening.accepted? f.chronicle.happenings := by
  have hdropped : f.queue.receiver = .dropped := h.receiver.1 hover
  have hrefused : ∀ (f : Traffic) (k : Notification), f.queue.receiver = .dropped →
      gather Happening.accepted? (f.deliver k).chronicle.happenings =
        gather Happening.accepted? f.chronicle.happenings := by
    intro f k hf
    rw [(deliver_of_not_taking (by rw [hf]; rintro ⟨⟩) k).2, Chronicle.gather_release]
    simp [Happening.accepted?]
  cases hs with
  | quiet c hquiet =>
    exact ⟨hover, hquiet.adds.gather fun x hx => (Happening.pick_eq_none hx).2.1⟩
  | deliver k => exact ⟨hover, hrefused f k hdropped⟩
  | report home kind =>
    rw [report_eq]
    exact ⟨hover, hrefused f.issued _ hdropped⟩
  | begin hserv | strand n hserv | serve n hserv | dismiss n hserv | fail n hserv
  | orphan n reason hserv | leave n a hserv | stop isDriven hserv =>
    rw [hover] at hserv
    cases hserv
  | reply n q r hloop | take n q k rest hloop =>
    rw [hover] at hloop
    cases hloop
  | clear n hserv =>
    rw [hover] at hserv
    rcases hserv with hserv | hserv <;> cases hserv
  | close | part | detach => exact ⟨hover, rfl⟩
  | drop ks rest =>
    refine ⟨hover, Adds.gather (p := (·.accepted?.isNone)) ?_ fun x => Option.isNone_iff_eq_none.1⟩
    exact Chronicle.adds_releaseAll (fun _ => rfl) (Adds.refl _) ks
  | shut =>
    refine ⟨rfl, Adds.gather (p := (·.accepted?.isNone)) ?_ fun x => Option.isNone_iff_eq_none.1⟩
    exact Chronicle.adds_releaseAll (fun _ => rfl)
      (Chronicle.adds_releaseAll (fun _ => rfl) (Adds.refl _) _) _

end Traffic

/-! ## Runs -/

/-- A run that has returned has left the supervisor's own loop. -/
theorem World.isOver_of_outcome? {L : EventLoop} {w : World L} (hord : w.frame.Orderly)
    (hsteer : w.frame.conduct.Steered) (h : w.outcome? ≠ none) : w.cycle.isOver = true := by
  have hactive : w.frame.duty.isActive = true → w.outcome? = w.coordinator.decision?.map .ok →
      w.cycle.isOver = true := by
    intro hactive houtcome
    have hrun : w.coordinator.isRunning = true := hsteer.running hactive
    rw [houtcome, Coordinator.decision?_of_isRunning hrun] at h
    exact absurd rfl h
  cases hc : w.cycle with
  | refused | finished | cancelled | panicked => rfl
  | attended => exact absurd hc hord.notAttended
  | deciding | waiting | stopping =>
    rw [← hc]
    refine hactive ?_ ?_
    · simp [Frame.duty, frame, hc, Duty.isActive]
    · simp [outcome?, hc]
  | inSession =>
    rw [← hc]
    refine hactive ?_ ?_
    · obtain ⟨s, hs⟩ := hord.exists_session hc
      exact hord.isActive hs
    · simp [outcome?, hc]

namespace Supervision

variable {L : EventLoop} (s : Supervision L)

/-- What becomes of the notifications of a run. -/
structure ReleasedOnce (os : List Occurrence) : Prop where
  /-- Each managed notification that was passed on waits, is held, or was released, as often as
  it was passed on. -/
  balance : ∀ k : Notification, k.isManaged = true →
    (gather Happening.handed? (s.history os)).count k =
      (s.after os).queue.items.count k + (s.after os).held.count k +
        (gather Happening.released? (s.history os)).count k
  /-- One that was passed on once is in one place, and was released once or not at all. -/
  place : ∀ k : Notification, k.isManaged = true →
    (gather Happening.handed? (s.history os)).count k = 1 →
      ((s.after os).queue.items.count k, (s.after os).held.count k,
        (gather Happening.released? (s.history os)).count k) ∈ [(1, 0, 0), (0, 1, 0), (0, 0, 1)]
  /-- One that is refused is released at once. -/
  refused : ∀ newer older t k, s.history os = newer ++ (t, .refused k) :: older →
    k.isManaged = true → ∃ rest, newer = rest ++ [(t, .released k)]
  /-- Nothing waits and nothing is held once the supervisor's own loop has come to its end. -/
  ended : (s.after os).cycle.isOver = true →
    (s.after os).queue.items = [] ∧ (s.after os).held = [] ∧
      ∀ k : Notification, k.isManaged = true →
        (gather Happening.released? (s.history os)).count k =
          (gather Happening.handed? (s.history os)).count k
  returned : (s.after os).outcome? ≠ none → (s.after os).cycle.isOver = true
  /-- From then on every notification is refused. -/
  late : (s.after os).cycle.isOver = true → ∀ ps,
    (∀ t k, (t, .accepted k) ∉ s.since os ps) ∧
      ∀ ks oks, ((s.after (os ++ ps)).notify ks).1 = some oks → ∀ ok ∈ oks, ok = false

theorem balanced_after (os : List Occurrence) : (s.after os).traffic.Balanced := by
  obtain ⟨hqueue, hheld, -, -, -⟩ := s.traffic_start
  refine (s.flows [] os).preserves (fun _ _ hs h => h.step hs) fun k _ => ?_
  have hitems : s.start.traffic.queue.items = [] := by
    rw [hqueue]
    split <;> rfl
  rw [after_nil, hitems, hheld, s.gather_start fun x hx => (Happening.pick_eq_none hx).1,
    s.gather_start fun x hx => (Happening.pick_eq_none hx).2.2.1]
  rfl

theorem prompt_after (os : List Occurrence) : Prompt (s.history os) :=
  (s.flows [] os).preserves (P := fun f => Prompt f.chronicle.happenings)
    (fun _ _ hs h => hs.prompt h)
    (Prompt.nil.adds (p := (!·.isTraffic)) (fun _ => rfl) s.traffic_start.2.2.2.2)

theorem sealed_after (os : List Occurrence) : (s.after os).traffic.Sealed := by
  obtain ⟨hqueue, hheld, hserv, -, -⟩ := s.traffic_start
  refine (s.flows [] os).preserves (fun _ _ hs h => h.step hs) ⟨?_, ?_, fun _ => hheld⟩
  · rw [after_nil, hserv, hqueue]
    split <;> simp
  · intro _
    rw [after_nil, hqueue]
    split <;> rfl

/-- The supervisor's own loop has come to its end just if it serves nobody any more. -/
theorem service_eq_over (os : List Occurrence) :
    (s.after os).traffic.service = .over ↔ (s.after os).cycle.isOver = true := by
  have hord := s.orderly_after os
  cases hs : (s.after os).session with
  | none =>
    rw [show (s.after os).traffic.service = _ from World.service_of_none hs]
    split <;> simp_all
  | some x =>
    have hc : (s.after os).cycle = .inSession := hord.cycle_eq hs
    rw [show (s.after os).traffic.service = _ from World.service_of_some hs, hc]
    refine iff_of_false ?_ (by rintro ⟨⟩)
    unfold Session.service
    split <;> rintro ⟨⟩

/-- After its end nothing is accepted, and the supervisor's own loop stays at its end. -/
theorem over_after (os ps : List Occurrence) (hover : (s.after os).traffic.service = .over) :
    (s.after (os ++ ps)).traffic.service = .over ∧
      gather Happening.accepted? (s.since os ps) = [] := by
  have hlate := (s.flows os ps).preserves
    (P := fun f => f.Sealed ∧ f.service = .over ∧
      gather Happening.accepted? f.chronicle.happenings =
        gather Happening.accepted? (s.history os))
    (fun _ _ hs ⟨hsealed, hserv, hsame⟩ =>
      have hover' := hs.over hsealed hserv
      ⟨hsealed.step hs, hover'.1, hover'.2.trans hsame⟩)
    ⟨s.sealed_after os, hover, rfl⟩
  refine ⟨hlate.2.1, ?_⟩
  have hsame := hlate.2.2
  rw [show (s.after (os ++ ps)).traffic.chronicle.happenings = s.history (os ++ ps) from rfl,
    gather_history] at hsame
  exact List.append_right_eq_self.1 hsame

/-- **Every notification is released once.**  Each managed notification that was passed on is in
one place, and was released only if it is in no other; at the end of the supervisor's own loop all
of them were released, and all that are passed on later are refused. -/
theorem released_once (os : List Occurrence) : s.ReleasedOnce os where
  balance := s.balanced_after os
  place k hk hone := by
    have hbalance : (gather Happening.handed? (s.history os)).count k = _ :=
      s.balanced_after os k hk
    rw [hone] at hbalance
    have hplaces : ∀ a b c : Nat, 1 = a + b + c →
        (a, b, c) ∈ [(1, 0, 0), (0, 1, 0), (0, 0, 1)] := by
      intro a b c h
      simp only [List.mem_cons, Prod.mk.injEq, List.not_mem_nil, or_false]
      omega
    exact hplaces _ _ _ hbalance
  refused := s.prompt_after os
  ended hover := by
    have hserv := (s.service_eq_over os).2 hover
    have hsealed := s.sealed_after os
    have hitems : (s.after os).queue.items = [] := hsealed.items hserv
    have hheld : (s.after os).held = [] := hsealed.held hserv
    refine ⟨hitems, hheld, fun k hk => ?_⟩
    have hbalance : (gather Happening.handed? (s.history os)).count k =
        (s.after os).queue.items.count k + (s.after os).held.count k +
          (gather Happening.released? (s.history os)).count k := s.balanced_after os k hk
    rw [hitems, hheld] at hbalance
    simpa using hbalance.symm
  returned := World.isOver_of_outcome? (s.orderly_after os) (s.steered_after os)
  late hover ps := by
    obtain ⟨hserv, hnone⟩ := s.over_after os ps ((s.service_eq_over os).2 hover)
    refine ⟨fun t k hmem => ?_, fun ks oks hoks ok hok => ?_⟩
    · have hgather : k ∈ gather Happening.accepted? (s.since os ps) :=
        mem_gather.2 ⟨_, hmem, rfl⟩
      rw [hnone] at hgather
      cases hgather
    · have hdropped : (s.after (os ++ ps)).queue.receiver = .dropped :=
        (s.sealed_after (os ++ ps)).receiver.1 hserv
      unfold World.notify at hoks
      split at hoks
      · obtain rfl := Option.some.inj hoks
        rw [Queue.deliverAll_of_dropped hdropped] at hok
        obtain ⟨k, -, rfl⟩ := List.mem_map.1 hok
        rfl
      · cases hoks

end Supervision

end Hotplug
