import Hotplug.Proofs.Releases

/-!
# Notifications arrive in order

The event loops of all sessions receive the events in the order in which they were accepted, each
once at most, and none that was accepted before an earlier session ended.

* `Traffic.Fifo` — what has left the queue and what waits in it is what was accepted, in order.
* `Traffic.Numbered` — nobody has been told anything in a session whose event loop has not begun.
* `Traffic.Fed` — what session `n` receives comes first of what leaves the queue.
* `Traffic.Sated` — session `n` receives nothing any more.
* `Supervision.delivered_in_order` — so it is in every run.
-/

namespace Hotplug

open Traffic (Flows Step)

namespace Service

/-- The session under way. -/
def session? : Service → Option SessionId
  | attaching n | stranded n | serving n | dismissing n | failing n => some n
  | _ => none

theorem session?_of_looping? {v : Service} {n : SessionId} (h : v.looping? = some n) :
    v.session? = some n := by
  cases v <;> first | exact h | cases h

end Service

namespace Traffic

variable {may : Deed → Prop} {f g : Traffic}

/-! ## What leaves the queue -/

/-- The events that have left the queue, received or discarded, in order. -/
def left (f : Traffic) : List Event :=
  gather Happening.left? f.chronicle.happenings

/-- The events that were accepted, in order. -/
def accepted (f : Traffic) : List Event :=
  (gather Happening.accepted? f.chronicle.happenings).map (·.event)

/-- The events that wait. -/
def waiting (f : Traffic) : List Event :=
  f.queue.items.map (·.event)

/-- The events that were received in session `n`, in order. -/
def receivedIn (n : SessionId) (f : Traffic) : List Event :=
  gather (Happening.receivedIn? n) f.chronicle.happenings

end Traffic

/-- Whether a happening neither puts an event into the queue nor takes one out. -/
def Happening.isStill (x : Happening) : Bool :=
  x.accepted?.isNone && x.left?.isNone

theorem Happening.isStill_of_not_isTraffic (x : Happening) (hx : (!x.isTraffic) = true) :
    x.isStill = true := by
  simp [isStill, (pick_eq_none hx).2.1, (pick_eq_none hx).2.2.2.2.2]

/-- What is received leaves the queue. -/
theorem Happening.receivedIn?_eq_none {x : Happening} (hx : x.left? = none) (n : SessionId) :
    x.receivedIn? n = none := by
  cases x with
  | loopReplied m r => cases r <;> first | rfl | cases hx
  | _ => rfl

namespace Traffic

variable {may : Deed → Prop} {f g : Traffic}

/-- What one step does to the events in the queue. -/
inductive Passage (may : Deed → Prop) (f g : Traffic) : Prop where
  | stay (hleft : g.left = f.left) (haccepted : g.accepted = f.accepted)
      (hwaiting : g.waiting = f.waiting)
      (hdropped : g.queue.receiver = .dropped ↔ f.queue.receiver = .dropped)
      (hreceived : ∀ n, g.receivedIn n = f.receivedIn n)
  | accept (e : Event) (hleft : g.left = f.left) (haccepted : g.accepted = f.accepted ++ [e])
      (hwaiting : g.waiting = f.waiting ++ [e])
      (htaking : f.queue.receiver = .taking ∧ g.queue.receiver = .taking)
      (hreceived : ∀ n, g.receivedIn n = f.receivedIn n)
  /-- The event loop receives an event in session `m`. -/
  | take (m : SessionId) (q : Request) (e : Event) (hloop : f.service.looping? = some m)
      (hask : may (.ask q)) (hlets : f.Lets m q) (hserv : g.service = f.service)
      (hleft : g.left = f.left ++ [e]) (haccepted : g.accepted = f.accepted)
      (hwaiting : f.waiting = e :: g.waiting) (hreceiver : g.queue.receiver = f.queue.receiver)
      (hmine : g.receivedIn m = f.receivedIn m ++ [e])
      (hothers : ∀ n, n ≠ m → g.receivedIn n = f.receivedIn n)
  /-- Whatever waits is discarded. -/
  | clear (hserv : g.service = .idle) (hleft : g.left = f.left ++ f.waiting)
      (haccepted : g.accepted = f.accepted) (hwaiting : g.waiting = [])
      (hreceiver : g.queue.receiver = f.queue.receiver)
      (hreceived : ∀ n, g.receivedIn n = f.receivedIn n)
  /-- Whatever waits is dropped with the queue. -/
  | shut (hserv : g.service = .over) (hleft : g.left = f.left) (haccepted : g.accepted = f.accepted)
      (hwaiting : g.waiting = []) (hreceiver : g.queue.receiver = .dropped)
      (hreceived : ∀ n, g.receivedIn n = f.receivedIn n)

/-- What stays as only still things happen. -/
theorem still_of_adds
    (hadds : Adds Happening.isStill f.chronicle.happenings g.chronicle.happenings) :
    g.left = f.left ∧ g.accepted = f.accepted ∧ ∀ n, g.receivedIn n = f.receivedIn n := by
  have hstill : ∀ x : Happening, x.isStill = true → x.accepted? = none ∧ x.left? = none := by
    intro x hx
    simpa [Happening.isStill] using hx
  refine ⟨hadds.gather fun x hx => (hstill x hx).2, ?_, fun n => ?_⟩
  · unfold accepted
    rw [hadds.gather fun x hx => (hstill x hx).1]
  · exact hadds.gather fun x hx => Happening.receivedIn?_eq_none (hstill x hx).2 n

namespace Passage

theorem of_adds (hadds : Adds Happening.isStill f.chronicle.happenings g.chronicle.happenings)
    (hitems : g.queue.items = f.queue.items)
    (hdropped : g.queue.receiver = .dropped ↔ f.queue.receiver = .dropped) : Passage may f g := by
  obtain ⟨hleft, haccepted, hreceived⟩ := still_of_adds hadds
  refine .stay hleft haccepted ?_ hdropped hreceived
  unfold waiting
  rw [hitems]

theorem deliver (f : Traffic) {c : Chronicle} (hc : c.happenings = f.chronicle.happenings)
    (k : Notification) : Passage may f (Traffic.deliver { f with chronicle := c } k) := by
  by_cases htaking : f.queue.receiver = .taking
  · obtain ⟨hqueue, hh⟩ := deliver_of_taking (f := { f with chronicle := c }) htaking k
    refine .accept k.event ?_ ?_ ?_ ⟨htaking, ?_⟩ fun n => ?_
    · simp [left, hh, hc, Happening.left?]
    · simp [accepted, hh, hc, Happening.accepted?]
    · simp [waiting, hqueue]
    · rw [hqueue]
      exact htaking
    · simp [receivedIn, hh, hc, Happening.receivedIn?]
  · obtain ⟨hqueue, hh⟩ := deliver_of_not_taking (f := { f with chronicle := c }) htaking k
    refine of_adds ?_ (by rw [hqueue]) (by rw [hqueue])
    rw [hh, ← hc]
    exact Chronicle.adds_release (fun _ => rfl) (((Adds.refl _).cons rfl).cons rfl) k

end Passage

theorem Step.passage (hs : f.Step may g) : Passage may f g := by
  cases hs with
  | quiet c hquiet =>
    exact .of_adds (hquiet.adds.mono Happening.isStill_of_not_isTraffic) rfl Iff.rfl
  | deliver k => exact .deliver f rfl k
  | report home kind =>
    rw [report_eq]
    exact .deliver f (c := f.issued.chronicle) rfl _
  | begin | strand | serve | dismiss | fail | orphan | part | detach =>
    exact .of_adds (Adds.refl _) rfl Iff.rfl
  | reply n q r hloop hask htells =>
    refine .of_adds ((Adds.refl _).cons ?_) rfl Iff.rfl
    cases r with
    | event e => cases q <;> exact htells.elim
    | _ => rfl
  | take n q k rest hloop hask hlets hitems =>
    refine .take n q k.event hloop hask hlets rfl ?_ ?_ ?_ rfl ?_ fun m hm => ?_
    · simp [left, Traffic.take, Happening.left?]
    · simp [accepted, Traffic.take, Happening.accepted?]
    · simp [waiting, Traffic.take, hitems]
    · simp [receivedIn, Traffic.take, Happening.receivedIn?]
    · simp [receivedIn, Traffic.take, Happening.receivedIn?, hm.symm]
  | drop ks rest =>
    exact .of_adds (Chronicle.adds_releaseAll (fun _ => rfl) (Adds.refl _) ks) rfl Iff.rfl
  | close =>
    exact .of_adds (Adds.refl _) f.queue.items_close f.queue.receiver_close_eq_dropped
  | clear n =>
    refine .clear rfl (Chronicle.left_discardAll n _ _) ?_ rfl rfl fun m => ?_
    · have hadds : Adds (·.accepted?.isNone) f.chronicle.happenings
          (f.clear n).chronicle.happenings :=
        Chronicle.adds_discardAll (fun _ => rfl) (fun _ _ => rfl) (Adds.refl _) n _
      unfold accepted
      rw [hadds.gather fun x => Option.isNone_iff_eq_none.1]
    · have hadds : Adds (fun x => (x.receivedIn? m).isNone) f.chronicle.happenings
          (f.clear n).chronicle.happenings :=
        Chronicle.adds_discardAll (fun _ => rfl) (fun _ _ => rfl) (Adds.refl _) n _
      exact hadds.gather fun x => Option.isNone_iff_eq_none.1
  | leave n a => exact .of_adds ((Adds.refl _).cons rfl) rfl Iff.rfl
  | stop isDriven =>
    exact .of_adds (adds_stop rfl (fun _ => rfl) (fun _ _ => rfl) f isDriven) rfl Iff.rfl
  | shut =>
    obtain ⟨hleft, haccepted, hreceived⟩ := still_of_adds (f := f) (g := f.shut)
      (Chronicle.adds_releaseAll (fun _ => rfl)
        (Chronicle.adds_releaseAll (fun _ => rfl) (Adds.refl _) _) _)
    exact .shut rfl hleft haccepted rfl rfl hreceived

/-! ## First in, first out -/

/-- What has left the queue and what waits in it is what was accepted, in order; only a dropped
queue has lost the rest. -/
structure Fifo (f : Traffic) : Prop where
  order : f.left ++ f.waiting <+: f.accepted
  whole : f.queue.receiver ≠ .dropped → f.left ++ f.waiting = f.accepted

theorem Fifo.step (h : f.Fifo) (hs : f.Step may g) : g.Fifo := by
  cases hs.passage with
  | stay hleft haccepted hwaiting hdropped =>
    constructor
    · rw [hleft, haccepted, hwaiting]
      exact h.order
    · rw [hleft, haccepted, hwaiting, ne_eq, hdropped]
      exact h.whole
  | accept e hleft haccepted hwaiting htaking =>
    have hwhole : g.left ++ g.waiting = g.accepted := by
      rw [hleft, hwaiting, haccepted, ← List.append_assoc,
        h.whole (by rw [htaking.1]; rintro ⟨⟩)]
    exact ⟨hwhole ▸ List.prefix_refl _, fun _ => hwhole⟩
  | take m q e hloop hask hlets hserv hleft haccepted hwaiting hreceiver =>
    have hsame : g.left ++ g.waiting = f.left ++ f.waiting := by
      rw [hleft, hwaiting, List.append_assoc]
      rfl
    constructor
    · rw [hsame, haccepted]
      exact h.order
    · rw [hsame, haccepted, hreceiver]
      exact h.whole
  | clear hserv hleft haccepted hwaiting hreceiver =>
    have hsame : g.left ++ g.waiting = f.left ++ f.waiting := by
      rw [hleft, hwaiting, List.append_nil]
    constructor
    · rw [hsame, haccepted]
      exact h.order
    · rw [hsame, haccepted, hreceiver]
      exact h.whole
  | shut hserv hleft haccepted hwaiting hreceiver =>
    constructor
    · rw [hleft, haccepted, hwaiting, List.append_nil]
      exact (List.prefix_append _ _).trans h.order
    · exact fun hlive => absurd hreceiver hlive

/-! ## What each session receives -/

/-- What one step does to the session under way. -/
inductive Turn (f g : Traffic) : Prop where
  | same (hserv : g.service = f.service) (hcount : g.count = f.count)
  | begin (hserv : g.service = .attaching (f.count + 1)) (hcount : g.count = f.count + 1)
  /-- The session goes on to serve its event loop, or to end. -/
  | goOn (n : SessionId) (hold : f.service.session? = some n) (hnew : g.service.session? = some n)
      (hbefore : f.service ≠ .dismissing n) (hafter : g.service ≠ .attaching n)
      (hcount : g.count = f.count)
  | leave (hnone : g.service.session? = none) (hcount : g.count = f.count)

theorem Step.turn (hs : f.Step may g) : Turn f g := by
  cases hs with
  | begin => exact .begin rfl rfl
  | strand n hserv | serve n hserv | dismiss n hserv | fail n hserv =>
    refine .goOn n ?_ rfl ?_ ?_ rfl
    · rw [hserv]
      rfl
    · rw [hserv]
      rintro ⟨⟩
    · rintro ⟨⟩
  | clear | shut => exact .leave rfl rfl
  | _ => exact .same rfl rfl

/-- The session under way is the latest one, and nobody has received anything in a session whose
event loop has not begun. -/
structure Numbered (f : Traffic) : Prop where
  latest : ∀ n, f.service.session? = some n → n = f.count
  early : ∀ n, f.count < n ∨ f.service = .attaching n → f.receivedIn n = []

theorem Numbered.step (h : f.Numbered) (hs : f.Step may g) : g.Numbered where
  latest n hn := by
    cases hs.turn with
    | same hserv hcount => exact hcount ▸ h.latest n (hserv ▸ hn)
    | begin hserv hcount =>
      rw [hserv] at hn
      exact (Option.some.inj hn).symm.trans hcount.symm
    | goOn m hold hnew hbefore hafter hcount =>
      obtain rfl : m = n := Option.some.inj (hnew.symm.trans hn)
      exact (h.latest m hold).trans hcount.symm
    | leave hnone =>
      rw [hnone] at hn
      cases hn
  early n hn := by
    have hearly : f.count < n ∨ f.service = .attaching n := by
      cases hs.turn with
      | same hserv hcount => rwa [hserv, hcount] at hn
      | begin hserv hcount =>
        rw [hserv, hcount] at hn
        rcases hn with hlt | heq
        · exact .inl (Nat.lt_of_succ_lt hlt)
        · exact .inl (Service.attaching.inj heq ▸ Nat.lt_succ_self _)
      | goOn m hold hnew hbefore hafter hcount =>
        rcases hn with hlt | heq
        · exact .inl (hcount ▸ hlt)
        · obtain rfl : m = n := by
            rw [heq] at hnew
            exact (Option.some.inj hnew).symm
          exact absurd heq hafter
      | leave hnone hcount =>
        rcases hn with hlt | heq
        · exact .inl (hcount ▸ hlt)
        · rw [heq] at hnone
          cases hnone
    have hnil := h.early n hearly
    cases hs.passage with
    | stay _ _ _ _ hreceived | accept _ _ _ _ _ hreceived | clear _ _ _ _ _ hreceived
    | shut _ _ _ _ _ hreceived => rw [hreceived, hnil]
    | take m q e hloop hask hlets hserv hleft haccepted hwaiting hreceiver hmine hothers =>
      rw [hothers n ?_, hnil]
      rintro rfl
      have hlatest := h.latest n (Service.session?_of_looping? hloop)
      rcases hearly with hlt | heq
      · exact absurd hlatest (Nat.ne_of_gt hlt)
      · rw [heq] at hloop
        cases hloop

/-- Since a time at which session `n` had received `r` and `l` had left the queue, whatever it has
received comes first of what has left, and is all of that as long as it is under way. -/
structure Fed (n : SessionId) (r l : List Event) (f : Traffic) : Prop where
  begun : n ≤ f.count
  first : ∃ x y, f.receivedIn n = r ++ x ∧ f.left = l ++ y ∧ x <+: y ∧
    (f.service.session? = some n → x = y)

theorem count_le (hs : f.Step may g) : f.count ≤ g.count := by
  cases hs.turn with
  | same hserv hcount | goOn n hold hnew hbefore hafter hcount | leave hnone hcount =>
    exact Nat.le_of_eq hcount.symm
  | begin hserv hcount => rw [hcount]; exact Nat.le_succ _

/-- A session that has begun does not begin again. -/
theorem session?_of_step (hs : f.Step may g) {n : SessionId} (hbegun : n ≤ f.count)
    (hn : g.service.session? = some n) : f.service.session? = some n := by
  cases hs.turn with
  | same hserv => exact hserv ▸ hn
  | begin hserv =>
    rw [hserv] at hn
    obtain rfl : f.count + 1 = n := Option.some.inj hn
    exact absurd hbegun (Nat.not_succ_le_self _)
  | goOn m hold hnew => exact hold.trans (hnew.symm.trans hn)
  | leave hnone =>
    rw [hnone] at hn
    cases hn

theorem Fed.step {n : SessionId} {r l : List Event} (h : f.Fed n r l) (hs : f.Step may g) :
    g.Fed n r l where
  begun := Nat.le_trans h.begun (count_le hs)
  first := by
    obtain ⟨x, y, hx, hy, hprefix, hsame⟩ := h.first
    have hgoes := session?_of_step hs h.begun
    cases hs.passage with
    | stay hleft _ _ _ hreceived | accept _ hleft _ _ _ hreceived
    | shut _ hleft _ _ _ hreceived =>
      exact ⟨x, y, (hreceived n).trans hx, hleft.trans hy, hprefix, fun hn => hsame (hgoes hn)⟩
    | take m q e hloop hask hlets hserv hleft haccepted hwaiting hreceiver hmine hothers =>
      have hm := Service.session?_of_looping? hloop
      by_cases hnm : n = m
      · subst hnm
        obtain rfl := hsame hm
        exact ⟨x ++ [e], x ++ [e], by rw [hmine, hx, List.append_assoc],
          by rw [hleft, hy, List.append_assoc], List.prefix_refl _, fun _ => rfl⟩
      · refine ⟨x, y ++ [e], (hothers n hnm).trans hx, by rw [hleft, hy, List.append_assoc],
          hprefix.trans (List.prefix_append _ _), fun hn => ?_⟩
        exact absurd (Option.some.inj ((hgoes hn).symm.trans hm)) hnm
    | clear hserv hleft haccepted hwaiting hreceiver hreceived =>
      refine ⟨x, y ++ f.waiting, (hreceived n).trans hx, by rw [hleft, hy, List.append_assoc],
        hprefix.trans (List.prefix_append _ _), fun hn => ?_⟩
      rw [hserv] at hn
      cases hn

/-- Session `n` has received `r`, and receives nothing more. -/
structure Sated (n : SessionId) (r : List Event) (f : Traffic) : Prop where
  begun : n ≤ f.count
  all : f.receivedIn n = r
  dismissed : f.service.session? = some n → f.service = .dismissing n

theorem Sated.step {n : SessionId} {r : List Event} (h : f.Sated n r)
    (hreceive : ¬ may (.ask .receive)) (htry : ¬ may (.ask .tryReceive)) (hs : f.Step may g) :
    g.Sated n r where
  begun := Nat.le_trans h.begun (count_le hs)
  all := by
    cases hs.passage with
    | stay _ _ _ _ hreceived | accept _ _ _ _ _ hreceived | clear _ _ _ _ _ hreceived
    | shut _ _ _ _ _ hreceived => exact (hreceived n).trans h.all
    | take m q e hloop hask hlets hserv hleft haccepted hwaiting hreceiver hmine hothers =>
      refine (hothers n ?_).trans h.all
      rintro rfl
      have hdismissed := h.dismissed (Service.session?_of_looping? hloop)
      cases q with
      | nextEvent => exact hlets hdismissed
      | receive => exact hreceive hask
      | tryReceive => exact htry hask
      | _ => exact hlets
  dismissed hn := by
    have hold := h.dismissed (session?_of_step hs h.begun hn)
    cases hs.turn with
    | same hserv => exact hserv.trans hold
    | begin hserv =>
      rw [hserv] at hn
      obtain rfl : f.count + 1 = n := Option.some.inj hn
      exact absurd h.begun (Nat.not_succ_le_self _)
    | goOn m hsession hnew hbefore =>
      obtain rfl : m = n := Option.some.inj (hnew.symm.trans hn)
      exact absurd hold hbefore
    | leave hnone =>
      rw [hnone] at hn
      cases hn

end Traffic

/-! ## The start of an event loop -/

namespace Scene

variable {f f' : Scene}

/-- A move that starts an event loop ends the activation of the session under way. -/
theorem Act.starts {m : Move} (hs : f.Act m f') :
    Adds (!·.isLoopStart) f.outline f'.outline ∨
      ∃ s timer hs, f.session = some s ∧ s.stage = .activating timer ∧
        f'.outline = (f.now, .loopStarted s.id f.setup.device) :: hs ∧
          Adds (!·.isLoopStart) f.outline hs := by
  cases hs with
  | added s timer call ok hs hst =>
    exact .inr ⟨s, timer, _, hs, hst, rfl, ((Adds.refl _).cons rfl).cons rfl⟩
  | fire a => exact .inl (Conduct.adds_post ((Adds.refl _).cons rfl) _ rfl)
  | decide t =>
    rw [outline_decide]
    exact .inl ((Adds.refl _).cons rfl)
  | firstSignal s b =>
    exact .inl ((Conduct.adds_raiseStop (c := (f.conduct.setSignals b).tell (.signalTaken s))
      ((Adds.refl _).cons rfl) rfl).cons rfl)
  | secondSignal s b =>
    rw [outline_decide]
    exact .inl (((Adds.refl _).cons rfl).cons rfl)
  | ignoreSignals | beginWaiting | loopWent | stopForwarded => exact .inl (Adds.refl _)
  | beginStop | loopEnded | skipStopped | sessionEnded | skipped | addPanicked | driverRemoved
  | lateEnd | keepWaiting | keepSkipping | keepWatching | removalSeen =>
    exact .inl ((Adds.refl _).cons rfl)
  | loopPanicked => exact .inl (Conduct.adds_post ((Adds.refl _).cons rfl) _ rfl)
  | beginRemoval =>
    rw [outline_requestRemoval]
    exact .inl ((((Adds.refl _).cons rfl).cons rfl |>.cons rfl).cons rfl)
  | removalFailed | skipEnded => exact .inl (((Adds.refl _).cons rfl).cons rfl)
  | stopped => exact .inl (Conduct.adds_post ((Adds.refl _).cons rfl) _ rfl)
  | beginSession => exact .inl ((((Adds.refl _).cons rfl).cons rfl |>.cons rfl).cons rfl)

/-- Whatever happens, an event loop starts only as the session under way has been activated. -/
theorem Step.starts {o : Occurrence} (hs : f.Step o f') :
    Adds (!·.isLoopStart) f.outline f'.outline ∨
      ∃ s timer hs, f.session = some s ∧ s.stage = .activating timer ∧
        f'.outline = (f.now, .loopStarted s.id f.setup.device) :: hs ∧
          Adds (!·.isLoopStart) f.outline hs := by
  cases hs with
  | act hact => exact hact.starts
  | _ => exact .inl (Adds.refl _)

end Scene

/-! ## Runs -/

/-- What is picked less often is picked in the same order. -/
theorem gather_sublist {α : Type} {pick pick' : Happening → Option α}
    (h : ∀ x, pick x = none ∨ pick x = pick' x) (hs : List (Nat × Happening)) :
    (gather pick hs).Sublist (gather pick' hs) := by
  induction hs with
  | nil => exact List.Sublist.refl _
  | cons e hs ih =>
    rw [gather_cons, gather_cons]
    refine ih.append ?_
    rcases h e.2 with hnone | hsame
    · rw [hnone]
      exact List.nil_sublist _
    · exact hsame ▸ List.Sublist.refl _

/-- Whatever is received leaves the queue. -/
theorem received_sublist_left (hs : List (Nat × Happening)) :
    (gather Happening.received? hs).Sublist (gather Happening.left? hs) := by
  refine gather_sublist (fun x => ?_) hs
  cases x with
  | loopReplied n r => exact .inr (by cases r <;> rfl)
  | _ => exact .inl rfl

namespace Supervision

variable {L : EventLoop} (s : Supervision L)

/-- The event loop takes notifications only by asking for the next one. -/
def TakesByNextEvent (os : List Occurrence) : Prop :=
  ∀ before after, os = before ++ .move .eventLoop :: after →
    L.request (s.after before).loop ≠ .receive ∧ L.request (s.after before).loop ≠ .tryReceive

/-- What the event loops of a run receive. -/
structure DeliveredInOrder (os : List Occurrence) : Prop where
  /-- The events received, in all sessions, are some of those accepted, in the same order. -/
  order : (gather Happening.received? (s.history os)).Sublist
    ((gather Happening.accepted? (s.history os)).map (·.event))
  /-- Those of one session come first of what waited as its event loop started, followed by what
  was accepted from then on. -/
  session : ∀ before o after n d t, os = before ++ o :: after →
    (t, .loopStarted n d) ∈ s.since before [o] →
      gather (Happening.receivedIn? n) (s.history os) <+:
        (s.after before).queue.items.map (·.event) ++
          (gather Happening.accepted? (s.since before (o :: after))).map (·.event)
  /-- Once the driver is removed the session receives none of those that wait. -/
  quitting : s.TakesByNextEvent os → ∀ before after, os = before ++ after →
    ∀ x ∈ (s.after before).session, x.isQuitting = true →
      gather (Happening.receivedIn? x.id) (s.since before after) = []
  /-- None that was accepted before a session was removed is received later. -/
  isolated : ∀ newer older t n a, s.history os = newer ++ (t, .stateChanged n a .removed) :: older →
    (gather Happening.received? newer).Sublist
      ((gather Happening.accepted? newer).map (·.event))

theorem fifo_after (os : List Occurrence) : (s.after os).traffic.Fifo := by
  have hqueue := s.traffic_start.1
  refine (s.flows [] os).preserves (fun _ _ hs h => h.step hs) ?_
  have hitems : s.start.traffic.queue.items = [] := by
    rw [hqueue]
    split <;> rfl
  have hleft : s.start.traffic.left = [] :=
    s.gather_start fun x hx => (Happening.pick_eq_none hx).2.2.2.2.2
  have haccepted : s.start.traffic.accepted = [] :=
    congrArg (List.map _) (s.gather_start fun x hx => (Happening.pick_eq_none hx).2.1)
  have hwaiting : s.start.traffic.waiting = [] := congrArg (List.map _) hitems
  rw [after_nil]
  constructor
  · rw [hleft, hwaiting, haccepted]
    exact List.prefix_refl _
  · intro _
    rw [hleft, hwaiting, haccepted]
    rfl

theorem numbered_after (os : List Occurrence) : (s.after os).traffic.Numbered := by
  obtain ⟨-, -, hserv, -, -⟩ := s.traffic_start
  refine (s.flows [] os).preserves (fun _ _ hs h => h.step hs) ⟨fun n hn => ?_, fun n _ => ?_⟩
  · rw [after_nil, hserv] at hn
    split at hn <;> cases hn
  · exact s.gather_start fun x hx => (Happening.pick_eq_none hx).2.2.2.2.1 n

/-- As a session is removed, whatever was accepted has left the queue. -/
theorem cleared_after (os : List Occurrence) (n : SessionId) (a : SessionState) :
    Before (.stateChanged n a .removed)
      (fun _ older => gather Happening.left? older =
        (gather Happening.accepted? older).map (·.event)) (s.history os) := by
  refine s.before_of_voices os (P := fun f => f.Sealed ∧ f.Fifo)
    ⟨s.sealed_after [], s.fifo_after []⟩ (fun f g hs h => ⟨h.1.step hs, h.2.step hs⟩) rfl ?_
  rintro f ⟨hsealed, hfifo⟩ ⟨hidle, hitems⟩
  have hlive : f.queue.receiver ≠ .dropped := by
    rw [ne_eq, ← hsealed.receiver, hidle]
    rintro ⟨⟩
  have hwhole := hfifo.whole hlive
  rw [show f.waiting = [] from congrArg (List.map _) hitems, List.append_nil] at hwhole
  exact hwhole

/-- A session under way is served. -/
theorem service_of_mem (os : List Occurrence) {x : Session} (hx : x ∈ (s.after os).session) :
    (s.after os).traffic.service = x.service ∧ (s.after os).traffic.service.session? = some x.id ∧
      x.id ≤ (s.after os).traffic.count := by
  have hserv : (s.after os).traffic.service = x.service := World.service_of_some hx
  refine ⟨hserv, ?_, Nat.le_of_eq ((s.orderly_after os).session_id x hx)⟩
  rw [hserv]
  unfold Session.service
  split <;> rfl

/-- From any time on at which a session is under way, what it receives comes first of what waits
then, followed by what is accepted later. -/
theorem receivedIn_prefix (before after : List Occurrence) {x : Session}
    (hx : x ∈ (s.after before).session) :
    gather (Happening.receivedIn? x.id) (s.since before after) <+:
      (s.after before).queue.items.map (·.event) ++
        (gather Happening.accepted? (s.since before after)).map (·.event) := by
  obtain ⟨hserv, hsession, hbegun⟩ := s.service_of_mem before hx
  let f := (s.after before).traffic
  have hfed : (s.after (before ++ after)).traffic.Fed x.id (f.receivedIn x.id) f.left :=
    (s.flows before after).preserves (fun _ _ hs h => h.step hs)
      ⟨hbegun, [], [], (List.append_nil _).symm, (List.append_nil _).symm, List.prefix_refl _,
        fun _ => rfl⟩
  obtain ⟨y, z, hy, hz, hprefix, -⟩ := hfed.first
  have hlive : f.queue.receiver ≠ .dropped := by
    rw [ne_eq, ← (s.sealed_after before).receiver]
    intro hover
    rw [hover] at hsession
    cases hsession
  have hwhole : f.left ++ f.waiting = f.accepted := (s.fifo_after before).whole hlive
  have horder := (s.fifo_after (before ++ after)).order
  have haccepted : (s.after (before ++ after)).traffic.accepted =
      f.accepted ++ (gather Happening.accepted? (s.since before after)).map (·.event) := by
    have hsplit := congrArg (List.map (·.event))
      (s.gather_history Happening.accepted? before after)
    rw [List.map_append] at hsplit
    exact hsplit
  rw [hz, haccepted, ← hwhole, List.append_assoc, List.append_assoc,
    List.prefix_append_right_inj] at horder
  have hreceived : y = gather (Happening.receivedIn? x.id) (s.since before after) :=
    List.append_cancel_left
      (hy.symm.trans (s.gather_history (Happening.receivedIn? x.id) before after))
  rw [← hreceived]
  exact hprefix.trans ((List.prefix_append _ _).trans horder)

/-- As its event loop starts, a session is being activated. -/
theorem activating_of_starts (os : List Occurrence) (o : Occurrence) {n : SessionId}
    {d : DeviceId} {t : Nat} (hmem : (t, .loopStarted n d) ∈ s.since os [o]) :
    ∃ x ∈ (s.after os).session, x.id = n ∧ ∃ timer, x.stage = .activating timer := by
  rcases (s.step_after os o).starts with
    ⟨new, heq, hnone⟩ | ⟨x, timer, _, hx, hst, heq, new, rfl, hnone⟩
  · cases hnone _ ((s.mem_since_iff heq rfl).1 hmem)
  · refine ⟨x, hx, ?_, timer, hst⟩
    rcases List.mem_cons.1 ((s.mem_since_iff heq rfl).1 hmem) with hhead | hold
    · exact (Happening.loopStarted.inj (Prod.mk.inj hhead).2).1.symm
    · cases hnone _ hold

/-- **Notifications arrive in order.**  What the event loops of all sessions receive is in the
order in which it was accepted, each once at most; each session receives what comes first of the
queue that it found and of what was accepted later, nothing once it is quitting, and nothing that
was accepted before an earlier session was removed. -/
theorem delivered_in_order (os : List Occurrence) : s.DeliveredInOrder os where
  order := by
    have hprefix := (List.prefix_append _ _).trans (s.fifo_after os).order
    exact (received_sublist_left _).trans hprefix.sublist
  session before o after n d t heq hmem := by
    obtain ⟨x, hx, rfl, timer, hst⟩ := s.activating_of_starts before o hmem
    have hserv : (s.after before).traffic.service = .attaching x.id := by
      rw [(s.service_of_mem before hx).1]
      unfold Session.service
      rw [hst]
    have hnone : gather (Happening.receivedIn? x.id) (s.history before) = [] :=
      (s.numbered_after before).early x.id (.inr hserv)
    rw [heq, gather_history, hnone, List.nil_append]
    exact s.receivedIn_prefix before (o :: after) hx
  quitting hnext before after heq x hx hquit := by
    obtain ⟨hserv, -, hbegun⟩ := s.service_of_mem before hx
    have hdismissed : (s.after before).traffic.service = .dismissing x.id := by
      rw [hserv]
      exact x.service_eq_dismissing.2 ((s.quitsRemoved_after before x hx).1 hquit)
    have hreceive : ¬ s.deeds (before ++ after) (.ask .receive) := by
      rintro ⟨earlier, later, hsplit, hask⟩
      exact (hnext earlier later (heq.trans hsplit)).1 hask
    have htry : ¬ s.deeds (before ++ after) (.ask .tryReceive) := by
      rintro ⟨earlier, later, hsplit, hask⟩
      exact (hnext earlier later (heq.trans hsplit)).2 hask
    have hsated := (s.flows before after).preserves
      (P := Traffic.Sated x.id (gather (Happening.receivedIn? x.id) (s.history before)))
      (fun _ _ hs h => h.step hreceive htry hs) ⟨hbegun, rfl, fun _ => hdismissed⟩
    have hall := (s.gather_history (Happening.receivedIn? x.id) before after).symm.trans hsated.all
    exact List.append_right_eq_self.1 hall
  isolated newer older t n a heq := by
    have hcleared := s.cleared_after os n a newer older t heq
    have hsplit : ∀ {α : Type} {pick : Happening → Option α},
        pick (.stateChanged n a .removed) = none →
          gather pick (s.history os) = gather pick older ++ gather pick newer := by
      intro α pick hpick
      rw [heq, gather_append, gather_cons, hpick]
      simp
    have horder : gather Happening.left? (s.history os) ++ (s.after os).traffic.waiting <+:
        (gather Happening.accepted? (s.history os)).map (·.event) := (s.fifo_after os).order
    rw [hsplit rfl, hsplit rfl, List.map_append, ← hcleared, List.append_assoc,
      List.prefix_append_right_inj] at horder
    exact (received_sublist_left newer).trans ((List.prefix_append _ _).trans horder).sublist

end Supervision

end Hotplug
