import Hotplug.Proofs.Releases
import Hotplug.Session.Script
import Mathlib.Data.List.Infix

/-!
# What the loopback library has not got back

The loopback library counts the notifications that it has given out and that were not released.
All of them wait in the queue or are held by the event loop.  An event loop that drops whatever it
took leaves none of them behind its session, so that none is missing when the manager is stopped.

* `loopbacks`, `Traffic.surplus` — how many notifications are the loopback library's own, and how
  many of them are counted although they are nowhere.
* `Traffic.Tallied` — the count is right, and no session leaves any of them behind.
* `Traffic.Step.closes`, `StopsEven` — what is said of them as the manager is stopped.
* `Supervision.nothing_outstanding` — so it is in every run of the loopback library.
-/

namespace Hotplug

open Traffic (Flows Step)

/-! ## Counting -/

/-- Whether a notification is one of the loopback library's own. -/
def Notification.isLoopback (k : Notification) : Bool :=
  k.backing = .loopback

/-- How many of some notifications are the loopback library's own. -/
def loopbacks (ks : List Notification) : Nat :=
  ks.countP (·.isLoopback)

@[simp] theorem loopbacks_nil : loopbacks [] = 0 := rfl

@[simp] theorem loopbacks_append (ks ls : List Notification) :
    loopbacks (ks ++ ls) = loopbacks ks + loopbacks ls :=
  List.countP_append

theorem loopbacks_cons (k : Notification) (ks : List Notification) :
    loopbacks (k :: ks) = loopbacks [k] + loopbacks ks :=
  loopbacks_append [k] ks

theorem loopbacks_singleton {k : Notification} (hk : k.isLoopback = false) :
    loopbacks [k] = 0 := by
  simp [loopbacks, hk]

namespace Chronicle

/-- Releasing a notification of the loopback library takes it off the count. -/
theorem outstanding_release (c : Chronicle) (k : Notification) :
    (c.release k).outstanding = c.outstanding - loopbacks [k] := by
  obtain ⟨e, backing⟩ := k
  cases backing <;> simp [release, record, loopbacks, Notification.isLoopback]

/-- What is released one by one is all taken off the count. -/
theorem outstanding_foldl {step : Chronicle → Notification → Chronicle}
    (hstep : ∀ c k, (step c k).outstanding = c.outstanding - loopbacks [k]) (c : Chronicle)
    (ks : List Notification) :
    (ks.foldl step c).outstanding = c.outstanding - loopbacks ks := by
  induction ks generalizing c with
  | nil => simp
  | cons k ks ih =>
    rw [List.foldl_cons, ih, hstep, loopbacks_cons k ks]
    omega

theorem outstanding_releaseAll (c : Chronicle) (ks : List Notification) :
    (c.releaseAll ks).outstanding = c.outstanding - loopbacks ks :=
  outstanding_foldl outstanding_release c ks

theorem outstanding_discardAll (n : SessionId) (c : Chronicle) (ks : List Notification) :
    (c.discardAll n ks).outstanding = c.outstanding - loopbacks ks :=
  outstanding_foldl (fun c k => outstanding_release (c.log (.staleDiscarded k.event) n) k) c ks

end Chronicle

namespace Traffic

variable {may : Deed → Prop} {f g : Traffic}

/-- How many notifications the loopback library counts that neither wait nor are held. -/
def surplus (f : Traffic) : Int :=
  f.chronicle.outstanding - loopbacks f.queue.items - loopbacks f.held

/-- A notification of the loopback library has to be counted before it is passed on. -/
theorem surplus_deliver (f : Traffic) (k : Notification) :
    (f.deliver k).surplus = f.surplus - loopbacks [k] := by
  have hheld : (f.deliver k).held = f.held := rfl
  by_cases htaking : f.queue.receiver = .taking
  · obtain ⟨hqueue, -⟩ := deliver_of_taking htaking k
    have hcount : (f.deliver k).chronicle.outstanding = f.chronicle.outstanding := by
      simp [deliver, Queue.deliver, htaking, Chronicle.record, Chronicle.measure]
    rw [surplus, hcount, hqueue, hheld, loopbacks_append, surplus]
    omega
  · obtain ⟨hqueue, hc⟩ := deliver_of_not_taking htaking k
    have hcount :
        (f.deliver k).chronicle.outstanding = f.chronicle.outstanding - loopbacks [k] := by
      rw [hc, Chronicle.outstanding_release]
      rfl
    rw [surplus, hcount, hqueue, hheld, surplus]
    omega

/-- The loopback library counts what it reports. -/
theorem surplus_report (f : Traffic) (home : UInt32) (kind : EventKind) :
    (f.report home kind).surplus = f.surplus := by
  have hissued : f.issued.surplus = f.surplus + 1 := by
    simp only [surplus, issued]
    omega
  rw [report_eq, surplus_deliver, hissued]
  simp [loopbacks, Notification.isLoopback]

theorem items_deliver (f : Traffic) (k : Notification) :
    loopbacks (f.deliver k).queue.items ≤ loopbacks f.queue.items + loopbacks [k] := by
  by_cases htaking : f.queue.receiver = .taking
  · rw [(deliver_of_taking htaking k).1]
    exact Nat.le_of_eq (loopbacks_append f.queue.items [k])
  · rw [(deliver_of_not_taking htaking k).1]
    exact Nat.le_add_right _ _

/-! ## Nothing is left behind a session -/

/-- Whatever the loopback library counts waits or is held, nothing of it is held where no event
loop is run, and nothing of it waits between two sessions. -/
structure Tallied (f : Traffic) : Prop where
  count : f.surplus = 0
  apart : f.service.looping? = none → loopbacks f.held = 0
  idle : f.service = .idle → loopbacks f.queue.items = 0

/-- Whatever others may do, they pass on nothing of the loopback library's own, and no event loop
keeps any of it. -/
structure Spares (may : Deed → Prop) : Prop where
  bring : ∀ k, may (.bring k) → k.isLoopback = false
  leave : ∀ ks, may (.leave ks) → loopbacks ks = 0

namespace Tallied

/-- The notifications stay where they are. -/
theorem congr (h : f.Tallied) (hsurplus : g.surplus = f.surplus)
    (hheld : loopbacks g.held = loopbacks f.held)
    (hitems : loopbacks g.queue.items = loopbacks f.queue.items)
    (hapart : g.service.looping? = none → f.service.looping? = none)
    (hidle : g.service = .idle → f.service = .idle) : g.Tallied where
  count := hsurplus.trans h.count
  apart hg := hheld.trans (h.apart (hapart hg))
  idle hg := hitems.trans (h.idle (hidle hg))

theorem deliver (h : f.Tallied) {k : Notification} (hk : k.isLoopback = false) :
    (f.deliver k).Tallied := by
  have hnone := loopbacks_singleton hk
  have hitems := items_deliver f k
  have hsurplus := surplus_deliver f k
  rw [hnone] at hitems hsurplus
  constructor
  · simp [hsurplus, h.count]
  · exact h.apart
  · intro hidle
    have := h.idle hidle
    omega

/-- Whatever waits is discarded at the end of a session, and nothing of it is held. -/
theorem clear (h : f.Tallied) (n : SessionId) (hheld : loopbacks f.held = 0) :
    (f.clear n).Tallied := by
  have hcount := h.count
  constructor
  · simp only [surplus] at hcount
    simp only [surplus, Traffic.clear, Chronicle.outstanding_discardAll, loopbacks_nil]
    omega
  · exact fun _ => hheld
  · exact fun _ => rfl

theorem shut (h : f.Tallied) : f.shut.Tallied := by
  have hcount := h.count
  constructor
  · simp only [surplus] at hcount
    simp only [surplus, Traffic.shut, Queue.dropReceiver, Chronicle.outstanding_releaseAll,
      loopbacks_nil]
    omega
  · exact fun _ => rfl
  · rintro ⟨⟩

theorem step (h : f.Tallied) (hmay : Spares may) (hs : f.Step may g) : g.Tallied := by
  cases hs with
  | quiet c hquiet =>
    refine h.congr ?_ rfl rfl id id
    simp only [surplus, hquiet.outstanding]
  | deliver k hbring => exact h.deliver (hmay.bring k hbring)
  | report home kind hbusy =>
    constructor
    · rw [surplus_report, h.count]
    · exact h.apart
    · exact fun hidle => absurd hidle hbusy
  | begin hidle =>
    refine h.congr rfl rfl rfl (fun _ => ?_) (by rintro ⟨⟩)
    rw [hidle]
    rfl
  | strand n hserv =>
    refine h.congr rfl rfl rfl (fun _ => ?_) (by rintro ⟨⟩)
    rw [hserv]
    rfl
  | serve | dismiss | fail => exact h.congr rfl rfl rfl (by rintro ⟨⟩) (by rintro ⟨⟩)
  | reply | leave | orphan | part | detach => exact h.congr rfl rfl rfl id id
  | take n q k rest hloop hask hlets hitems =>
    have hcount := h.count
    have hsplit : loopbacks f.queue.items = loopbacks [k] + loopbacks rest := by
      rw [hitems, loopbacks_cons]
    constructor
    · simp only [surplus] at hcount
      simp only [surplus, take, Chronicle.record, loopbacks_cons k f.held]
      omega
    · intro hnone
      rw [show f.service.looping? = none from hnone] at hloop
      cases hloop
    · intro hidle
      rw [show f.service = .idle from hidle] at hloop
      cases hloop
  | drop ks rest hheld =>
    have hcount := h.count
    have hsplit : loopbacks f.held = loopbacks ks + loopbacks rest :=
      (hheld.countP_eq _).trans (loopbacks_append ks rest)
    constructor
    · simp only [surplus] at hcount
      simp only [surplus, drop, Chronicle.outstanding_releaseAll]
      omega
    · intro hnone
      have hnothing := h.apart hnone
      change loopbacks rest = 0
      omega
    · exact h.idle
  | close =>
    refine h.congr ?_ rfl ?_ id id <;> simp only [surplus, Queue.items_close]
  | clear n hserv hleft =>
    refine h.clear n ?_
    rcases hserv with hserv | hserv
    · exact h.apart (by rw [hserv]; rfl)
    · exact hmay.leave _ (hleft hserv)
  | stop isDriven => cases isDriven <;> exact h.congr rfl rfl rfl id id
  | shut => exact h.shut

/-- Where no session is under way, the loopback library counts nothing. -/
theorem outstanding (h : f.Tallied) (hidle : f.service = .idle) : f.chronicle.outstanding = 0 := by
  have hcount := h.count
  have hheld := h.apart (by rw [hidle]; rfl)
  have hitems := h.idle hidle
  simp only [surplus] at hcount
  omega

end Tallied

end Traffic

/-! ## What is said at the end -/

/-- Whether a happening has to do with the stopping of the manager. -/
def Happening.isClosing : Happening → Bool
  | callBegan .stop | outstanding _ => true
  | logged (.loopbackStopped _) _ => true
  | _ => false

theorem Happening.not_isClosing_of_not_isTraffic (x : Happening) (hx : (!x.isTraffic) = true) :
    (!x.isClosing) = true := by
  cases x with
  | logged m s => cases m <;> first | rfl | cases hx
  | callBegan k => cases k <;> first | rfl | cases hx
  | _ => first | rfl | cases hx

/-- The manager is stopped, or nothing of the kind is said. -/
theorem Traffic.Step.closes {may : Deed → Prop} {f g : Traffic} (hs : f.Step may g) :
    Adds (!·.isClosing) f.chronicle.happenings g.chronicle.happenings ∨
      ∃ isDriven, f.service = .idle ∧ may (.stop isDriven) ∧ g = f.stop isDriven := by
  have hdeliver : ∀ (f : Traffic) (k : Notification), Adds (!·.isClosing)
      f.chronicle.happenings (f.deliver k).chronicle.happenings := by
    intro f k
    by_cases htaking : f.queue.receiver = .taking
    · rw [(deliver_of_taking htaking k).2]
      exact (Adds.refl _).cons rfl
    · rw [(deliver_of_not_taking htaking k).2]
      exact Chronicle.adds_release (fun _ => rfl) (((Adds.refl _).cons rfl).cons rfl) k
  cases hs with
  | quiet c hquiet => exact .inl (hquiet.adds.mono Happening.not_isClosing_of_not_isTraffic)
  | deliver k => exact .inl (hdeliver f k)
  | report home kind =>
    rw [report_eq]
    exact .inl (hdeliver f.issued _)
  | begin | strand | serve | close | dismiss | fail | orphan | part | detach =>
    exact .inl (Adds.refl _)
  | reply | take | leave => exact .inl ((Adds.refl _).cons rfl)
  | drop ks rest => exact .inl (Chronicle.adds_releaseAll (fun _ => rfl) (Adds.refl _) ks)
  | clear n =>
    exact .inl (Chronicle.adds_discardAll (fun _ => rfl) (fun _ _ => rfl) (Adds.refl _) n _)
  | stop isDriven hidle hstop => exact .inr ⟨isDriven, hidle, hstop, rfl⟩
  | shut =>
    exact .inl (Chronicle.adds_releaseAll (fun _ => rfl)
      (Chronicle.adds_releaseAll (fun _ => rfl) (Adds.refl _) _) _)

/-- Whenever the manager is stopped, the loopback library says that nothing is missing. -/
structure StopsEven (hs : List (Nat × Happening)) : Prop where
  told : ∀ t, (t, .callBegan .stop) ∈ hs →
    (t, .outstanding 0) ∈ hs ∧ (t, .logged (.loopbackStopped 0) none) ∈ hs
  counted : ∀ t n, (t, .outstanding n) ∈ hs → n = 0
  logged : ∀ t n s, (t, .logged (.loopbackStopped n) s) ∈ hs → n = 0

namespace StopsEven

variable {hs hs' : List (Nat × Happening)}

theorem adds (h : StopsEven hs) (hadds : Adds (!·.isClosing) hs hs') : StopsEven hs' where
  told t hmem := by
    rw [hadds.mem rfl, hadds.mem rfl]
    exact h.told t ((hadds.mem rfl).1 hmem)
  counted t n hmem := h.counted t n ((hadds.mem rfl).1 hmem)
  logged t n s hmem := h.logged t n s ((hadds.mem rfl).1 hmem)

theorem stop {f : Traffic} (h : StopsEven f.chronicle.happenings)
    (hnone : f.chronicle.outstanding = 0) : StopsEven (f.stop true).chronicle.happenings := by
  have heq : (f.stop true).chronicle.happenings =
      (f.chronicle.now, .logged (.loopbackStopped 0) none) ::
        (f.chronicle.now, .outstanding 0) :: (f.chronicle.now, .callBegan .stop) ::
          f.chronicle.happenings := by
    simp [Traffic.stop, Loopback.stop, Chronicle.record, Chronicle.log, hnone]
  rw [heq]
  constructor
  · intro t hmem
    simp only [List.mem_cons, Prod.mk.injEq, reduceCtorEq, and_false, false_or, and_true] at hmem
    rcases hmem with rfl | hold
    · simp
    · have htold := h.told t hold
      simp [htold.1, htold.2]
  · intro t n hmem
    simp only [List.mem_cons, Prod.mk.injEq, reduceCtorEq, and_false, false_or,
      Happening.outstanding.injEq] at hmem
    rcases hmem with ⟨-, rfl⟩ | hold
    · rfl
    · exact h.counted t n hold
  · intro t n s hmem
    simp only [List.mem_cons, Prod.mk.injEq, reduceCtorEq, and_false, false_or,
      Happening.logged.injEq, Message.loopbackStopped.injEq] at hmem
    rcases hmem with ⟨-, rfl, -⟩ | hold
    · rfl
    · exact h.logged t n s hold

theorem step {may : Deed → Prop} {f g : Traffic} (h : StopsEven f.chronicle.happenings)
    (htallied : f.Tallied) (hdriven : ∀ isDriven, may (.stop isDriven) → isDriven = true)
    (hs : f.Step may g) : StopsEven g.chronicle.happenings := by
  rcases hs.closes with hadds | ⟨isDriven, hidle, hstop, rfl⟩
  · exact h.adds hadds
  · obtain rfl := hdriven isDriven hstop
    exact h.stop (htallied.outstanding hidle)

end StopsEven

/-! ## Runs -/

namespace Supervision

variable {L : EventLoop} (s : Supervision L)

/-- The library drives the loopback library, and nobody else passes on notifications that count as
that one's own. -/
structure DrivesLoopback (os : List Occurrence) : Prop where
  driven : s.library.loopback.isSome = true
  calls : ∀ c n, ∀ k ∈ (s.library.behaviour c n).reports, k.isLoopback = false
  outside : ∀ ks, .notify ks ∈ os → ∀ k ∈ ks, k.isLoopback = false

/-- The event loop returns only when it has dropped whatever it took. -/
def ReturnsEmpty (os : List Occurrence) : Prop :=
  ∀ before, before <+: os →
    (s.after before).hasLoopReturned = true → (s.after before).held = []

/-- What the loopback library counts in a run. -/
structure NothingOutstanding (os : List Occurrence) : Prop where
  /-- It counts its notifications that wait or are held. -/
  count : (s.after os).chronicle.outstanding =
    (loopbacks (s.after os).queue.items + loopbacks (s.after os).held : Nat)
  /-- It counts nothing where no session is under way, … -/
  between : (s.after os).session = none → (s.after os).chronicle.outstanding = 0
  /-- … so that there is nothing when its manager is stopped, which it says. -/
  stopped : ∀ t, (t, .callBegan .stop) ∈ s.history os →
    (t, .outstanding 0) ∈ s.history os ∧ (t, .logged (.loopbackStopped 0) none) ∈ s.history os
  counted : ∀ t n, (t, .outstanding n) ∈ s.history os → n = 0
  logged : ∀ t n x, (t, .logged (.loopbackStopped n) x) ∈ s.history os → n = 0

theorem outstanding_start : s.start.chronicle.outstanding = 0 := by
  let c : Chronicle := Chronicle.record {} (.managerStarting s.settings.managerOptions)
  have hquiet : Chronicle.Quiet {} (s.library.start c s.settings.managerOptions).2 :=
    ((Chronicle.Quiet.refl _).record rfl).start _ _
  have hstart : s.start.chronicle.outstanding =
      (s.library.start c s.settings.managerOptions).2.outstanding := by
    have hlaunch : s.start = World.launch s.setup s.loop s.files s.signalCapacity := rfl
    rw [hlaunch]
    unfold World.launch
    simp only [setup, Bool.false_eq_true, if_false]
    split <;> rfl
  exact hstart.trans hquiet.outstanding

variable {s}

/-- What the library and the event loop keep to is kept by the deeds of a run. -/
theorem spares_deeds {os : List Occurrence} (hlib : s.DrivesLoopback os)
    (htidy : s.ReturnsEmpty os) : Traffic.Spares (s.deeds os) where
  bring k hbring := by
    rcases hbring with ⟨c, n, hk⟩ | ⟨ks, hks, hk⟩
    · exact hlib.calls c n k hk
    · exact hlib.outside ks hks k hk
  leave ks hleave := by
    obtain ⟨before, hprefix, hreturned, rfl⟩ := hleave
    rw [htidy before hprefix hreturned]
    rfl

/-- The traffic stays tallied, and the manager is stopped with nothing missing. -/
theorem tallied_after {os : List Occurrence} (hlib : s.DrivesLoopback os)
    (htidy : s.ReturnsEmpty os) :
    (s.after os).traffic.Tallied ∧ StopsEven (s.history os) := by
  have hspares := spares_deeds hlib htidy
  have hdriven : ∀ isDriven, s.deeds os (.stop isDriven) → isDriven = true :=
    fun isDriven hstop => hstop.symm.trans hlib.driven
  refine (s.flows [] os).preserves
    (P := fun f => f.Tallied ∧ StopsEven f.chronicle.happenings)
    (fun _ _ hs ⟨htallied, heven⟩ => ⟨htallied.step hspares hs, heven.step htallied hdriven hs⟩) ?_
  obtain ⟨hqueue, hheld, -, -, hstart⟩ := s.traffic_start
  have hitems : s.start.traffic.queue.items = [] := by
    rw [hqueue]
    split <;> rfl
  have hnone : s.start.traffic.chronicle.outstanding = 0 := s.outstanding_start
  rw [after_nil]
  refine ⟨⟨?_, fun _ => ?_, fun _ => ?_⟩, ?_⟩
  · simp [Traffic.surplus, hnone, hitems, hheld]
  · rw [hheld, loopbacks_nil]
  · rw [hitems, loopbacks_nil]
  · have heven : StopsEven [] := ⟨by simp, by simp, by simp⟩
    exact heven.adds (hstart.mono Happening.not_isClosing_of_not_isTraffic)

/-- **Nothing of the loopback library is left outstanding.**  It counts its notifications that
wait or are held; under event loops that return only when they have dropped whatever they took,
none is counted between two sessions or when its manager is stopped. -/
theorem nothing_outstanding (os : List Occurrence) (hlib : s.DrivesLoopback os)
    (htidy : s.ReturnsEmpty os) : s.NothingOutstanding os := by
  obtain ⟨htallied, heven⟩ := tallied_after hlib htidy
  have hcount : (s.after os).chronicle.outstanding =
      (loopbacks (s.after os).queue.items + loopbacks (s.after os).held : Nat) := by
    have hsurplus : (s.after os).chronicle.outstanding - loopbacks (s.after os).queue.items -
        loopbacks (s.after os).held = (0 : Int) := htallied.count
    omega
  refine ⟨hcount, fun hnone => ?_, heven.told, heven.counted, heven.logged⟩
  have hserv : (s.after os).traffic.service = _ := World.service_of_none hnone
  split at hserv
  · have hsealed := s.sealed_after os
    have hitems : (s.after os).queue.items = [] := hsealed.items hserv
    have hheld : (s.after os).held = [] := hsealed.held hserv
    rw [hcount, hitems, hheld]
    rfl
  · exact htallied.outstanding hserv

/-- A run of the loopback library whose event loop returns after its first notification. -/
def hasty : Supervision (Script.loop [[.next]]) where
  files := .plugged
  library := { loopback := some 7 }
  loop := {}

/-- The event loop takes one of the two notifications and returns; then a signal comes. -/
def hastyCourse : List Occurrence :=
  ([.cycle, .cycle, .endCall, .eventLoop, .eventLoop, .eventLoop].map .move ++
    [.signal .interrupt] ++
    [.takeSignal, .forwardStop, .session, .endCall, .session, .cycle, .endCall].map .move)

theorem returnsEmpty_hasty : hasty.ReturnsEmpty hastyCourse := by
  have hempty : ∀ before ∈ hastyCourse.inits,
      (hasty.after before).hasLoopReturned = true → (hasty.after before).held = [] := by
    decide +kernel
  exact fun before hprefix => hempty before ((List.mem_inits _ _).2 hprefix)

theorem nothing_outstanding_hasty :
    (0, .callBegan .stop) ∈ hasty.history hastyCourse ∧
      (0, .logged (.loopbackStopped 0) none) ∈ hasty.history hastyCourse := by
  have hstop : (0, .callBegan .stop) ∈ hasty.history hastyCourse := by
    decide +kernel
  have hdrives : hasty.DrivesLoopback hastyCourse := by
    refine ⟨rfl, ?_, ?_⟩
    · rintro (_ | _ | _) n k ⟨⟩
    · intro ks hks
      simp [hastyCourse] at hks
  exact ⟨hstop, ((nothing_outstanding hastyCourse hdrives returnsEmpty_hasty).stopped 0 hstop).2⟩

end Supervision

end Hotplug
