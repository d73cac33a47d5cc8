import Hotplug.Library.Loopback
import Hotplug.Proofs.Channel
import Hotplug.Proofs.Outstanding

/-!
# The count of the loopback library

A manager of the loopback library whose notifications are taken, released one by one in any order,
or given up with their receiver.  The manager counts those that it has given out and not got back:
they wait in the queue, or were taken and not yet released.

The subject is the loopback library of the manager component, outside a supervised run.

* `LoopbackOp`, `LoopbackRecord.occur` — what can be done, and what becomes of it.
* `Loopback.Reports` — what a call of the manager adds to the queue and to the count.
* `LoopbackRecord.Kept` — what every operation preserves.
* `LoopbackRecord.accounts` — the count is right at any time, and reports come in order.
-/

namespace Hotplug

/-! ## Runs -/

/-- One thing that can be done to a manager or to the notifications it has given out. -/
inductive LoopbackOp where
  | add (d : DeviceId)
  | remove (d : DeviceId)
  /-- The receiver takes a notification, if one waits. -/
  | take
  /-- The `i`-th of those that were taken is released. -/
  | release (i : Nat)
  | dropReceiver
  | stop
  deriving DecidableEq, Repr, Inhabited

namespace Loopback

/-- An event of the controller. -/
def event (home : UInt32) (kind : EventKind) : Event where
  kind := kind
  homeId := home
  nodeId := controllerNode

/-- A notification of the library. -/
def notice (home : UInt32) (kind : EventKind) : Notification where
  event := event home kind
  backing := .loopback

end Loopback

namespace LoopbackOp

/-- What an operation reports, in order. -/
def events (home : UInt32) : LoopbackOp → List Event
  | add _ => [Loopback.event home .driverReady, Loopback.event home .nodeAdded]
  | remove _ => [Loopback.event home .driverRemoved]
  | _ => []

/-- What is reported before the manager is stopped, in order. -/
def reported (home : UInt32) (ops : List LoopbackOp) : List Event :=
  (ops.takeWhile (· ≠ stop)).flatMap (events home)

end LoopbackOp

namespace LoopbackRun

variable (s : LoopbackRun)

/-- The manager turns to another device. -/
def onDevice (d : DeviceId) : LoopbackRun :=
  { s with device := d }

/-- Releases one of the notifications that were taken; says whether there was one. -/
def releaseAt (i : Nat) : Bool × LoopbackRun :=
  match s.taken[i]? with
  | none => (false, s)
  | some n =>
    (true, { s with taken := s.taken.eraseIdx i, chronicle := s.chronicle.release n })

/-- Releasing the oldest is one way to release. -/
theorem release_eq_releaseAt : s.release = s.releaseAt 0 := by
  unfold release releaseAt
  cases s.taken <;> rfl

end LoopbackRun

/-- A manager with its notifications, and what its receiver has obtained. -/
structure LoopbackRecord where
  run : LoopbackRun
  /-- What was taken, the oldest first. -/
  obtained : List Notification := []
  deriving Repr, Inhabited

namespace LoopbackRecord

variable (r : LoopbackRecord)

/-- What becomes of a manager.  One that was stopped takes no calls, and nothing can be taken
without the receiver. -/
def occur : LoopbackOp → LoopbackRecord
  | .add d => { r with run := (r.run.onDevice d).add.getD r.run }
  | .remove d => { r with run := (r.run.onDevice d).remove.getD r.run }
  | .take =>
    match r.run.take with
    | some (found, s) => { run := s, obtained := r.obtained ++ found.item?.toList }
    | none => r
  | .release i => { r with run := (r.run.releaseAt i).2 }
  | .dropReceiver => { r with run := r.run.dropReceiver }
  | .stop => { r with run := r.run.stop.getD r.run }

/-- What becomes of a manager in the long run. -/
def follow (ops : List LoopbackOp) : LoopbackRecord :=
  ops.foldl occur r

theorem occur_add_of_running (hrunning : r.run.isRunning = true) (d : DeviceId) :
    r.occur (.add d) =
      { r with
        run := { r.run with
          device := d
          queue := (Loopback.add r.run.homeId d r.run.queue r.run.chronicle).1
          chronicle := (Loopback.add r.run.homeId d r.run.queue r.run.chronicle).2 } } := by
  have hadd : (r.run.onDevice d).isRunning = true := hrunning
  simp only [occur, LoopbackRun.add, if_pos hadd]
  rfl

theorem occur_remove_of_running (hrunning : r.run.isRunning = true) (d : DeviceId) :
    r.occur (.remove d) =
      { r with
        run := { r.run with
          device := d
          queue := (Loopback.remove r.run.homeId d r.run.queue r.run.chronicle).1
          chronicle := (Loopback.remove r.run.homeId d r.run.queue r.run.chronicle).2 } } := by
  have hremove : (r.run.onDevice d).isRunning = true := hrunning
  simp only [occur, LoopbackRun.remove, if_pos hremove]
  rfl

/-- A manager that was stopped takes no calls. -/
theorem occur_of_stopped (hstopped : r.run.isRunning ≠ true) (d : DeviceId) :
    r.occur (.add d) = r ∧ r.occur (.remove d) = r := by
  have hcall : (r.run.onDevice d).isRunning ≠ true := hstopped
  simp only [occur, LoopbackRun.add, LoopbackRun.remove, if_neg hcall]
  exact ⟨rfl, rfl⟩

theorem follow_concat (ops : List LoopbackOp) (o : LoopbackOp) :
    r.follow (ops ++ [o]) = (r.follow ops).occur o :=
  List.foldl_concat ..

end LoopbackRecord

/-! ## The calls of the manager -/

namespace Loopback

/-- Some notifications went to the queue, each one counted before; a queue without a receiver gave
them back. -/
structure Reports (q : Queue) (c : Chronicle) (ns : List Notification) (q' : Queue)
    (c' : Chronicle) : Prop where
  queue : q' = if q.receiver = .taking then { q with items := q.items ++ ns } else q
  outstanding : c'.outstanding =
    c.outstanding + if q.receiver = .taking then (ns.length : Int) else 0

variable {q q' q'' : Queue} {c c' c'' : Chronicle} {ns ns' : List Notification}

theorem Reports.log (q : Queue) (c : Chronicle) (m : Message) : Reports q c [] q (c.log m) where
  queue := by simp
  outstanding := by simp [Chronicle.log, Chronicle.record]

theorem Reports.trans (h : Reports q c ns q' c') (h' : Reports q' c' ns' q'' c'') :
    Reports q c (ns ++ ns') q'' c'' := by
  obtain ⟨hqueue, hcount⟩ := h
  obtain ⟨hqueue', hcount'⟩ := h'
  by_cases htaking : q.receiver = .taking
  · simp only [htaking, if_true] at hqueue hcount
    simp only [hqueue, if_true] at hqueue' hcount'
    constructor
    · simp [hqueue', htaking]
    · simp [hcount', hcount, htaking, Int.add_assoc]
  · simp only [htaking, if_false] at hqueue hcount
    simp only [hqueue, htaking, if_false] at hqueue' hcount'
    constructor
    · simp [hqueue', htaking]
    · simp [hcount', hcount, htaking]

/-- What is refused counts no longer than it takes to give it back. -/
theorem reports_report (home : UInt32) (q : Queue) (c : Chronicle) (kind : EventKind) :
    Reports q c [notice home kind] (report home q c kind).1 (report home q c kind).2 := by
  have heq : report home q c kind =
      (q.deliver { c with outstanding := c.outstanding + 1 } (notice home kind)).2 := rfl
  rw [heq]
  by_cases htaking : q.receiver = .taking
  · rw [Queue.deliver_of_taking htaking]
    constructor <;> simp [htaking, Chronicle.measure, Chronicle.record]
  · rw [Queue.deliver_of_not_taking htaking]
    constructor
    · simp [htaking]
    · simp [htaking, Chronicle.outstanding_release, loopbacks, Notification.isLoopback, notice,
        Chronicle.log, Chronicle.record]

theorem reports_add (home : UInt32) (d : DeviceId) (q : Queue) (c : Chronicle) :
    Reports q c [notice home .driverReady, notice home .nodeAdded]
      (add home d q c).1 (add home d q c).2 :=
  ((Reports.log q c _).trans (reports_report home _ _ .driverReady)).trans
    (reports_report home _ _ .nodeAdded)

theorem reports_remove (home : UInt32) (d : DeviceId) (q : Queue) (c : Chronicle) :
    Reports q c [notice home .driverRemoved] (remove home d q c).1 (remove home d q c).2 :=
  (Reports.log q c _).trans (reports_report home _ _ .driverRemoved)

end Loopback

/-! ## What every operation preserves -/

namespace LoopbackOp

variable (home : UInt32) (ops : List LoopbackOp) (o : LoopbackOp)

theorem reported_concat : reported home (ops ++ [o]) =
    reported home ops ++ if stop ∈ ops then [] else o.events home := by
  unfold reported
  induction ops with
  | nil => by_cases ho : o = stop <;> simp [ho, events]
  | cons p ops ih =>
    by_cases hp : p = stop
    · simp [hp]
    · simp [hp, Ne.symm hp] at ih ⊢
      exact ih

/-- After the stop nothing is reported, and otherwise only by calls. -/
theorem reported_concat_of_silent {home : UInt32} {ops : List LoopbackOp} {o : LoopbackOp}
    (h : stop ∈ ops ∨ o.events home = []) : reported home (ops ++ [o]) = reported home ops := by
  rw [reported_concat]
  split
  · exact List.append_nil _
  · next hstop => rw [h.resolve_left hstop, List.append_nil]

end LoopbackOp

namespace LoopbackRecord

open LoopbackOp (reported reported_concat reported_concat_of_silent)

/-- What holds of a manager at any time. -/
structure Kept (home : UInt32) (ops : List LoopbackOp) (r : LoopbackRecord) : Prop where
  homeId : r.run.homeId = home
  senders : r.run.queue.senders = [decide (.stop ∉ ops)]
  receiver : r.run.queue.receiver = if .dropReceiver ∈ ops then .dropped else .taking
  own : ∀ n ∈ r.run.queue.items ++ r.run.taken, n.isLoopback = true
  count : r.run.chronicle.outstanding = (r.run.queue.items.length + r.run.taken.length : Nat)
  order : .dropReceiver ∉ ops →
    (r.obtained ++ r.run.queue.items).map (·.event) = reported home ops
  /-- What waited as the receiver was given up is lost. -/
  lost : .dropReceiver ∈ ops →
    r.run.queue.items = [] ∧ r.obtained.map (·.event) <+: reported home ops

variable {home : UInt32} {ops : List LoopbackOp} {r : LoopbackRecord}

theorem Kept.taking (h : r.Kept home ops) :
    r.run.queue.receiver = .taking ↔ .dropReceiver ∉ ops := by
  rw [h.receiver]
  split <;> simp_all

theorem Kept.isRunning (h : r.Kept home ops) : r.run.isRunning = true ↔ .stop ∉ ops := by
  rw [LoopbackRun.isRunning, Queue.hasSender, h.senders]
  by_cases hstop : LoopbackOp.stop ∈ ops <;> simp [hstop]

theorem Kept.loopbacks_items (h : r.Kept home ops) :
    loopbacks r.run.queue.items = r.run.queue.items.length :=
  List.countP_eq_length.2 fun n hn => h.own n (List.mem_append_left _ hn)

/-- Whatever is reported counts as long as it waits. -/
theorem Kept.call (h : r.Kept home ops) {o : LoopbackOp} (hstop : .stop ∉ ops) (ho : o ≠ .stop)
    (hdrop : o ≠ .dropReceiver) {ns : List Notification}
    (hevents : ns.map (·.event) = o.events home)
    (hown : ∀ n ∈ ns, n.isLoopback = true) {d : DeviceId} {q : Queue} {c : Chronicle}
    (hreports : Loopback.Reports r.run.queue r.run.chronicle ns q c) :
    Kept home (ops ++ [o])
      { r with run := { r.run with device := d, queue := q, chronicle := c } } := by
  have hreported : reported home (ops ++ [o]) = reported home ops ++ o.events home := by
    rw [reported_concat, if_neg hstop]
  have hdropped : .dropReceiver ∈ ops ++ [o] ↔ .dropReceiver ∈ ops := by
    simp [Ne.symm hdrop]
  obtain ⟨hqueue, hcount⟩ := hreports
  by_cases hheld : .dropReceiver ∈ ops
  · rw [if_neg (mt h.taking.1 (not_not.2 hheld))] at hqueue hcount
    subst hqueue
    obtain ⟨hnil, hprefix⟩ := h.lost hheld
    exact
      { homeId := h.homeId
        senders := by simp [h.senders, Ne.symm ho]
        receiver := by rw [h.receiver]; simp only [hdropped]
        own := h.own
        count := by simpa [hcount] using h.count
        order := fun hnot => absurd (hdropped.2 hheld) hnot
        lost := fun _ => ⟨hnil, hreported ▸ hprefix.trans (List.prefix_append _ _)⟩ }
  · rw [if_pos (h.taking.2 hheld)] at hqueue hcount
    subst hqueue
    refine
      { homeId := h.homeId
        senders := by simp [h.senders, Ne.symm ho]
        receiver := by simp only [h.receiver, hdropped]
        own := fun n hn => ?_
        count := ?_
        order := fun _ => ?_
        lost := fun hmem => absurd (hdropped.1 hmem) hheld }
    · have hold := h.own n
      simp only [List.mem_append] at hn hold
      rcases hn with (hn | hn) | hn
      · exact hold (.inl hn)
      · exact hown n hn
      · exact hold (.inr hn)
    · simp only [hcount, h.count, List.length_append]
      push_cast
      omega
    · rw [hreported, ← h.order hheld, ← hevents]
      simp

/-- Nothing is reported, and whatever comes out of the queue is on the record. -/
theorem Kept.silent (h : r.Kept home ops) (o : LoopbackOp)
    (hsilent : .stop ∈ ops ∨ o.events home = []) (hstop : o ≠ .stop) (hdrop : o ≠ .dropReceiver)
    (s : LoopbackRun) (got : List Notification) (hhome : s.homeId = r.run.homeId)
    (hsenders : s.queue.senders = r.run.queue.senders)
    (hreceiver : s.queue.receiver = r.run.queue.receiver)
    (hitems : r.run.queue.items = got ++ s.queue.items) (hown : s.taken ⊆ r.run.taken ++ got)
    (hcount : s.chronicle.outstanding = (s.queue.items.length + s.taken.length : Nat)) :
    Kept home (ops ++ [o]) { run := s, obtained := r.obtained ++ got } := by
  have hreported := reported_concat_of_silent hsilent
  have hdropped : .dropReceiver ∈ ops ++ [o] ↔ .dropReceiver ∈ ops := by
    simp [Ne.symm hdrop]
  refine
    { homeId := hhome.trans h.homeId
      senders := by simp [hsenders, h.senders, Ne.symm hstop]
      receiver := by simp only [hreceiver, h.receiver, hdropped]
      own := fun n hn => h.own n ?_
      count := hcount
      order := fun hheld => ?_
      lost := fun hmem => ?_ }
  · rw [hitems]
    rcases List.mem_append.1 hn with hn | hn
    · simp [hn]
    · rcases List.mem_append.1 (hown hn) with hn | hn <;> simp [hn]
  · rw [List.append_assoc, ← hitems, hreported]
    exact h.order (mt hdropped.2 hheld)
  · obtain ⟨hnil, hprefix⟩ := h.lost (hdropped.1 hmem)
    obtain ⟨rfl, hnil'⟩ := List.append_eq_nil_iff.1 (hitems.symm.trans hnil)
    rw [hreported, List.append_nil]
    exact ⟨hnil', hprefix⟩

theorem Kept.stay (h : r.Kept home ops) (o : LoopbackOp)
    (hsilent : .stop ∈ ops ∨ o.events home = []) (hstop : o ≠ .stop) (hdrop : o ≠ .dropReceiver) :
    Kept home (ops ++ [o]) r := by
  have hsame := h.silent o hsilent hstop hdrop r.run [] rfl rfl rfl rfl
    (List.subset_append_left _ _) h.count
  rwa [List.append_nil] at hsame

theorem Kept.add (h : r.Kept home ops) (d : DeviceId) :
    Kept home (ops ++ [.add d]) (r.occur (.add d)) := by
  by_cases hstop : .stop ∈ ops
  · rw [(occur_of_stopped r (mt h.isRunning.1 (not_not.2 hstop)) d).1]
    exact h.stay _ (.inl hstop) (by simp) (by simp)
  · rw [occur_add_of_running r (h.isRunning.2 hstop), h.homeId]
    exact h.call hstop (by simp) (by simp) rfl (by simp [Loopback.notice, Notification.isLoopback])
      (Loopback.reports_add home d _ _)

theorem Kept.remove (h : r.Kept home ops) (d : DeviceId) :
    Kept home (ops ++ [.remove d]) (r.occur (.remove d)) := by
  by_cases hstop : .stop ∈ ops
  · rw [(occur_of_stopped r (mt h.isRunning.1 (not_not.2 hstop)) d).2]
    exact h.stay _ (.inl hstop) (by simp) (by simp)
  · rw [occur_remove_of_running r (h.isRunning.2 hstop), h.homeId]
    exact h.call hstop (by simp) (by simp) rfl (by simp [Loopback.notice, Notification.isLoopback])
      (Loopback.reports_remove home d _ _)

theorem Kept.take (h : r.Kept home ops) : Kept home (ops ++ [.take]) (r.occur .take) := by
  have hstay : Kept home (ops ++ [.take]) r := h.stay _ (.inr rfl) (by simp) (by simp)
  unfold occur LoopbackRun.take
  by_cases hdropped : r.run.queue.receiver = .dropped
  · simpa only [if_pos hdropped] using hstay
  · simp only [if_neg hdropped]
    cases hitems : r.run.queue.items with
    | nil =>
      rcases Queue.receive_of_nil hitems with heq | heq <;>
        simpa [heq, Received.item?] using hstay
    | cons n rest =>
      have heq : r.run.queue.receive = (.item n, { r.run.queue with items := rest }) := by
        simp [Queue.receive, hitems]
      simp only [heq]
      refine h.silent _ (.inr rfl) (by simp) (by simp) _ [n] rfl rfl rfl hitems
        (List.Subset.refl _) ?_
      simp only [h.count, hitems, List.length_append, List.length_cons, List.length_nil]
      omega

/-- What was taken is the library's own, so that its release takes it off the count. -/
theorem Kept.outstanding_release (h : r.Kept home ops) {i : Nat} {n : Notification}
    (htaken : r.run.taken[i]? = some n) :
    (r.run.chronicle.release n).outstanding = r.run.chronicle.outstanding - 1 := by
  have hown : n.isLoopback = true :=
    h.own n (List.mem_append_right _ (List.mem_of_getElem? htaken))
  rw [Chronicle.outstanding_release]
  simp [loopbacks, hown]

theorem Kept.release (h : r.Kept home ops) (i : Nat) :
    Kept home (ops ++ [.release i]) (r.occur (.release i)) := by
  cases htaken : r.run.taken[i]? with
  | none =>
    simpa [occur, LoopbackRun.releaseAt, htaken] using
      h.stay (.release i) (.inr rfl) (by simp) (by simp)
  | some n =>
    have hmain := h.silent (.release i) (.inr rfl) (by simp) (by simp)
      { r.run with
        taken := r.run.taken.eraseIdx i
        chronicle := r.run.chronicle.release n }
      [] rfl rfl rfl rfl (by simpa using List.eraseIdx_subset) ?_
    · simpa [occur, LoopbackRun.releaseAt, htaken] using hmain
    · obtain ⟨hi, -⟩ := List.getElem?_eq_some_iff.1 htaken
      have hlength := List.length_eraseIdx_of_lt hi
      simp only [h.outstanding_release htaken, h.count, hlength]
      omega

/-- What waits is given back with the receiver. -/
theorem Kept.dropReceiver (h : r.Kept home ops) :
    Kept home (ops ++ [.dropReceiver]) (r.occur .dropReceiver) := by
  have hreported : reported home (ops ++ [.dropReceiver]) = reported home ops :=
    reported_concat_of_silent (.inr rfl)
  refine
    { homeId := h.homeId
      senders := by simp [occur, LoopbackRun.dropReceiver, Queue.dropReceiver, h.senders]
      receiver := by simp [occur, LoopbackRun.dropReceiver, Queue.dropReceiver]
      own := fun n hn => h.own n (List.mem_append_right _ hn)
      count := ?_
      order := fun hnot => absurd (List.mem_append_right _ (List.mem_singleton_self _)) hnot
      lost := fun _ => ⟨rfl, ?_⟩ }
  · have hgiven : (r.occur .dropReceiver).run.chronicle.outstanding =
        r.run.chronicle.outstanding - loopbacks r.run.queue.items :=
      Chronicle.outstanding_releaseAll _ _
    have htaken : (r.occur .dropReceiver).run.taken = r.run.taken := rfl
    have hitems : (r.occur .dropReceiver).run.queue.items = [] := rfl
    rw [hgiven, h.loopbacks_items, h.count, htaken, hitems, List.length_nil]
    omega
  · rw [hreported]
    by_cases hheld : .dropReceiver ∈ ops
    · exact (h.lost hheld).2
    · rw [← h.order hheld, List.map_append]
      exact List.prefix_append _ _

/-- The manager goes, and nothing else. -/
theorem Kept.stop (h : r.Kept home ops) : Kept home (ops ++ [.stop]) (r.occur .stop) := by
  have hreported : reported home (ops ++ [.stop]) = reported home ops :=
    reported_concat_of_silent (.inr rfl)
  have hdropped : .dropReceiver ∈ ops ++ [.stop] ↔ .dropReceiver ∈ ops := by
    simp
  have hkept : ∀ (q : Queue) (c : Chronicle), q = { r.run.queue with senders := [false] } →
      c.outstanding = r.run.chronicle.outstanding →
      Kept home (ops ++ [.stop]) { r with run := { r.run with queue := q, chronicle := c } } := by
    rintro q c rfl hcount
    exact
      { homeId := h.homeId
        senders := by simp
        receiver := by simp only [h.receiver, hdropped]
        own := h.own
        count := hcount.trans h.count
        order := fun hheld => hreported ▸ h.order (mt hdropped.2 hheld)
        lost := fun hmem => hreported ▸ h.lost (hdropped.1 hmem) }
  unfold occur LoopbackRun.stop
  by_cases hstop : .stop ∈ ops
  · rw [if_neg (mt h.isRunning.1 (not_not.2 hstop))]
    refine hkept _ _ ?_ rfl
    rw [← show r.run.queue.senders = [false] by simp [h.senders, hstop]]
  · rw [if_pos (h.isRunning.2 hstop)]
    exact hkept _ _ (by simp [Queue.dropSender, h.senders]) rfl

theorem Kept.occur (h : r.Kept home ops) (o : LoopbackOp) :
    Kept home (ops ++ [o]) (r.occur o) := by
  cases o with
  | add d => exact h.add d
  | remove d => exact h.remove d
  | take => exact h.take
  | release i => exact h.release i
  | dropReceiver => exact h.dropReceiver
  | stop => exact h.stop

theorem Kept.follow {s : LoopbackRun} (h : Kept home [] { run := s }) (ops : List LoopbackOp) :
    Kept home ops (({ run := s } : LoopbackRecord).follow ops) := by
  induction ops using List.reverseRecOn with
  | nil => exact h
  | append_singleton ops o ih =>
    rw [follow_concat]
    exact ih.occur o

/-! ## The count at any time -/

variable {d : DeviceId} {o : ManagerOptions} {s : LoopbackRun}

theorem Kept.start (hstart : (LoopbackRun.start home d o).1 = .ok s) :
    Kept home [] { run := s } := by
  have hquiet : Chronicle.Quiet {} (Loopback.start {} o).2 :=
    (Chronicle.Quiet.refl _).start { loopback := some home } o
  unfold LoopbackRun.start at hstart
  split at hstart
  · cases hstart
  · next c heq =>
    obtain rfl := Except.ok.inj hstart
    have hcount : c.outstanding = 0 := by
      rw [← show (Loopback.start {} o).2 = c from congrArg Prod.snd heq]
      exact hquiet.outstanding
    exact
      { homeId := rfl
        senders := rfl
        receiver := rfl
        own := by rintro n ⟨⟩
        count := hcount
        order := fun _ => rfl
        lost := by rintro ⟨⟩ }

/-- The count of a manager after `ops`, and what its receiver has obtained. -/
structure Accounts (home : UInt32) (ops : List LoopbackOp) (r : LoopbackRecord) : Prop where
  /-- The manager counts its notifications that wait, or were taken and not released. -/
  count : r.run.chronicle.outstanding = (r.run.queue.items.length + r.run.taken.length : Nat)
  own : ∀ n ∈ r.run.queue.items ++ r.run.taken, n.isLoopback = true
  /-- It says the count to whoever asks before it is stopped, and to the log as it is stopped. -/
  said : r.run.outstanding? = (if .stop ∈ ops then none
      else some ((r.run.queue.items.length + r.run.taken.length : Nat) : Int)) ∧
    ∀ t, r.run.stop = some t → t.chronicle = r.run.chronicle.log
      (.loopbackStopped (r.run.queue.items.length + r.run.taken.length : Nat))
  /-- A report counts if there is somebody to receive it, and otherwise changes nothing. -/
  reporting : ∀ kind,
    (Loopback.report home r.run.queue r.run.chronicle kind).2.outstanding =
        r.run.chronicle.outstanding + (if .dropReceiver ∈ ops then 0 else 1) ∧
      (.dropReceiver ∈ ops →
        (Loopback.report home r.run.queue r.run.chronicle kind).1 = r.run.queue)
  /-- A release takes off one, and there is one to take off. -/
  releasing : ∀ i, (r.run.releaseAt i).1 = true → 0 < r.run.chronicle.outstanding ∧
    (r.run.releaseAt i).2.chronicle.outstanding = r.run.chronicle.outstanding - 1
  /-- With the receiver goes what waits, one by one, and the count never runs out before. -/
  shutting : r.run.dropReceiver.queue.items = [] ∧ r.run.dropReceiver.taken = r.run.taken ∧
    r.run.dropReceiver.chronicle.outstanding =
      r.run.chronicle.outstanding - r.run.queue.items.length ∧
    ∀ k < r.run.queue.items.length,
      0 < (r.run.chronicle.releaseAll (r.run.queue.items.take k)).outstanding
  /-- The receiver obtains what is reported, in order, … -/
  inOrder : r.obtained.map (·.event) <+: LoopbackOp.reported home ops
  /-- … and the rest of it waits, … -/
  waiting : .dropReceiver ∉ ops →
    (r.obtained ++ r.run.queue.items).map (·.event) = LoopbackOp.reported home ops
  /-- … what has waited longest being the next to come. -/
  next : .dropReceiver ∉ ops → ∀ n,
    (∃ t, r.run.take = some (.item n, t)) ↔ r.run.queue.items.head? = some n

theorem Kept.reporting (h : r.Kept home ops) (kind : EventKind) :
    (Loopback.report home r.run.queue r.run.chronicle kind).2.outstanding =
        r.run.chronicle.outstanding + (if .dropReceiver ∈ ops then 0 else 1) ∧
      (.dropReceiver ∈ ops →
        (Loopback.report home r.run.queue r.run.chronicle kind).1 = r.run.queue) := by
  obtain ⟨hqueue, hcount⟩ := Loopback.reports_report home r.run.queue r.run.chronicle kind
  by_cases hheld : .dropReceiver ∈ ops
  · have htaking := mt h.taking.1 (not_not.2 hheld)
    rw [if_neg htaking] at hqueue hcount
    simp [hqueue, hcount, hheld]
  · rw [if_pos (h.taking.2 hheld)] at hcount
    simp [hcount, hheld]

theorem Kept.releasing (h : r.Kept home ops) {i : Nat} (hsome : (r.run.releaseAt i).1 = true) :
    0 < r.run.chronicle.outstanding ∧
      (r.run.releaseAt i).2.chronicle.outstanding = r.run.chronicle.outstanding - 1 := by
  cases htaken : r.run.taken[i]? with
  | none => simp [LoopbackRun.releaseAt, htaken] at hsome
  | some n =>
    obtain ⟨hi, -⟩ := List.getElem?_eq_some_iff.1 htaken
    have hcount := h.count
    refine ⟨by omega, ?_⟩
    simpa only [LoopbackRun.releaseAt, htaken] using h.outstanding_release htaken

theorem Kept.shutting (h : r.Kept home ops) {k : Nat} (hk : k < r.run.queue.items.length) :
    0 < (r.run.chronicle.releaseAll (r.run.queue.items.take k)).outstanding := by
  have hall : loopbacks (r.run.queue.items.take k) ≤ (r.run.queue.items.take k).length :=
    List.countP_le_length
  have hcount := h.count
  rw [List.length_take] at hall
  rw [Chronicle.outstanding_releaseAll]
  omega

/-- **The count of the loopback library is right at any time.** -/
theorem accounts (hstart : (LoopbackRun.start home d o).1 = .ok s) (ops : List LoopbackOp) :
    Accounts home ops (({ run := s } : LoopbackRecord).follow ops) := by
  have h := (Kept.start hstart).follow ops
  generalize ({ run := s } : LoopbackRecord).follow ops = r at h
  refine
    { count := h.count
      own := h.own
      said := ⟨?_, fun t ht => ?_⟩
      reporting := h.reporting
      releasing := fun i => h.releasing
      shutting := ⟨rfl, rfl, ?_, fun k hk => h.shutting hk⟩
      inOrder := ?_
      waiting := h.order
      next := fun hheld n => ?_ }
  · have hrunning := h.isRunning
    unfold LoopbackRun.outstanding?
    by_cases hstop : .stop ∈ ops <;> simp_all [h.count]
  · unfold LoopbackRun.stop at ht
    split at ht
    · obtain rfl := Option.some.inj ht
      rw [← h.count]
      rfl
    · cases ht
  · rw [← h.loopbacks_items]
    exact Chronicle.outstanding_releaseAll _ _
  · by_cases hheld : .dropReceiver ∈ ops
    · exact (h.lost hheld).2
    · rw [← h.order hheld, List.map_append]
      exact List.prefix_append _ _
  · rw [← Queue.receive_eq_item]
    unfold LoopbackRun.take
    rw [if_neg (by simp [h.receiver, hheld])]
    cases hreceive : r.run.queue.receive with
    | mk found q => cases found <;> simp

/-- One of two is released, the receiver goes with the third, and what is reported then counts no
more. -/
def leaving : List LoopbackOp :=
  [.add ⟨"/dev/a"⟩, .take, .take, .release 1, .remove ⟨"/dev/a"⟩, .dropReceiver,
    .remove ⟨"/dev/b"⟩]

theorem accounts_leaving :
    let o : ManagerOptions := { values := .ofList [("Logging", .bool true)] }
    let s : LoopbackRun :=
      { homeId := 7, device := ⟨"/dev/a"⟩, chronicle := (Loopback.start {} o).2 }
    (LoopbackRun.start 7 ⟨"/dev/a"⟩ o).1 = .ok s ∧
      (({ run := s } : LoopbackRecord).follow leaving).run.outstanding? = some 1 := by
  intro o s
  have hstart : (LoopbackRun.start 7 ⟨"/dev/a"⟩ o).1 = .ok s := rfl
  exact ⟨hstart, (accounts hstart leaving).said.1⟩

end LoopbackRecord

end Hotplug
