import Hotplug.Notification.Consumer
import Hotplug.Proofs.Metrics.Upkeep
import Hotplug.Proofs.Releases

/-!
# What becomes of the notifications in a channel

One queue with any number of senders, and a consumer who takes notifications out, keeps some of
them, and may close the queue or give the receiver up, all in any order.

The subject is the notification channel of the manager component, outside a supervised run.

* `ChannelOp`, `ChannelRun.occur` — what can be done at either end, and what becomes of it.
* `ChannelRun.Move` — everything that a step can change.
* `ChannelRun.Kept` — what every move preserves.
* `ChannelRun.accounted` — every notification that was passed on is accounted for.
-/

namespace Hotplug

/-! ## Runs -/

/-- One thing that can be done to a channel. -/
inductive ChannelOp where
  /-- Somebody passes a notification on through sender `i`. -/
  | deliver (i : Nat) (n : Notification)
  | cloneSender (i : Nat)
  | dropSender (i : Nat)
  /-- The consumer takes a notification and drops it at once. -/
  | take
  /-- The consumer takes a notification and keeps it. -/
  | keep
  /-- The consumer drops the `i`-th of those it kept. -/
  | dropKept (i : Nat)
  | close
  | dropReceiver
  deriving DecidableEq, Repr, Inhabited

/-- The notification that a receive finds. -/
def Received.item? : Received → Option Notification
  | .item n => some n
  | _ => none

namespace Consumer

variable (s : Consumer)

/-- What is still kept, in the order in which it came out. -/
def keeping : List Notification :=
  s.kept.filterMap id

/-- What was released, the oldest first. -/
def released : List Notification :=
  gather Happening.released? s.chronicle.happenings

/-- How often a notification with this label was counted. -/
def counted (label : String) : Nat :=
  Tally.count label s.chronicle.metrics.notifications

/-- A consumer holds what it keeps. -/
def traffic : Traffic where
  chronicle := s.chronicle
  queue := s.queue
  held := s.keeping
  service := .idle
  count := 0

end Consumer

/-- A channel with a record of what went in and what came out. -/
structure ChannelRun where
  consumer : Consumer := {}
  /-- What was passed on and whether it was accepted, the oldest first. -/
  deliveries : List (Notification × Bool) := []
  /-- What the consumer received, the oldest first. -/
  received : List Notification := []
  deriving Repr, Inhabited

namespace ChannelRun

variable (r : ChannelRun)

/-- What was ever passed on, the oldest first. -/
def passed : List Notification :=
  r.deliveries.map (·.1)

/-- What was accepted, the oldest first. -/
def accepted : List Notification :=
  (r.deliveries.filter (·.2)).map (·.1)

/-- What becomes of a channel.  Without the receiver nobody can take anything or close the queue. -/
def occur (r : ChannelRun) : ChannelOp → ChannelRun
  | .deliver i n =>
    { r with
      consumer := (r.consumer.deliver i n).2
      deliveries := r.deliveries ++ ((r.consumer.deliver i n).1.map (n, ·)).toList }
  | .cloneSender i => { r with consumer := (r.consumer.cloneSender i).2 }
  | .dropSender i => { r with consumer := (r.consumer.dropSender i).2 }
  | .take =>
    if r.consumer.isReceiving then
      { r with
        consumer := r.consumer.take.2
        received := r.received ++ r.consumer.take.1.item?.toList }
    else r
  | .keep =>
    if r.consumer.isReceiving then
      match r.consumer.keep with
      | (.ok i, s) => { r with consumer := s, received := r.received ++ (s.kept? i).toList }
      | (.error _, s) => { r with consumer := s }
    else r
  | .dropKept i => { r with consumer := (r.consumer.dropKept i).2 }
  | .close => if r.consumer.isReceiving then { r with consumer := r.consumer.close } else r
  | .dropReceiver =>
    if r.consumer.isReceiving then { r with consumer := r.consumer.dropReceiver } else r

/-- What becomes of a channel in the long run. -/
def follow (r : ChannelRun) (ops : List ChannelOp) : ChannelRun :=
  ops.foldl occur r

@[simp] theorem follow_nil : r.follow [] = r := rfl

theorem follow_cons (o : ChannelOp) (ops : List ChannelOp) :
    r.follow (o :: ops) = (r.occur o).follow ops := rfl

end ChannelRun

/-! ## The single operations -/

namespace Chronicle

/-- Whatever is released is not passed on. -/
theorem handed_releaseAll (c : Chronicle) (ns : List Notification) :
    gather Happening.handed? (c.releaseAll ns).happenings =
      gather Happening.handed? c.happenings :=
  (adds_releaseAll (p := (·.handed?.isNone)) (fun _ => rfl) (Adds.refl _) ns).gather
    fun _ hx => Option.isNone_iff_eq_none.1 hx

/-- Only what is managed is released. -/
theorem managed_releaseAll {c : Chronicle}
    (h : ∀ k ∈ gather Happening.released? c.happenings, k.isManaged = true)
    (ns : List Notification) :
    ∀ k ∈ gather Happening.released? (c.releaseAll ns).happenings, k.isManaged = true := by
  intro k hk
  rw [gather_releaseAll, List.mem_append] at hk
  rcases hk with hk | hk
  · exact h k hk
  · exact (List.mem_filter.1 hk).2

end Chronicle

namespace Queue

variable {q : Queue}

/-- A receive finds what has waited longest. -/
theorem receive_eq_item {n : Notification} : q.receive.1 = .item n ↔ q.items.head? = some n := by
  unfold receive
  split
  · next heq => simp [heq]
  · next heq => split <;> simp [heq]

/-- Nothing can come any more just if nothing waits and nobody can put anything in. -/
theorem receive_eq_disconnected :
    q.receive.1 = .disconnected ↔ q.items = [] ∧ (q.receiver ≠ .taking ∨ q.hasSender = false) := by
  unfold receive
  split
  · next heq => simp [heq]
  · next heq =>
    by_cases hreceiver : q.receiver = .taking <;> cases hs : q.hasSender <;> simp [heq, hreceiver]

/-- A receive from an empty queue changes nothing. -/
theorem receive_of_nil (h : q.items = []) :
    q.receive = (.empty, q) ∨ q.receive = (.disconnected, q) := by
  simp only [receive, h]
  split
  · exact .inl rfl
  · exact .inr rfl

theorem deliver_of_taking (h : q.receiver = .taking) (c : Chronicle) (n : Notification) :
    q.deliver c n = (true, { q with items := q.items ++ [n] },
      (c.record (.accepted n)).measure fun m =>
        { m with notifications := Tally.bump n.event.kind.label m.notifications }) := by
  simp [deliver, h]

theorem deliver_of_not_taking (h : q.receiver ≠ .taking) (c : Chronicle) (n : Notification) :
    q.deliver c n =
      (false, q, ((c.log (.notificationDropped n.event.kind)).record (.refused n)).release n) := by
  unfold deliver
  split
  · contradiction
  · rfl

end Queue

namespace Consumer

variable {s : Consumer} {n : Notification} {rest : List Notification}

theorem deliver_fst {i : Nat} (h : s.queue.holds i = true) (n : Notification) :
    (s.deliver i n).1 = some (decide (s.queue.receiver = .taking)) := by
  by_cases htaking : s.queue.receiver = .taking
  · simp [deliver, h, Queue.deliver_of_taking htaking, htaking]
  · simp [deliver, h, Queue.deliver_of_not_taking htaking, htaking]

/-- What is refused is released at once, and nothing else changes. -/
theorem deliver_of_refused {i : Nat} (h : (s.deliver i n).1 = some false) :
    (s.deliver i n).2.released = s.released ++ [n].filter (·.isManaged) ∧
      (s.deliver i n).2.queue = s.queue ∧ (s.deliver i n).2.kept = s.kept := by
  have hholds : s.queue.holds i = true := by
    cases hlost : s.queue.holds i with
    | true => rfl
    | false => simp [deliver, hlost] at h
  have htaking : s.queue.receiver ≠ .taking := by
    simpa [deliver_fst hholds] using h
  simp [deliver, hholds, Queue.deliver_of_not_taking htaking, released, Chronicle.gather_release,
    Happening.released?, List.filter_cons]

theorem take_fst : s.take.1 = s.queue.receive.1 := by
  unfold take
  split <;> simp_all

theorem take_of_items (h : s.queue.items = n :: rest) :
    s.take = (.item n,
      { s with
        queue := { s.queue with items := rest }
        chronicle := s.chronicle.release n }) := by
  simp [take, Queue.receive, h]

theorem take_of_nil (h : s.queue.items = []) : s.take = (s.queue.receive.1, s) := by
  unfold take
  rcases Queue.receive_of_nil h with heq | heq <;> rw [heq]

theorem keep_of_items (h : s.queue.items = n :: rest) :
    s.keep = (.ok s.kept.length,
      { s with queue := { s.queue with items := rest }, kept := s.kept ++ [some n] }) := by
  simp [keep, Queue.receive, h]

theorem keep_of_nil (h : s.queue.items = []) : s.keep = (.error s.queue.receive.1, s) := by
  unfold keep
  rcases Queue.receive_of_nil h with heq | heq <;> rw [heq]

/-- What was kept last is found under its number. -/
theorem kept?_concat (s : Consumer) (q : Queue) (n : Notification) :
    ({ s with queue := q, kept := s.kept ++ [some n] } : Consumer).kept? s.kept.length =
      some n := by
  simp [kept?]

theorem getElem?_of_kept? {i : Nat} (h : s.kept? i = some n) : s.kept[i]? = some (some n) := by
  unfold kept? at h
  rw [List.getD_eq_getElem?_getD] at h
  cases hget : s.kept[i]? with
  | none => simp [hget] at h
  | some x => simpa [hget] using h

/-- What is dropped is kept no longer. -/
theorem count_keeping_set {i : Nat} (h : s.kept? i = some n) (k : Notification) :
    s.keeping.count k = ((s.kept.set i none).filterMap id).count k + [n].count k := by
  obtain ⟨hi, hget⟩ := List.getElem?_eq_some_iff.1 (getElem?_of_kept? h)
  -- The list splits at number `i`, where `none` takes the place of the notification.
  have hkeeping : s.keeping =
      (s.kept.take i).filterMap id ++ n :: (s.kept.drop (i + 1)).filterMap id := by
    have hsplit : s.kept = s.kept.take i ++ some n :: s.kept.drop (i + 1) := by
      rw [← hget, List.getElem_cons_drop, List.take_append_drop]
    exact (congrArg (List.filterMap id) hsplit).trans (by simp)
  have hset : (s.kept.set i none).filterMap id =
      (s.kept.take i).filterMap id ++ (s.kept.drop (i + 1)).filterMap id := by
    rw [List.set_eq_take_append_cons_drop, if_pos hi]
    simp
  simp only [hkeeping, hset, List.count_append, List.count_cons, List.count_nil]
  omega

end Consumer

/-! ## Everything that a step can change -/

namespace ChannelRun

/-- A notification goes to the queue, which accepts it or not. -/
def hand (r : ChannelRun) (n : Notification) (ok : Bool) : ChannelRun :=
  { r with
    consumer.queue := (r.consumer.queue.deliver r.consumer.chronicle n).2.1
    consumer.chronicle := (r.consumer.queue.deliver r.consumer.chronicle n).2.2
    deliveries := r.deliveries ++ [(n, ok)] }

/-- Something comes out of the queue, and the consumer is left in a state. -/
def pull (r : ChannelRun) (s : Consumer) (got : List Notification) : ChannelRun :=
  { r with consumer := s, received := r.received ++ got }

/-- Everything that a step can change. -/
inductive Move (r : ChannelRun) : ChannelRun → Prop
  | accept (n : Notification) (htaking : r.consumer.queue.receiver = .taking) :
    Move r (r.hand n true)
  | refuse (n : Notification) (htaking : r.consumer.queue.receiver ≠ .taking) :
    Move r (r.hand n false)
  /-- The consumer has `got` what waited longest, and some notifications are released. -/
  | pull (s : Consumer) (got released : List Notification)
      (hchronicle : s.chronicle = r.consumer.chronicle.releaseAll released)
      (hreceiver : s.queue.receiver = .dropped ↔ r.consumer.queue.receiver = .dropped)
      (hitems : r.consumer.queue.items = got ++ s.queue.items)
      (hplaces : ∀ k, got.count k + r.consumer.keeping.count k =
        s.keeping.count k + released.count k) :
    Move r (r.pull s got)
  /-- The receiver is given up. -/
  | shut : Move r { r with consumer := r.consumer.dropReceiver }

variable {r r' : ChannelRun}

/-- Nothing comes out, nothing is released, and nothing that is kept changes. -/
theorem Move.stay {s : Consumer} (hchronicle : s.chronicle = r.consumer.chronicle)
    (hreceiver : s.queue.receiver = .dropped ↔ r.consumer.queue.receiver = .dropped)
    (hitems : s.queue.items = r.consumer.queue.items) (hkept : s.kept = r.consumer.kept) :
    r.Move { r with consumer := s } := by
  have hmove : r.Move (r.pull s []) :=
    .pull s [] [] hchronicle hreceiver hitems.symm fun k => by simp [Consumer.keeping, hkept]
  rwa [ChannelRun.pull, List.append_nil] at hmove

theorem Move.refl (r : ChannelRun) : r.Move r :=
  .stay rfl .rfl rfl rfl

theorem move_take (r : ChannelRun) :
    r.Move (r.pull r.consumer.take.2 r.consumer.take.1.item?.toList) := by
  cases hitems : r.consumer.queue.items with
  | nil =>
    rw [Consumer.take_of_nil hitems]
    refine .pull _ _ [] rfl .rfl ?_ fun k => ?_ <;>
      rcases Queue.receive_of_nil hitems with heq | heq <;> simp [heq, Received.item?]
  | cons n rest =>
    rw [Consumer.take_of_items hitems]
    exact .pull _ [n] [n] rfl .rfl hitems fun k => Nat.add_comm _ _

theorem move_keep (r : ChannelRun) :
    r.Move
      (match r.consumer.keep with
      | (.ok i, s) => r.pull s (s.kept? i).toList
      | (.error _, s) => { r with consumer := s }) := by
  cases hitems : r.consumer.queue.items with
  | nil =>
    rw [Consumer.keep_of_nil hitems]
    exact .refl r
  | cons n rest =>
    rw [Consumer.keep_of_items hitems]
    dsimp only
    rw [Consumer.kept?_concat]
    refine .pull _ [n] [] rfl .rfl hitems fun k => ?_
    simp [Consumer.keeping, Nat.add_comm]

theorem move_dropKept (r : ChannelRun) (i : Nat) :
    r.Move { r with consumer := (r.consumer.dropKept i).2 } := by
  cases hkept : r.consumer.kept? i with
  | none => simpa [Consumer.dropKept, hkept] using Move.refl r
  | some n =>
    have hmove : r.Move (r.pull (r.consumer.dropKept i).2 []) := by
      simp only [Consumer.dropKept, hkept]
      refine .pull _ [] [n] rfl .rfl rfl fun k => ?_
      rw [List.count_nil, Nat.zero_add]
      exact Consumer.count_keeping_set hkept k
    rwa [ChannelRun.pull, List.append_nil] at hmove

/-- Whatever is done, the channel moves. -/
theorem move_occur (r : ChannelRun) (o : ChannelOp) : r.Move (r.occur o) := by
  have hguarded : ∀ r' : ChannelRun, r.Move r' →
      r.Move (if r.consumer.isReceiving then r' else r) := by
    intro r' hmove
    split
    · exact hmove
    · exact .refl r
  cases o with
  | deliver i n =>
    by_cases hholds : r.consumer.queue.holds i = true
    · by_cases htaking : r.consumer.queue.receiver = .taking
      · simpa [occur, hand, Consumer.deliver, hholds, Queue.deliver_of_taking htaking]
          using Move.accept n htaking
      · simpa [occur, hand, Consumer.deliver, hholds, Queue.deliver_of_not_taking htaking]
          using Move.refuse n htaking
    · simpa [occur, Consumer.deliver, hholds] using Move.refl r
  | cloneSender i => exact .stay rfl .rfl rfl rfl
  | dropSender i => exact .stay rfl .rfl rfl rfl
  | take => exact hguarded _ r.move_take
  | keep => exact hguarded _ r.move_keep
  | dropKept i => exact r.move_dropKept i
  | close =>
    exact hguarded _
      (.stay rfl (Queue.receiver_close_eq_dropped _) (Queue.items_close _) rfl)
  | dropReceiver => exact hguarded _ .shut

/-- Only the consumer's side of a channel closes it. -/
theorem receiver_occur (r : ChannelRun) (o : ChannelOp) :
    (r.occur o).consumer.queue.receiver =
      if o = .dropReceiver then .dropped
      else if o = .close ∧ r.consumer.queue.receiver = .taking then .closed
      else r.consumer.queue.receiver := by
  cases o with
  | deliver i n =>
    simp only [occur, Consumer.deliver]
    split
    · by_cases htaking : r.consumer.queue.receiver = .taking
      · simp [Queue.deliver_of_taking htaking]
      · simp [Queue.deliver_of_not_taking htaking]
    · simp
  | cloneSender i => simp [occur, Consumer.cloneSender, Queue.cloneSender]
  | dropSender i => simp [occur, Consumer.dropSender, Queue.dropSender]
  | take =>
    simp only [occur]
    split
    · cases hitems : r.consumer.queue.items with
      | nil => simp [Consumer.take_of_nil hitems]
      | cons n rest => simp [Consumer.take_of_items hitems]
    · simp
  | keep =>
    simp only [occur]
    split
    · cases hitems : r.consumer.queue.items with
      | nil => simp [Consumer.keep_of_nil hitems]
      | cons n rest => simp [Consumer.keep_of_items hitems]
    · simp
  | dropKept i =>
    simp only [occur, Consumer.dropKept]
    split <;> simp
  | close =>
    simp only [occur, Consumer.isReceiving, Consumer.close, Queue.close]
    by_cases htaking : r.consumer.queue.receiver = .taking <;> simp [htaking]
  | dropReceiver =>
    simp only [occur, Consumer.isReceiving, Consumer.dropReceiver, Queue.dropReceiver]
    by_cases hdropped : r.consumer.queue.receiver = .dropped <;> simp [hdropped]

/-! ## What every move preserves -/

/-- What holds of a channel at any time. -/
structure Kept (r : ChannelRun) : Prop where
  handed : gather Happening.handed? r.consumer.chronicle.happenings = r.passed
  order : r.consumer.queue.receiver ≠ .dropped →
    r.accepted = r.received ++ r.consumer.queue.items
  /-- What waited as the receiver was given up is lost. -/
  lost : r.consumer.queue.receiver = .dropped →
    r.consumer.queue.items = [] ∧ r.received <+: r.accepted
  balanced : r.consumer.traffic.Balanced
  managed : ∀ k ∈ r.consumer.released, k.isManaged = true
  counted : ∀ label, r.consumer.counted label =
    r.accepted.countP (·.event.kind.label = label)

theorem Kept.fresh : Kept {} where
  handed := rfl
  order _ := rfl
  lost h := by cases h
  balanced k _ := rfl
  managed k hk := by cases hk
  counted _ := rfl

theorem passed_hand (r : ChannelRun) (n : Notification) (ok : Bool) :
    (r.hand n ok).passed = r.passed ++ [n] := by
  simp [hand, passed]

theorem accepted_hand (r : ChannelRun) (n : Notification) (ok : Bool) :
    (r.hand n ok).accepted = r.accepted ++ if ok then [n] else [] := by
  cases ok <;> simp [hand, accepted]

theorem handed_hand (r : ChannelRun) (n : Notification) (ok : Bool) :
    gather Happening.handed? (r.hand n ok).consumer.chronicle.happenings =
      gather Happening.handed? r.consumer.chronicle.happenings ++ [n] := by
  by_cases htaking : r.consumer.queue.receiver = .taking
  · simp [hand, Queue.deliver_of_taking htaking, Happening.handed?]
  · simp [hand, Queue.deliver_of_not_taking htaking, Chronicle.gather_release, Happening.handed?]

theorem Kept.move (h : r.Kept) (hmove : r.Move r') : r'.Kept := by
  cases hmove with
  | accept n htaking =>
    have hqueue : (r.hand n true).consumer.queue =
        { r.consumer.queue with items := r.consumer.queue.items ++ [n] } := by
      simp [hand, Queue.deliver_of_taking htaking]
    have hreleased : (r.hand n true).consumer.released = r.consumer.released := by
      simp [hand, Queue.deliver_of_taking htaking, Consumer.released, Happening.released?]
    refine ⟨?_, fun _ => ?_, fun hdropped => ?_, h.balanced.deliver n, hreleased ▸ h.managed,
      fun label => ?_⟩
    · rw [handed_hand, passed_hand, h.handed]
    · rw [accepted_hand, h.order (by simp [htaking]), hqueue]
      exact List.append_assoc _ _ _
    · rw [hqueue] at hdropped
      cases htaking.symm.trans hdropped
    · rw [accepted_hand, List.countP_append, ← h.counted]
      simp [hand, Queue.deliver_of_taking htaking, Consumer.counted, Chronicle.measure,
        Tally.count_bump, Chronicle.record, List.countP_cons]
  | refuse n htaking =>
    have hqueue : (r.hand n false).consumer.queue = r.consumer.queue := by
      simp [hand, Queue.deliver_of_not_taking htaking]
    have haccepted : (r.hand n false).accepted = r.accepted := by
      simp [accepted_hand]
    refine ⟨?_, ?_, ?_, h.balanced.deliver n, ?_, fun label => ?_⟩
    · rw [handed_hand, passed_hand, h.handed]
    · rw [haccepted, hqueue]
      exact h.order
    · rw [haccepted, hqueue]
      exact h.lost
    · have hlogged : gather Happening.released? ((r.consumer.chronicle.log
          (.notificationDropped n.event.kind)).record (.refused n)).happenings =
            r.consumer.released := by
        simp [Consumer.released, Happening.released?]
      have hmanaged := Chronicle.managed_releaseAll (hlogged ▸ h.managed) [n]
      rw [hand, Queue.deliver_of_not_taking htaking]
      exact hmanaged
    · rw [haccepted, ← h.counted]
      simp [hand, Queue.deliver_of_not_taking htaking, Consumer.counted, Chronicle.record,
        Chronicle.log]
  | pull s got released hchronicle hreceiver hitems hplaces =>
    have hhanded : gather Happening.handed? s.chronicle.happenings =
        gather Happening.handed? r.consumer.chronicle.happenings := by
      rw [hchronicle, Chronicle.handed_releaseAll]
    refine ⟨hhanded.trans h.handed, fun hheld => ?_, fun hdropped => ?_, ?_, ?_, fun label => ?_⟩
    · have horder := h.order (mt hreceiver.2 hheld)
      rw [hitems, ← List.append_assoc] at horder
      exact horder
    · obtain ⟨hnil, hprefix⟩ := h.lost (hreceiver.1 hdropped)
      obtain ⟨rfl, hnil'⟩ := List.append_eq_nil_iff.1 (hitems.symm.trans hnil)
      exact ⟨hnil', by rwa [ChannelRun.pull, List.append_nil]⟩
    · refine h.balanced.move [] released (hhanded.trans (List.append_nil _).symm) ?_ fun k => ?_
      · exact (congrArg (gather _ ·.happenings) hchronicle).trans
          (Chronicle.gather_releaseAll _ _)
      · have hmoved := hplaces k
        simp only [Consumer.traffic, ChannelRun.pull, hitems, List.count_append, List.count_nil]
        omega
    · have hmanaged := Chronicle.managed_releaseAll h.managed released
      rwa [← hchronicle] at hmanaged
    · have hmetrics : s.counted label = r.consumer.counted label := by
        rw [Consumer.counted, hchronicle, Chronicle.metrics_releaseAll]
        rfl
      exact hmetrics.trans (h.counted label)
  | shut =>
    have hhanded := Chronicle.handed_releaseAll r.consumer.chronicle r.consumer.queue.items
    refine ⟨hhanded.trans h.handed, fun hheld => absurd rfl hheld, fun _ => ⟨rfl, ?_⟩, ?_,
      Chronicle.managed_releaseAll h.managed _, fun label => ?_⟩
    · by_cases hdropped : r.consumer.queue.receiver = .dropped
      · exact (h.lost hdropped).2
      · exact ⟨r.consumer.queue.items, (h.order hdropped).symm⟩
    · refine h.balanced.move [] r.consumer.queue.items (hhanded.trans (List.append_nil _).symm)
        (Chronicle.gather_releaseAll _ _) fun k => ?_
      simp only [Consumer.traffic, Consumer.dropReceiver, Consumer.keeping, Queue.dropReceiver,
        List.count_nil]
      omega
    · have hmetrics : r.consumer.dropReceiver.counted label = r.consumer.counted label := by
        simp [Consumer.counted, Consumer.dropReceiver, Queue.dropReceiver]
      exact hmetrics.trans (h.counted label)

theorem Kept.follow (h : r.Kept) (ops : List ChannelOp) : (r.follow ops).Kept := by
  induction ops generalizing r with
  | nil => exact h
  | cons o ops ih => exact ih (h.move (r.move_occur o))

/-- The receiver is given up, or the queue closed, for good. -/
theorem receiver_follow (r : ChannelRun) (ops : List ChannelOp) :
    (r.follow ops).consumer.queue.receiver =
      if .dropReceiver ∈ ops then .dropped
      else if .close ∈ ops ∧ r.consumer.queue.receiver = .taking then .closed
      else r.consumer.queue.receiver := by
  induction ops generalizing r with
  | nil => simp
  | cons o ops ih =>
    rw [follow_cons, ih, receiver_occur]
    by_cases hdrop : o = .dropReceiver
    · simp [hdrop]
    · by_cases hclose : o = .close
      · by_cases htaking : r.consumer.queue.receiver = .taking <;> simp [hclose, htaking]
      · simp [hdrop, hclose, Ne.symm hdrop, Ne.symm hclose]

/-! ## Every notification is accounted for -/

/-- Everything that was passed on into a channel is accounted for, after `ops`. -/
structure Accounted (r : ChannelRun) (ops : List ChannelOp) : Prop where
  /-- Whoever holds a sender is told whether the queue is still open. -/
  answered : ∀ i n, r.consumer.queue.holds i = true →
    (r.consumer.deliver i n).1 =
      some (decide (ChannelOp.close ∉ ops ∧ ChannelOp.dropReceiver ∉ ops))
  /-- What is refused is released at once. -/
  refused : ∀ i n, (r.consumer.deliver i n).1 = some false →
    (r.consumer.deliver i n).2.released = r.consumer.released ++ [n].filter (·.isManaged) ∧
      (r.consumer.deliver i n).2.queue = r.consumer.queue ∧
      (r.consumer.deliver i n).2.kept = r.consumer.kept
  /-- What comes out comes out in the order in which it was accepted. -/
  inOrder : r.received <+: r.accepted
  /-- Until the receiver is given up, whatever has not come out waits. -/
  waiting : .dropReceiver ∉ ops → r.accepted = r.received ++ r.consumer.queue.items
  /-- Who takes a notification gets the one that has waited longest, whether it is kept or not. -/
  next : ∀ n,
    (r.consumer.take.1 = .item n ↔ r.consumer.queue.items.head? = some n) ∧
      ((∃ i, r.consumer.keep.1 = .ok i ∧ r.consumer.keep.2.kept? i = some n) ↔
        r.consumer.queue.items.head? = some n)
  disconnected : .dropReceiver ∉ ops →
    (r.consumer.take.1 = .disconnected ↔ r.consumer.queue.items = [] ∧
      (.close ∈ ops ∨ r.consumer.queue.hasSender = false)) ∧
    (r.consumer.keep.1 = .error .disconnected ↔ r.consumer.queue.items = [] ∧
      (.close ∈ ops ∨ r.consumer.queue.hasSender = false))
  /-- What waits in a queue that is closed still waits. -/
  closing : r.consumer.close.queue.items = r.consumer.queue.items ∧
    r.consumer.close.released = r.consumer.released
  /-- With the receiver all that waits is released, and nothing that is kept. -/
  shutting : r.consumer.dropReceiver.queue.items = [] ∧
    r.consumer.dropReceiver.released =
      r.consumer.released ++ r.consumer.queue.items.filter (·.isManaged) ∧
    r.consumer.dropReceiver.kept = r.consumer.kept
  /-- What is managed waits, is kept, or was released. -/
  places : (r.consumer.queue.items.filter (·.isManaged) ++
    r.consumer.keeping.filter (·.isManaged) ++ r.consumer.released).Perm
      (r.passed.filter (·.isManaged))
  /-- None is in two places, and none was released twice. -/
  apart : (r.passed.filter (·.isManaged)).Nodup →
    (r.consumer.queue.items.filter (·.isManaged) ++
      r.consumer.keeping.filter (·.isManaged) ++ r.consumer.released).Nodup
  counted : ∀ label, r.consumer.counted label =
    r.accepted.countP (·.event.kind.label = label)

theorem Kept.places (h : r.Kept) : (r.consumer.queue.items.filter (·.isManaged) ++
    r.consumer.keeping.filter (·.isManaged) ++ r.consumer.released).Perm
      (r.passed.filter (·.isManaged)) := by
  rw [List.perm_iff_count]
  intro k
  rw [List.count_append, List.count_append]
  by_cases hk : k.isManaged = true
  · have hbalance := h.balanced k hk
    rw [show r.consumer.traffic.chronicle = r.consumer.chronicle from rfl, h.handed] at hbalance
    rw [count_filter_isManaged hk, count_filter_isManaged hk, count_filter_isManaged hk]
    exact hbalance.symm
  · have hfilter : ∀ ks : List Notification, (ks.filter (·.isManaged)).count k = 0 :=
      fun ks => List.count_eq_zero.2 fun hmem => hk (List.mem_filter.1 hmem).2
    rw [hfilter, hfilter, hfilter, List.count_eq_zero.2 fun hmem => hk (h.managed k hmem)]

theorem keep_eq_item (s : Consumer) (n : Notification) :
    (∃ i, s.keep.1 = .ok i ∧ s.keep.2.kept? i = some n) ↔ s.queue.items.head? = some n := by
  cases hitems : s.queue.items with
  | nil => simp [Consumer.keep_of_nil hitems]
  | cons k rest => simp [Consumer.keep_of_items hitems, Consumer.kept?_concat]

theorem keep_eq_disconnected (s : Consumer) :
    s.keep.1 = .error .disconnected ↔ s.queue.receive.1 = .disconnected := by
  cases hitems : s.queue.items with
  | nil => simp [Consumer.keep_of_nil hitems]
  | cons k rest =>
    rw [Consumer.keep_of_items hitems, Queue.receive_eq_disconnected]
    simp [hitems]

/-- **Every notification is accounted for.** -/
theorem accounted (ops : List ChannelOp) : (({} : ChannelRun).follow ops).Accounted ops := by
  have h := Kept.fresh.follow ops
  have hreceiver := receiver_follow {} ops
  generalize ({} : ChannelRun).follow ops = r at h hreceiver
  have htaking : r.consumer.queue.receiver = .taking ↔ .close ∉ ops ∧ .dropReceiver ∉ ops := by
    by_cases hdrop : ChannelOp.dropReceiver ∈ ops <;> by_cases hclose : ChannelOp.close ∈ ops <;>
      simp [hreceiver, hdrop, hclose]
  have hdropped : r.consumer.queue.receiver = .dropped ↔ .dropReceiver ∈ ops := by
    by_cases hdrop : ChannelOp.dropReceiver ∈ ops <;> by_cases hclose : ChannelOp.close ∈ ops <;>
      simp [hreceiver, hdrop, hclose]
  have hdisconnected : .dropReceiver ∉ ops → (r.consumer.queue.receive.1 = .disconnected ↔
      r.consumer.queue.items = [] ∧ (.close ∈ ops ∨ r.consumer.queue.hasSender = false)) := by
    intro hheld
    rw [Queue.receive_eq_disconnected, Ne, htaking]
    simp [hheld]
  refine
    { answered := fun i n hholds => ?_
      refused := fun i n hrefused => ?_
      inOrder := ?_
      waiting := fun hheld => h.order (mt hdropped.1 hheld)
      next := fun n => ⟨?_, keep_eq_item _ n⟩
      disconnected := fun hheld => ⟨?_, ?_⟩
      closing := ⟨Queue.items_close _, rfl⟩
      shutting := ⟨rfl, Chronicle.gather_releaseAll _ _, rfl⟩
      places := h.places
      apart := h.places.nodup_iff.2
      counted := h.counted }
  · rw [Consumer.deliver_fst hholds, decide_eq_decide.2 htaking]
  · exact Consumer.deliver_of_refused hrefused
  · by_cases hheld : r.consumer.queue.receiver = .dropped
    · exact (h.lost hheld).2
    · exact ⟨r.consumer.queue.items, (h.order hheld).symm⟩
  · rw [Consumer.take_fst, Queue.receive_eq_item]
  · rw [Consumer.take_fst, hdisconnected hheld]
  · rw [keep_eq_disconnected, hdisconnected hheld]

/-- One of three is kept, one waits as the receiver is given up, and one is refused. -/
example :
    let k (i : UInt8) : Notification := ⟨{ kind := .nodeAdded, nodeId := i }, .resource⟩
    let r := ({} : ChannelRun).follow
      [.deliver 0 (k 1), .deliver 0 (k 2), .keep, .dropReceiver, .deliver 0 (k 3)]
    r.consumer.keeping = [k 1] ∧ r.consumer.released = [k 2, k 3] := by
  decide

end ChannelRun

end Hotplug
