import Hotplug.Proofs.Traffic.Moves

/-!
# The ledger of the traffic

What the happenings of a run say of its notifications, in the order in which it came.

* `gather` — everything of one kind that has happened.
* `Happening.handed?`, `Happening.accepted?`, `Happening.released?`, `Happening.received?`,
  `Happening.left?` — the kinds that notifications go through.
* `gather_releaseAll`, `gather_discardAll`, `deliver_of_taking`, … — what the operations on a
  queue add to the ledger.
* `Traffic.Step.voices` — when the event loop is told something, and when a session ends.
* `Supervision.since` — what has happened between two moments of a run.
-/

namespace Hotplug

/-! ## Gathering -/

section Gather

variable {α : Type} {pick : Happening → Option α} {hs hs' : List (Nat × Happening)}

/-- What `pick` makes of the happenings, the oldest first. -/
def gather (pick : Happening → Option α) (hs : List (Nat × Happening)) : List α :=
  (hs.filterMap (pick ·.2)).reverse

@[simp] theorem gather_nil : gather pick [] = [] := rfl

@[simp] theorem gather_cons (e : Nat × Happening) :
    gather pick (e :: hs) = gather pick hs ++ (pick e.2).toList := by
  unfold gather
  cases h : pick e.2 <;> simp [h]

theorem gather_append (new : List (Nat × Happening)) :
    gather pick (new ++ hs) = gather pick hs ++ gather pick new := by
  simp [gather]

theorem mem_gather {a : α} : a ∈ gather pick hs ↔ ∃ e ∈ hs, pick e.2 = some a := by
  simp [gather]

/-- What is not picked adds nothing. -/
theorem Adds.gather {p : Happening → Bool} (h : Adds p hs hs')
    (hp : ∀ x, p x = true → pick x = none) : gather pick hs' = gather pick hs := by
  obtain ⟨new, rfl, hnew⟩ := h
  have hnone : Hotplug.gather pick new = [] := by
    unfold Hotplug.gather
    rw [List.reverse_eq_nil_iff, List.filterMap_eq_nil_iff]
    exact fun e he => hp _ (hnew e he)
  rw [gather_append, hnone, List.append_nil]

end Gather

/-! ## What notifications go through -/

namespace Happening

/-- The notification that was passed on to be delivered. -/
def handed? : Happening → Option Notification
  | accepted k | refused k => some k
  | _ => none

def accepted? : Happening → Option Notification
  | accepted k => some k
  | _ => none

def released? : Happening → Option Notification
  | released k => some k
  | _ => none

/-- The event that an event loop received. -/
def received? : Happening → Option Event
  | loopReplied _ (.event e) => some e
  | _ => none

/-- The event that the event loop received in session `n`. -/
def receivedIn? (n : SessionId) : Happening → Option Event
  | loopReplied m (.event e) => if m = n then some e else none
  | _ => none

/-- The event that left the queue, received or discarded. -/
def left? : Happening → Option Event
  | loopReplied _ (.event e) | logged (.staleDiscarded e) _ => some e
  | _ => none

/-- What is picked of notifications is part of the traffic. -/
theorem pick_eq_none {x : Happening} (hx : (!x.isTraffic) = true) :
    x.handed? = none ∧ x.accepted? = none ∧ x.released? = none ∧ x.received? = none ∧
      (∀ n, x.receivedIn? n = none) ∧ x.left? = none := by
  cases x with
  | logged m s => cases m <;> first | exact ⟨rfl, rfl, rfl, rfl, fun _ => rfl, rfl⟩ | cases hx
  | _ => first | exact ⟨rfl, rfl, rfl, rfl, fun _ => rfl, rfl⟩ | cases hx

end Happening

/-! ## What the operations on a queue add -/

namespace Chronicle

@[simp] theorem happenings_record (c : Chronicle) (x : Happening) :
    (c.record x).happenings = (c.now, x) :: c.happenings := rfl

@[simp] theorem happenings_log (c : Chronicle) (m : Message) (s : Option SessionId) :
    (c.log m s).happenings = (c.now, .logged m s) :: c.happenings := rfl

@[simp] theorem happenings_measure (c : Chronicle) (f : Metrics → Metrics) :
    (c.measure f).happenings = c.happenings := rfl

/-- Releasing shows just if there is anything behind a notification. -/
theorem happenings_release (c : Chronicle) (k : Notification) :
    (c.release k).happenings =
      if k.isManaged then (c.now, .released k) :: c.happenings else c.happenings := by
  obtain ⟨e, backing⟩ := k
  cases backing <;> rfl

variable {α : Type} {pick : Happening → Option α}

theorem gather_release (c : Chronicle) (k : Notification) :
    gather pick (c.release k).happenings =
      gather pick c.happenings ++ if k.isManaged then (pick (.released k)).toList else [] := by
  rw [happenings_release]
  split <;> simp

/-- What each step adds, all of them add in order. -/
theorem gather_foldl {step : Chronicle → Notification → Chronicle} {g : Notification → List α}
    (hstep : ∀ c k, gather pick (step c k).happenings = gather pick c.happenings ++ g k)
    (c : Chronicle) (ks : List Notification) :
    gather pick (ks.foldl step c).happenings = gather pick c.happenings ++ ks.flatMap g := by
  induction ks generalizing c with
  | nil => simp
  | cons k ks ih =>
    rw [List.foldl_cons, ih, hstep, List.flatMap_cons, List.append_assoc]

theorem flatMap_isManaged (ks : List Notification) :
    (ks.flatMap fun k => if k.isManaged then [k] else []) = ks.filter (·.isManaged) := by
  induction ks with
  | nil => rfl
  | cons k ks ih =>
    rw [List.flatMap_cons, ih, List.filter_cons]
    split <;> simp

/-- The resources of all managed notifications are released. -/
theorem gather_releaseAll (c : Chronicle) (ks : List Notification) :
    gather Happening.released? (c.releaseAll ks).happenings =
      gather Happening.released? c.happenings ++ ks.filter (·.isManaged) := by
  rw [← flatMap_isManaged]
  exact gather_foldl (fun c k => gather_release c k) c ks

theorem gather_discardAll (n : SessionId) (c : Chronicle) (ks : List Notification) :
    gather Happening.released? (c.discardAll n ks).happenings =
      gather Happening.released? c.happenings ++ ks.filter (·.isManaged) := by
  rw [← flatMap_isManaged]
  refine gather_foldl (fun c k => ?_) c ks
  rw [gather_release]
  simp [Happening.released?]

/-- Every event that is discarded leaves the queue. -/
theorem left_discardAll (n : SessionId) (c : Chronicle) (ks : List Notification) :
    gather Happening.left? (c.discardAll n ks).happenings =
      gather Happening.left? c.happenings ++ ks.map (·.event) := by
  rw [List.map_eq_flatMap]
  refine gather_foldl (fun c k => ?_) c ks
  rw [gather_release]
  simp [Happening.left?]

theorem adds_release {p : Happening → Bool} (hp : ∀ k, p (.released k) = true)
    {hs : List (Nat × Happening)} {c : Chronicle} (h : Adds p hs c.happenings) (k : Notification) :
    Adds p hs (c.release k).happenings := by
  rw [happenings_release]
  split
  · exact h.cons (hp k)
  · exact h

theorem adds_releaseAll {p : Happening → Bool} (hp : ∀ k, p (.released k) = true)
    {hs : List (Nat × Happening)} {c : Chronicle} (h : Adds p hs c.happenings)
    (ks : List Notification) : Adds p hs (c.releaseAll ks).happenings := by
  induction ks generalizing c with
  | nil => exact h
  | cons k ks ih => exact ih (adds_release hp h k)

theorem adds_discardAll {p : Happening → Bool} (hp : ∀ k, p (.released k) = true)
    (hlog : ∀ e s, p (.logged (.staleDiscarded e) s) = true) {hs : List (Nat × Happening)}
    {c : Chronicle} (h : Adds p hs c.happenings) (n : SessionId) (ks : List Notification) :
    Adds p hs (c.discardAll n ks).happenings := by
  induction ks generalizing c with
  | nil => exact h
  | cons k ks ih => exact ih (adds_release hp (h.cons (hlog _ _)) k)

end Chronicle

/-! ## The queue -/

namespace Queue

@[simp] theorem items_close (q : Queue) : q.close.items = q.items := by
  unfold close
  split <;> rfl

/-- A dropped queue stays dropped, and no other queue is dropped by closing it. -/
theorem receiver_close_eq_dropped (q : Queue) :
    q.close.receiver = .dropped ↔ q.receiver = .dropped := by
  unfold close
  split <;> simp_all

/-- A dropped queue takes nothing. -/
theorem deliverAll_of_dropped {q : Queue} (h : q.receiver = .dropped) (c : Chronicle)
    (ks : List Notification) : (q.deliverAll c ks).1 = ks.map fun _ => false := by
  induction ks generalizing c with
  | nil => rfl
  | cons k ks ih =>
    have hrefused : q.deliver c k = (false, q,
        ((c.log (.notificationDropped k.event.kind)).record (.refused k)).release k) := by
      unfold deliver
      rw [h]
    rw [deliverAll, hrefused, List.map_cons]
    exact congrArg (false :: ·) (ih _)

end Queue

namespace Traffic

variable {f : Traffic} {k : Notification}

/-- As long as the queue takes notifications, they wait in it. -/
theorem deliver_of_taking (h : f.queue.receiver = .taking) (k : Notification) :
    (f.deliver k).queue = { f.queue with items := f.queue.items ++ [k] } ∧
      (f.deliver k).chronicle.happenings =
        (f.chronicle.now, .accepted k) :: f.chronicle.happenings := by
  unfold deliver Queue.deliver
  split
  · exact ⟨rfl, rfl⟩
  · contradiction

/-- A notification that is refused is released at once. -/
theorem deliver_of_not_taking (h : f.queue.receiver ≠ .taking) (k : Notification) :
    (f.deliver k).queue = f.queue ∧
      (f.deliver k).chronicle =
        ((f.chronicle.log (.notificationDropped k.event.kind)).record (.refused k)).release k := by
  unfold deliver Queue.deliver
  split
  · contradiction
  · exact ⟨rfl, rfl⟩

/-- One more notification of the loopback library has to be released. -/
def issued (f : Traffic) : Traffic :=
  { f with chronicle := { f.chronicle with outstanding := f.chronicle.outstanding + 1 } }

/-- What the call to stop the manager adds as it begins. -/
theorem adds_stop {p : Happening → Bool} (hbegan : p (.callBegan .stop) = true)
    (hcount : ∀ n, p (.outstanding n) = true)
    (hlog : ∀ n s, p (.logged (.loopbackStopped n) s) = true) (f : Traffic) (isDriven : Bool) :
    Adds p f.chronicle.happenings (f.stop isDriven).chronicle.happenings := by
  cases isDriven with
  | true => exact (((Adds.refl _).cons hbegan).cons (hcount _)).cons (hlog _ _)
  | false => exact (Adds.refl _).cons hbegan

theorem report_eq (f : Traffic) (home : UInt32) (kind : EventKind) :
    f.report home kind =
      f.issued.deliver ⟨⟨kind, 0, home, Loopback.controllerNode, 0, 0⟩, .loopback⟩ := rfl

end Traffic

/-- Whether a happening neither tells the event loop anything nor ends a session as removed. -/
def Happening.isSilent : Happening → Bool
  | loopReplied .. | stateChanged _ _ .removed => false
  | _ => true

theorem Happening.isSilent_of_not_isTraffic (x : Happening) (hx : (!x.isTraffic) = true) :
    x.isSilent = true := by
  cases x with
  | stateChanged n a b => cases b <;> first | rfl | cases hx
  | _ => first | rfl | cases hx

namespace Traffic

/-- When a happening that is not silent can come. -/
def Voices (may : Deed → Prop) (f : Traffic) : Happening → Prop
  | .loopReplied n (.event e) =>
    f.service.looping? = some n ∧
      ∃ q k rest, may (.ask q) ∧ f.Lets n q ∧ f.queue.items = k :: rest ∧ k.event = e
  | .loopReplied n r => f.service.looping? = some n ∧ ∃ q, may (.ask q) ∧ f.Tells n q r
  | .stateChanged _ _ .removed => f.service = .idle ∧ f.queue.items = []
  | _ => False

/-- Whatever is not silent comes by itself, and only when it can. -/
theorem Step.voices {may : Deed → Prop} {f g : Traffic} (hs : f.Step may g) :
    Adds Happening.isSilent f.chronicle.happenings g.chronicle.happenings ∨
      ∃ x, f.Voices may x ∧
        g.chronicle.happenings = (f.chronicle.now, x) :: f.chronicle.happenings := by
  have hdeliver : ∀ (f : Traffic) (k : Notification), Adds Happening.isSilent
      f.chronicle.happenings (f.deliver k).chronicle.happenings := by
    intro f k
    by_cases htaking : f.queue.receiver = .taking
    · rw [(deliver_of_taking htaking k).2]
      exact (Adds.refl _).cons rfl
    · rw [(deliver_of_not_taking htaking k).2]
      exact Chronicle.adds_release (fun _ => rfl) (((Adds.refl _).cons rfl).cons rfl) k
  cases hs with
  | quiet c hquiet => exact .inl (hquiet.adds.mono Happening.isSilent_of_not_isTraffic)
  | deliver k => exact .inl (hdeliver f k)
  | report home kind =>
    rw [report_eq]
    exact .inl (hdeliver f.issued _)
  | begin | strand | serve | close | dismiss | fail | orphan | part | detach =>
    exact .inl (Adds.refl _)
  | reply n q r hloop hask htells =>
    refine .inr ⟨_, ?_, rfl⟩
    cases r with
    | event e => cases q <;> exact htells.elim
    | _ => exact ⟨hloop, q, hask, htells⟩
  | take n q k rest hloop hask hlets hitems =>
    exact .inr ⟨.loopReplied n (.event k.event), ⟨hloop, q, k, rest, hask, hlets, hitems, rfl⟩, rfl⟩
  | leave n a hidle hitems => exact .inr ⟨.stateChanged n a .removed, ⟨hidle, hitems⟩, rfl⟩
  | stop isDriven => exact .inl (adds_stop rfl (fun _ => rfl) (fun _ _ => rfl) f isDriven)
  | drop ks rest =>
    exact .inl (Chronicle.adds_releaseAll (fun _ => rfl) (Adds.refl _) ks)
  | clear n =>
    exact .inl (Chronicle.adds_discardAll (fun _ => rfl) (fun _ _ => rfl) (Adds.refl _) n _)
  | shut =>
    exact .inl (Chronicle.adds_releaseAll (fun _ => rfl)
      (Chronicle.adds_releaseAll (fun _ => rfl) (Adds.refl _) _) _)

/-- Whatever becomes of the traffic, what has happened stays. -/
theorem Step.suffix {may : Deed → Prop} {f g : Traffic} (hs : f.Step may g) :
    f.chronicle.happenings <:+ g.chronicle.happenings := by
  rcases hs.voices with ⟨new, heq, -⟩ | ⟨x, -, heq⟩
  · exact ⟨new, heq.symm⟩
  · rw [heq]
    exact List.suffix_cons _ _

/-- Whatever is not silent still came when what `Q` says held, if it holds as such a thing comes. -/
theorem Step.before {may : Deed → Prop} {f g : Traffic} (hs : f.Step may g) {x : Happening}
    (hx : x.isSilent = false) {Q : Nat → List (Nat × Happening) → Prop}
    (hQ : f.Voices may x → Q f.chronicle.now f.chronicle.happenings)
    (h : Before x Q f.chronicle.happenings) : Before x Q g.chronicle.happenings := by
  rcases hs.voices with hadds | ⟨y, hvoices, heq⟩
  · exact h.adds hx hadds
  · rw [heq]
    refine Before.cons_iff.2 ⟨?_, h⟩
    rintro rfl
    exact hQ hvoices

end Traffic

/-! ## Runs -/

namespace Supervision

variable {L : EventLoop} (s : Supervision L)

/-- What has happened in `ps` after `os`, newest first. -/
def since (os ps : List Occurrence) : List (Nat × Happening) :=
  (s.history (os ++ ps)).take ((s.history (os ++ ps)).length - (s.history os).length)

theorem history_append (os ps : List Occurrence) :
    s.history (os ++ ps) = s.since os ps ++ s.history os := by
  have hsuffix : s.history os <:+ s.history (os ++ ps) :=
    (s.flows os ps).preserves (P := fun f => s.history os <:+ f.chronicle.happenings)
      (fun _ _ hs h => h.trans hs.suffix) (List.suffix_refl _)
  exact (List.suffix_iff_eq_append.1 hsuffix).symm

theorem since_append (os ps qs : List Occurrence) :
    s.since os (ps ++ qs) = s.since (os ++ ps) qs ++ s.since os ps := by
  have hsplit : s.since os (ps ++ qs) ++ s.history os =
      s.since (os ++ ps) qs ++ s.since os ps ++ s.history os := by
    rw [← history_append, List.append_assoc, ← history_append, ← history_append,
      List.append_assoc]
  exact List.append_cancel_right hsplit

/-- What has been added to the outline has happened since. -/
theorem outline_since (os ps : List Occurrence) :
    (s.after (os ++ ps)).scene.outline =
      outlineOf (s.since os ps) ++ (s.after os).scene.outline := by
  change outlineOf (s.history (os ++ ps)) = _
  rw [history_append]
  exact List.filter_append _ _

theorem mem_since_iff {os ps : List Occurrence} {new : List (Nat × Happening)}
    (heq : (s.after (os ++ ps)).scene.outline = new ++ (s.after os).scene.outline) {t : Nat}
    {x : Happening} (hx : x.isOutline = true) : (t, x) ∈ s.since os ps ↔ (t, x) ∈ new := by
  rw [List.append_cancel_right (heq.symm.trans (s.outline_since os ps))]
  exact (mem_outlineOf hx).symm

theorem gather_history {α : Type} (pick : Happening → Option α) (os ps : List Occurrence) :
    gather pick (s.history (os ++ ps)) =
      gather pick (s.history os) ++ gather pick (s.since os ps) := by
  rw [history_append, gather_append]

/-- No notification has gone any way at the start of a run. -/
theorem gather_start {α : Type} {pick : Happening → Option α}
    (hpick : ∀ x, (!x.isTraffic) = true → pick x = none) :
    gather pick s.start.traffic.chronicle.happenings = [] :=
  s.traffic_start.2.2.2.2.gather hpick

/-- Whatever is not silent comes as the traffic allows it, which is in a state that every step
preserves. -/
theorem before_of_voices (os : List Occurrence) {P : Traffic → Prop} (hstart : P s.start.traffic)
    (hstep : ∀ f g : Traffic, f.Step (s.deeds os) g → P f → P g) {x : Happening}
    (hx : x.isSilent = false) {Q : Nat → List (Nat × Happening) → Prop}
    (hQ : ∀ f : Traffic, P f → f.Voices (s.deeds os) x →
      Q f.chronicle.now f.chronicle.happenings) : Before x Q (s.history os) := by
  have hx' : (!x.isTraffic) = false := by
    refine eq_false_of_ne_true fun hquiet => ?_
    rw [x.isSilent_of_not_isTraffic hquiet] at hx
    cases hx
  exact ((s.flows [] os).preserves (P := fun f => P f ∧ Before x Q f.chronicle.happenings)
    (fun f g hs h => ⟨hstep f g hs h.1, hs.before hx (hQ f h.1) h.2⟩)
    ⟨hstart, Before.nil.adds hx' s.traffic_start.2.2.2.2⟩).2

end Supervision

end Hotplug
