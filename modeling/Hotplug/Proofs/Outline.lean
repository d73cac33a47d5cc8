import Hotplug.Library.Loopback
import Hotplug.Device.Presence
import Hotplug.Shutdown.Coordinator

/-!
# The outline of a chronicle

Most of what a chronicle records is of no concern to the conduct of a run: log lines,
notifications, the replies to the event loop.  The outline is what is left without these.

* `Happening.isOutline`, `Chronicle.outline` — what belongs to the outline.
* `Since` — something has happened at a time, and nothing that ends it has happened since.
* `outline_record`, `outline_log`, `outline_deliverAll`, … — what the parts of the program
  add to an outline.
-/

namespace Hotplug

/-! ## What belongs to an outline -/

/-- Whether a message says that the event loop panicked. -/
def Message.isLoopPanic : Message → Bool
  | .loopPanicked _ => true
  | _ => false

namespace Happening

/-- Whether a happening belongs to the outline of a run. -/
def isOutline : Happening → Bool
  | stateChanged .. | managerStarting _ | callBegan _ | callEnded .. => true
  | loopStarted .. | loopEnded _ => true
  | checked _ | signalTaken _ | stopRaised => true
  | timerArmed .. | timerFired .. | terminationPosted _ | terminated _ => true
  | logged m _ => m.isLoopPanic
  | outstanding _ | loopReplied .. | accepted _ | refused _ | released _ => false

/-- Whether a happening is that the coordinator takes a signal. -/
def isSignal : Happening → Bool
  | signalTaken _ => true
  | _ => false

/-- Whether a happening is that the coordinator decides. -/
def isTermination : Happening → Bool
  | terminated _ => true
  | _ => false

end Happening

/-- The outline of a list of happenings. -/
def outlineOf (hs : List (Nat × Happening)) : List (Nat × Happening) :=
  hs.filter (·.2.isOutline)

/-- The outline of a chronicle, newest first. -/
def Chronicle.outline (c : Chronicle) : List (Nat × Happening) :=
  outlineOf c.happenings

theorem outlineOf_cons_of_pos {e : Nat × Happening} {hs : List (Nat × Happening)}
    (he : e.2.isOutline = true) : outlineOf (e :: hs) = e :: outlineOf hs :=
  List.filter_cons_of_pos he

theorem outlineOf_cons_of_neg {e : Nat × Happening} {hs : List (Nat × Happening)}
    (he : ¬ e.2.isOutline = true) : outlineOf (e :: hs) = outlineOf hs :=
  List.filter_cons_of_neg he

/-- The times at which the coordinator took a signal, newest first. -/
def signalTimes (hs : List (Nat × Happening)) : List Nat :=
  (hs.filter (·.2.isSignal)).map (·.1)

theorem signalTimes_cons (e : Nat × Happening) (hs : List (Nat × Happening)) :
    signalTimes (e :: hs) = if e.2.isSignal then e.1 :: signalTimes hs else signalTimes hs := by
  unfold signalTimes
  split <;> simp_all

theorem signalTimes_append (hs ks : List (Nat × Happening)) :
    signalTimes (hs ++ ks) = signalTimes hs ++ signalTimes ks := by
  simp [signalTimes]

/-- The outline has all signals. -/
theorem signalTimes_outlineOf (hs : List (Nat × Happening)) :
    signalTimes (outlineOf hs) = signalTimes hs := by
  have h : ∀ e : Nat × Happening, (e.2.isSignal && e.2.isOutline) = e.2.isSignal := by
    rintro ⟨_, h⟩
    cases h <;> rfl
  unfold signalTimes outlineOf
  rw [List.filter_filter]
  simp only [h]

/-- When and on what the coordinator has decided, newest first. -/
def terminationsOf (hs : List (Nat × Happening)) : List (Nat × Happening) :=
  hs.filter (·.2.isTermination)

theorem mem_terminationsOf {hs : List (Nat × Happening)} {t : Nat} {x : Termination} :
    (t, .terminated x) ∈ terminationsOf hs ↔ (t, .terminated x) ∈ hs :=
  List.mem_filter.trans (and_iff_left rfl)

/-- The outline has all decisions. -/
theorem terminationsOf_outlineOf (hs : List (Nat × Happening)) :
    terminationsOf (outlineOf hs) = terminationsOf hs := by
  have h : ∀ e : Nat × Happening, (e.2.isTermination && e.2.isOutline) = e.2.isTermination := by
    rintro ⟨_, h⟩
    cases h <;> rfl
  unfold terminationsOf outlineOf
  rw [List.filter_filter]
  simp only [h]

/-! ## What has happened since -/

/-- `Since ends h t hs`: the happening `h` came at time `t`, and nothing that `ends` it has
come since. -/
def Since (ends : Happening → Prop) (h : Happening) (t : Nat) (hs : List (Nat × Happening)) :
    Prop :=
  ∃ newer older, hs = newer ++ (t, h) :: older ∧ ∀ e ∈ newer, ¬ ends e.2

variable {ends : Happening → Prop} {h : Happening} {t : Nat} {hs : List (Nat × Happening)}

@[simp] theorem not_since_nil : ¬ Since ends h t [] := by
  rintro ⟨newer, older, heq, -⟩
  simp at heq

theorem since_cons (e : Nat × Happening) :
    Since ends h t (e :: hs) ↔ e = (t, h) ∨ (¬ ends e.2 ∧ Since ends h t hs) := by
  constructor
  · rintro ⟨newer, older, heq, hnew⟩
    cases newer with
    | nil => exact .inl (List.cons_eq_cons.1 heq).1
    | cons d newer =>
      obtain ⟨rfl, rfl⟩ := List.cons_eq_cons.1 heq
      exact .inr ⟨hnew _ (by simp), newer, older, rfl, fun x hx => hnew x (by simp [hx])⟩
  · rintro (rfl | ⟨he, newer, older, rfl, hnew⟩)
    · exact ⟨[], hs, rfl, by simp⟩
    · refine ⟨e :: newer, older, rfl, ?_⟩
      intro x hx
      rcases List.mem_cons.1 hx with rfl | hx
      · exact he
      · exact hnew x hx

/-- Nothing has happened since without an end, if an end has just come. -/
theorem not_since_of_ends {e : Nat × Happening} (he : ends e.2) (hne : e.2 ≠ h) :
    ¬ Since ends h t (e :: hs) := by
  rw [since_cons]
  rintro (rfl | ⟨hnot, -⟩)
  · exact hne rfl
  · exact hnot he

theorem not_since_cons {e : Nat × Happening} (hne : e.2 ≠ h) (hnot : ¬ Since ends h t hs) :
    ¬ Since ends h t (e :: hs) := by
  rw [since_cons]
  rintro (rfl | ⟨-, hold⟩)
  · exact hne rfl
  · exact hnot hold

/-- What has happened since is decided by the outline, if all of it belongs there. -/
theorem since_outlineOf (hh : h.isOutline = true) (hends : ∀ x, ends x → x.isOutline = true) :
    Since ends h t (outlineOf hs) ↔ Since ends h t hs := by
  induction hs with
  | nil => simp [outlineOf]
  | cons e hs ih =>
    by_cases he : e.2.isOutline = true
    · rw [outlineOf_cons_of_pos he, since_cons, since_cons]
      exact or_congr_right (and_congr_right fun _ => ih)
    · rw [outlineOf_cons_of_neg he, since_cons]
      have hne : e ≠ (t, h) := by rintro rfl; exact he hh
      have hnot : ¬ ends e.2 := fun hx => he (hends _ hx)
      simpa [hne, hnot] using ih

theorem mem_outlineOf {e : Nat × Happening} (he : e.2.isOutline = true) :
    e ∈ outlineOf hs ↔ e ∈ hs := by
  simp [outlineOf, he]

/-- A happening in the outline splits the happenings as it splits the outline. -/
theorem outlineOf_eq_append_cons {newer older : List (Nat × Happening)} {e : Nat × Happening}
    (heq : outlineOf hs = newer ++ e :: older) :
    ∃ newer' older', hs = newer' ++ e :: older' ∧ outlineOf newer' = newer ∧
      outlineOf older' = older := by
  obtain ⟨front, back, rfl, hfront, hback⟩ := List.filter_eq_append_iff.1 heq
  obtain ⟨gap, older', rfl, hgap, -, hold⟩ := List.filter_eq_cons_iff.1 hback
  refine ⟨front ++ gap, older', by simp, ?_, hold⟩
  rw [outlineOf, List.filter_append, hfront, List.filter_eq_nil_iff.2 hgap, List.append_nil]

/-- Whether a happening neither begins an operation nor has to do with the end of the run. -/
def Happening.isRoutine : Happening → Bool
  | stateChanged _ _ .activating | stateChanged _ _ .removing => false
  | signalTaken _ | terminated _ => false
  | _ => true

theorem Happening.isSignal_of_isRoutine (h : Happening) (hh : h.isRoutine = true) :
    h.isSignal = false := by
  cases h <;> first | rfl | cases hh

theorem Happening.isTermination_of_isRoutine (h : Happening) (hh : h.isRoutine = true) :
    h.isTermination = false := by
  cases h <;> first | rfl | cases hh

/-- `Adds p hs hs'`: what has come since `hs` is of the kind `p`. -/
def Adds (p : Happening → Bool) (hs hs' : List (Nat × Happening)) : Prop :=
  ∃ new, hs' = new ++ hs ∧ ∀ e ∈ new, p e.2 = true

namespace Adds

variable {p : Happening → Bool} {hs' : List (Nat × Happening)}

theorem refl (hs : List (Nat × Happening)) : Adds p hs hs :=
  ⟨[], rfl, List.forall_mem_nil _⟩

theorem cons (h : Adds p hs hs') {e : Nat × Happening} (he : p e.2 = true) :
    Adds p hs (e :: hs') := by
  obtain ⟨new, rfl, hnew⟩ := h
  exact ⟨e :: new, rfl, List.forall_mem_cons.2 ⟨he, hnew⟩⟩

theorem mono {q : Happening → Bool} (h : Adds p hs hs') (hpq : ∀ x, p x = true → q x = true) :
    Adds q hs hs' := by
  obtain ⟨new, rfl, hnew⟩ := h
  exact ⟨new, rfl, fun e he => hpq _ (hnew e he)⟩

/-- What is not of the kind has not come since. -/
theorem mem (h : Adds p hs hs') {e : Nat × Happening} (he : p e.2 = false) :
    e ∈ hs' ↔ e ∈ hs := by
  obtain ⟨new, rfl, hnew⟩ := h
  rw [List.mem_append]
  constructor
  · rintro (hmem | hmem)
    · rw [hnew e hmem] at he
      cases he
    · exact hmem
  · exact .inr

/-- What has happened since it came is of the kind. -/
theorem since (hadds : Adds p hs hs') (hh : p h = false) (hsince : Since ends h t hs') :
    Since ends h t hs := by
  obtain ⟨new, rfl, hnew⟩ := hadds
  induction new with
  | nil => exact hsince
  | cons e new ih =>
    rw [List.cons_append, since_cons] at hsince
    rcases hsince with rfl | ⟨-, hsince⟩
    · have := hnew (t, h) (by simp)
      rw [hh] at this
      cases this
    · exact ih (fun x hx => hnew x (by simp [hx])) hsince

/-- What has happened since then still has, if nothing that has come ends it. -/
theorem since_of (hadds : Adds p hs hs') (hp : ∀ x, p x = true → ¬ ends x)
    (hsince : Since ends h t hs) : Since ends h t hs' := by
  obtain ⟨new, rfl, hnew⟩ := hadds
  obtain ⟨newer, older, rfl, hnewer⟩ := hsince
  refine ⟨new ++ newer, older, by simp, ?_⟩
  intro e he
  rcases List.mem_append.1 he with he | he
  · exact hp _ (hnew e he)
  · exact hnewer e he

theorem signalTimes (h : Adds p hs hs') (hp : ∀ x, p x = true → x.isSignal = false) :
    signalTimes hs' = signalTimes hs := by
  obtain ⟨new, rfl, hnew⟩ := h
  rw [signalTimes_append]
  have hnone : Hotplug.signalTimes new = [] := by
    unfold Hotplug.signalTimes
    rw [List.map_eq_nil_iff, List.filter_eq_nil_iff]
    intro e he
    simp [hp _ (hnew e he)]
  simp [hnone]

theorem terminationsOf (h : Adds p hs hs') (hp : ∀ x, p x = true → x.isTermination = false) :
    terminationsOf hs' = terminationsOf hs := by
  obtain ⟨new, rfl, hnew⟩ := h
  have hnone : new.filter (·.2.isTermination) = [] := by
    rw [List.filter_eq_nil_iff]
    intro e he
    simp [hp _ (hnew e he)]
  rw [Hotplug.terminationsOf, List.filter_append, hnone, List.nil_append, Hotplug.terminationsOf]

end Adds

/-! ## What the chronicle's own operations add -/

namespace Chronicle

variable (c : Chronicle)

@[simp] theorem now_record (h : Happening) : (c.record h).now = c.now := rfl

@[simp] theorem outline_record (h : Happening) :
    (c.record h).outline = if h.isOutline then (c.now, h) :: c.outline else c.outline := by
  simp only [outline, outlineOf, record, List.filter_cons]

@[simp] theorem now_log (m : Message) (s : Option SessionId) : (c.log m s).now = c.now := rfl

@[simp] theorem outline_log (m : Message) (s : Option SessionId) :
    (c.log m s).outline =
      if m.isLoopPanic then (c.now, .logged m s) :: c.outline else c.outline :=
  outline_record c _

@[simp] theorem now_measure (f : Metrics → Metrics) : (c.measure f).now = c.now := rfl

@[simp] theorem outline_measure (f : Metrics → Metrics) : (c.measure f).outline = c.outline := rfl

@[simp] theorem now_release (n : Notification) : (c.release n).now = c.now := by
  unfold release
  split <;> rfl

@[simp] theorem outline_release (n : Notification) : (c.release n).outline = c.outline := by
  unfold release
  split <;> rfl

@[simp] theorem now_releaseAll (ns : List Notification) : (c.releaseAll ns).now = c.now := by
  induction ns generalizing c with
  | nil => rfl
  | cons n ns ih => exact (ih (c.release n)).trans (now_release c n)

@[simp] theorem outline_releaseAll (ns : List Notification) :
    (c.releaseAll ns).outline = c.outline := by
  induction ns generalizing c with
  | nil => rfl
  | cons n ns ih => exact (ih (c.release n)).trans (outline_release c n)

end Chronicle

/-! ## What the queue and the loopback library add -/

namespace Queue

variable (q : Queue) (c : Chronicle)

@[simp] theorem now_deliver (n : Notification) : (q.deliver c n).2.2.now = c.now := by
  unfold deliver
  split <;> simp

@[simp] theorem outline_deliver (n : Notification) :
    (q.deliver c n).2.2.outline = c.outline := by
  unfold deliver
  split <;> simp [Happening.isOutline, Message.isLoopPanic]

@[simp] theorem now_deliverAll (ns : List Notification) :
    (q.deliverAll c ns).2.2.now = c.now := by
  induction ns generalizing q c with
  | nil => rfl
  | cons n ns ih => exact (ih _ _).trans (now_deliver q c n)

@[simp] theorem outline_deliverAll (ns : List Notification) :
    (q.deliverAll c ns).2.2.outline = c.outline := by
  induction ns generalizing q c with
  | nil => rfl
  | cons n ns ih => exact (ih _ _).trans (outline_deliver q c n)

@[simp] theorem now_dropReceiver : (q.dropReceiver c).2.now = c.now := by
  simp [dropReceiver]

@[simp] theorem outline_dropReceiver : (q.dropReceiver c).2.outline = c.outline := by
  simp [dropReceiver]

end Queue

namespace Loopback

variable (home : UInt32) (d : DeviceId) (q : Queue) (c : Chronicle)

@[simp] theorem now_report (k : EventKind) : (report home q c k).2.now = c.now := by
  simp [report]

@[simp] theorem outline_report (k : EventKind) : (report home q c k).2.outline = c.outline :=
  Queue.outline_deliver _ _ _

@[simp] theorem now_add : (add home d q c).2.now = c.now := by
  simp [add]

@[simp] theorem outline_add : (add home d q c).2.outline = c.outline := by
  simp [add, Message.isLoopPanic]

@[simp] theorem now_remove : (remove home d q c).2.now = c.now := by
  simp [remove]

@[simp] theorem outline_remove : (remove home d q c).2.outline = c.outline := by
  simp [remove, Message.isLoopPanic]

@[simp] theorem now_stop : (stop c).now = c.now := rfl

@[simp] theorem outline_stop : (stop c).outline = c.outline := by
  simp [stop, Message.isLoopPanic]

@[simp] theorem now_applyOptions (os : List (String × OptionValue)) :
    (applyOptions c os).2.now = c.now := by
  fun_induction applyOptions c os <;> simp_all

@[simp] theorem outline_applyOptions (os : List (String × OptionValue)) :
    (applyOptions c os).2.outline = c.outline := by
  fun_induction applyOptions c os <;> simp_all [Message.isLoopPanic]

@[simp] theorem now_start (o : ManagerOptions) : (start c o).2.now = c.now := by
  have h := now_applyOptions c o.values.entries
  unfold start
  split <;> simp_all

@[simp] theorem outline_start (o : ManagerOptions) : (start c o).2.outline = c.outline := by
  have h := outline_applyOptions c o.values.entries
  unfold start
  split <;> simp_all [Message.isLoopPanic]

end Loopback

/-! ## What a look for the device adds -/

theorem Presence.outline_check (t : FileTree) (d : DeviceId) (s : Option SessionId)
    (c : Chronicle) :
    (Presence.check t d s c).2.now = c.now ∧
      (Presence.check t d s c).2.outline =
        (c.now, .checked (Presence.check t d s c).1) :: c.outline := by
  unfold Presence.check
  split <;> simp [Happening.isOutline, Message.isLoopPanic]

namespace PresenceWait

variable {w : PresenceWait} {interval : Nat} {t : FileTree} {d : DeviceId}
  {s : Option SessionId} {c c' : Chronicle}

/-- A wait is over when a look shows what it waits for. -/
theorem look_eq_none (h : w.look interval t d s c = (none, c')) :
    c'.now = c.now ∧ c'.outline = (c.now, .checked w.desired) :: c.outline := by
  obtain ⟨hnow, hout⟩ := Presence.outline_check t d s c
  unfold look at h
  dsimp only at h
  split at h
  · rename_i hseen
    obtain ⟨-, rfl⟩ := Prod.mk.inj h
    rw [hseen] at hout
    exact ⟨hnow, hout⟩
  · simp at h

theorem look_eq_some {w' : PresenceWait} (h : w.look interval t d s c = (some w', c')) :
    c'.now = c.now ∧ w'.desired = w.desired ∧
      ∃ seen, seen ≠ w.desired ∧ c'.outline = (c.now, .checked seen) :: c.outline := by
  obtain ⟨hnow, hout⟩ := Presence.outline_check t d s c
  unfold look at h
  dsimp only at h
  split at h
  · simp at h
  · rename_i hseen
    obtain ⟨hw, rfl⟩ := Prod.mk.inj h
    obtain rfl := Option.some.inj hw
    exact ⟨hnow, rfl, _, hseen, hout⟩

end PresenceWait

@[simp] theorem Library.now_start (l : Library) (c : Chronicle) (o : ManagerOptions) :
    (l.start c o).2.now = c.now := by
  unfold Library.start
  split <;> simp

@[simp] theorem Library.outline_start (l : Library) (c : Chronicle) (o : ManagerOptions) :
    (l.start c o).2.outline = c.outline := by
  unfold Library.start
  split <;> simp

end Hotplug
