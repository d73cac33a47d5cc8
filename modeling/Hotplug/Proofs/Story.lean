import Hotplug.Proofs.Course
import Hotplug.Proofs.Steering

/-!
# The stories of sessions

What happened to one session, in the order in which it came: its state changes, its library
calls, its event loop, and the end of the run if that came meanwhile.

* `storyOf` — the story of a session.
* `stateOf`, `changesOf` — the state of a session and its state changes, as its story tells.
* `Permits`, `Lawful` — what may come next in a story.
* `demand?`, `Answered` — what has to come next.
* `Duty.Recalls` — what a story has told, for each thing that the supervisor can be at.
* `Conduct.Narrated` — every story is lawful, and all but the latest have come to an end.
* `Conduct.Reached.narrated` — so it is in every run.
-/

namespace Hotplug

/-! ## Stories -/

namespace Happening

/-- Whether a session begins. -/
def isBegin : Happening → Bool
  | stateChanged _ .inactive .activating => true
  | _ => false

/-- Whether the run ends: the coordinator decides, or the event loop panics. -/
def isEnd : Happening → Bool
  | terminated _ => true
  | logged m _ => m.isLoopPanic
  | _ => false

/-- Whether a happening belongs to the story of session `n`, as session `latest` is the last one
that has begun.  A call of the library belongs to that session, and so does the end of the
run. -/
def concerns (n latest : SessionId) : Happening → Bool
  | stateChanged m _ _ | loopStarted m _ | loopEnded m => m = n
  | callBegan .stop | callEnded .stop _ => false
  | callBegan _ | callEnded _ _ | terminated _ => latest = n
  | logged m _ => m.isLoopPanic && latest = n
  | _ => false

theorem isOutline_of_isBegin (h : Happening) (hh : h.isBegin = true) : h.isOutline = true := by
  cases h <;> first | rfl | cases hh

theorem isOutline_of_concerns (h : Happening) {n latest : SessionId}
    (hh : h.concerns n latest = true) : h.isOutline = true := by
  cases h with
  | logged m s =>
    simp only [concerns, Bool.and_eq_true] at hh
    exact hh.1
  | _ => first | rfl | cases hh

end Happening

/-- How many sessions have begun.  As they are counted from one, this is also the number of the
last one. -/
def begunIn (hs : List (Nat × Happening)) : SessionId :=
  hs.countP (·.2.isBegin)

/-- The story of session `n`, oldest first. -/
def storyOf (n : SessionId) : List (Nat × Happening) → List Happening
  | [] => []
  | e :: hs => if e.2.concerns n (begunIn hs) then storyOf n hs ++ [e.2] else storyOf n hs

theorem begunIn_outlineOf (hs : List (Nat × Happening)) :
    begunIn (outlineOf hs) = begunIn hs := by
  unfold begunIn outlineOf
  rw [List.countP_filter]
  congr 1
  funext e
  by_cases he : e.2.isBegin = true
  · simp [he, e.2.isOutline_of_isBegin he]
  · simp [he]

/-- The outline has every story. -/
theorem storyOf_outlineOf (n : SessionId) (hs : List (Nat × Happening)) :
    storyOf n (outlineOf hs) = storyOf n hs := by
  induction hs with
  | nil => rfl
  | cons e hs ih =>
    by_cases he : e.2.isOutline = true
    · rw [outlineOf_cons_of_pos he]
      simp only [storyOf, begunIn_outlineOf, ih]
    · have hnot : e.2.concerns n (begunIn hs) = false :=
        eq_false_of_ne_true fun hh => he (e.2.isOutline_of_concerns hh)
      rw [outlineOf_cons_of_neg he, ih]
      simp [storyOf, hnot]

/-! ## What a story tells of the states -/

/-- A change of states. -/
def Happening.change? : Happening → Option (SessionState × SessionState)
  | stateChanged _ a b => some (a, b)
  | _ => none

/-- The state changes of a story. -/
def changesOf (l : List Happening) : List (SessionState × SessionState) :=
  l.filterMap Happening.change?

/-- The state of a session after its story. -/
def stateOf (l : List Happening) : SessionState :=
  (changesOf l).getLast?.elim .inactive (·.2)

section States

variable {l : List Happening} {x : Happening}

theorem changesOf_append (l m : List Happening) :
    changesOf (l ++ m) = changesOf l ++ changesOf m :=
  List.filterMap_append

theorem stateOf_changed (l : List Happening) (n : SessionId) (a b : SessionState) :
    stateOf (l ++ [.stateChanged n a b]) = b := by
  simp [stateOf, changesOf, Happening.change?]

theorem changesOf_concat_of_none (l : List Happening) (hx : x.change? = none) :
    changesOf (l ++ [x]) = changesOf l := by
  simp [changesOf, hx]

theorem stateOf_concat_of_none (l : List Happening) (hx : x.change? = none) :
    stateOf (l ++ [x]) = stateOf l := by
  unfold stateOf
  rw [changesOf_concat_of_none l hx]

end States

/-! ## Lawful stories -/

/-- What must have come before session `n` goes from one state to another. -/
def Passes (g : Settings) (n : SessionId) (l : List Happening) :
    SessionState → SessionState → Prop
  | .inactive, .activating => True
  | .activating, .running => ∃ ok, g.goesOn ok ∧ .callEnded .add (.returned ok) ∈ l
  | .activating, .removed =>
    g.driver.onActivationFailure = .skipCycle ∧ .callEnded .add (.returned false) ∈ l
  | .running, .removalRequested | .removalRequested, .removing => True
  | .removing, .removed => .callEnded .remove (.returned true) ∈ l ∧ .loopEnded n ∈ l
  | .removing, .aborted =>
    ∃ before r, l = before ++ [.callEnded .remove r] ∧ r ≠ .returned true ∧
      ∀ x ∈ before, x.isEnd = false
  | _, _ => False

/-- What may come next in a story of session `n`. -/
def Permits (g : Settings) (n : SessionId) (l : List Happening) : Happening → Prop
  | .stateChanged _ a b => stateOf l = a ∧ Passes g n l a b
  | .callBegan .remove => stateOf l = .removing ∧ .callBegan .remove ∉ l
  | .callEnded .add _ => stateOf l = .activating ∧ ∀ r, .callEnded .add r ∉ l
  | .loopStarted _ _ => stateOf l = .running ∧ ∀ m d, .loopStarted m d ∉ l
  | _ => True

/-- A story in which everything came as it may. -/
inductive Lawful (g : Settings) (n : SessionId) : List Happening → Prop where
  | nil : Lawful g n []
  | concat {l : List Happening} (h : Lawful g n l) {x : Happening} (hx : Permits g n l x) :
      Lawful g n (l ++ [x])

/-- What has to come right after a happening in a story of session `n`: the event loop starts as
the session runs, and the session is aborted as its removal fails, if the run still goes on. -/
def demand? (g : Settings) (n : SessionId) (l : List Happening) : Happening → Option Happening
  | .stateChanged _ .activating .running => some (.loopStarted n g.deviceId)
  | .callEnded .remove r =>
    if r ≠ .returned true ∧ ∀ x ∈ l, x.isEnd = false then some (.stateChanged n .removing .aborted)
    else none
  | _ => none

/-- A story in which everything has come that had to. -/
def Answered (g : Settings) (n : SessionId) (l : List Happening) : Prop :=
  ∀ before x after y, l = before ++ x :: after → demand? g n before x = some y →
    ∃ rest, after = y :: rest

section Lawful

variable {g : Settings} {n : SessionId} {l before after : List Happening} {x y : Happening}

/-- Something in a list with one more at its end is that one, or was there before. -/
theorem concat_eq_append_cons (heq : l ++ [x] = before ++ y :: after) :
    (l = before ∧ x = y ∧ after = []) ∨
      ∃ rest, after = rest ++ [x] ∧ l = before ++ y :: rest := by
  rcases List.eq_nil_or_concat after with rfl | ⟨rest, z, rfl⟩
  · obtain ⟨hl, hx⟩ := List.append_inj' heq rfl
    exact .inl ⟨hl, (List.cons.inj hx).1, rfl⟩
  · have heq' : l ++ [x] = (before ++ y :: rest) ++ [z] := by simpa using heq
    obtain ⟨hl, hx⟩ := List.append_inj' heq' rfl
    obtain rfl := (List.cons.inj hx).1
    exact .inr ⟨rest, by simp, hl⟩

/-- Whatever is in a lawful story was permitted. -/
theorem Lawful.permits (h : Lawful g n l) (heq : l = before ++ x :: after) :
    Permits g n before x := by
  induction h generalizing after with
  | nil => simp at heq
  | concat h hx ih =>
    rcases concat_eq_append_cons heq with ⟨rfl, rfl, -⟩ | ⟨rest, -, hl⟩
    · exact hx
    · exact ih hl

/-- What is no state change, and no call or loop that needs a state, may always come. -/
theorem Lawful.tell (h : Lawful g n l) (hx : Permits g n l x = True) : Lawful g n (l ++ [x]) :=
  h.concat (by rw [hx]; trivial)

theorem Answered.nil : Answered g n [] := by
  intro before x after y heq
  simp at heq

/-- What demands nothing may come at any time. -/
theorem Answered.tell (h : Answered g n l) (hx : demand? g n l x = none) :
    Answered g n (l ++ [x]) := by
  intro before x' after y heq hy
  rcases concat_eq_append_cons heq with ⟨rfl, rfl, -⟩ | ⟨rest, rfl, hl⟩
  · rw [hx] at hy
    cases hy
  · obtain ⟨rest', rfl⟩ := h before x' rest y hl hy
    exact ⟨rest' ++ [x], rfl⟩

/-- What was demanded has come. -/
theorem Answered.answer (h : Answered g n l) (hx : demand? g n l x = some y)
    (hy : demand? g n (l ++ [x]) y = none) : Answered g n (l ++ [x] ++ [y]) := by
  intro before x' after y' heq hy'
  rcases concat_eq_append_cons heq with ⟨rfl, rfl, -⟩ | ⟨rest, rfl, hl⟩
  · rw [hy] at hy'
    cases hy'
  · rcases concat_eq_append_cons hl with ⟨rfl, rfl, rfl⟩ | ⟨rest', rfl, hl'⟩
    · obtain rfl := Option.some.inj (hx.symm.trans hy')
      exact ⟨[], rfl⟩
    · obtain ⟨rest'', rfl⟩ := h before x' rest' y' hl' hy'
      exact ⟨rest'' ++ [x] ++ [y], by simp⟩

/-- A failed removal demands nothing of a run that has ended. -/
theorem demand?_of_isEnd (k : CallKind) (r : CallResult) (h : ∃ x ∈ l, x.isEnd = true) :
    demand? g n l (.callEnded k r) = none := by
  obtain ⟨x, hx, hend⟩ := h
  cases k with
  | add | stop => rfl
  | remove =>
    refine if_neg ?_
    rintro ⟨-, hgoing⟩
    rw [hgoing x hx] at hend
    cases hend

end Lawful

/-! ## The latest story -/

namespace Duty

/-- What the story `l` of session `n`, the latest one, has told when the supervisor is at a
duty. -/
def Recalls (g : Settings) (n : SessionId) (l : List Happening) : Duty → Prop
  | adding .. => l = opening n
  | stranded .. => stateOf l = .activating
  | skipping _ =>
    stateOf l = .activating ∧ g.driver.onActivationFailure = .skipCycle ∧
      .callEnded .add (.returned false) ∈ l
  | serving _ isOver =>
    stateOf l = .running ∧ .callBegan .remove ∉ l ∧ (isOver = true → .loopEnded n ∈ l)
  | removing _ _ isOver => stateOf l = .removing ∧ (isOver = true → .loopEnded n ∈ l)
  | removed _ _ isOver =>
    stateOf l = .removing ∧ .callEnded .remove (.returned true) ∈ l ∧
      (isOver = true → .loopEnded n ∈ l)
  | failed .. => stateOf l = .aborted
  | idle | stopping | finished => stateOf l = .removed
  | cut call =>
    (∃ x ∈ l, x.isEnd = true) ∧
      (call = some .add → stateOf l = .activating ∧ ∀ r, .callEnded .add r ∉ l)
  | refused _ | absent => True

end Duty

/-- The story of the latest session, as the supervisor is at a duty. -/
structure Chapter (g : Settings) (n : SessionId) (d : Duty) (l : List Happening) : Prop where
  lawful : Lawful g n l
  answered : Answered g n l
  recalls : d.Recalls g n l
  /-- As long as the supervisor's own loop is under way, nothing has ended the run. -/
  going : d.isActive = true → ∀ x ∈ l, x.isEnd = false

namespace Chapter

variable {g : Settings} {n m : SessionId} {d : Duty} {t : TimerId} {isOver : Bool}
  {l : List Happening}

theorem going_concat {x : Happening} (h : ∀ y ∈ l, y.isEnd = false) (hx : x.isEnd = false) :
    ∀ y ∈ l ++ [x], y.isEnd = false := by
  intro y hy
  rcases List.mem_append.1 hy with hy | hy
  · exact h y hy
  · obtain rfl := List.mem_singleton.1 hy
    exact hx

theorem opened (n : SessionId) (t : TimerId) : Chapter g n (.adding m t) (opening n) where
  lawful := by
    have hbegin : Lawful g n ([] ++ [.stateChanged n .inactive .activating]) :=
      Lawful.nil.concat ⟨rfl, trivial⟩
    exact hbegin.concat (x := .callBegan .add) trivial
  answered := by
    have hbegin : Answered g n ([] ++ [.stateChanged n .inactive .activating]) :=
      Answered.nil.tell rfl
    exact hbegin.tell (x := .callBegan .add) rfl
  recalls := rfl
  going _ := by simp [opening, Happening.isEnd]

/-- The driver is added, or it does not matter that it is not. -/
theorem serve (h : Chapter g n (.adding m t) l) (ok : Bool) (hok : g.goesOn ok) :
    Chapter g n (.serving m false)
      (l ++ [.callEnded .add (.returned ok), .stateChanged n .activating .running,
        .loopStarted n g.deviceId]) := by
  have hsplit : l ++ [.callEnded .add (.returned ok), .stateChanged n .activating .running,
      .loopStarted n g.deviceId] = l ++ [.callEnded .add (.returned ok)] ++
        [.stateChanged n .activating .running] ++ [.loopStarted n g.deviceId] := by simp
  rw [hsplit]
  obtain rfl : l = opening n := h.recalls
  have hadded : Lawful g n (opening n ++ [.callEnded .add (.returned ok)]) :=
    h.lawful.concat ⟨rfl, by simp [opening]⟩
  have hrunning := hadded.concat (x := .stateChanged n .activating .running)
    ⟨rfl, ok, hok, by simp⟩
  refine ⟨hrunning.concat ⟨?_, ?_⟩, ?_, ?_, ?_⟩
  · exact stateOf_changed _ _ _ _
  · simp [opening]
  · exact Answered.answer (h.answered.tell rfl) rfl rfl
  · refine ⟨?_, by simp [opening], by rintro ⟨⟩⟩
    rw [stateOf_concat_of_none _ rfl]
    exact stateOf_changed _ _ _ _
  · intro _
    exact going_concat (going_concat (going_concat (h.going rfl) rfl) rfl) rfl

theorem skip (h : Chapter g n (.adding m t) l)
    (hskip : g.driver.onActivationFailure = .skipCycle) :
    Chapter g n (.skipping m) (l ++ [.callEnded .add (.returned false)]) := by
  obtain rfl : l = opening n := h.recalls
  exact ⟨h.lawful.concat ⟨rfl, by simp [opening]⟩, h.answered.tell rfl,
    ⟨rfl, hskip, by simp⟩, fun _ => going_concat (h.going rfl) rfl⟩

theorem strand (h : Chapter g n (.adding m t) l) (reason : String) :
    Chapter g n (.stranded m t) (l ++ [.callEnded .add (.panicked reason)]) := by
  obtain rfl : l = opening n := h.recalls
  exact ⟨h.lawful.concat ⟨rfl, by simp [opening]⟩, h.answered.tell rfl, rfl,
    fun _ => going_concat (h.going rfl) rfl⟩

theorem endSkipped (h : Chapter g n (.skipping m) l) :
    Chapter g n .idle (l ++ [.stateChanged n .activating .removed]) := by
  obtain ⟨hstate, hskip, hrefused⟩ := h.recalls
  exact ⟨h.lawful.concat ⟨hstate, hskip, hrefused⟩, h.answered.tell rfl,
    stateOf_changed _ _ _ _, fun _ => going_concat (h.going rfl) rfl⟩

/-- The session begins to remove its driver. -/
theorem beginRemoval (h : Chapter g n (.serving m isOver) l) (t : TimerId) :
    Chapter g n (.removing m t isOver)
      (l ++ [.stateChanged n .running .removalRequested,
        .stateChanged n .removalRequested .removing, .callBegan .remove]) := by
  have hsplit : l ++ [.stateChanged n .running .removalRequested,
      .stateChanged n .removalRequested .removing, .callBegan .remove] =
        l ++ [.stateChanged n .running .removalRequested] ++
          [.stateChanged n .removalRequested .removing] ++ [.callBegan .remove] := by simp
  rw [hsplit]
  obtain ⟨hstate, hnone, hover⟩ := h.recalls
  have hasked : Lawful g n (l ++ [.stateChanged n .running .removalRequested]) :=
    h.lawful.concat ⟨hstate, trivial⟩
  have hremoving := hasked.concat (x := .stateChanged n .removalRequested .removing)
    ⟨stateOf_changed _ _ _ _, trivial⟩
  refine ⟨hremoving.concat ⟨stateOf_changed _ _ _ _, ?_⟩, ?_, ⟨?_, ?_⟩, ?_⟩
  · simp [hnone]
  · exact ((h.answered.tell rfl).tell rfl).tell rfl
  · rw [stateOf_concat_of_none _ rfl]
    exact stateOf_changed _ _ _ _
  · intro hisOver
    simp [hover hisOver]
  · intro _
    exact going_concat (going_concat (going_concat (h.going rfl) rfl) rfl) rfl

theorem remove (h : Chapter g n (.removing m t isOver) l) :
    Chapter g n (.removed m t isOver) (l ++ [.callEnded .remove (.returned true)]) := by
  obtain ⟨hstate, hover⟩ := h.recalls
  have hdemand : demand? g n l (.callEnded .remove (.returned true)) = none := by
    simp [demand?]
  refine ⟨h.lawful.tell rfl, h.answered.tell hdemand, ⟨?_, by simp, ?_⟩, ?_⟩
  · rw [stateOf_concat_of_none _ rfl]
    exact hstate
  · intro hisOver
    simp [hover hisOver]
  · exact fun _ => going_concat (h.going rfl) rfl

/-- The removal fails, and the session is aborted. -/
theorem abort (h : Chapter g n (.removing m t isOver) l) {r : CallResult}
    (hr : r ≠ .returned true) :
    Chapter g n (.failed m t isOver)
      (l ++ [.callEnded .remove r, .stateChanged n .removing .aborted]) := by
  have hsplit : l ++ [.callEnded .remove r, .stateChanged n .removing .aborted] =
      l ++ [.callEnded .remove r] ++ [.stateChanged n .removing .aborted] := by simp
  rw [hsplit]
  obtain ⟨hstate, -⟩ := h.recalls
  have hended : Lawful g n (l ++ [.callEnded .remove r]) := h.lawful.tell rfl
  have hdemand : demand? g n l (.callEnded .remove r) = some (.stateChanged n .removing .aborted) :=
    if_pos ⟨hr, h.going rfl⟩
  refine ⟨hended.concat ⟨?_, l, r, rfl, hr, h.going rfl⟩, h.answered.answer hdemand rfl,
    stateOf_changed _ _ _ _, ?_⟩
  · rw [stateOf_concat_of_none _ rfl]
    exact hstate
  · exact fun _ => going_concat (going_concat (h.going rfl) rfl) rfl

theorem endServed (h : Chapter g n (.removed m t true) l) :
    Chapter g n .idle (l ++ [.stateChanged n .removing .removed]) := by
  obtain ⟨hstate, hremoved, hover⟩ := h.recalls
  exact ⟨h.lawful.concat ⟨hstate, hremoved, hover rfl⟩, h.answered.tell rfl,
    stateOf_changed _ _ _ _, fun _ => going_concat (h.going rfl) rfl⟩

/-- The event loop returns. -/
theorem endLoop (h : Chapter g n d l) {m : SessionId} (hloop : d.looping? = some m) :
    Chapter g n d.afterLoop (l ++ [.loopEnded n]) := by
  have hactive : d.isActive = true := Duty.isActive_of_looping? hloop
  refine ⟨h.lawful.tell rfl, h.answered.tell rfl, ?_, ?_⟩
  · have hrecalls := h.recalls
    have hsame : stateOf (l ++ [.loopEnded n]) = stateOf l := stateOf_concat_of_none _ rfl
    cases d with
    | serving m isOver =>
      obtain ⟨hstate, hnone, -⟩ := hrecalls
      exact ⟨hsame.trans hstate, by simp [hnone], by simp⟩
    | removing m t isOver =>
      obtain ⟨hstate, -⟩ := hrecalls
      exact ⟨hsame.trans hstate, by simp⟩
    | removed m t isOver =>
      obtain ⟨hstate, hremoved, -⟩ := hrecalls
      exact ⟨hsame.trans hstate, by simp [hremoved], by simp⟩
    | failed m t isOver => exact hsame.trans hrecalls
    | _ => cases hloop
  · exact fun _ => going_concat (h.going hactive) rfl

/-- The run ends, and the supervisor's own loop is cut off if it was under way. -/
theorem cut (h : Chapter g n d l) {x : Happening} (hx : x.isEnd = true) :
    Chapter g n d.afterCut (l ++ [x]) := by
  have hchange : x.change? = none := by cases x <;> first | rfl | cases hx
  have hsame : stateOf (l ++ [x]) = stateOf l := stateOf_concat_of_none _ hchange
  have hcall : ∀ k r, x ≠ .callEnded k r := by
    rintro k r rfl
    cases hx
  have hpermits : Permits g n l x = True := by cases x <;> first | rfl | cases hx
  have hdemand : demand? g n l x = none := by cases x <;> first | rfl | cases hx
  refine ⟨h.lawful.tell hpermits, h.answered.tell hdemand, ?_, ?_⟩
  · have hrecalls := h.recalls
    have hadd : ∀ r, .callEnded .add r ∉ l → .callEnded .add r ∉ l ++ [x] := by
      intro r hnot hmem
      rcases List.mem_append.1 hmem with hmem | hmem
      · exact hnot hmem
      · exact hcall .add r (List.mem_singleton.1 hmem).symm
    cases d with
    | adding m t =>
      obtain rfl : l = opening n := hrecalls
      exact ⟨⟨x, by simp, hx⟩, fun _ => ⟨hsame.trans rfl, fun r => hadd r (by simp [opening])⟩⟩
    | cut call =>
      obtain ⟨⟨y, hy, hend⟩, hcut⟩ := hrecalls
      refine ⟨⟨y, by simp [hy], hend⟩, fun hk => ?_⟩
      obtain ⟨hstate, hnone⟩ := hcut hk
      exact ⟨hsame.trans hstate, fun r => hadd r (hnone r)⟩
    | finished => exact hsame.trans hrecalls
    | refused | absent => exact trivial
    | _ => exact ⟨⟨x, by simp, hx⟩, by rintro ⟨⟩⟩
  · intro hactive
    rw [Duty.isActive_afterCut] at hactive
    cases hactive

/-- A call ends that nobody waits for any more. -/
theorem late {k : CallKind} (h : Chapter g n (.cut (some k)) l) (r : CallResult) :
    Chapter g n (.cut none) (l ++ [.callEnded k r]) := by
  obtain ⟨⟨y, hy, hend⟩, hadd⟩ := h.recalls
  refine ⟨?_, h.answered.tell (demand?_of_isEnd _ _ ⟨y, hy, hend⟩),
    ⟨⟨y, by simp [hy], hend⟩, ?_⟩, ?_⟩
  · cases k with
    | add => exact h.lawful.concat (hadd rfl)
    | remove | stop => exact h.lawful.tell rfl
  · rintro ⟨⟩
  · rintro ⟨⟩

end Chapter

/-! ## How stories go on -/

/-- Since `hs`, the story of session `n` has gone on with `new`, and no other story has. -/
structure Recounts (n : SessionId) (hs hs' : List (Nat × Happening)) (new : List Happening) :
    Prop where
  own : storyOf n hs' = storyOf n hs ++ new
  others : ∀ m, m ≠ n → storyOf m hs' = storyOf m hs
  begun : begunIn hs' = begunIn hs

namespace Recounts

variable {n : SessionId} {hs hs' : List (Nat × Happening)} {new : List Happening} {t : Nat}
  {x : Happening}

theorem refl (n : SessionId) (hs : List (Nat × Happening)) : Recounts n hs hs [] :=
  ⟨(List.append_nil _).symm, fun _ _ => rfl, rfl⟩

theorem begunIn_cons (hx : x.isBegin = false) : begunIn ((t, x) :: hs) = begunIn hs := by
  simp [begunIn, hx]

theorem begunIn_begin (hx : x.isBegin = true) : begunIn ((t, x) :: hs) = begunIn hs + 1 := by
  simp [begunIn, hx]

/-- Something comes that has the number of session `n`. -/
theorem mine (h : Recounts n hs hs' new) (hx : ∀ m latest, x.concerns m latest = decide (n = m))
    (hbegin : x.isBegin = false) : Recounts n hs ((t, x) :: hs') (new ++ [x]) where
  own := by
    simp [storyOf, hx, h.own]
  others m hm := by
    simp [storyOf, hx, h.others m hm, Ne.symm hm]
  begun := (begunIn_cons hbegin).trans h.begun

/-- Something comes that belongs to the latest session, and that is session `n`. -/
theorem late (h : Recounts n hs hs' new) (hlatest : begunIn hs = n)
    (hx : ∀ m latest, x.concerns m latest = decide (latest = m)) (hbegin : x.isBegin = false) :
    Recounts n hs ((t, x) :: hs') (new ++ [x]) where
  own := by
    simp [storyOf, hx, h.own, h.begun, hlatest]
  others m hm := by
    simp [storyOf, hx, h.others m hm, h.begun, hlatest, Ne.symm hm]
  begun := (begunIn_cons hbegin).trans h.begun

/-- Something comes that belongs to no story. -/
theorem aside (h : Recounts n hs hs' new) (hx : ∀ m latest, x.concerns m latest = false)
    (hbegin : x.isBegin = false) : Recounts n hs ((t, x) :: hs') new where
  own := by
    simp [storyOf, hx, h.own]
  others m hm := by
    simp [storyOf, hx, h.others m hm]
  begun := (begunIn_cons hbegin).trans h.begun

/-- The next session begins. -/
theorem begin (hlatest : begunIn hs = n) (hnew : storyOf (n + 1) hs = []) (t : Nat)
    (id : TimerId) :
    let hs' := (t, .callBegan .add) :: (t, .timerArmed id .driverActivationTimeout) ::
      (t, .stateChanged (n + 1) .inactive .activating) :: hs
    storyOf (n + 1) hs' = opening (n + 1) ∧
      (∀ m, m ≠ n + 1 → storyOf m hs' = storyOf m hs) ∧ begunIn hs' = n + 1 := by
  intro hs'
  have hbegun : begunIn ((t, .stateChanged (n + 1) .inactive .activating) :: hs) = n + 1 := by
    rw [begunIn_begin rfl, hlatest]
  have hbegun' : begunIn ((t, .timerArmed id .driverActivationTimeout) ::
      (t, .stateChanged (n + 1) .inactive .activating) :: hs) = n + 1 := by
    rw [begunIn_cons rfl, hbegun]
  refine ⟨?_, fun m hm => ?_, ?_⟩
  · simp only [hs', storyOf, hbegun', hnew, Happening.concerns]
    simp [opening]
  · simp only [hs', storyOf, hbegun', Happening.concerns]
    simp [Ne.symm hm]
  · rw [begunIn_cons rfl, hbegun']

theorem raiseStop {c : Conduct} (h : Recounts n hs c.outline new) :
    Recounts n hs c.raiseStop.outline new := by
  change Recounts n hs (if _ then _ else _) new
  split
  · exact h
  · exact h.aside (fun _ _ => rfl) rfl

theorem post {c : Conduct} (h : Recounts n hs c.outline new) (t : Termination) :
    Recounts n hs (c.post t).outline new := by
  change Recounts n hs (if _ then _ else _) new
  split
  · exact h.aside (fun _ _ => rfl) rfl
  · exact h

end Recounts

namespace Conduct

variable {g : Settings} {c c' : Conduct}

/-- Every session that has begun has a lawful story; all but the latest are removed. -/
structure Narrated (g : Settings) (c : Conduct) : Prop where
  begun : begunIn c.outline = c.count
  latest : 0 < c.count → Chapter g c.count c.duty (storyOf c.count c.outline)
  past : ∀ n, 0 < n → n < c.count → Lawful g n (storyOf n c.outline) ∧
    Answered g n (storyOf n c.outline) ∧ stateOf (storyOf n c.outline) = .removed
  /-- Nothing is told of sessions that have not begun. -/
  future : ∀ n, c.count < n → storyOf n c.outline = []
  /-- Before the first session nothing happens but that the run ends. -/
  before : ∀ x ∈ storyOf 0 c.outline, x.isEnd = true
  calls : c.count = 0 → ∀ k, c.duty.call? = some k → k = .stop

namespace Narrated

/-- The latest story goes on. -/
theorem go (h : Narrated g c) (hcount : c'.count = c.count) {new : List Happening}
    (hrec : Recounts c.count c.outline c'.outline new)
    (hbefore : c.count = 0 → ∀ x ∈ new, x.isEnd = true)
    (hcalls : c.count = 0 → ∀ k, c'.duty.call? = some k → k = .stop)
    (hchapter : 0 < c.count → Chapter g c.count c'.duty (storyOf c.count c.outline ++ new)) :
    Narrated g c' where
  calls hzero := by
    rw [hcount] at hzero
    exact hcalls hzero
  begun := by rw [hrec.begun, h.begun, hcount]
  latest hpos := by
    rw [hcount] at hpos ⊢
    rw [hrec.own]
    exact hchapter hpos
  past n hpos hn := by
    rw [hcount] at hn
    rw [hrec.others n (Nat.ne_of_lt hn)]
    exact h.past n hpos hn
  future n hn := by
    rw [hcount] at hn
    rw [hrec.others n (Nat.ne_of_gt hn)]
    exact h.future n hn
  before x hx := by
    by_cases hzero : c.count = 0
    · rw [hzero] at hrec
      rw [hrec.own] at hx
      rcases List.mem_append.1 hx with hx | hx
      · exact h.before x hx
      · exact hbefore hzero x hx
    · rw [hrec.others 0 (Ne.symm hzero)] at hx
      exact h.before x hx

/-- The supervisor turns to another duty, if to any, and nothing comes that belongs to a
story. -/
theorem turn (h : Narrated g c) (hcount : c'.count = c.count)
    (hrec : Recounts c.count c.outline c'.outline [])
    (hcalls : ∀ k, c'.duty.call? = some k → k = .stop ∨ c.duty.call? = some k)
    (hchapter : ∀ n l, Chapter g n c.duty l → Chapter g n c'.duty l) : Narrated g c' := by
  refine h.go hcount hrec (fun _ x hx => by cases hx) ?_ fun hpos => ?_
  · exact fun hzero k hk => (hcalls k hk).elim id (h.calls hzero k)
  rw [List.append_nil]
  exact hchapter _ _ (h.latest hpos)

theorem keep (h : Narrated g c) (hcount : c'.count = c.count) (hduty : c'.duty = c.duty)
    (hrec : Recounts c.count c.outline c'.outline []) : Narrated g c' :=
  h.turn hcount hrec (fun _ hk => .inr (hduty ▸ hk)) fun _ _ hc => hduty ▸ hc

/-- The session under way goes on. -/
theorem session (h : Narrated g c) {n : SessionId} (htold : Told g c n) {m : SessionId}
    (hm : c.duty.session? = some m) (hcount : c'.count = c.count) {new : List Happening}
    (hrec : begunIn c.outline = m → Recounts m c.outline c'.outline new)
    (hchapter : ∀ l, Chapter g m c.duty l → Chapter g m c'.duty (l ++ new)) :
    Narrated g c' := by
  obtain ⟨rfl, hlatest⟩ := htold.session m hm
  rw [← hlatest] at hrec hchapter
  refine h.go hcount (hrec h.begun) (fun hzero => by omega) (fun hzero => by omega) fun hpos => ?_
  exact hchapter _ (h.latest hpos)

/-- The run ends. -/
theorem cut (h : Narrated g c) (hcount : c'.count = c.count) (hduty : c'.duty = c.duty.afterCut)
    {x : Happening} (hx : x.isEnd = true)
    (hrec : begunIn c.outline = c.count → Recounts c.count c.outline c'.outline [x]) :
    Narrated g c' := by
  refine h.go hcount (hrec h.begun) ?_ ?_ fun hpos => ?_
  · intro _ y hy
    obtain rfl := List.mem_singleton.1 hy
    exact hx
  · intro hzero k hk
    rw [hduty, Duty.call?_afterCut] at hk
    exact h.calls hzero k hk
  · rw [hduty]
    exact (h.latest hpos).cut hx

theorem beginSession (h : Narrated g c) (hduty : c.duty = .idle) :
    Narrated g ((c.tell (.checked true)).beginSession g) := by
  have hlook : Recounts c.count c.outline ((c.now, .checked true) :: c.outline) [] :=
    (Recounts.refl _ _).aside (fun _ _ => rfl) rfl
  have hnew : storyOf (c.count + 1) ((c.now, .checked true) :: c.outline) = [] := by
    rw [hlook.others _ (Nat.succ_ne_self _)]
    exact h.future _ (Nat.lt_succ_self _)
  obtain ⟨hown, hothers, hbegun⟩ :=
    Recounts.begin (hlook.begun.trans h.begun) hnew c.now c.nextTimer
  have hold : ∀ n, n ≠ c.count + 1 →
      storyOf n ((c.tell (.checked true)).beginSession g).outline = storyOf n c.outline := by
    intro n hn
    refine (hothers n hn).trans ?_
    by_cases hlast : n = c.count
    · rw [hlast, hlook.own, List.append_nil]
    · exact hlook.others n hlast
  refine ⟨hbegun, fun _ => ?_, fun n hpos hn => ?_, fun n hn => ?_, ?_, ?_⟩
  · have hstory : storyOf (c.count + 1) ((c.tell (.checked true)).beginSession g).outline =
        opening (c.count + 1) := hown
    exact hstory ▸ Chapter.opened (c.count + 1) c.nextTimer
  · have hn' : n < c.count + 1 := hn
    rw [hold n (Nat.ne_of_lt hn')]
    by_cases hlast : n = c.count
    · have hlatest := h.latest (hlast ▸ hpos)
      rw [hduty] at hlatest
      rw [hlast]
      exact ⟨hlatest.lawful, hlatest.answered, hlatest.recalls⟩
    · exact h.past n hpos (by omega)
  · have hn' : c.count + 1 < n := hn
    rw [hold n (Nat.ne_of_gt hn')]
    exact h.future n (by omega)
  · rw [hold 0 (by omega)]
    exact h.before
  · intro hzero
    cases hzero

/-- A call ends that nobody waits for any more. -/
theorem lateEnd (h : Narrated g c) {k : CallKind} (r : CallResult)
    (hduty : c.duty = .cut (some k)) :
    Narrated g ((c.tell (.callEnded k r)).turn (.cut none)) := by
  have hsession : (k = .add ∨ k = .remove) → 0 < c.count := by
    intro hk
    refine Nat.pos_of_ne_zero fun hzero => ?_
    have hstop := h.calls hzero k (by rw [hduty]; rfl)
    rcases hk with rfl | rfl
    · cases hstop
    · cases hstop
  have hlate : ∀ l, Chapter g c.count c.duty l →
      Chapter g c.count (.cut none) (l ++ [.callEnded k r]) := by
    rw [hduty]
    exact fun l hc => hc.late r
  cases k with
  | add =>
    have hpos := hsession (.inl rfl)
    exact h.go rfl ((Recounts.refl _ _).late h.begun (fun _ _ => rfl) rfl)
      (fun hzero => by omega) (fun hzero => by omega) fun _ => hlate _ (h.latest hpos)
  | remove =>
    have hpos := hsession (.inr rfl)
    exact h.go rfl ((Recounts.refl _ _).late h.begun (fun _ _ => rfl) rfl)
      (fun hzero => by omega) (fun hzero => by omega) fun _ => hlate _ (h.latest hpos)
  | stop =>
    refine h.turn rfl ((Recounts.refl _ _).aside (fun _ _ => rfl) rfl) (by rintro k ⟨⟩) ?_
    rw [hduty]
    intro n l hc
    obtain ⟨hends, -⟩ := hc.recalls
    exact ⟨hc.lawful, hc.answered, ⟨hends, by rintro ⟨⟩⟩, by rintro ⟨⟩⟩

theorem step (h : Narrated g c) {n : SessionId} (htold : Told g c n) (hs : Step g c c') :
    Narrated g c' := by
  cases hs with
  | quiet => exact h
  | signals | ignoreSignals | pass => exact h.keep rfl rfl (.refl _ _)
  | look seen => exact h.keep rfl rfl ((Recounts.refl _ _).aside (fun _ _ => rfl) rfl)
  | fire a =>
    exact h.keep rfl rfl (((Recounts.refl _ _).aside (fun _ _ => rfl) rfl).post _)
  | firstSignal s b =>
    refine h.keep rfl rfl (Recounts.aside ?_ (fun _ _ => rfl) rfl)
    exact ((Recounts.refl c.count c.outline).aside (fun _ _ => rfl) rfl).raiseStop
      (c := (c.setSignals b).tell (.signalTaken s))
  | decide t =>
    exact h.cut (x := .terminated t) rfl rfl rfl fun hbegun =>
      (Recounts.refl _ _).late hbegun (fun _ _ => rfl) rfl
  | secondSignal s b =>
    exact h.cut (x := .terminated .repeatedSignal) rfl rfl rfl fun hbegun =>
      ((Recounts.refl c.count c.outline).aside (fun _ _ => rfl) rfl).late hbegun
        (fun _ _ => rfl) rfl
  | beginStop hduty =>
    refine h.turn rfl ((Recounts.refl _ _).aside (fun _ _ => rfl) rfl)
      (fun k hk => .inl (Option.some.inj hk).symm) ?_
    rw [hduty]
    exact fun n l hc => ⟨hc.lawful, hc.answered, hc.recalls, fun _ => hc.going rfl⟩
  | beginSession hduty => exact h.beginSession hduty
  | added m timer ok hduty hok =>
    refine h.session htold (by rw [hduty]; rfl) rfl (fun hbegun =>
      (((Recounts.refl _ _).late hbegun (fun _ _ => rfl) rfl).mine (fun _ _ => rfl) rfl).mine
        (fun _ _ => rfl) rfl) ?_
    rw [hduty]
    intro l hc
    exact hc.serve ok hok
  | skipped m timer hduty hskip =>
    refine h.session htold (by rw [hduty]; rfl) rfl (fun hbegun =>
      (Recounts.refl _ _).late hbegun (fun _ _ => rfl) rfl) ?_
    rw [hduty]
    exact fun l hc => hc.skip hskip
  | addPanicked m timer reason hduty =>
    refine h.session htold (by rw [hduty]; rfl) rfl (fun hbegun =>
      (Recounts.refl _ _).late hbegun (fun _ _ => rfl) rfl) ?_
    rw [hduty]
    exact fun l hc => hc.strand reason
  | skipStopped m hduty =>
    refine h.session htold (by rw [hduty]; rfl) rfl (fun _ =>
      (Recounts.refl _ _).mine (fun _ _ => rfl) rfl) ?_
    rw [hduty]
    exact fun l hc => hc.endSkipped
  | skipEnded m hduty =>
    refine h.session htold (by rw [hduty]; rfl) rfl (fun _ =>
      ((Recounts.refl m c.outline).aside (fun _ _ => rfl) rfl).mine (fun _ _ => rfl) rfl) ?_
    rw [hduty]
    exact fun l hc => hc.endSkipped
  | beginRemoval m isOver hduty =>
    refine h.session htold (by rw [hduty]; rfl) rfl (fun hbegun =>
      ((((Recounts.refl _ _).mine (fun _ _ => rfl) rfl).aside (fun _ _ => rfl) rfl).mine
        (fun _ _ => rfl) rfl).late hbegun (fun _ _ => rfl) rfl) ?_
    rw [hduty]
    intro l hc
    exact hc.beginRemoval c.nextTimer
  | driverRemoved m timer isOver hduty =>
    refine h.session htold (by rw [hduty]; rfl) rfl (fun hbegun =>
      (Recounts.refl _ _).late hbegun (fun _ _ => rfl) rfl) ?_
    rw [hduty]
    exact fun l hc => hc.remove
  | removalFailed m timer isOver r hduty hr =>
    refine h.session htold (by rw [hduty]; rfl) rfl (fun hbegun =>
      ((Recounts.refl _ _).late hbegun (fun _ _ => rfl) rfl).mine (fun _ _ => rfl) rfl) ?_
    rw [hduty]
    intro l hc
    exact hc.abort hr
  | sessionEnded m timer hduty =>
    refine h.session htold (by rw [hduty]; rfl) rfl (fun _ =>
      (Recounts.refl _ _).mine (fun _ _ => rfl) rfl) ?_
    rw [hduty]
    exact fun l hc => hc.endServed
  | loopEnded m hloop =>
    exact h.session htold (Duty.session?_of_looping? hloop) rfl (fun _ =>
      (Recounts.refl _ _).mine (fun _ _ => rfl) rfl) fun l hc => hc.endLoop hloop
  | loopPanicked m reason hloop =>
    exact h.cut (x := .logged (.loopPanicked reason) none) rfl rfl rfl fun hbegun =>
      Recounts.post (c := c.cutOff.tell (.logged (.loopPanicked reason) none))
        ((Recounts.refl _ _).late hbegun (fun _ _ => rfl) rfl) _
  | stopped r hduty =>
    refine h.turn rfl (Recounts.post (c := c.tell (.callEnded .stop r))
      ((Recounts.refl _ _).aside (fun _ _ => rfl) rfl) _) (by rintro k ⟨⟩) ?_
    rw [hduty]
    exact fun n l hc => ⟨hc.lawful, hc.answered, hc.recalls, by rintro ⟨⟩⟩
  | lateEnd k r hduty => exact h.lateEnd r hduty

end Narrated

/-- In every run every session has a lawful story. -/
theorem Reached.narrated (h : Reached g c) : Narrated g c := by
  induction h with
  | begun b | refused b r =>
    refine ⟨rfl, ?_, ?_, fun _ _ => rfl, ?_, ?_⟩
    · intro hpos
      exact absurd hpos (Nat.lt_irrefl 0)
    · intro n _ hn
      exact absurd hn (Nat.not_lt_zero n)
    · intro x hx
      cases hx
    · rintro _ k ⟨⟩
  | step hr hs ih =>
    obtain ⟨n, htold⟩ := hr.told
    exact ih.step htold hs

end Conduct

end Hotplug
