import Hotplug.Proofs.Appearances
import Hotplug.Proofs.Story

/-!
# The states of sessions

Every session goes through its states in one of three ways: it serves the device and removes its
driver, it is aborted as the removal fails, or it is skipped.  What it takes for each step is in
its story.

* `servedPath`, `abortedPath`, `skippedPath` — the three ways.
* `Lawful.reaches` — the state of a session says what changes it has gone through.
* `InOrder` — the promises that a story keeps.
* `Supervision.sessions_in_order` — they are kept in every run.
-/

namespace Hotplug

/-! ## Paths -/

/-- The states of a session that serves the device. -/
def servedPath : List SessionState :=
  [.inactive, .activating, .running, .removalRequested, .removing, .removed]

/-- The states of a session whose driver could not be removed. -/
def abortedPath : List SessionState :=
  [.inactive, .activating, .running, .removalRequested, .removing, .aborted]

/-- The states of a session whose driver was refused, and that was skipped. -/
def skippedPath : List SessionState :=
  [.inactive, .activating, .removed]

/-- The changes from each state of a path to the next one. -/
def stepsAlong (path : List SessionState) : List (SessionState × SessionState) :=
  path.zip path.tail

/-- The changes that a session has gone through when it is in a state. -/
def SessionState.Reaches (changes : List (SessionState × SessionState)) : SessionState → Prop
  | inactive => changes = []
  | activating => changes = (stepsAlong servedPath).take 1
  | running => changes = (stepsAlong servedPath).take 2
  | removalRequested => changes = (stepsAlong servedPath).take 3
  | removing => changes = (stepsAlong servedPath).take 4
  | removed => changes = stepsAlong servedPath ∨ changes = stepsAlong skippedPath
  | aborted => changes = stepsAlong abortedPath

section Lawful

variable {g : Settings} {n : SessionId} {l before after : List Happening}

theorem mem_changesOf {a b : SessionState} :
    (a, b) ∈ changesOf l ↔ ∃ m, .stateChanged m a b ∈ l := by
  constructor
  · intro h
    obtain ⟨x, hx, hchange⟩ := List.mem_filterMap.1 h
    unfold Happening.change? at hchange
    split at hchange
    · obtain ⟨rfl, rfl⟩ := Prod.mk.inj (Option.some.inj hchange)
      exact ⟨_, hx⟩
    · cases hchange
  · rintro ⟨m, hm⟩
    exact List.mem_filterMap.2 ⟨_, hm, rfl⟩

/-- One step on one of the paths. -/
theorem SessionState.Reaches.step {a b : SessionState}
    {changes : List (SessionState × SessionState)} (h : a.Reaches changes)
    (hpass : Passes g n l a b) : b.Reaches (changes ++ [(a, b)]) := by
  unfold Passes at hpass
  split at hpass
  · rw [show changes = [] from h]
    rfl
  · rw [show changes = _ from h]
    rfl
  · rw [show changes = _ from h]
    exact .inr rfl
  · rw [show changes = _ from h]
    rfl
  · rw [show changes = _ from h]
    rfl
  · rw [show changes = _ from h]
    exact .inl rfl
  · rw [show changes = _ from h]
    rfl
  · exact hpass.elim

/-- The state after a lawful story says what the changes were. -/
theorem Lawful.reaches (h : Lawful g n l) : (stateOf l).Reaches (changesOf l) := by
  induction h with
  | nil => rfl
  | @concat l h x hx ih =>
    cases hchange : x.change? with
    | none => rwa [stateOf_concat_of_none l hchange, changesOf_concat_of_none l hchange]
    | some change =>
      unfold Happening.change? at hchange
      split at hchange
      · rename_i m a b
        obtain ⟨hstate, hpass⟩ : stateOf l = a ∧ Passes g n l a b := hx
        rw [hstate] at ih
        rw [stateOf_changed, changesOf_append]
        exact ih.step hpass
      · cases hchange

/-- The changes of a lawful story are a beginning of one of the paths. -/
theorem Lawful.path (h : Lawful g n l) :
    changesOf l <+: stepsAlong servedPath ∨ changesOf l <+: stepsAlong abortedPath ∨
      changesOf l <+: stepsAlong skippedPath := by
  have hreaches := h.reaches
  cases hstate : stateOf l with
  | inactive | activating | running | removalRequested | removing =>
    rw [hstate] at hreaches
    rw [show changesOf l = _ from hreaches]
    exact .inl (by decide)
  | removed =>
    rw [hstate] at hreaches
    rcases hreaches with hserved | hskipped
    · exact .inl (hserved ▸ List.prefix_refl _)
    · exact .inr (.inr (hskipped ▸ List.prefix_refl _))
  | aborted =>
    rw [hstate] at hreaches
    rw [show changesOf l = _ from hreaches]
    exact .inr (.inl (List.prefix_refl _))

/-- A change of a lawful story has had what it takes. -/
theorem Lawful.passes (h : Lawful g n l) {a b : SessionState} (hmem : (a, b) ∈ changesOf l) :
    ∃ before m after, l = before ++ .stateChanged m a b :: after ∧ stateOf before = a ∧
      Passes g n before a b := by
  obtain ⟨m, hm⟩ := mem_changesOf.1 hmem
  obtain ⟨before, after, heq⟩ := List.append_of_mem hm
  obtain ⟨hstate, hpass⟩ := h.permits heq
  exact ⟨before, m, after, heq, hstate, hpass⟩

/-- A story is lawful from its beginning. -/
theorem Lawful.beginning (h : Lawful g n (before ++ after)) : Lawful g n before := by
  generalize heq : before ++ after = l at h
  induction h generalizing after with
  | nil =>
    obtain ⟨rfl, -⟩ := List.append_eq_nil_iff.1 heq
    exact .nil
  | @concat l h x hx ih =>
    rcases List.eq_nil_or_concat after with rfl | ⟨rest, y, rfl⟩
    · rw [List.append_nil] at heq
      rw [heq]
      exact h.concat hx
    · have heq' : (before ++ rest) ++ [y] = l ++ [x] := by simpa using heq
      exact ih (List.append_inj' heq' rfl).1

/-- The driver is added once at most. -/
theorem Lawful.added_unique (h : Lawful g n l) {r r' : CallResult}
    (hr : .callEnded .add r ∈ l) (hr' : .callEnded .add r' ∈ l) : r = r' := by
  induction h with
  | nil => cases hr
  | @concat l h x hx ih =>
    -- Nothing that ends the call may come once the call has ended.
    have hlast : ∀ {r r' : CallResult}, .callEnded .add r ∈ l → .callEnded .add r' ∉ [x] := by
      intro r r' hold hnew
      obtain rfl := List.mem_singleton.1 hnew
      exact hx.2 r hold
    rcases List.mem_append.1 hr with hr | hr
    · rcases List.mem_append.1 hr' with hr' | hr'
      · exact ih hr hr'
      · exact absurd hr' (hlast hr)
    · rcases List.mem_append.1 hr' with hr' | hr'
      · exact absurd hr (hlast hr')
      · have hsame := (List.mem_singleton.1 hr).trans (List.mem_singleton.1 hr').symm
        injection hsame

/-- A session whose driver was refused is skipped, if that is the policy. -/
theorem Lawful.skips (h : Lawful g n l) (hskip : g.driver.onActivationFailure = .skipCycle)
    (hrefused : .callEnded .add (.returned false) ∈ l) :
    changesOf l <+: stepsAlong skippedPath := by
  have hnot : (SessionState.activating, SessionState.running) ∉ changesOf l := by
    intro hmem
    obtain ⟨before, m, after, rfl, -, ok, hok, hadded⟩ := h.passes hmem
    have hsame := h.added_unique (List.mem_append_left _ hadded) hrefused
    obtain rfl : ok = false := by simpa using hsame
    rcases hok with hok | hok
    · cases hok
    · rw [hskip] at hok
      cases hok
  have hreaches := h.reaches
  cases hstate : stateOf l with
  | inactive | activating =>
    rw [hstate] at hreaches
    rw [show changesOf l = _ from hreaches]
    decide
  | running | removalRequested | removing | aborted =>
    rw [hstate] at hreaches
    rw [show changesOf l = _ from hreaches] at hnot
    exact absurd (by decide) hnot
  | removed =>
    rw [hstate] at hreaches
    rcases hreaches with hserved | hskipped
    · rw [hserved] at hnot
      exact absurd (by decide) hnot
    · exact hskipped ▸ List.prefix_refl _

/-! ## The event loop and the removal -/

/-- Whether the event loop starts. -/
def Happening.isLoopStart : Happening → Bool
  | loopStarted .. => true
  | _ => false

/-- Whether the driver begins to be removed. -/
def Happening.isRemoval : Happening → Bool
  | callBegan .remove => true
  | _ => false

/-- What is permitted only once comes once at most. -/
theorem Lawful.length_filter_le (h : Lawful g n l) {p : Happening → Bool}
    (hp : ∀ l x, Permits g n l x → p x = true → ∀ y ∈ l, p y = false) :
    (l.filter p).length ≤ 1 := by
  induction h with
  | nil => simp
  | @concat l h x hx ih =>
    rw [List.filter_append, List.length_append]
    by_cases hpx : p x = true
    · have hnone : l.filter p = [] := by
        rw [List.filter_eq_nil_iff]
        intro y hy
        simp [hp l x hx hpx y hy]
      simp [hnone, hpx]
    · simpa [hpx] using ih

/-- The event loop starts once as the session runs, and never otherwise. -/
theorem Lawful.length_loops (h : Lawful g n l) (hanswered : Answered g n l) :
    (l.filter Happening.isLoopStart).length =
      if (SessionState.activating, SessionState.running) ∈ changesOf l then 1 else 0 := by
  have hle : (l.filter Happening.isLoopStart).length ≤ 1 := by
    refine h.length_filter_le fun l x hx hpx y hy => ?_
    cases x with
    | loopStarted m d =>
      cases y with
      | loopStarted m' d' => exact absurd hy (hx.2 m' d')
      | _ => rfl
    | _ => cases hpx
  split
  · rename_i hmem
    obtain ⟨before, m, after, heq, -, -⟩ := h.passes hmem
    obtain ⟨rest, rfl⟩ := hanswered before _ after _ heq rfl
    have hpos : 0 < (l.filter Happening.isLoopStart).length := by
      rw [List.length_pos_iff_exists_mem]
      exact ⟨.loopStarted n g.deviceId, List.mem_filter.2 ⟨by rw [heq]; simp, rfl⟩⟩
    omega
  · rename_i hnot
    rw [List.length_eq_zero_iff, List.filter_eq_nil_iff]
    intro x hx hstart
    cases x with
    | loopStarted m d =>
      obtain ⟨before, after, rfl⟩ := List.append_of_mem hx
      obtain ⟨hstate, -⟩ := h.permits rfl
      have hreaches := h.beginning.reaches
      rw [hstate] at hreaches
      apply hnot
      rw [changesOf_append, show changesOf before = _ from hreaches]
      exact List.mem_append_left _ (by decide)
    | _ => cases hstart

/-- The driver is removed once at most. -/
theorem Lawful.length_removals (h : Lawful g n l) :
    (l.filter Happening.isRemoval).length ≤ 1 := by
  refine h.length_filter_le fun l x hx hpx y hy => ?_
  cases x with
  | callBegan k =>
    cases k with
    | remove =>
      cases y with
      | callBegan k' =>
        cases k' with
        | remove => exact absurd hy hx.2
        | add | stop => rfl
      | _ => rfl
    | add | stop => cases hpx
  | _ => cases hpx

/-- A list of ends is a lawful story of nobody. -/
theorem Lawful.of_isEnd (h : ∀ x ∈ l, x.isEnd = true) : Lawful g n l ∧ Answered g n l := by
  obtain ⟨r, rfl⟩ : ∃ r, l = r.reverse := ⟨l.reverse, l.reverse_reverse.symm⟩
  induction r with
  | nil => exact ⟨.nil, .nil⟩
  | cons x r ih =>
    rw [List.reverse_cons] at h ⊢
    obtain ⟨hlawful, hanswered⟩ := ih fun y hy => h y (List.mem_append_left _ hy)
    have hx : x.isEnd = true := h x (by simp)
    have hpermits : Permits g n r.reverse x = True := by cases x <;> first | rfl | cases hx
    have hdemand : demand? g n r.reverse x = none := by cases x <;> first | rfl | cases hx
    exact ⟨hlawful.tell hpermits, hanswered.tell hdemand⟩

theorem changesOf_of_isEnd (h : ∀ x ∈ l, x.isEnd = true) : changesOf l = [] := by
  refine List.filterMap_eq_nil_iff.2 fun x hx => ?_
  have hend := h x hx
  cases x <;> first | rfl | cases hend

end Lawful

/-! ## The order of a story -/

/-- The promises that the story `l` of session `n` keeps. -/
structure InOrder (g : Settings) (n : SessionId) (l : List Happening) : Prop where
  path : changesOf l <+: stepsAlong servedPath ∨ changesOf l <+: stepsAlong abortedPath ∨
    changesOf l <+: stepsAlong skippedPath
  /-- A session is skipped just if its driver is refused, and that is the policy. -/
  skipped : (.activating, .removed) ∈ changesOf l →
    g.driver.onActivationFailure = .skipCycle ∧ .callEnded .add (.returned false) ∈ l
  skips : g.driver.onActivationFailure = .skipCycle → .callEnded .add (.returned false) ∈ l →
    changesOf l <+: stepsAlong skippedPath
  /-- The session leaves its activation after the call to add the driver has returned. -/
  activated : ∀ before m b after, l = before ++ .stateChanged m .activating b :: after →
    ∃ ok, .callEnded .add (.returned ok) ∈ before
  loops : (l.filter Happening.isLoopStart).length =
    if (SessionState.activating, SessionState.running) ∈ changesOf l then 1 else 0
  removal : ∀ before after, l = before ++ .callBegan .remove :: after → stateOf before = .removing
  removed : ∀ before m after, l = before ++ .stateChanged m .removing .removed :: after →
    .callEnded .remove (.returned true) ∈ before ∧ .loopEnded n ∈ before
  /-- The session is aborted just as its removal fails, and the run goes on. -/
  aborted : ∀ before m a after, l = before ++ .stateChanged m a .aborted :: after →
    ∃ start r, before = start ++ [.callEnded .remove r] ∧ r ≠ .returned true ∧
      ∀ x ∈ start, x.isEnd = false
  aborts : ∀ before r after, l = before ++ .callEnded .remove r :: after → r ≠ .returned true →
    (∀ x ∈ before, x.isEnd = false) → ∃ rest, after = .stateChanged n .removing .aborted :: rest

/-- A lawful story is in order if everything has come that had to. -/
theorem Lawful.inOrder {g : Settings} {n : SessionId} {l : List Happening} (h : Lawful g n l)
    (hanswered : Answered g n l) : InOrder g n l where
  path := h.path
  skipped hmem := by
    obtain ⟨before, m, after, rfl, -, hskip, hrefused⟩ := h.passes hmem
    exact ⟨hskip, List.mem_append_left _ hrefused⟩
  skips := h.skips
  activated before m b after heq := by
    obtain ⟨-, hpass⟩ := h.permits heq
    cases b with
    | running =>
      obtain ⟨ok, -, hmem⟩ := hpass
      exact ⟨ok, hmem⟩
    | removed => exact ⟨false, hpass.2⟩
    | inactive | activating | removalRequested | removing | aborted => exact hpass.elim
  loops := h.length_loops hanswered
  removal before after heq := (h.permits heq).1
  removed before m after heq := (h.permits heq).2
  aborted before m a after heq := by
    obtain ⟨-, hpass⟩ := h.permits heq
    cases a with
    | removing => exact hpass
    | inactive | activating | running | removalRequested | removed | aborted => exact hpass.elim
  aborts before r after heq hr hgoing :=
    hanswered before _ after _ heq (if_pos ⟨hr, hgoing⟩)

/-! ## Scenes -/

namespace Scene

variable {f f' : Scene}

/-- A session tells its event loop to quit just as long as its driver is removed. -/
def QuitsRemoved (f : Scene) : Prop :=
  ∀ s ∈ f.session, s.isQuitting = true ↔ ∃ timer loop, s.stage = .running (.removed timer) loop

namespace QuitsRemoved

theorem of_some {s : Session} (hs : f.session = some s)
    (h : s.isQuitting = true ↔ ∃ timer loop, s.stage = .running (.removed timer) loop) :
    f.QuitsRemoved := by
  intro t ht
  rw [hs] at ht
  obtain rfl := Option.some.inj ht
  exact h

theorem of_none (hs : f.session = none) : f.QuitsRemoved := by
  intro t ht
  rw [hs] at ht
  cases ht

theorem cancelCycle (h : f.QuitsRemoved) : f.cancelCycle.QuitsRemoved :=
  fun s hs => h s (session_cancelCycle hs)

/-- The session goes on, and its driver is removed as it was. -/
theorem go (h : f.QuitsRemoved) {s s' : Session} (hs : f.session = some s)
    (hs' : f'.session = some s') (hquit : s'.isQuitting = s.isQuitting)
    (hst : (∃ timer loop, s.stage = .running (.removed timer) loop) ↔
      ∃ timer loop, s'.stage = .running (.removed timer) loop) : f'.QuitsRemoved := by
  refine .of_some hs' ?_
  rw [hquit]
  exact (h s hs).trans hst

theorem act (h : f.QuitsRemoved) {m : Move} (hs : f.Act m f') : f'.QuitsRemoved := by
  cases hs with
  | fire | firstSignal | ignoreSignals | beginStop | beginWaiting | keepWaiting | keepWatching
  | stopped | lateEnd => exact h
  | decide t | secondSignal s b => exact cancelCycle h
  | beginSession => exact .of_some rfl ⟨by rintro ⟨⟩, by rintro ⟨timer, loop, ⟨⟩⟩⟩
  | loopWent s executor p p' hs hst | loopEnded s executor p hs hst =>
    refine h.go hs rfl rfl ?_
    rw [hst]
    constructor
    · rintro ⟨timer, loop, hstage⟩
      obtain ⟨rfl, -⟩ := Stage.running.inj hstage
      exact ⟨timer, _, rfl⟩
    · rintro ⟨timer, loop, hstage⟩
      obtain ⟨rfl, -⟩ := Stage.running.inj hstage
      exact ⟨timer, _, rfl⟩
  | loopPanicked | skipStopped | sessionEnded | skipEnded => exact .of_none rfl
  | beginRemoval s loop r hs hst | keepSkipping s wait hs hst | added s timer call ok hs hst
  | skipped s timer call hs hst | addPanicked s timer call reason hs hst
  | removalFailed s timer loop call hs hst =>
    refine h.go hs rfl rfl ?_
    rw [hst]
    constructor
    · rintro ⟨timer, loop, ⟨⟩⟩
    · rintro ⟨timer, loop, ⟨⟩⟩
  | stopForwarded child | removalSeen child =>
    intro t ht
    obtain ⟨s, hs, rfl⟩ := Option.map_eq_some_iff.1 ht
    split
    · exact h s hs
    · exact h s hs
  | driverRemoved s timer loop => exact .of_some rfl ⟨fun _ => ⟨timer, loop, rfl⟩, fun _ => rfl⟩

theorem step (h : f.QuitsRemoved) {o : Occurrence} (hs : f.Step o f') : f'.QuitsRemoved := by
  cases hs with
  | stay | files | signal | closeSignals | pass => exact h
  | act hact => exact h.act hact

end QuitsRemoved

end Scene

/-- The state of a session under way is the one that its story tells. -/
theorem Session.stateOf_eq {s : Session} {g : Settings} {n : SessionId} {l : List Happening}
    (hstate : s.state = s.stage.state) (h : s.duty.Recalls g n l) : stateOf l = s.state := by
  rw [hstate]
  unfold Session.duty at h
  split at h
  · rename_i hst
    rw [hst, show l = opening n from h]
    rfl
  · rename_i hst
    rw [hst]
    exact h
  all_goals
    rename_i hst
    rw [hst]
    first | exact h | exact h.1

/-! ## Runs -/

namespace Supervision

variable {L : EventLoop} (s : Supervision L)

/-- How the sessions of a run go through their states. -/
structure SessionsInOrder (os : List Occurrence) : Prop where
  story : ∀ n, InOrder s.settings n (storyOf n (s.history os))
  state : ∀ x ∈ (s.after os).session, x.state = stateOf (storyOf x.id (s.history os))
  /-- The event loop learns that it has to quit once the driver is removed. -/
  quitting : ∀ x ∈ (s.after os).session, x.isQuitting = true →
    .callEnded .remove (.returned true) ∈ storyOf x.id (s.history os)
  /-- One session at most is neither inactive nor removed. -/
  alone : ∀ m n, stateOf (storyOf m (s.history os)) ∉ [.inactive, .removed] →
    stateOf (storyOf n (s.history os)) ∉ [.inactive, .removed] → m = n
  /-- No session comes after one that was aborted. -/
  last : ∀ n m a, .stateChanged m a .aborted ∈ storyOf n (s.history os) →
    (s.after os).sessionCount = n ∧ ∀ later, n < later → storyOf later (s.history os) = []

theorem quitsRemoved_after (os : List Occurrence) : (s.after os).scene.QuitsRemoved := by
  refine s.scene_induction (P := fun _ f => f.QuitsRemoved) (.of_none s.session_start) ?_ os
  exact fun _ _ _ hs h => h.step hs

theorem narrated_after (os : List Occurrence) :
    (s.after os).frame.conduct.Narrated s.settings :=
  (s.reached_after os).narrated

/-- The outline of a run has the stories of its history. -/
theorem storyOf_outline (n : SessionId) (os : List Occurrence) :
    storyOf n (s.after os).frame.conduct.outline = storyOf n (s.history os) :=
  storyOf_outlineOf n (s.history os)

theorem lawful_after (os : List Occurrence) (n : SessionId) :
    Lawful s.settings n (storyOf n (s.history os)) ∧
      Answered s.settings n (storyOf n (s.history os)) := by
  have h := s.narrated_after os
  rw [← s.storyOf_outline]
  rcases Nat.eq_zero_or_pos n with rfl | hpos
  · exact Lawful.of_isEnd h.before
  · rcases Nat.lt_trichotomy n (s.after os).frame.conduct.count with hlt | rfl | hgt
    · obtain ⟨hlawful, hanswered, -⟩ := h.past n hpos hlt
      exact ⟨hlawful, hanswered⟩
    · exact ⟨(h.latest hpos).lawful, (h.latest hpos).answered⟩
    · rw [h.future n hgt]
      exact ⟨.nil, .nil⟩

/-- A session that is neither inactive nor removed is the latest one. -/
theorem latest_of_stateOf (os : List Occurrence) {n : SessionId}
    (hn : stateOf (storyOf n (s.history os)) ∉ [.inactive, .removed]) :
    (s.after os).sessionCount = n := by
  have h := s.narrated_after os
  rw [← s.storyOf_outline] at hn
  rcases Nat.eq_zero_or_pos n with rfl | hpos
  · unfold stateOf at hn
    rw [changesOf_of_isEnd h.before] at hn
    exact absurd List.mem_cons_self hn
  · rcases Nat.lt_trichotomy n (s.after os).frame.conduct.count with hlt | heq | hgt
    · rw [(h.past n hpos hlt).2.2] at hn
      exact absurd (by decide) hn
    · exact heq.symm
    · rw [h.future n hgt] at hn
      exact absurd (by decide) hn

/-- The session under way is what its story, the latest one, recalls. -/
theorem recalls_after (os : List Occurrence) {x : Session} (hx : x ∈ (s.after os).session) :
    x.duty.Recalls s.settings x.id (storyOf x.id (s.history os)) := by
  have hord := s.orderly_after os
  have hs : (s.after os).frame.session = some x := hx
  have hid : x.id = (s.after os).frame.conduct.count := hord.session_id x hs
  have hduty : (s.after os).frame.conduct.duty = x.duty := hord.duty_eq hs
  obtain ⟨n, htold⟩ := (s.reached_after os).told
  have hpos : 0 < (s.after os).frame.conduct.count := by
    obtain ⟨heq, hlatest⟩ := htold.session x.id (by rw [hduty, x.session?_duty])
    omega
  have hrecalls := ((s.narrated_after os).latest hpos).recalls
  rwa [hduty, ← hid, s.storyOf_outline] at hrecalls

/-- **The states of sessions.**  Every session goes through its states on one of three paths,
and every step has had what it takes. -/
theorem sessions_in_order (os : List Occurrence) : s.SessionsInOrder os where
  story n := (s.lawful_after os n).1.inOrder (s.lawful_after os n).2
  state x hx :=
    (Session.stateOf_eq ((s.orderly_after os).session_state x hx) (s.recalls_after os hx)).symm
  quitting x hx hquit := by
    obtain ⟨timer, loop, hst⟩ := (s.quitsRemoved_after os x hx).1 hquit
    have hrecalls := s.recalls_after os hx
    rw [show x.duty = .removed x.id timer loop.isReturned by simp [Session.duty, hst]] at hrecalls
    exact hrecalls.2.1
  alone m n hm hn := (s.latest_of_stateOf os hm).symm.trans (s.latest_of_stateOf os hn)
  last n m a hmem := by
    have hreaches := (s.lawful_after os n).1.reaches
    have hchange : (a, .aborted) ∈ changesOf (storyOf n (s.history os)) :=
      mem_changesOf.2 ⟨m, hmem⟩
    -- On every path the abort comes last.
    have hstate : stateOf (storyOf n (s.history os)) = .aborted := by
      cases hstate : stateOf (storyOf n (s.history os)) with
      | aborted => rfl
      | inactive | activating | running | removalRequested | removing =>
        rw [hstate] at hreaches
        rw [show changesOf _ = _ from hreaches] at hchange
        simp [stepsAlong, servedPath] at hchange
      | removed =>
        rw [hstate] at hreaches
        rcases hreaches with heq | heq
        · rw [heq] at hchange
          simp [stepsAlong, servedPath] at hchange
        · rw [heq] at hchange
          simp [stepsAlong, skippedPath] at hchange
    have hcount := s.latest_of_stateOf os (n := n) (by rw [hstate]; decide)
    refine ⟨hcount, fun later hlater => ?_⟩
    rw [← hcount] at hlater
    rw [← s.storyOf_outline]
    exact (s.narrated_after os).future later hlater

end Supervision

end Hotplug
