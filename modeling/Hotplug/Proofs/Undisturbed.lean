import Hotplug.Proofs.Matches
import Mathlib.Control.Monad.Basic

/-!
# Notifications do not disturb the lifecycle

What a library reports, and how much of it, has no influence on when its calls begin and end, when
a session changes its state, and how and when a run ends.  Two runs whose libraries differ in
nothing else are compared step by step, without their traffic.

* `World.LivesLike` — two worlds have had the same lifecycle so far.
* `Supervision.Tracks` — a run that keeps up with another one.
* `Supervision.Resembles` — two runs are given the same, apart from notifications.
* `Supervision.undisturbed` — they have the same lifecycle.
-/

namespace Hotplug

/-! ## Lifecycles -/

/-- Whether a happening belongs to the lifecycle: a call begins or ends, a session changes its
state, or the run ends. -/
def Happening.isLifecycle : Happening → Bool
  | callBegan _ | callEnded .. | stateChanged .. | terminated _ => true
  | _ => false

/-- The calls, the state changes and the termination of a world so far, with their times. -/
def World.lifecycle {L : EventLoop} (w : World L) : List (Nat × Happening) :=
  w.chronicle.happenings.filter (·.2.isLifecycle)

/-- Two worlds have had the same lifecycle so far. -/
structure World.LivesLike {L L' : EventLoop} (w : World L) (v : World L') : Prop where
  now : w.now = v.now
  lifecycle : w.lifecycle = v.lifecycle
  outcome : w.outcome? = v.outcome?

/-- An erasure that leaves the lifecycle leaves the same of worlds that live alike. -/
theorem Erasure.livesLike {L L' M : EventLoop} {E : Erasure L M} {E' : Erasure L' M}
    (hE : E.veil.Keeps (·.isLifecycle)) (hE' : E'.veil.Keeps (·.isLifecycle)) {w : World L}
    {v : World L'} (hw : E.world w = E'.world v) : w.LivesLike v where
  now := congrArg World.now hw
  outcome := congrArg World.outcome? hw
  lifecycle := by
    have hshown : (E.veil.chronicle w.chronicle).happenings.filter (·.2.isLifecycle) =
        (E'.veil.chronicle v.chronicle).happenings.filter (·.2.isLifecycle) :=
      congrArg World.lifecycle hw
    rwa [hE.filter_happenings, hE'.filter_happenings] at hshown

/-! ## Runs -/

namespace Supervision

variable {L L' : EventLoop} {D : L.Draining} {D' : L'.Draining}

theorem onCourse_after (s : Supervision L) (D : L.Draining) (os : List Occurrence) :
    (s.after os).OnCourse D := by
  refine run_induction (P := fun os => (s.after os).OnCourse D) ?_ ?_ os
  · exact ⟨s.orderly_start, .of_none s.session_start, .of_none s.session_start⟩
  · intro os o h
    rw [s.after_concat]
    exact h.occur o

variable {s : Supervision L} {s' : Supervision L'} {os qs : List Occurrence} {o : Occurrence}

theorem matches_after (D : L.Draining) (D' : L'.Draining)
    (h : (Erasure.quiet L).world (s.after os) = (Erasure.quiet L').world (s'.after qs)) :
    World.Matches D D' (s.after os) (s'.after qs) :=
  ⟨h, s.onCourse_after D os, s'.onCourse_after D' qs⟩

/-- A list of occurrences of one run that keeps up with another run. -/
structure Tracks (s : Supervision L) (s' : Supervision L') (os qs : List Occurrence) : Prop where
  plays : s'.Plays qs
  order : s.KeepsOrder os → s'.KeepsOrder qs
  quiet : (Erasure.quiet L).world (s.after os) = (Erasure.quiet L').world (s'.after qs)

/-- The other run goes on by itself until it can do what the one does next. -/
theorem Tracks.goOn (D : L.Draining) (D' : L'.Draining) (h : s.Tracks s' os qs)
    (ho : o.isChatter = false) (hcan : (s.after os).CanHappen o) :
    ∃ ls, (∀ l ∈ ls, l = .move .eventLoop) ∧ s.Tracks s' (os ++ [o]) (qs ++ ls ++ [o]) := by
  have hreading : o.isReading = false := (Bool.or_eq_false_iff.1 ho).2
  have hmatches := matches_after D D' h.quiet
  cases hearly : o.isEarly with
  | true =>
    obtain ⟨hcan', hturn⟩ := hmatches.early hearly hcan
    refine ⟨[], List.forall_mem_nil _, ?_⟩
    rw [List.append_nil]
    exact
      { plays := World.goes_concat.2 ⟨h.plays, hcan'⟩
        order := fun hkeeps =>
          have hsplit := World.goes_concat.1 hkeeps
          World.goes_concat.2 ⟨h.order hsplit.1, hturn hsplit.2⟩
        quiet := by
          rw [s.after_concat, s'.after_concat]
          exact World.quiet_occur h.quiet ho hcan hcan' }
  | false =>
    obtain ⟨ls, hls⟩ := hmatches.right.tended.catchUp
    have hafter : s'.after (qs ++ ls) = (s'.after qs).follow ls := World.follow_append _ qs ls
    have hquiet : (Erasure.quiet L).world (s.after os) =
        (Erasure.quiet L').world (s'.after (qs ++ ls)) := by
      rw [hafter, hls.quiet, h.quiet]
    have hidle : (s'.after (qs ++ ls)).eventLoop? = none := hafter ▸ hls.idle
    have hcaught := matches_after D D' hquiet
    have hcan' := hcaught.canHappen hidle hreading hcan
    refine ⟨ls, hls.loops, ?_⟩
    exact
      { plays := World.goes_concat.2 ⟨World.goes_append.2 ⟨h.plays, hls.plays⟩, hcan'⟩
        order := fun hkeeps =>
          have hsplit := World.goes_concat.1 hkeeps
          have hloops := hls.keepsOrder hmatches.right.tended
            (hmatches.early_idle hcan hreading hearly hsplit.2)
          World.goes_concat.2 ⟨World.goes_append.2 ⟨h.order hsplit.1, hloops⟩,
            hcaught.late hidle hreading hearly hsplit.2⟩
        quiet := by
          rw [s.after_concat, s'.after_concat]
          exact World.quiet_occur hquiet ho hcan hcan' }

/-- The one run goes on without the other. -/
theorem Tracks.left (D : L.Draining) (h : s.Tracks s' os qs) (ho : o.isChatter = true) :
    s.Tracks s' (os ++ [o]) qs where
  plays := h.plays
  order hkeeps := h.order (World.goes_concat.1 hkeeps).1
  quiet := by rw [s.after_concat, World.quiet_chatter (s.onCourse_after D os).tended ho, h.quiet]

/-- Something is reported in the other run. -/
theorem Tracks.right (D' : L'.Draining) (h : s.Tracks s' os qs) (ho : o.isTraffic = true) :
    s.Tracks s' os (qs ++ [o]) where
  plays := by
    refine World.goes_concat.2 ⟨h.plays, ?_⟩
    cases o <;> trivial
  order hkeeps := by
    refine World.goes_concat.2 ⟨h.order hkeeps, ?_⟩
    cases o <;> trivial
  quiet := by
    have hchatter : o.isChatter = true := by simp [Occurrence.isChatter, ho]
    rw [s'.after_concat, World.quiet_chatter (s'.onCourse_after D' qs).tended hchatter, h.quiet]

/-! ## The same lifecycle -/

/-- Two runs are given the same, apart from what their libraries report. -/
structure Resembles (s : Supervision L) (s' : Supervision L') : Prop where
  settings : s.settings = s'.settings
  files : s.files = s'.files
  signalCapacity : s.signalCapacity = s'.signalCapacity
  /-- The libraries answer alike when they are asked for a manager. -/
  refusal : s.refusal? = s'.refusal?
  /-- Every call takes as long and ends alike. -/
  hold : ∀ k n, (s.library.behaviour k n).hold = (s'.library.behaviour k n).hold
  result : ∀ k n, (s.library.behaviour k n).result = (s'.library.behaviour k n).result

theorem Resembles.quiet_library (h : s.Resembles s') : s.library.quiet = s'.library.quiet := by
  have hbehaviour (k : CallKind) (n : Nat) :
      ({ s.library.behaviour k n with reports := [] } : Behaviour) =
        { s'.library.behaviour k n with reports := [] } := by
    simp only [h.hold, h.result]
  have hadding := funext (hbehaviour .add)
  have hremoving := funext (hbehaviour .remove)
  have hstopping := hbehaviour .stop 0
  change Library.mk none (fun n => { s.library.behaviour .add n with reports := [] })
    (fun n => { s.library.behaviour .remove n with reports := [] })
    { s.library.behaviour .stop 0 with reports := [] } none = _
  rw [hadding, hremoving, hstopping]
  rfl

/-- Two runs that are given the same begin alike. -/
theorem Resembles.quiet_start (h : s.Resembles s') :
    (Erasure.quiet L).world s.start = (Erasure.quiet L').world s'.start := by
  have hlibrary := h.quiet_library
  obtain ⟨hsettings, hfiles, hcapacity, hrefusal, -, -⟩ := h
  obtain ⟨g, l, x, t, n⟩ := s
  obtain ⟨g', l', x', t', n'⟩ := s'
  obtain rfl : g = g' := hsettings
  obtain rfl : t = t' := hfiles
  obtain rfl : n = n' := hcapacity
  let c := Chronicle.record {} (.managerStarting g.managerOptions)
  have hquiet : Veil.quiet.chronicle (l.start c g.managerOptions).2 =
      Veil.quiet.chronicle (l'.start c g.managerOptions).2 := by
    rw [Veil.quiet_start, Veil.quiet_start]
  have hanswer : (l.start c g.managerOptions).1 = (l'.start c g.managerOptions).1 := hrefusal
  change (Erasure.quiet L).world (World.launch { settings := g, library := l } x t n) =
    (Erasure.quiet L').world (World.launch { settings := g, library := l' } x' t n)
  unfold World.launch
  simp only [Bool.false_eq_true, if_false]
  rcases hl : l.start c g.managerOptions with ⟨r, d⟩
  rcases hl' : l'.start c g.managerOptions with ⟨r', d'⟩
  rw [hl, hl'] at hquiet hanswer
  obtain rfl : r = r' := hanswer
  have hsetup : (Erasure.quiet L).setup { settings := g, library := l } =
      (Erasure.quiet L').setup { settings := g, library := l' } :=
    congrArg (fun l : Library => { settings := g, library := l : Setup }) hlibrary
  cases r with
  | some r =>
    have hd : (Erasure.quiet L).veil.chronicle d = (Erasure.quiet L').veil.chronicle d' := hquiet
    simp only [Erasure.world, hsetup, hd]
    rfl
  | none =>
    have hd (m : Message) (hm : (Happening.logged m none).isNoise = false) :
        (Erasure.quiet L).veil.chronicle (d.log m) =
          (Erasure.quiet L').veil.chronicle (d'.log m) := by
      have hshows : Veil.quiet.shows (.logged m none) = some (.logged m none) := by
        simp [Veil.quiet, hm]
      exact (Veil.record_of_shows hshows).trans
        ((congrArg (·.record (.logged m none)) hquiet).trans (Veil.record_of_shows hshows).symm)
    simp only [Erasure.world, hsetup, hd (.managerStarted _ _) rfl]
    rfl

/-- What has to do with notifications alone can be left out of two runs, or put into them. -/
structure Undisturbed (s : Supervision L) (s' : Supervision L') : Prop where
  /-- Runs in which everybody else makes the same moves have the same lifecycle. -/
  determined : ∀ os qs : List Occurrence, s.Plays os → s'.Plays qs →
    os.filter (!·.isChatter) = qs.filter (!·.isChatter) → (s.after os).LivesLike (s'.after qs)
  /-- Whatever the one run comes to, the other comes to it as well, with whatever is reported on
  the way. -/
  possible : ∀ os ps : List Occurrence, s.Plays os →
    os.filter (!·.isChatter) = ps.filter (!·.isChatter) →
    ∃ qs, s'.Plays qs ∧ qs.filter (!·.isReading) = ps.filter (!·.isReading) ∧
      (s.KeepsOrder os → s'.KeepsOrder qs) ∧ (s.after os).LivesLike (s'.after qs)
  /-- If everything happens duly, two runs with the same signals and the same files at the same
  times have the same lifecycle whenever both have come to rest, whatever is reported and when. -/
  alike : ∀ os qs : List Occurrence, s.start.GoesDuly (·.isInput) os →
    s'.start.GoesDuly (·.isInput) qs →
    s.start.inputs (·.isInput) os = s'.start.inputs (·.isInput) qs →
      (s.after os).now = (s'.after qs).now → (s.after os).LivesLike (s'.after qs)

theorem livesLike_of_quiet {w : World L} {v : World L'}
    (h : (Erasure.quiet L).world w = (Erasure.quiet L').world v) : w.LivesLike v := by
  have hkeeps : Veil.quiet.Keeps (·.isLifecycle) := by
    intro x
    have hloud (hx : x.isLifecycle = true) : x.isNoise = false := by
      unfold Happening.isLifecycle at hx
      split at hx <;> first | rfl | cases hx
    cases hx : x.isNoise with
    | false => simp [Veil.quiet, hx]
    | true =>
      have hlife : x.isLifecycle = false := by
        cases hlife : x.isLifecycle with
        | false => rfl
        | true => simp [hloud hlife] at hx
      simp [Veil.quiet, hx, hlife, Option.filter]
  exact Erasure.livesLike hkeeps hkeeps h

/-- Notifications have no influence on the lifecycle. -/
theorem undisturbed (D : L.Draining) (D' : L'.Draining) (h : s.Resembles s') :
    s.Undisturbed s' where
  determined os qs hos hqs hsame := by
    refine livesLike_of_quiet ?_
    revert hos hqs
    refine filter_induction (!·.isChatter) (P := fun os qs => s.Plays os → s'.Plays qs →
      (Erasure.quiet L).world (s.after os) = (Erasure.quiet L').world (s'.after qs)) ?_ ?_ ?_ ?_ os
      qs hsame
    · exact fun _ _ => h.quiet_start
    · intro os qs o ho ih hos hqs
      have hchatter : o.isChatter = true := by simpa using ho
      rw [s.after_concat, World.quiet_chatter (s.onCourse_after D os).tended hchatter]
      exact ih (World.goes_concat.1 hos).1 hqs
    · intro os qs o ho ih hos hqs
      have hchatter : o.isChatter = true := by simpa using ho
      rw [s'.after_concat, World.quiet_chatter (s'.onCourse_after D' qs).tended hchatter]
      exact ih hos (World.goes_concat.1 hqs).1
    · intro os qs o ho ih hos hqs
      obtain ⟨hos, hcan⟩ := World.goes_concat.1 hos
      obtain ⟨hqs, hcan'⟩ := World.goes_concat.1 hqs
      rw [s.after_concat, s'.after_concat]
      exact World.quiet_occur (ih hos hqs) (by simpa using ho) hcan hcan'
  possible os ps hos hsame := by
    suffices htracks : ∃ qs, s.Tracks s' os qs ∧
        qs.filter (!·.isReading) = ps.filter (!·.isReading) by
      obtain ⟨qs, hqs, hreported⟩ := htracks
      exact ⟨qs, hqs.plays, hreported, hqs.order, livesLike_of_quiet hqs.quiet⟩
    revert hos
    refine filter_induction (!·.isChatter) (P := fun os ps => s.Plays os →
      ∃ qs, s.Tracks s' os qs ∧ qs.filter (!·.isReading) = ps.filter (!·.isReading)) ?_ ?_ ?_ ?_
      os ps hsame
    · exact fun _ => ⟨[], ⟨trivial, fun _ => trivial, h.quiet_start⟩, rfl⟩
    · intro os ps o ho ih hos
      obtain ⟨qs, hqs, hreported⟩ := ih (World.goes_concat.1 hos).1
      exact ⟨qs, hqs.left D (by simpa using ho), hreported⟩
    · intro os ps o ho ih hos
      obtain ⟨qs, hqs, hreported⟩ := ih hos
      rcases Bool.or_eq_true_iff.1 (show o.isChatter = true by simpa using ho) with
        htraffic | hreading
      · refine ⟨qs ++ [o], hqs.right D' htraffic, ?_⟩
        rw [List.filter_append, List.filter_append, hreported]
      · refine ⟨qs, hqs, ?_⟩
        rw [List.filter_append, hreported]
        simp [hreading]
    · intro os ps o ho ih hos
      obtain ⟨hos, hcan⟩ := World.goes_concat.1 hos
      obtain ⟨qs, hqs, hreported⟩ := ih hos
      obtain ⟨ls, hls, hgone⟩ := hqs.goOn D D' (by simpa using ho) hcan
      refine ⟨qs ++ ls ++ [o], hgone, ?_⟩
      have hsilent : ls.filter (!·.isReading) = [] := by
        refine List.filter_eq_nil_iff.2 fun l hl => ?_
        rw [hls l hl]
        decide
      rw [List.filter_append, List.filter_append, List.filter_append, hsilent, hreported,
        List.append_nil]
  alike os qs hos hqs hinputs hnow := by
    have halike : World.Matches D D' s.start s'.start :=
      ⟨h.quiet_start, s.onCourse_after D [], s'.onCourse_after D' []⟩
    exact livesLike_of_quiet (World.Alongside.quiet_follow ⟨halike, hos, hqs, hinputs, hnow⟩)

/-- A run whose library says nothing. -/
def taciturn : Supervision (Script.loop []) where
  files := .plugged
  library := { adding := fun _ => { hold := some 5 } }
  loop := {}

/-- What the other library reports. -/
def murmur : Notification where
  event := { kind := .valueChanged }
  backing := .resource

/-- The same run with a loopback library that reports something of its own as well. -/
def talkative : Supervision (Script.loop []) :=
  { taciturn with
    library := {
      adding := fun _ => { hold := some 5, reports := [murmur] }
      loopback := some 7 } }

/-- The driver is added, the one event loop has nothing to do, and the run is stopped. -/
def taciturnCourse : List Occurrence :=
  [.move .cycle, .move .cycle, .pass 5, .move .endCall, .move .watchRemoval, .signal .interrupt,
    .move .takeSignal, .move .forwardStop, .move .session, .move .endCall, .move .eventLoop,
    .move .eventLoop, .move .session, .move .cycle, .move .endCall, .move .decide]

/-- Meanwhile the other one takes what is reported as the driver is added, then by itself, and as
the driver is removed. -/
def talkativeCourse : List Occurrence :=
  [.move .cycle, .move .cycle, .pass 5, .move .endCall, .move .eventLoop, .move .eventLoop,
    .move .eventLoop, .move .eventLoop, .move .eventLoop, .move .eventLoop, .move .watchRemoval,
    .notify [murmur, murmur], .move .eventLoop, .move .eventLoop, .move .eventLoop,
    .move .eventLoop, .signal .interrupt, .move .takeSignal, .move .forwardStop, .move .session,
    .move .eventLoop, .move .eventLoop, .move .endCall, .move .eventLoop, .move .eventLoop,
    .move .session, .move .cycle, .move .endCall, .move .decide]

theorem resembles_talkative : taciturn.Resembles talkative where
  settings := rfl
  files := rfl
  signalCapacity := rfl
  refusal := rfl
  hold k _ := by cases k <;> rfl
  result k _ := by cases k <;> rfl

theorem undisturbed_talkative :
    taciturn.Resembles talkative ∧
      (taciturn.after taciturnCourse).outcome? = some (.ok .completed) ∧
        (talkative.after talkativeCourse).chronicle.metrics.notifications ≠
            (taciturn.after taciturnCourse).chronicle.metrics.notifications ∧
          (taciturn.after taciturnCourse).LivesLike (talkative.after talkativeCourse) :=
  ⟨resembles_talkative, by decide +kernel, by decide +kernel,
    (undisturbed Script.draining Script.draining resembles_talkative).alike _ _
      (by decide +kernel) (by decide +kernel) (by decide +kernel) (by decide +kernel)⟩

end Supervision

end Hotplug
