import AuditDesk.Desk.Sitting
import AuditDesk.Proofs.Desk.Turn

/-! The sessions of the program make no other moves than the ones allowed, and their workers look at their
tokens first, so what holds of every attentive desk holds throughout a sitting. -/
namespace AuditDesk

open Service

namespace Desk

section Workers

variable {d : Desk}

theorem changeWorker_eq_self {id : Nat} {change : Worker → Worker}
    (h : ∀ worker ∈ d.workers, worker.id = id → change worker = worker) :
    d.changeWorker id change = d := by
  have hMap : (d.workers.map fun w => if w.id = id then change w else w) = d.workers := by
    refine (List.map_congr_left fun worker hMem => ?_).trans (List.map_id _)
    split
    · rename_i hId
      exact h worker hMem hId
    · rfl
  simp only [changeWorker, hMap]

theorem Attentive.happen (h : d.Attentive) {id : Nat} {worker : Worker} {event : Event}
    (hWorker : d.worker? id = some worker) (hMeet : worker.MayMeet event)
    (hToken : event ≠ .cancelled → worker.stops = false) : (d.happen id event).Attentive := by
  cases hStep : worker.errand.step d.policy event with
  | some next =>
      refine h.move (m := .happen id event) ⟨worker, hWorker, hMeet, by rw [hStep]; rfl⟩ ?_
      intro hOther w hFound
      rw [← Option.some.inj (hWorker.symm.trans hFound)]
      exact hToken hOther
  | none =>
      have hSame : d.happen id event = d := by
        refine changeWorker_eq_self fun other hOther hId => ?_
        obtain ⟨hMem, rfl⟩ := mem_of_worker? hWorker
        rw [h.reachable.staffed.eq_of_id hOther hMem hId, Worker.after, hStep]
        rfl
      rw [hSame]
      exact h

theorem Attentive.send (h : d.Attentive) (id : Nat) : (d.send id).Attentive := by
  cases hWorker : d.worker? id with
  | none =>
      have hSame : d.send id = d := by simp only [Desk.send, hWorker, Option.map_none]
      rw [hSame]
      exact h
  | some worker =>
      cases hErrand : worker.errand with
      | sending commands => exact h.move (m := .send id) ⟨worker, commands, hWorker, hErrand⟩ trivial
      | _ =>
          have hSame : d.send id = d := by simp only [Desk.send, hWorker, Option.map_some, hErrand]
          rw [hSame]
          exact h

theorem Attentive.sendAll (h : d.Attentive) (id : Nat) : (d.sendAll id).Attentive := by
  have hRounds : ∀ (rounds : List Nat) {d : Desk}, d.Attentive →
      (rounds.foldl (fun d _ => d.send id) d).Attentive := by
    intro rounds
    induction rounds with
    | nil => exact fun h => h
    | cons _ rounds ih => exact fun h => ih (h.send id)
  unfold Desk.sendAll
  split
  · exact hRounds _ h
  · exact h

end Workers

section Commands

variable {d : Desk}

/-- A command is applied without looking at those behind it. -/
theorem apply_queue (queue : List Command) (command : Command) :
    { d with queue := queue }.apply command = { d.apply command with queue := queue } := by
  cases command with
  | analysisFinished report =>
      simp only [apply, finishAnalysis]
      split <;> rfl
  | _ => rfl

theorem Attentive.drain (h : d.Attentive) : d.drain.2.Attentive := by
  have hQueue : ∀ (queue : List Command) (d : Desk), { d with queue := queue }.Attentive →
      (queue.foldl apply { d with queue := [] }).Attentive := by
    intro queue
    induction queue with
    | nil => exact fun _ h => h
    | cons command rest ih =>
        intro d h
        have hAllows : { d with queue := command :: rest }.Allows .deliver := List.cons_ne_nil _ _
        have hNext : ({ d with queue := rest }.apply command).Attentive := h.move hAllows trivial
        rw [apply_queue] at hNext
        rw [List.foldl_cons, apply_queue]
        exact ih (d.apply command) hNext
  exact hQueue d.queue d h

end Commands

end Desk

namespace Session

variable {s : Session}

theorem attentive_complete? {id : Nat} {next : Session} (h : s.desk.Attentive) {worker : Worker}
    (hWorker : s.desk.worker? id = some worker) (hBegun : worker.begun = true)
    (hGoesOn : worker.stops = false) (hNext : s.complete? id = some next) : next.desk.Attentive := by
  obtain ⟨pending, _, hNext⟩ := Option.bind_eq_some_iff.mp hNext
  obtain ⟨due, _, hNext⟩ := Option.bind_eq_some_iff.mp hNext
  split at hNext
  · split at hNext
    · cases hNext
      exact h.happen hWorker hBegun fun _ => hGoesOn
    · cases hNext
      exact h.happen hWorker hBegun fun _ => hGoesOn
  · cases hNext

theorem attentive_commence (h : s.desk.Attentive) {id : Nat} {worker : Worker} {action : Stage.Action}
    (hWorker : s.desk.worker? id = some worker) (hBegun : worker.begun = false)
    (hGoesOn : worker.stops = false)
    (hAction : worker.errand.action? s.desk.policy = some action) :
    (s.commence id action).desk.Attentive := by
  have hDesk : (s.commence id action).desk = s.desk.commence id := by cases action <;> rfl
  rw [hDesk]
  refine h.move (m := .commence id) ⟨worker, hWorker, hBegun, by rw [hAction]; rfl⟩ fun w hFound => ?_
  rw [← Option.some.inj (hWorker.symm.trans hFound)]
  exact hGoesOn

theorem attentive_advance? {id : Nat} {next : Session} (h : s.desk.Attentive)
    (hNext : s.advance? id = some next) : next.desk.Attentive := by
  obtain ⟨worker, hWorker, hNext⟩ := Option.bind_eq_some_iff.mp hNext
  split at hNext
  · rename_i hStops
    cases hNext
    exact h.happen hWorker (Bool.and_eq_true_iff.mp hStops).1 fun hOther => absurd rfl hOther
  · rename_i hStops
    have hGoesOn : worker.stops = false := Bool.eq_false_iff.mpr hStops
    split at hNext
    · cases hNext
      exact h.sendAll id
    · split at hNext
      · rename_i hBegun
        exact attentive_complete? h hWorker hBegun hGoesOn hNext
      · rename_i hIdle
        obtain ⟨action, hAction, rfl⟩ := Option.map_eq_some_iff.mp hNext
        exact attentive_commence h hWorker (Bool.eq_false_iff.mpr hIdle) hGoesOn hAction

theorem attentive_goOn (id : Nat) (steps : Nat) :
    ∀ {s : Session}, s.desk.Attentive → (goOn id steps s).desk.Attentive := by
  induction steps with
  | zero => exact fun h => h
  | succ steps ih =>
      intro s h
      unfold goOn
      split
      · rename_i next hNext
        exact ih (attentive_advance? h hNext)
      · exact h

theorem attentive_runReady (h : s.desk.Attentive) : s.runReady.desk.Attentive := by
  have hReady : ∀ (ready : List Nat) {s : Session}, s.desk.Attentive →
      (ready.foldl (fun s id => goOn id (s.stepsLeft id) s) s).desk.Attentive := by
    intro ready
    induction ready with
    | nil => exact fun h => h
    | cons id ready ih => exact fun h => ih (attentive_goOn id _ h)
  exact hReady s.ready h

theorem attentive_runUntil (untilCommand : Bool) (time : Nat) (moments : Nat) :
    ∀ {s : Session}, s.desk.Attentive → (runUntil untilCommand time moments s).desk.Attentive := by
  induction moments with
  | zero => exact fun h => attentive_runReady h
  | succ moments ih =>
      intro s h
      have hReady := attentive_runReady h
      simp only [runUntil]
      split
      · exact hReady
      · split
        · split
          · exact ih hReady
          · exact hReady
        · exact hReady

theorem attentive_wait (h : s.desk.Attentive) (milliseconds : Nat) :
    (s.wait milliseconds).desk.Attentive := attentive_runUntil _ _ _ h

theorem attentive_typeKeys (keys : List KeyEvent) :
    ∀ {s : Session}, s.desk.Attentive → (s.typeKeys keys).desk.Attentive := by
  induction keys with
  | nil => exact fun h => h
  | cons key keys ih =>
      intro s h
      have hDrained : ((s.wait 0).desk.drain.2).Attentive := (attentive_wait h 0).drain
      have hPassed := hDrained.move (m := .pass (s.wait 0).desk.drain.2.now) trivial trivial
      have hPressed := hPassed.move (m := .press key) trivial trivial
      simp only [typeKeys]
      split
      · exact hPressed.move (m := .cancel) trivial trivial
      · exact ih hPressed

/-- The desk at the end of a sitting is one that can come about, whatever the user types, and every worker
has looked at its token first. -/
theorem attentive_sit (setup : Setup) (files : FileTree) (clock : Clock) (keys : List KeyEvent) :
    ((start setup files clock).sit keys).desk.Attentive := by
  have hStart : (start setup files clock).desk.Attentive := .start ..
  exact attentive_typeKeys keys (hStart.move (m := .refresh) trivial trivial)

end Session

end AuditDesk
