import AuditDesk.Proofs.Desk.Discipline
import AuditDesk.Proofs.Desk.Sitting

/-! What the workers of a desk do is what their errands need, each for itself. A worker that looks at its
token first is on the course of its errand under that token, whatever the user and the other workers do. -/
namespace AuditDesk

open Service Service.Diary

/-- What is left of an errand whose worker may have queued some of its commands. -/
inductive Errand.Left : Errand → Errand → Prop
  | all (errand : Errand) : Left errand errand
  | some {commands rest : List Command} (h : rest <:+ commands) : Left (.sending commands) (.sending rest)

/-- The token of a worker has fired if the user has cancelled, and will never fire if not. -/
structure TokenOf (cancelled : Bool) (fires : Option Nat) (diary : List Entry) : Prop where
  fired : fired fires diary = cancelled
  never : cancelled = false → fires = none

namespace TokenOf

variable {cancelled : Bool} {fires : Option Nat} {diary : List Entry}

theorem fresh : TokenOf false none diary := ⟨rfl, fun _ => rfl⟩

theorem append (h : TokenOf cancelled fires diary) (rest : List Entry) :
    TokenOf cancelled fires (diary ++ rest) := by
  refine ⟨?_, h.never⟩
  cases cancelled with
  | false =>
      rw [h.never rfl]
      rfl
  | true => exact fired_append h.fired rest

end TokenOf

/-- A worker is on the course of an analysis or of a fetch, under its token. -/
def Worker.OnCourse (policy : PollPolicy) (worker : Worker) : Prop :=
  ∃ first diary errand fires, (first = .listing ∨ ∃ request, first = .analysis request .asking) ∧
    CancellableCourse (Errand.action? policy) (Errand.step policy) Errand.heeds fires first diary errand
      worker.begun ∧
    TokenOf worker.cancelled fires diary ∧ errand.Left worker.errand

namespace Worker

variable {policy : PollPolicy} {worker : Worker}

theorem OnCourse.begins (h : worker.OnCourse policy) (hBegun : worker.begun = false)
    (hAction : (worker.errand.action? policy).isSome = true) (hGoesOn : worker.stops = false) :
    OnCourse policy { worker with begun := true } := by
  obtain ⟨first, diary, errand, fires, hFirst, hCourse, hToken, hLeft⟩ := h
  obtain ⟨action, hSome⟩ := Option.isSome_iff_exists.mp hAction
  rw [hBegun] at hCourse
  rw [stops, ← hToken.fired, Bool.and_comm] at hGoesOn
  generalize hErrand : worker.errand = left at hLeft hSome hGoesOn
  cases hLeft with
  | all =>
      exact ⟨first, _, errand, fires, hFirst, hCourse.begins hGoesOn hSome, hToken.append _,
        hErrand ▸ .all errand⟩
  | some => cases hSome

theorem OnCourse.meets {event : Event} {next : Errand} (h : worker.OnCourse policy)
    (hMeet : worker.MayMeet event) (hStep : worker.errand.step policy event = some next)
    (hGoesOn : event ≠ .cancelled → worker.stops = false) :
    OnCourse policy { worker with errand := next, begun := false } := by
  obtain ⟨first, diary, errand, fires, hFirst, hCourse, hToken, hLeft⟩ := h
  have hMay : event = .cancelled ∨ worker.begun = true := by
    cases event with
    | cancelled => exact .inl rfl
    | elapsed => exact .inr hMeet
    | reply reply => exact .inr hMeet
  rw [stops, ← hToken.fired, Bool.and_comm] at hGoesOn
  generalize hErrand : worker.errand = left at hLeft hStep hGoesOn
  cases hLeft with
  | all =>
      have hStops : event = .cancelled ↔ (errand.heeds && fired fires diary) = true := by
        refine ⟨?_, fun hStops => Classical.byContradiction fun hOther => ?_⟩
        · rintro rfl
          exact Bool.and_eq_true_iff.mpr ⟨Errand.heeds_of_step_cancelled hStep, hToken.fired.trans hMeet⟩
        · rw [hGoesOn hOther] at hStops
          cases hStops
      exact ⟨first, _, next, fires, hFirst, hCourse.meets hMay hStops hStep, hToken.append _, .all next⟩
  | some => cases hStep

theorem OnCourse.tells {command : Command} {rest : List Command} (h : worker.OnCourse policy)
    (hErrand : worker.errand = .sending (command :: rest)) :
    OnCourse policy { worker with errand := .sending rest } := by
  obtain ⟨first, diary, errand, fires, hFirst, hCourse, hToken, hLeft⟩ := h
  refine ⟨first, diary, errand, fires, hFirst, hCourse, hToken, ?_⟩
  rw [hErrand] at hLeft
  cases hLeft with
  | all => exact .some (List.suffix_cons command rest)
  | some hSuffix => exact .some ((List.suffix_cons command rest).trans hSuffix)

/-- The token of a worker fires when the user cancels. -/
theorem OnCourse.cancel (h : worker.OnCourse policy) : OnCourse policy { worker with cancelled := true } := by
  obtain ⟨first, diary, errand, fires, hFirst, hCourse, hToken, hLeft⟩ := h
  cases hCancelled : worker.cancelled with
  | true =>
      rw [hCancelled] at hToken
      exact ⟨first, diary, errand, fires, hFirst, hCourse, hToken, hLeft⟩
  | false =>
      obtain rfl := hToken.never hCancelled
      exact ⟨first, diary, errand, some diary.length, hFirst, hCourse.of_never (Nat.le_refl _),
        ⟨decide_eq_true (Nat.le_refl _), nofun⟩, hLeft⟩

theorem onCourse_fresh {errand : Errand}
    (h : errand = .listing ∨ ∃ request, errand = .analysis request .asking) (id : Nat) :
    OnCourse policy ⟨id, errand, false, false⟩ :=
  ⟨errand, [], errand, none, h, .start, .fresh, .all errand⟩

end Worker

theorem Work.Turn.policy {w after : Work} {m : Move} (h : w.Turn m after) : after.policy = w.policy := by
  cases h with
  | @delivers command rest => cases command <;> rfl
  | _ => rfl

theorem Desk.Heeds.onCourse {d : Desk} {m : Move} (hHeeds : d.Heeds m) (hStaffed : d.work.Staffed)
    {after : Work} (hTurn : d.work.Turn m after) (h : ∀ worker ∈ d.workers, worker.OnCourse d.policy) :
    ∀ worker ∈ after.workers, worker.OnCourse after.policy := by
  rw [hTurn.policy]
  intro worker hMem
  have hReplaced : ∀ {new : Worker}, worker ∈ (d.work.replace new).workers → new.OnCourse d.policy →
      worker.OnCourse d.policy := by
    intro new hWorker hNew
    rcases Work.mem_replace hWorker with rfl | ⟨hOld, _⟩
    · exact hNew
    · exact h worker hOld
  cases hTurn with
  | keeps => exact h worker hMem
  | starts _ _ request =>
      rcases List.mem_append.mp hMem with hOld | hNew
      · exact h worker hOld
      · rw [List.mem_singleton.mp hNew]
        exact Worker.onCourse_fresh (.inr ⟨request, rfl⟩) _
  | cancels =>
      obtain ⟨before, hBefore, rfl⟩ := List.mem_map.mp hMem
      split
      · exact (h before hBefore).cancel
      · exact h before hBefore
  | drops => exact h worker hMem
  | fetches =>
      rcases List.mem_append.mp hMem with hOld | hNew
      · exact h worker hOld
      · rw [List.mem_singleton.mp hNew]
        exact Worker.onCourse_fresh (.inl rfl) _
  | commences hBefore hBegun hAction =>
      have hGoesOn := hHeeds _ (Desk.worker?_of_mem hStaffed hBefore)
      exact hReplaced hMem ((h _ hBefore).begins hBegun hAction hGoesOn)
  | happens hBefore hMeet hStep =>
      have hGoesOn := fun hOther => hHeeds hOther _ (Desk.worker?_of_mem hStaffed hBefore)
      exact hReplaced hMem ((h _ hBefore).meets hMeet hStep hGoesOn)
  | sends hBefore hErrand => exact hReplaced hMem ((h _ hBefore).tells hErrand)
  | leaves => exact h worker (List.mem_filter.mp hMem).1
  | delivers =>
      rw [Work.workers_apply] at hMem
      exact h worker hMem

/-- When each worker looks at its token first, each is on the course of its own errand under that token,
whatever else happens at the desk. -/
theorem Desk.Attentive.onCourse {d : Desk} (h : d.Attentive) :
    ∀ worker ∈ d.workers, worker.OnCourse d.policy := by
  induction h with
  | start policy exportDir files storage store warnings =>
      have hNobody : (Desk.start policy exportDir files storage store warnings).workers = [] :=
        congrArg Work.workers (work_start ..)
      rw [hNobody]
      exact fun _ hMem => absurd hMem List.not_mem_nil
  | move hBefore hAllows hHeeds ih =>
      have hStaffed := hBefore.reachable.staffed
      exact hHeeds.onCourse hStaffed (turn_move hStaffed hAllows) ih

/-- Throughout a sitting each worker is on the course of its own errand, whatever the user types. -/
theorem Session.onCourse_sit (setup : Setup) (files : FileTree) (clock : Clock) (keys : List KeyEvent) :
    ∀ worker ∈ ((start setup files clock).sit keys).desk.workers,
      worker.OnCourse ((start setup files clock).sit keys).desk.policy :=
  (attentive_sit setup files clock keys).onCourse

end AuditDesk
