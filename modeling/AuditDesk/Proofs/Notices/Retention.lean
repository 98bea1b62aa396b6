import AuditDesk.Notices
import Mathlib.Data.List.Induction

/-! Which notices are still kept after any acts, and that an identifier that is gone does not come back. A
notice leaves for one of two reasons only: it is dismissed, or a later one is pushed and as many newer ones
are then kept as there is room for. -/
namespace AuditDesk.Notices

/-- What is done to the notices. -/
inductive Act where
  | push (now : Nat) (level : NoticeLevel) (title message : String)
  | dismiss (id : Nat)

def Act.isPush : Act → Bool
  | .push _ _ _ _ => true
  | .dismiss _ => false

def act (ns : Notices) : Act → Notices
  | .push now level title message => ns.push now level title message
  | .dismiss id => ns.dismiss id

/-- The notices after some acts, none before. -/
def after (acts : List Act) : Notices := acts.foldl act empty

/-- How many notices have been pushed. -/
def pushes (acts : List Act) : Nat := acts.countP Act.isPush

/-- How many of the notices kept are newer than this identifier. -/
def newer (ns : Notices) (id : Nat) : Nat := ns.kept.countP (id < ·.id)

/-- The notice was pushed as the act at this place, and numbered by the pushes before. -/
def PushedAt (acts : List Act) (n : Notice) (place : Nat) : Prop :=
  acts[place]? = some (.push n.created n.level n.title n.message) ∧ n.id = pushes (acts.take place)

/-- At some place behind this one there is an act such that `P` holds of it and of all acts up to it. -/
def Later (acts : List Act) (place : Nat) (P : List Act → Act → Prop) : Prop :=
  ∃ later a, place < later ∧ acts[later]? = some a ∧ P (acts.take (later + 1)) a

/-- The notice was dismissed. -/
def Dismisses (n : Notice) (_ : List Act) (a : Act) : Prop := a = .dismiss n.id

/-- A push that leaves only newer notices, as many as there is room for. -/
def CrowdsOut (n : Notice) (upTo : List Act) (a : Act) : Prop :=
  a.isPush = true ∧ newer (after upTo) n.id = capacity

/-- The notice was pushed, and since then it has been neither dismissed nor crowded out. -/
def Lasting (acts : List Act) (n : Notice) : Prop :=
  ∃ place, PushedAt acts n place ∧ ¬ Later acts place (Dismisses n) ∧ ¬ Later acts place (CrowdsOut n)

section Acts

variable (acts : List Act) (a : Act)

theorem after_concat : after (acts ++ [a]) = (after acts).act a := by
  rw [after, List.foldl_append]
  rfl

theorem pushes_concat : pushes (acts ++ [a]) = pushes acts + if a.isPush then 1 else 0 := by
  rw [pushes, List.countP_append, List.countP_singleton]
  rfl

theorem pushes_append (more : List Act) : pushes (acts ++ more) = pushes acts + pushes more :=
  List.countP_append

variable {acts a} {n : Notice} {place : Nat}

theorem PushedAt.lt (h : PushedAt acts n place) : place < acts.length :=
  (List.getElem?_eq_some_iff.mp h.1).1

theorem pushedAt_append (more : List Act) (hPlace : place < acts.length) :
    PushedAt (acts ++ more) n place ↔ PushedAt acts n place := by
  rw [PushedAt, List.getElem?_append_left hPlace, List.take_append_of_le_length (Nat.le_of_lt hPlace), PushedAt]

theorem pushedAt_last :
    PushedAt (acts ++ [a]) n acts.length ↔
      a = .push n.created n.level n.title n.message ∧ n.id = pushes acts := by
  rw [PushedAt, List.getElem?_concat_length, List.take_left, Option.some.injEq]

/-- What comes later in the beginning of a run comes later in the run. -/
theorem Later.append {P : List Act → Act → Prop} (h : Later acts place P) (more : List Act) :
    Later (acts ++ more) place P := by
  obtain ⟨later, found, hLater, hFound, hP⟩ := h
  have hLength : later < acts.length := (List.getElem?_eq_some_iff.mp hFound).1
  refine ⟨later, found, hLater, ?_, ?_⟩
  · rw [List.getElem?_append_left hLength, hFound]
  · rwa [List.take_append_of_le_length hLength]

theorem later_concat (P : List Act → Act → Prop) (hPlace : place < acts.length) :
    Later (acts ++ [a]) place P ↔ Later acts place P ∨ P (acts ++ [a]) a := by
  constructor
  · rintro ⟨later, found, hLater, hFound, hP⟩
    rcases Nat.lt_trichotomy later acts.length with hBefore | rfl | hBehind
    · rw [List.getElem?_append_left hBefore] at hFound
      rw [List.take_append_of_le_length hBefore] at hP
      exact .inl ⟨later, found, hLater, hFound, hP⟩
    · obtain rfl : a = found := by rwa [List.getElem?_concat_length, Option.some.injEq] at hFound
      rw [List.take_of_length_le (by simp)] at hP
      exact .inr hP
    · rw [List.getElem?_eq_none (by simpa using Nat.succ_le_of_lt hBehind)] at hFound
      cases hFound
  · rintro (hLater | hP)
    · exact hLater.append [a]
    · refine ⟨acts.length, a, hPlace, List.getElem?_concat_length, ?_⟩
      rwa [List.take_of_length_le (by simp)]

theorem not_later_last (P : List Act → Act → Prop) : ¬ Later (acts ++ [a]) acts.length P := by
  rintro ⟨later, found, hLater, hFound, -⟩
  have hLength := (List.getElem?_eq_some_iff.mp hFound).1
  rw [List.length_append, List.length_singleton] at hLength
  omega

/-- The last act either pushed the notice or is one more act behind the push. -/
theorem lasting_concat :
    Lasting (acts ++ [a]) n ↔
      (a = .push n.created n.level n.title n.message ∧ n.id = pushes acts) ∨
        Lasting acts n ∧ a ≠ .dismiss n.id ∧ ¬ CrowdsOut n (acts ++ [a]) a := by
  constructor
  · rintro ⟨place, hPushed, hKept, hRoom⟩
    have hLength := hPushed.lt
    rw [List.length_append, List.length_singleton] at hLength
    rcases Nat.lt_succ_iff_lt_or_eq.mp hLength with hBefore | rfl
    · rw [later_concat _ hBefore, not_or] at hKept hRoom
      rw [pushedAt_append _ hBefore] at hPushed
      exact .inr ⟨⟨place, hPushed, hKept.1, hRoom.1⟩, hKept.2, hRoom.2⟩
    · exact .inl (pushedAt_last.mp hPushed)
  · rintro (hNew | ⟨⟨place, hPushed, hKept, hRoom⟩, hNotDismissed, hNotCrowded⟩)
    · exact ⟨acts.length, pushedAt_last.mpr hNew, not_later_last _, not_later_last _⟩
    · have hBefore := hPushed.lt
      refine ⟨place, (pushedAt_append _ hBefore).mpr hPushed, ?_, ?_⟩
      · rw [later_concat _ hBefore, not_or]
        exact ⟨hKept, hNotDismissed⟩
      · rw [later_concat _ hBefore, not_or]
        exact ⟨hRoom, hNotCrowded⟩

end Acts

/-- The notices kept are in the order of their identifiers, and there is room for them. -/
structure Orderly (ns : Notices) : Prop where
  ascending : ns.kept.Pairwise (·.id < ·.id)
  issued : ∀ n ∈ ns.kept, n.id < ns.nextId
  room : ns.kept.length ≤ capacity

section Steps

variable {ns : Notices}

theorem mem_dismiss {n : Notice} {id : Nat} : n ∈ (ns.dismiss id).kept ↔ n ∈ ns.kept ∧ n.id ≠ id := by
  simp [dismiss]

theorem Orderly.dismiss (h : ns.Orderly) (id : Nat) : (ns.dismiss id).Orderly where
  ascending := h.ascending.filter _
  issued n hMem := h.issued n (mem_dismiss.mp hMem).1
  room := Nat.le_trans (List.length_filter_le _ _) h.room

variable (now : Nat) (level : NoticeLevel) (title message : String)

/-- Only the oldest notice can be dropped, and only where there is no room for one more. -/
theorem Orderly.kept_push (h : ns.Orderly) :
    (ns.push now level title message).kept =
      (if ns.kept.length < capacity then ns.kept else ns.kept.tail) ++
        [⟨ns.nextId, level, title, message, now⟩] := by
  have hRoom := h.room
  rw [push, List.length_append, List.length_singleton]
  split
  · rename_i hMore
    rw [Nat.sub_eq_zero_of_le hMore, List.drop_zero]
  · rename_i hFull
    have hOne : ns.kept.length + 1 - capacity = 1 := by omega
    have hSome : 1 ≤ ns.kept.length := by
      have : 1 ≤ capacity := by decide
      omega
    rw [hOne, List.drop_append_of_le_length hSome, List.drop_one]

theorem Orderly.push (h : ns.Orderly) : (ns.push now level title message).Orderly := by
  have hSublist : List.Sublist (if ns.kept.length < capacity then ns.kept else ns.kept.tail) ns.kept := by
    split
    · exact .refl _
    · exact List.tail_sublist _
  refine ⟨?_, ?_, ?_⟩
  · rw [h.kept_push, List.pairwise_append]
    refine ⟨h.ascending.sublist hSublist, List.pairwise_singleton _ _, fun n hMem last hLast => ?_⟩
    rw [List.mem_singleton.mp hLast]
    exact h.issued n (hSublist.subset hMem)
  · intro n hMem
    rw [h.kept_push] at hMem
    rcases List.mem_append.mp hMem with hOld | hNew
    · exact Nat.lt_succ_of_lt (h.issued n (hSublist.subset hOld))
    · rw [List.mem_singleton.mp hNew]
      exact Nat.lt_succ_self _
  · rw [Notices.push, List.length_drop]
    omega

theorem Orderly.act (h : ns.Orderly) (a : Act) : (ns.act a).Orderly := by
  cases a with
  | push now level title message => exact h.push now level title message
  | dismiss id => exact h.dismiss id

theorem Orderly.newer_lt (h : ns.Orderly) {n : Notice} (hMem : n ∈ ns.kept) : ns.newer n.id < capacity := by
  have hSelf : ns.newer n.id ≠ ns.kept.length := by
    rw [newer, Ne, List.countP_eq_length]
    intro hAll
    simpa using hAll n hMem
  have hLe : ns.newer n.id ≤ ns.kept.length := List.countP_le_length
  have hRoom := h.room
  omega

/-- When there is no room for one more, all notices left by a push are newer than the oldest one was. -/
theorem Orderly.newer_oldest (h : ns.Orderly) {oldest : Notice} {rest : List Notice}
    (hKept : ns.kept = oldest :: rest) (hFull : ¬ ns.kept.length < capacity) :
    (ns.push now level title message).newer oldest.id = capacity := by
  have hPushed := h.kept_push now level title message
  rw [if_neg hFull, hKept, List.tail_cons] at hPushed
  have hAscending := h.ascending
  have hRoom := h.room
  have hIssued := h.issued oldest (hKept ▸ List.mem_cons_self)
  rw [hKept] at hAscending hRoom hFull
  rw [List.length_cons] at hRoom hFull
  calc (ns.push now level title message).newer oldest.id
      = (ns.push now level title message).kept.length := by
        rw [newer, List.countP_eq_length, hPushed]
        intro other hOther
        rcases List.mem_append.mp hOther with hRest | hNew
        · exact decide_eq_true ((List.pairwise_cons.mp hAscending).1 other hRest)
        · rw [List.mem_singleton.mp hNew]
          exact decide_eq_true hIssued
    _ = capacity := by
        rw [hPushed, List.length_append, List.length_singleton]
        omega

/-- A push drops just those notices than which it leaves a full number of newer ones. -/
theorem Orderly.mem_push (h : ns.Orderly) {n : Notice} :
    n ∈ (ns.push now level title message).kept ↔
      n = ⟨ns.nextId, level, title, message, now⟩ ∨
        n ∈ ns.kept ∧ (ns.push now level title message).newer n.id ≠ capacity := by
  have hAfter := h.push now level title message
  constructor
  · intro hMem
    have hFew := Nat.ne_of_lt (hAfter.newer_lt hMem)
    rw [h.kept_push] at hMem
    rcases List.mem_append.mp hMem with hOld | hNew
    · refine .inr ⟨?_, hFew⟩
      split at hOld
      · exact hOld
      · exact List.mem_of_mem_tail hOld
    · exact .inl (List.mem_singleton.mp hNew)
  · rintro (rfl | ⟨hOld, hFew⟩)
    · rw [h.kept_push]
      exact List.mem_append_right _ (List.mem_singleton_self _)
    · rw [h.kept_push]
      refine List.mem_append_left _ ?_
      split
      · exact hOld
      · rename_i hFull
        obtain ⟨oldest, rest, hKept⟩ := List.exists_cons_of_ne_nil (List.ne_nil_of_mem hOld)
        rw [hKept] at hOld ⊢
        rcases List.mem_cons.mp hOld with rfl | hRest
        · exact absurd (h.newer_oldest now level title message hKept hFull) hFew
        · exact hRest

end Steps

section Runs

variable (acts : List Act)

theorem orderly_after : (after acts).Orderly := by
  induction acts using List.reverseRecOn with
  | nil => exact ⟨.nil, nofun, Nat.zero_le _⟩
  | append_singleton acts a ih =>
      rw [after_concat]
      exact ih.act a

theorem nextId_after : (after acts).nextId = pushes acts := by
  induction acts using List.reverseRecOn with
  | nil => rfl
  | append_singleton acts a ih =>
      rw [after_concat, pushes_concat, ← ih]
      cases a <;> rfl

/-- A notice is kept as long as it is neither dismissed nor crowded out. -/
theorem mem_after_iff (n : Notice) : n ∈ (after acts).kept ↔ Lasting acts n := by
  induction acts using List.reverseRecOn with
  | nil =>
      refine ⟨nofun, ?_⟩
      rintro ⟨place, hPushed, -⟩
      exact absurd hPushed.lt (Nat.not_lt_zero place)
  | append_singleton acts a ih =>
      rw [lasting_concat, ← ih, CrowdsOut, after_concat]
      cases a with
      | push now level title message =>
          have hNew : n = ⟨(after acts).nextId, level, title, message, now⟩ ↔
              Act.push now level title message = .push n.created n.level n.title n.message ∧
                n.id = pushes acts := by
            rw [nextId_after]
            cases n
            simp only [Notice.mk.injEq, Act.push.injEq]
            tauto
          rw [act, (orderly_after acts).mem_push, hNew]
          simp [Act.isPush]
      | dismiss id =>
          rw [act, mem_dismiss]
          simp [Act.isPush, eq_comm]

/-- What is kept after any acts and how it comes about. -/
structure Retention : Prop where
  ascending : (after acts).kept.Pairwise (·.id < ·.id)
  room : (after acts).kept.length ≤ capacity
  /-- Every push hands out the number of the pushes before it, so no identifier is handed out twice. -/
  numbered : (after acts).nextId = pushes acts
  /-- A notice that was pushed is missing only if it was dismissed or crowded out. -/
  kept_iff : ∀ n, n ∈ (after acts).kept ↔ Lasting acts n
  dismissed : ∀ id n, n ∈ (after (acts ++ [.dismiss id])).kept ↔ n ∈ (after acts).kept ∧ n.id ≠ id
  /-- The oldest notice makes room for the new one. -/
  pushed : ∀ now level title message, (after (acts ++ [.push now level title message])).kept =
    (if (after acts).kept.length < capacity then (after acts).kept else (after acts).kept.tail) ++
      [⟨pushes acts, level, title, message, now⟩]
  /-- Of the identifiers handed out so far, only those now kept can be kept later. -/
  gone : ∀ more n, n ∈ (after (acts ++ more)).kept → n.id < pushes acts → n ∈ (after acts).kept

/-- However pushes and dismissals follow one another, what is kept is told by the acts alone. -/
theorem retention : Retention acts := by
  have hOrderly := orderly_after acts
  refine ⟨hOrderly.ascending, hOrderly.room, nextId_after acts, mem_after_iff acts, ?_, ?_, ?_⟩
  · intro id n
    rw [after_concat]
    exact mem_dismiss
  · intro now level title message
    rw [after_concat, ← nextId_after]
    exact hOrderly.kept_push now level title message
  · intro more n hMem hIssued
    obtain ⟨place, hPushed, hKept, hRoom⟩ := (mem_after_iff _ n).mp hMem
    have hBefore : place < acts.length := by
      by_contra hBehind
      have hTake : (acts ++ more).take place = acts ++ more.take (place - acts.length) := by
        rw [List.take_append, List.take_of_length_le (Nat.le_of_not_lt hBehind)]
      have hNumber := hPushed.2
      rw [hTake, pushes_append] at hNumber
      omega
    exact (mem_after_iff acts n).mpr ⟨place, (pushedAt_append more hBefore).mp hPushed,
      fun h => hKept (h.append more), fun h => hRoom (h.append more)⟩

/-- A notice that was dismissed leaves room for another one, so the oldest stays. -/
example : (after (List.replicate 50 (.push 0 .info "" "") ++ [.dismiss 7, .push 0 .info "" ""])).kept.head? =
    some ⟨0, .info, "", "", 0⟩ := by decide +kernel

end Runs

end AuditDesk.Notices
