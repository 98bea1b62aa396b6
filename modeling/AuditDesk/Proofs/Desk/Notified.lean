import AuditDesk.Desk.Press

/-! What a key makes the desk tell the user: at most one thing, under a title that goes with the key. Two
titles blame something, an empty history and a name that is missing, and for them the reason is kept. -/
namespace AuditDesk

namespace Notices

/-- The newest notice is always kept. -/
theorem getLast?_push (ns : Notices) (now : Nat) (level : NoticeLevel) (title message : String) :
    (ns.push now level title message).kept.getLast? = some ⟨ns.nextId, level, title, message, now⟩ := by
  simp only [push, List.getLast?_drop, List.length_append, List.length_singleton, capacity]
  rw [if_neg (by omega), List.getLast?_concat]

theorem push_ne_self (ns : Notices) (now : Nat) (level : NoticeLevel) (title message : String) :
    ns.push now level title message ≠ ns :=
  fun hSame => Nat.succ_ne_self ns.nextId (congrArg nextId hSame)

end Notices

namespace Desk

/-- Between two desks the user is told at most one thing, under a title that may be told. -/
def TellsUnder (May : String → Prop) (d after : Desk) : Prop :=
  after.notices = d.notices ∨ ∃ level title message,
    after.notices = d.notices.push d.now level title message ∧ May title

/-- The titles that blame nothing the user could see. -/
def plainTitles : List String :=
  ["Analysis Running", "Nothing to Analyze", "Cancelling", "Nothing to Export", "Exported", "Export Failed",
    "Cannot Compare", "Nothing to Save", "Snippet Saved", "Save Failed", "Snippet Loaded", "Snippet Deleted",
    "Delete Failed"]

variable {d after : Desk} {May : String → Prop}

theorem TellsUnder.nothing (h : after.notices = d.notices) : d.TellsUnder May after := .inl h

theorem TellsUnder.told {level : NoticeLevel} {title message : String}
    (h : after.notices = d.notices.push d.now level title message) (hMay : May title) : d.TellsUnder May after :=
  .inr ⟨level, title, message, h, hMay⟩

theorem TellsUnder.mono {Might : String → Prop} (h : d.TellsUnder May after)
    (hMight : ∀ title, May title → Might title) : d.TellsUnder Might after :=
  h.imp_right fun ⟨level, title, message, hPush, hMay⟩ => ⟨level, title, message, hPush, hMight title hMay⟩

/-- What has been told was allowed. -/
theorem TellsUnder.title (h : d.TellsUnder May after) {level : NoticeLevel} {title message : String}
    (hPush : after.notices = d.notices.push d.now level title message) : May title := by
  rcases h with hSame | ⟨_, _, _, hTold, hMay⟩
  · exact absurd (hPush.symm.trans hSame) (Notices.push_ne_self _ _ _ _ _)
  · have hLast := congrArg (fun ns : Notices => ns.kept.getLast?) (hPush.symm.trans hTold)
    simp only [Notices.getLast?_push, Option.some.injEq, Notice.mk.injEq] at hLast
    exact hLast.2.2.1 ▸ hMay

section Keys

variable (d)

theorem notices_moveCursor (move : Nat → Nat) : (d.moveCursor move).notices = d.notices := by
  unfold moveCursor
  split <;> rfl

theorem notices_down : d.down.notices = d.notices := by
  unfold down
  dsimp only
  split
  · rfl
  · exact notices_moveCursor d _

theorem tells_startAnalysis : d.TellsUnder (· ∈ plainTitles) d.startAnalysis := by
  unfold startAnalysis
  split
  · exact .told rfl (by decide)
  split
  · exact .told rfl (by decide)
  · exact .nothing rfl

theorem tells_cancelAnalysis : d.TellsUnder (· ∈ plainTitles) d.cancelAnalysis.2 := by
  unfold cancelAnalysis
  split
  · exact .nothing rfl
  · dsimp only
    split
    · exact .told rfl (by decide)
    · exact .nothing rfl

theorem tells_exportReport (format : ExportFormat) : d.TellsUnder (· ∈ plainTitles) (d.exportReport format).2 := by
  unfold exportReport
  split
  · exact .told rfl (by decide)
  · split <;> exact .told rfl (by decide)

theorem tells_deleteSnippet : d.TellsUnder (· ∈ plainTitles) d.deleteSnippet := by
  unfold deleteSnippet
  dsimp only
  split
  · exact .told rfl (by decide)
  · exact .nothing rfl
  · exact .told rfl (by decide)

theorem tells_openSave : d.TellsUnder (· ∈ plainTitles) d.openSave := by
  unfold openSave
  split
  · exact .told rfl (by decide)
  · exact .nothing rfl

theorem tells_compareSelection : d.TellsUnder (· ∈ plainTitles) d.compareSelection := by
  unfold compareSelection
  split
  · exact .nothing rfl
  · exact .told rfl (by decide)

/-- The history is called empty where the toggle finds nothing. -/
theorem tells_activate :
    d.TellsUnder (fun title => title ∈ plainTitles ∨
      title = "History Empty" ∧ (d.history.toggle d.historyCursor).1 = none) d.activate := by
  unfold activate
  split
  · unfold openInfo
    split <;> exact .nothing rfl
  · unfold loadSnippet
    split
    · exact .nothing rfl
    · exact .told rfl (.inl (by decide))
  · unfold toggleSelection
    split
    · rename_i hNone
      exact .told rfl (.inr ⟨rfl, congrArg Prod.fst hNone⟩)
    · exact .nothing rfl
  · exact .nothing rfl

theorem tells_pressInView (code : KeyCode) :
    d.TellsUnder (fun title => title ∈ plainTitles ∨
      title = "History Empty" ∧ (d.history.toggle d.historyCursor).1 = none) (d.pressInView code) := by
  unfold pressInView
  split
  · exact .nothing rfl
  · exact .nothing rfl
  · exact .nothing (notices_down d)
  · exact .nothing (notices_moveCursor d _)
  · exact tells_activate d
  · exact (tells_cancelAnalysis d).mono fun _ => .inl
  · exact .nothing rfl
  · exact .nothing (notices_down d)
  · exact .nothing (notices_moveCursor d _)
  · exact (tells_startAnalysis d).mono fun _ => .inl
  · exact (tells_openSave d).mono fun _ => .inl
  · unfold refreshHistory
    split <;> exact .nothing rfl
  · exact (tells_compareSelection d).mono fun _ => .inl
  · exact (tells_exportReport d _).mono fun _ => .inl
  · exact (tells_exportReport d _).mono fun _ => .inl
  · exact .nothing rfl
  · split
    · exact (tells_deleteSnippet d).mono fun _ => .inl
    · exact .nothing rfl
  · exact .nothing rfl

/-- A name is asked for once more where the store refuses to save under the one typed. -/
theorem tells_confirmSave :
    d.TellsUnder (fun title => title ∈ plainTitles ∨ title = "Name Required" ∧
      ∃ name, d.dialog = .save name ∧ (d.store.save d.storage name d.code d.language).answer = .ok false)
      d.confirmSave := by
  unfold confirmSave
  split
  · exact .nothing rfl
  · rename_i name hName
    dsimp only
    split
    · exact .told rfl (.inl (by decide))
    · rename_i hRefused
      refine .told rfl (.inr ⟨rfl, name, ?_, hRefused⟩)
      cases hDialog : d.dialog with
      | save buffer =>
          rw [hDialog] at hName
          rw [Option.some.inj hName]
      | _ =>
          rw [hDialog] at hName
          cases hName
    · exact .told rfl (.inl (by decide))

theorem tells_pressInSave (code : KeyCode) :
    d.TellsUnder (fun title => title ∈ plainTitles ∨ title = "Name Required" ∧ code = .enter ∧
      ∃ name, d.dialog = .save name ∧ (d.store.save d.storage name d.code d.language).answer = .ok false)
      (d.pressInSave code) := by
  cases code with
  | enter => exact (tells_confirmSave d).mono fun _ => Or.imp_right (And.imp_right fun hRefused => ⟨rfl, hRefused⟩)
  | _ => exact .nothing rfl

/-- What a key can make the desk tell: something under a plain title, that the history is empty where a
report was to be selected, or that a name is required where the enter key was to save. -/
theorem tells_press (key : KeyEvent) :
    d.TellsUnder (fun title => title ∈ plainTitles ∨
      title = "History Empty" ∧ (d.history.toggle d.historyCursor).1 = none ∨
      title = "Name Required" ∧ key.motion = .press ∧ key.code = .enter ∧
        ∃ name, d.dialog = .save name ∧ (d.store.save d.storage name d.code d.language).answer = .ok false)
      (d.press key) := by
  unfold press
  split
  · exact .nothing rfl
  rename_i hMotion
  split
  · exact .nothing rfl
  split
  · refine (tells_pressInSave d key.code).mono fun title => Or.imp_right fun ⟨hTitle, hRefused⟩ => .inr ?_
    exact ⟨hTitle, Decidable.of_not_not hMotion, hRefused⟩
  · unfold pressInInfo
    split <;> exact .nothing rfl
  · exact (tells_pressInView d key.code).mono fun _ => Or.imp_right .inl

end Keys

end Desk

end AuditDesk
