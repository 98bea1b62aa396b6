import AuditDesk.Proofs.Desk.Display

/-! The two dialogs in places of their own. Each is opened without a look at the other, the prompt gets the
keys before the guidance does, and saving closes the prompt alone. Through any keys and commands they come to
the one dialog of a desk, so there is never more than one of them open. -/
namespace AuditDesk

/-- The key that quits in any case. -/
def KeyEvent.stops (key : KeyEvent) : Bool := key.code = .char 'c' && key.control

/-- What may happen to a desk whose source has been given: any move that gives no other, and any command. -/
inductive Occurrence where
  | move (m : Move) (hSource : m.givesSource = false)
  | command (command : Command)

/-- The key that went down, was held or came up, where it was one. -/
def Occurrence.key? : Occurrence → Option KeyEvent
  | .move (.press key) _ => some key
  | _ => none

namespace Desk

def occur (d : Desk) : Occurrence → Desk
  | .move m _ => d.move m
  | .command command => d.apply command

def after (d : Desk) (os : List Occurrence) : Desk := os.foldl occur d

/-- The finding on which the enter key shows guidance. -/
def finding? (d : Desk) : Option Finding :=
  if d.view = .results then d.report.bind fun r => r.findings[d.reportCursor]? else none

end Desk

/-- The two dialogs in places of their own: guidance on a finding, and the name typed so far. -/
structure Overlays where
  guidance : Option String
  prompt : Option String

namespace Overlays

/-- The dialog that takes the keys: the prompt if it is open, and else the guidance. -/
def front (o : Overlays) : Dialog :=
  match o.prompt, o.guidance with
  | some name, _ => .save name
  | none, some finding => .info finding
  | none, none => .closed

/-- Saving closes the prompt alone; a name that the store refuses leaves it open. -/
def confirm (o : Overlays) (d : Desk) (name : String) : Overlays :=
  match (d.store.save d.storage name d.code d.language).answer with
  | .ok false => o
  | _ => { o with prompt := none }

/-- Escape closes whatever is open. -/
def pressInPrompt (o : Overlays) (d : Desk) (name : String) : KeyCode → Overlays
  | .char c => { o with prompt := some (name.push c) }
  | .backspace => { o with prompt := some (String.ofList name.toList.dropLast) }
  | .enter => o.confirm d name
  | .escape => ⟨none, none⟩
  | _ => o

/-- Neither dialog is looked at when the other is opened. -/
def pressInView (o : Overlays) (d : Desk) (code : KeyCode) : Overlays :=
  if code = .enter then { o with guidance := (d.finding?.map Finding.name).or o.guidance }
  else if code = .char 's' ∧ Text.allBlank d.code = false then { o with prompt := some (d.label.getD "") }
  else o

def press (o : Overlays) (d : Desk) (key : KeyEvent) : Overlays :=
  if key.motion ≠ .press then o
  else if key.stops then o
  else
    match o.prompt, o.guidance with
    | some name, _ => o.pressInPrompt d name key.code
    | none, some _ => if key.code = .escape ∨ key.code = .enter then ⟨none, none⟩ else o
    | none, none => o.pressInView d key.code

end Overlays

/-- A desk whose dialogs are kept apart. -/
structure Doubled where
  desk : Desk
  overlays : Overlays

/-- Which dialog a key goes to is up to the overlays alone. -/
def Doubled.occur (s : Doubled) (o : Occurrence) : Doubled where
  desk := { s.desk with dialog := s.overlays.front }.occur o
  overlays := (o.key?.map (s.overlays.press s.desk)).getD s.overlays

def Dialog.overlays (dialog : Dialog) : Overlays := ⟨dialog.finding?, dialog.buffer?⟩

@[simp]
theorem Dialog.front_overlays (dialog : Dialog) : dialog.overlays.front = dialog := by cases dialog <;> rfl

theorem Dialog.overlays_exclusive (dialog : Dialog) :
    dialog.overlays.guidance = none ∨ dialog.overlays.prompt = none := by
  cases dialog with
  | save name => exact .inl rfl
  | _ => exact .inr rfl

namespace Desk

variable (d : Desk)

theorem dialog_activate : d.activate.dialog = (d.finding?.map fun finding => .info finding.name).getD d.dialog := by
  unfold activate finding?
  cases hView : d.view with
  | results =>
      simp only [↓reduceIte, openInfo]
      split
      · rename_i hFinding
        rw [hFinding]
        rfl
      · rename_i hNone
        rw [hNone]
        rfl
  | snippets =>
      simp only [loadSnippet]
      split <;> rfl
  | history =>
      simp only [toggleSelection]
      split <;> rfl
  | compare => rfl

theorem dialog_openSave :
    d.openSave.dialog = if Text.allBlank d.code = false then .save (d.label.getD "") else d.dialog := by
  unfold openSave
  cases Text.allBlank d.code <;> rfl

theorem dialog_compareSelection : d.compareSelection.dialog = d.dialog := by
  unfold compareSelection
  split <;> rfl

/-- In a view the enter key may open the guidance, the s key the prompt, and no other key a dialog. -/
theorem dialog_pressInView (code : KeyCode) :
    (d.pressInView code).dialog =
      if code = .enter then (d.finding?.map fun finding => .info finding.name).getD d.dialog
      else if code = .char 's' ∧ Text.allBlank d.code = false then .save (d.label.getD "")
      else d.dialog := by
  have hDisplay := congrArg Display.dialog (display_pressInView d code)
  rw [show (d.pressInView code).dialog = (d.pressInView code).display.dialog from rfl, hDisplay]
  by_cases hEnter : code = .enter
  · rw [if_pos hEnter, if_pos hEnter]
    exact dialog_activate d
  rw [if_neg hEnter, if_neg hEnter]
  by_cases hSave : code = .char 's'
  · rw [if_pos hSave]
    simp only [hSave, true_and]
    exact dialog_openSave d
  · have hNoSave : ¬(code = .char 's' ∧ Text.allBlank d.code = false) := fun h => hSave h.1
    rw [if_neg hSave, if_neg hNoSave]
    split
    · exact dialog_compareSelection d
    · rfl

theorem overlays_pressInView (hClosed : d.dialog = .closed) (code : KeyCode) :
    (d.pressInView code).dialog.overlays = d.dialog.overlays.pressInView d code := by
  rw [dialog_pressInView, Overlays.pressInView, hClosed]
  split
  · cases d.finding? <;> rfl
  split <;> rfl

theorem overlays_confirmSave {name : String} (hName : d.dialog = .save name) :
    d.confirmSave.dialog.overlays = d.dialog.overlays.confirm d name := by
  simp only [confirmSave, Overlays.confirm, hName, Dialog.buffer?]
  cases (d.store.save d.storage name d.code d.language).answer with
  | ok saved => cases saved <;> rfl
  | error e => rfl

theorem overlays_pressInSave {name : String} (hName : d.dialog = .save name) (code : KeyCode) :
    (d.pressInSave code).dialog.overlays = d.dialog.overlays.pressInPrompt d name code := by
  cases code with
  | enter => exact overlays_confirmSave d hName
  | char c =>
      change (d.dialog.typed c).overlays = d.dialog.overlays.pressInPrompt d name (.char c)
      rw [hName]
      rfl
  | backspace =>
      change d.dialog.backspace.overlays = d.dialog.overlays.pressInPrompt d name .backspace
      rw [hName]
      rfl
  | _ => rfl

theorem overlays_pressInInfo {finding : String} (hFinding : d.dialog = .info finding) (code : KeyCode) :
    (d.pressInInfo code).dialog.overlays =
      if code = .escape ∨ code = .enter then ⟨none, none⟩ else d.dialog.overlays := by
  unfold pressInInfo
  split
  · rfl
  · rfl
  · rfl
  · simp_all

/-- A key does to the one dialog what it does to the two. -/
theorem overlays_press (key : KeyEvent) : (d.press key).dialog.overlays = d.dialog.overlays.press d key := by
  unfold press Overlays.press
  split
  · rfl
  split
  · rw [if_pos ‹_›]
  · rw [if_neg ‹_›]
    split
    · rename_i name hName
      rw [overlays_pressInSave d hName, hName]
      rfl
    · rename_i finding hFinding
      rw [overlays_pressInInfo d hFinding, hFinding]
      rfl
    · rename_i hClosed
      rw [overlays_pressInView d hClosed, hClosed]
      rfl

theorem occur_key {o : Occurrence} {key : KeyEvent} (hKey : o.key? = some key) : d.occur o = d.press key := by
  cases o with
  | command command => cases hKey
  | move m hSource =>
      cases m with
      | press key =>
          cases hKey
          rfl
      | _ => cases hKey

/-- What is no key reaches neither the dialog nor the source. -/
theorem dialog_occur {o : Occurrence} (hKey : o.key? = none) :
    (d.occur o).dialog = d.dialog ∧ (d.occur o).code = d.code := by
  have hApply : ∀ (d : Desk) (command : Command),
      (d.apply command).dialog = d.dialog ∧ (d.apply command).code = d.code := by
    intro d command
    have hDisplay := display_apply d command
    have hDialog := congrArg Display.dialog hDisplay
    have hCode := congrArg Display.code hDisplay
    cases command <;> exact ⟨hDialog, hCode⟩
  cases o with
  | command command => exact hApply d command
  | move m hSource =>
      cases m with
      | press key => cases hKey
      | deliver =>
          simp only [occur, move, deliver]
          split
          · exact ⟨rfl, rfl⟩
          · exact hApply _ _
      | _ =>
          have hDisplay := display_move d hSource (fun _ => Move.noConfusion) Move.noConfusion
          exact ⟨congrArg Display.dialog hDisplay, congrArg Display.code hDisplay⟩

end Desk

variable {d : Desk}

theorem Doubled.occur_overlays (d : Desk) (o : Occurrence) :
    Doubled.occur ⟨d, d.dialog.overlays⟩ o = ⟨d.occur o, (d.occur o).dialog.overlays⟩ := by
  rw [Doubled.occur, Dialog.front_overlays]
  cases hKey : o.key? with
  | none =>
      rw [(d.dialog_occur hKey).1]
      rfl
  | some key =>
      rw [d.occur_key hKey, d.overlays_press]
      rfl

/-- The two dialogs kept apart come to the one of the desk. -/
theorem Doubled.after_overlays (d : Desk) (os : List Occurrence) :
    os.foldl Doubled.occur ⟨d, d.dialog.overlays⟩ = ⟨d.after os, (d.after os).dialog.overlays⟩ := by
  induction os generalizing d with
  | nil => rfl
  | cons o os ih => rw [List.foldl_cons, Doubled.occur_overlays, ih, Desk.after, Desk.after, List.foldl_cons]

end AuditDesk
