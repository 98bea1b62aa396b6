import AuditDesk.Proofs.Desk.Notified
import AuditDesk.Proofs.Desk.Overlays
import AuditDesk.Proofs.Snippets.Refinement

/-! While a dialog is open it has the keyboard to itself, and nothing but its own keys closes it. The name in the
prompt is the label that the source had when the prompt was opened, with all that was typed since, whatever
else came to the desk in the meantime; and since no key reaches the source before the prompt is closed, there
is always something to save under that name. -/
namespace AuditDesk

section Typed

/-- What a key going down makes of a text that is being typed. -/
def KeyCode.edit (text : List Char) : KeyCode → List Char
  | .char c => text ++ [c]
  | .backspace => text.dropLast
  | _ => text

def KeyEvent.edit (key : KeyEvent) (text : List Char) : List Char :=
  if key.motion ≠ .press ∨ key.stops = true then text else key.code.edit text

variable {key : KeyEvent} {text : List Char}

theorem KeyEvent.edit_inert (hMotion : key.motion ≠ .press) : key.edit text = text := if_pos (.inl hMotion)

theorem KeyEvent.edit_stops (hStops : key.stops = true) : key.edit text = text := if_pos (.inr hStops)

theorem KeyEvent.edit_goes (hMotion : key.motion = .press) (hStops : key.stops = false) :
    key.edit text = key.code.edit text :=
  if_neg (by simp [hMotion, hStops])

/-- A text with all that has been typed since. -/
def typedOver (text : List Char) (os : List Occurrence) : List Char :=
  (os.filterMap Occurrence.key?).foldl (fun text key => key.edit text) text

theorem typedOver_concat (text : List Char) (os : List Occurrence) (last : Occurrence) :
    typedOver text (os ++ [last]) = (last.key?.map fun key => key.edit (typedOver text os)).getD (typedOver text os) := by
  rw [typedOver, List.filterMap_append, List.foldl_append]
  cases hKey : last.key? <;> simp [hKey, typedOver]

end Typed

namespace Desk

variable {d : Desk}

/-- What keys do while a dialog is open, and what no key does. -/
structure Captures (d : Desk) : Prop where
  inert : ∀ key : KeyEvent, key.motion ≠ .press → d.press key = d
  stops : ∀ key : KeyEvent, key.motion = .press → key.stops = true → d.press key = { d with quit := true }
  types : ∀ name, d.dialog = .save name → ∀ key : KeyEvent, key.code ≠ .escape → key.code ≠ .enter →
    key.stops = false → d.press key = { d with dialog := .save (String.ofList (key.edit name.toList)) }
  saves : ∀ name, d.dialog = .save name → ∀ key : KeyEvent, key.motion = .press → key.code = .enter →
    if Text.allBlank name = true then d.press key = d.notify .warning "Name Required" "Enter a name for the snippet"
    else ∃ store storage notices, d.press key =
      { d with store := store, storage := storage, notices := notices, dialog := .closed }
  reads : ∀ finding, d.dialog = .info finding → ∀ key : KeyEvent, key.code ≠ .escape → key.code ≠ .enter →
    key.code ≠ .char 'q' → key.stops = false → d.press key = d
  leaves : ∀ finding, d.dialog = .info finding → ∀ key : KeyEvent, key.motion = .press → key.code = .char 'q' →
    d.press key = { d with quit := true }
  returns : ∀ finding, d.dialog = .info finding → ∀ key : KeyEvent, key.motion = .press → key.code = .enter →
    d.press key = { d with dialog := .closed }
  closes : d.dialog ≠ .closed → ∀ key : KeyEvent, key.motion = .press → key.code = .escape →
    d.press key = { d with dialog := .closed }

section Pressing

theorem press_inert {key : KeyEvent} (hMotion : key.motion ≠ .press) : d.press key = d := if_pos hMotion

theorem press_stops {key : KeyEvent} (hMotion : key.motion = .press) (hStops : key.stops = true) :
    d.press key = { d with quit := true } := by
  rw [press, if_neg (not_not_intro hMotion)]
  exact if_pos hStops

/-- Any other key goes to the dialog that is open, or to the view. -/
theorem press_goes {key : KeyEvent} (hMotion : key.motion = .press) (hStops : key.stops = false) :
    d.press key =
      match d.dialog with
      | .save _ => d.pressInSave key.code
      | .info _ => d.pressInInfo key.code
      | .closed => d.pressInView key.code := by
  have hGoesOn : ¬(key.code = .char 'c' && key.control) = true := ne_true_of_eq_false hStops
  exact (if_neg (not_not_intro hMotion)).trans (if_neg hGoesOn)

theorem press_prompt {name : String} (hName : d.dialog = .save name) {key : KeyEvent}
    (hMotion : key.motion = .press) (hStops : key.stops = false) : d.press key = d.pressInSave key.code := by
  rw [press_goes hMotion hStops, hName]

theorem press_guidance {finding : String} (hFinding : d.dialog = .info finding) {key : KeyEvent}
    (hMotion : key.motion = .press) (hStops : key.stops = false) : d.press key = d.pressInInfo key.code := by
  rw [press_goes hMotion hStops, hFinding]

theorem press_view (hClosed : d.dialog = .closed) {key : KeyEvent} (hMotion : key.motion = .press)
    (hStops : key.stops = false) : d.press key = d.pressInView key.code := by
  rw [press_goes hMotion hStops, hClosed]

theorem stops_of_code {key : KeyEvent} (h : key.code ≠ .char 'c') : key.stops = false := by
  simp [KeyEvent.stops, h]

theorem press_types {name : String} (hName : d.dialog = .save name) {key : KeyEvent} (hEscape : key.code ≠ .escape)
    (hEnter : key.code ≠ .enter) (hStops : key.stops = false) :
    d.press key = { d with dialog := .save (String.ofList (key.edit name.toList)) } := by
  have hSame : d = { d with dialog := .save (String.ofList name.toList) } := by
    rw [String.ofList_toList, ← hName]
  by_cases hMotion : key.motion = .press
  · rw [press_prompt hName hMotion hStops, KeyEvent.edit_goes hMotion hStops]
    cases hCode : key.code with
    | escape => exact absurd hCode hEscape
    | enter => exact absurd hCode hEnter
    | char c =>
        change { d with dialog := d.dialog.typed c } = { d with dialog := .save (String.ofList (name.toList ++ [c])) }
        rw [hName, ← String.toList_push, String.ofList_toList]
        rfl
    | backspace =>
        change { d with dialog := d.dialog.backspace } =
          { d with dialog := .save (String.ofList name.toList.dropLast) }
        rw [hName]
        rfl
    | _ => exact hSame
  · rw [press_inert hMotion, KeyEvent.edit_inert hMotion]
    exact hSame

theorem confirmSave_blank {name : String} (hName : d.dialog = .save name) (hBlank : Text.allBlank name = true) :
    d.confirmSave = d.notify .warning "Name Required" "Enter a name for the snippet" := by
  have hSave : d.store.save d.storage name d.code d.language = ⟨.ok false, d.storage, d.store⟩ :=
    d.store.save_of_blank d.storage d.language (.inl ((Text.trim_eq_empty_iff name).mpr hBlank))
  have hBuffer : d.dialog.buffer? = some name := by rw [hName, Dialog.buffer?]
  unfold confirmSave
  rw [hBuffer]
  dsimp only
  rw [hSave]

theorem confirmSave_filled {name : String} (hName : d.dialog = .save name) (hFilled : Text.allBlank name = false)
    (hCode : Text.allBlank d.code = false) :
    ∃ store storage notices, d.confirmSave =
      { d with store := store, storage := storage, notices := notices, dialog := .closed } := by
  have hRules := d.store.save_rules d.storage name d.code d.language
  have hTaken : (d.store.save d.storage name d.code d.language).answer ≠ .ok false := by
    rw [Ne, hRules.refused, Text.trim_eq_empty_iff, Text.trim_eq_empty_iff, hFilled, hCode]
    simp
  have hBuffer : d.dialog.buffer? = some name := by rw [hName, Dialog.buffer?]
  unfold confirmSave
  rw [hBuffer]
  dsimp only
  split
  · exact ⟨_, _, _, rfl⟩
  · exact absurd ‹_› hTaken
  · exact ⟨_, _, _, rfl⟩

/-- With a source to save, it takes a blank name to be told that one is required. -/
theorem requires_name (hCode : ∀ name, d.dialog = .save name → Text.allBlank d.code = false) {key : KeyEvent}
    {level : NoticeLevel} {message : String}
    (hTold : (d.press key).notices = d.notices.push d.now level "Name Required" message) :
    key.motion = .press ∧ key.code = .enter ∧ ∃ name, d.dialog = .save name ∧ Text.allBlank name = true := by
  rcases (tells_press d key).title hTold with hPlain | ⟨hEmpty, _⟩ | ⟨_, hMotion, hEnter, name, hName, hRefused⟩
  · exact absurd hPlain (by decide)
  · exact absurd hEmpty (by decide)
  · have hBlank := (d.store.save_rules d.storage name d.code d.language).refused.mp hRefused
    rw [Text.trim_eq_empty_iff, Text.trim_eq_empty_iff, hCode name hName] at hBlank
    exact ⟨hMotion, hEnter, name, hName, hBlank.resolve_right Bool.false_ne_true⟩

theorem captures (hCode : ∀ name, d.dialog = .save name → Text.allBlank d.code = false) : d.Captures where
  inert _ := press_inert
  stops _ := press_stops
  types _ hName _ := press_types hName
  saves name hName key hMotion hEnter := by
    rw [press_prompt hName hMotion (stops_of_code (by simp [hEnter])), hEnter]
    split
    · exact confirmSave_blank hName ‹_›
    · exact confirmSave_filled hName (Bool.eq_false_iff.mpr ‹_›) (hCode name hName)
  reads finding hFinding key hEscape hEnter hLeaves hStops := by
    by_cases hMotion : key.motion = .press
    · rw [press_guidance hFinding hMotion hStops]
      unfold pressInInfo
      split
      · exact absurd ‹_› hEscape
      · exact absurd ‹_› hEnter
      · exact absurd ‹_› hLeaves
      · rfl
    · exact press_inert hMotion
  leaves finding hFinding key hMotion hLeaves := by
    rw [press_guidance hFinding hMotion (stops_of_code (by simp [hLeaves])), hLeaves]
    rfl
  returns finding hFinding key hMotion hEnter := by
    rw [press_guidance hFinding hMotion (stops_of_code (by simp [hEnter])), hEnter]
    rfl
  closes hOpen key hMotion hEscape := by
    have hStops : key.stops = false := stops_of_code (by simp [hEscape])
    cases hDialog : d.dialog with
    | closed => exact absurd hDialog hOpen
    | info finding =>
        rw [press_guidance hDialog hMotion hStops, hEscape]
        rfl
    | save name =>
        rw [press_prompt hDialog hMotion hStops, hEscape]
        rfl

end Pressing

section Prompting

/-- The prompt was opened by the s key on what had come before, with the label of the source in it, and has been
open ever since, always with what had been typed by then. -/
def Prompting (d : Desk) (os : List Occurrence) : Prop :=
  ∃ before opening after key, os = before ++ opening :: after ∧ (d.after before).dialog = .closed ∧
    opening.key? = some key ∧ key.motion = .press ∧ key.code = .char 's' ∧
    ∀ front, front <+: after → (d.after (before ++ opening :: front)).dialog =
      .save (String.ofList (typedOver ((d.after before).label.getD "").toList front))

theorem after_concat (d : Desk) (os : List Occurrence) (last : Occurrence) :
    d.after (os ++ [last]) = (d.after os).occur last := by
  simp [after]

theorem dialog_confirmSave : d.confirmSave.dialog = d.dialog ∨ d.confirmSave.dialog = .closed := by
  unfold confirmSave
  split
  · exact .inl rfl
  · dsimp only
    split
    · exact .inr rfl
    · exact .inl rfl
    · exact .inr rfl

/-- A key closes the prompt or edits the name in it. -/
theorem dialog_press_prompt {name : String} (hName : d.dialog = .save name) (key : KeyEvent) :
    (d.press key).dialog = .closed ∨
      (d.press key).dialog = .save (String.ofList (key.edit name.toList)) := by
  by_cases hMotion : key.motion = .press
  · by_cases hStops : key.stops = true
    · rw [press_stops hMotion hStops, KeyEvent.edit_stops hStops, String.ofList_toList]
      exact .inr hName
    · have hGoesOn := Bool.eq_false_iff.mpr hStops
      cases hCode : key.code with
      | escape =>
          rw [press_prompt hName hMotion hGoesOn, hCode]
          exact .inl rfl
      | enter =>
          have hEdit : key.edit name.toList = name.toList := by
            rw [KeyEvent.edit_goes hMotion hGoesOn, hCode]
            rfl
          rw [press_prompt hName hMotion hGoesOn, hCode, hEdit, String.ofList_toList, ← hName]
          exact dialog_confirmSave.symm
      | _ =>
          rw [press_types hName (by simp [hCode]) (by simp [hCode]) hGoesOn]
          exact .inr rfl
  · rw [press_inert hMotion, KeyEvent.edit_inert hMotion, String.ofList_toList]
    exact .inr hName

/-- An open prompt keeps the source as it is. -/
theorem code_press_prompt {name : String} (hName : d.dialog = .save name) (key : KeyEvent) :
    (d.press key).code = d.code := by
  unfold press
  split
  · rfl
  split
  · rfl
  rw [hName]
  exact congrArg Display.code (display_pressInSave d key.code)

/-- While the prompt is open, what occurs closes it or edits the name in it. -/
theorem occur_prompt {name next : String} (hName : d.dialog = .save name) {o : Occurrence}
    (hNext : (d.occur o).dialog = .save next) :
    next = String.ofList ((o.key?.map fun key => key.edit name.toList).getD name.toList) ∧
      (d.occur o).code = d.code := by
  cases hKey : o.key? with
  | none =>
      obtain ⟨hDialog, hCode⟩ := d.dialog_occur hKey
      rw [hDialog, hName] at hNext
      cases hNext
      exact ⟨String.ofList_toList.symm, hCode⟩
  | some key =>
      rw [d.occur_key hKey] at hNext ⊢
      refine ⟨?_, code_press_prompt hName key⟩
      rcases dialog_press_prompt hName key with hClosed | hEdited
      · rw [hClosed] at hNext
        cases hNext
      · rw [hEdited] at hNext
        exact (Dialog.save.inj hNext).symm

/-- Guidance gives way to no prompt. -/
theorem occur_guidance {finding next : String} (hFinding : d.dialog = .info finding) (o : Occurrence) :
    (d.occur o).dialog ≠ .save next := by
  cases hKey : o.key? with
  | none =>
      rw [(d.dialog_occur hKey).1, hFinding]
      exact Dialog.noConfusion
  | some key =>
      rw [d.occur_key hKey]
      unfold press
      split
      · simp [hFinding]
      split
      · simp [hFinding]
      rw [hFinding]
      dsimp only
      unfold pressInInfo
      split <;> simp [closeDialog, hFinding]

/-- With no dialog open it takes the s key and a source to open the prompt. -/
theorem occur_closed {name : String} (hClosed : d.dialog = .closed) {o : Occurrence}
    (hNext : (d.occur o).dialog = .save name) :
    ∃ key, o.key? = some key ∧ key.motion = .press ∧ key.code = .char 's' ∧ name = d.label.getD "" ∧
      Text.allBlank (d.occur o).code = false := by
  cases hKey : o.key? with
  | none =>
      rw [(d.dialog_occur hKey).1, hClosed] at hNext
      cases hNext
  | some key =>
      rw [d.occur_key hKey] at hNext ⊢
      by_cases hMotion : key.motion = .press
      · cases hStops : key.stops with
        | true =>
            rw [press_stops hMotion hStops, hClosed] at hNext
            cases hNext
        | false =>
            rw [press_view hClosed hMotion hStops] at hNext ⊢
            rw [dialog_pressInView, hClosed] at hNext
            split at hNext
            · cases hFound : d.finding? <;> rw [hFound] at hNext <;> cases hNext
            split at hNext
            · rename_i hSave
              have hOpened : d.openSave.code = d.code := by
                unfold openSave
                split <;> rfl
              rw [hSave.1]
              exact ⟨key, rfl, hMotion, hSave.1, (Dialog.save.inj hNext).symm, hOpened ▸ hSave.2⟩
            · cases hNext
      · rw [press_inert hMotion, hClosed] at hNext
        cases hNext

/-- Through any occurrences, an open prompt has come about as prompts do, and there is a source to save. -/
theorem prompting_after (hClosed : d.dialog = .closed) (os : List Occurrence) {name : String}
    (hName : (d.after os).dialog = .save name) : Text.allBlank (d.after os).code = false ∧ d.Prompting os := by
  induction os using List.reverseRecOn generalizing name with
  | nil =>
      rw [show d.after [] = d from rfl, hClosed] at hName
      cases hName
  | append_singleton os last ih =>
      rw [after_concat] at hName ⊢
      cases hBefore : (d.after os).dialog with
      | closed =>
          obtain ⟨key, hKey, hMotion, hSave, hLabel, hCode⟩ := occur_closed hBefore hName
          refine ⟨hCode, os, last, [], key, rfl, hBefore, hKey, hMotion, hSave, fun front hFront => ?_⟩
          rw [List.prefix_nil.mp hFront, after_concat, hName, hLabel]
          simp [typedOver]
      | info finding => exact absurd hName (occur_guidance hBefore last)
      | save before =>
          -- The prompt was open already, so it was opened where the induction found it.
          obtain ⟨hFilled, front, opening, since, key, hSplit, hShut, hKey, hMotion, hSave, hTyped⟩ := ih hBefore
          obtain ⟨hEdited, hCode⟩ := occur_prompt hBefore hName
          refine ⟨hCode ▸ hFilled, front, opening, since ++ [last], key, by simp [hSplit], hShut, hKey, hMotion, hSave,
            fun part hPart => ?_⟩
          rcases List.prefix_concat_iff.mp hPart with rfl | hEarlier
          · have hLatest := hTyped since (List.prefix_refl since)
            rw [← hSplit, hBefore] at hLatest
            have hWhole : front ++ opening :: (since ++ [last]) = os ++ [last] := by simp [hSplit]
            rw [hWhole, after_concat, hName, hEdited, typedOver_concat, Dialog.save.inj hLatest, String.toList_ofList]
          · exact hTyped part hEarlier

end Prompting

/-- Once the source has been given, and whatever the user does and whatever arrives after that: the two dialogs,
kept apart, are never open together and come to the one of the desk; an open prompt holds the label with what
was typed over it, and there is a source to save under it; a name is called missing only when a blank one is to
be saved; and an open dialog keeps the keys to itself. -/
theorem dialogs_capture (policy : PollPolicy) (exportDir : String) (files : FileTree) (storage : Storage)
    (store : SnippetStore) (warnings : List String) (code : String) (language : Language) (label : Option String)
    (os : List Occurrence) :
    let begun := (start policy exportDir files storage store warnings).setSource code language label
    let d := begun.after os
    let s := os.foldl Doubled.occur ⟨begun, ⟨none, none⟩⟩
    (s.desk = d ∧ s.overlays.front = d.dialog ∧ (s.overlays.guidance = none ∨ s.overlays.prompt = none)) ∧
    (∀ name, d.dialog = .save name → Text.allBlank d.code = false ∧ begun.Prompting os) ∧
    (∀ (key : KeyEvent) level message, (d.press key).notices = d.notices.push d.now level "Name Required" message →
      key.motion = .press ∧ key.code = .enter ∧ ∃ name, d.dialog = .save name ∧ Text.allBlank name = true) ∧
    d.Captures := by
  intro begun d s
  have hClosed : begun.dialog = .closed :=
    congrArg Display.dialog (display_start policy exportDir files storage store warnings)
  have hDoubled : s = ⟨d, d.dialog.overlays⟩ := by
    rw [← Doubled.after_overlays begun os, hClosed]
    rfl
  have hFilled : ∀ name, d.dialog = .save name → Text.allBlank d.code = false :=
    fun name hName => (prompting_after hClosed os hName).1
  refine ⟨?_, fun name => prompting_after hClosed os, fun key level message => requires_name hFilled,
    captures hFilled⟩
  rw [hDoubled]
  exact ⟨rfl, d.dialog.front_overlays, d.dialog.overlays_exclusive⟩

/-- A character goes as a whole, and neither the tabulator nor a key that is held adds one. -/
example :
    let d := (start .standard "" .empty .empty ⟨[]⟩ []).setSource "contract" .vyper (some "tok")
    ([KeyEvent.ofChar 's', .ofChar 'é', .ofCode .backspace, .ofChar 'a', .ofCode .tab,
      { KeyEvent.ofChar 'b' with motion := .hold }].foldl press d).dialog = .save "toka" := by decide

end Desk

end AuditDesk
