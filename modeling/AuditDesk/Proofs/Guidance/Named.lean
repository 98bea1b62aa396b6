import AuditDesk.CommandLine.Run
import AuditDesk.Screen.Frame
import Mathlib.Data.List.Forall2
import Mathlib.Data.List.Nodup

/-! Which reported names get guidance. A kind is known by its own name in any case; the kind of the deprecated
functions also by every name that goes on behind its own, with the colon that stands there or with anything
else. All other names get none, neither from the catalogue nor in the dialog nor from the command. -/
namespace AuditDesk

namespace Text

/-- The same character, or a letter of ASCII in both cases. -/
def SameLetter (c d : Char) : Prop :=
  c = d ∨ (c.isUpper = true ∧ d.toNat = c.toNat + 32) ∨ (d.isUpper = true ∧ c.toNat = d.toNat + 32)

/-- The same characters but for the case of letters of ASCII. -/
def SameLetters (cs ds : List Char) : Prop := List.Forall₂ SameLetter cs ds

/-- The first characters are these but for case, and this is what follows. -/
def GoesOn (cs start rest : List Char) : Prop := ∃ front, cs = front ++ rest ∧ SameLetters front start

section Case

variable {c d : Char} {cs ds start rest : List Char}

theorem isUpper_iff_toNat : c.isUpper = true ↔ 65 ≤ c.toNat ∧ c.toNat ≤ 90 := by
  change decide (c.val ≥ 65 ∧ c.val ≤ 90) = true ↔ 65 ≤ c.val.toNat ∧ c.val.toNat ≤ 90
  simp only [decide_eq_true_eq, ge_iff_le, UInt32.le_iff_toNat_le]
  rfl

theorem toNat_toLower (c : Char) :
    c.toLower.toNat = if 65 ≤ c.toNat ∧ c.toNat ≤ 90 then c.toNat + 32 else c.toNat := by
  by_cases hUpper : c.isUpper = true
  · have hRange := isUpper_iff_toNat.mp hUpper
    have hLower : c.toLower.toNat = (c.val + 32).toNat := congrArg Char.toNat (dif_pos (of_decide_eq_true hUpper))
    have hSmall : c.val.toNat ≤ 90 := hRange.2
    rw [if_pos hRange, hLower, UInt32.toNat_add, show (32 : UInt32).toNat = 32 from rfl]
    change (c.val.toNat + 32) % 4294967296 = c.val.toNat + 32
    omega
  · have hSame : c.toLower = c := dif_neg fun hRange => hUpper (decide_eq_true hRange)
    rw [if_neg ((not_congr isUpper_iff_toNat).mp hUpper), hSame]

theorem toLower_eq_iff : c.toLower = d.toLower ↔ SameLetter c d := by
  simp only [SameLetter, ← Char.toNat_inj, toNat_toLower, isUpper_iff_toNat]
  split <;> split <;> omega

theorem map_toLower_eq_iff : cs.map Char.toLower = ds.map Char.toLower ↔ SameLetters cs ds := by
  rw [← List.forall₂_eq_eq_eq, List.forall₂_map_left_iff, List.forall₂_map_right_iff, SameLetters]
  simp only [toLower_eq_iff]

theorem toList_asciiLower (text : String) : (asciiLower text).toList = text.toList.map Char.toLower :=
  String.toList_ofList

theorem asciiLower_eq_iff {text other : String} :
    asciiLower text = asciiLower other ↔ SameLetters text.toList other.toList := by
  rw [← String.toList_inj, toList_asciiLower, toList_asciiLower, map_toLower_eq_iff]

/-- Letters apart, the characters are the same. -/
theorem SameLetter.eq_of_other (h : SameLetter c d) (hOther : ¬ (65 ≤ d.toNat ∧ d.toNat ≤ 122)) : c = d := by
  rcases h with hSame | ⟨hUpper, hNat⟩ | ⟨hUpper, hNat⟩
  · exact hSame
  · have := isUpper_iff_toNat.mp hUpper
    omega
  · have := isUpper_iff_toNat.mp hUpper
    omega

theorem goesOn_nil : GoesOn cs start [] ↔ SameLetters cs start := by
  simp [GoesOn]

/-- What follows one more character is what followed without that character. -/
theorem goesOn_concat :
    GoesOn cs (start ++ [d]) rest ↔ ∃ c, SameLetter c d ∧ GoesOn cs start (c :: rest) := by
  constructor
  · rintro ⟨front, rfl, hFront⟩
    have hBefore := List.forall₂_take_append front start [d] hFront
    obtain ⟨c, none, hSame, hNone, hLast⟩ :=
      List.forall₂_cons_right_iff.mp (List.forall₂_drop_append front start [d] hFront)
    rw [List.forall₂_nil_right_iff.mp hNone] at hLast
    refine ⟨c, hSame, front.take start.length, ?_, hBefore⟩
    rw [List.append_cons, ← hLast, List.take_append_drop]
  · rintro ⟨c, hSame, front, rfl, hFront⟩
    refine ⟨front ++ [c], by simp, ?_⟩
    exact List.rel_append hFront (.cons hSame .nil)

theorem GoesOn.unique {other : List Char} (h : GoesOn cs start rest) (hOther : GoesOn cs start other) :
    rest = other := by
  obtain ⟨front, rfl, hFront⟩ := h
  obtain ⟨front', hSplit, hFront'⟩ := hOther
  exact (List.append_inj hSplit (hFront.length_eq.trans hFront'.length_eq.symm)).2

theorem map_toLower_prefix_iff :
    start.map Char.toLower <+: cs.map Char.toLower ↔ ∃ rest, GoesOn cs start rest := by
  constructor
  · rintro ⟨lowered, hSplit⟩
    obtain ⟨front, rest, rfl, hFront, -⟩ := List.map_eq_append_iff.mp hSplit.symm
    exact ⟨rest, front, rfl, map_toLower_eq_iff.mp hFront⟩
  · rintro ⟨rest, front, rfl, hFront⟩
    rw [List.map_append, map_toLower_eq_iff.mpr hFront]
    exact List.prefix_append _ _

end Case

end Text

namespace KnownFinding

/-- The name without the white space around it begins with this text but for case; this is what follows. -/
def Begins (reported start : String) (rest : List Char) : Prop :=
  Text.GoesOn (Text.trim reported).toList start.toList rest

/-- The name without the white space around it is that of the kind, whatever the case; or it is that of
the deprecated functions, a colon and anything behind it. -/
def Names (kind : KnownFinding) (reported : String) : Prop :=
  Text.SameLetters (Text.trim reported).toList kind.name.toList ∨
    kind = .deprecatedFunction ∧ ∃ rest, Begins reported "Deprecated Function:" rest

/-- The name goes on behind that of the deprecated functions, but not with a colon. -/
def Strays (reported : String) : Prop := ∃ c rest, Begins reported "Deprecated Function" (c :: rest) ∧ c ≠ ':'

section Catalogue

variable {reported : String} {kind : KnownFinding}

theorem name_inj {other : KnownFinding} (h : Text.asciiLower kind.name = Text.asciiLower other.name) :
    kind = other := by
  have hNodup : (all.map fun k => Text.asciiLower k.name).Nodup := by decide +kernel
  exact List.inj_on_of_nodup_map hNodup (mem_all kind) (mem_all other) h

theorem prefix_iff : deprecatedStart.toList <+: (Text.asciiLower (Text.trim reported)).toList ↔
    ∃ rest, Begins reported "Deprecated Function" rest := by
  simp only [Begins]
  rw [← Text.map_toLower_prefix_iff, Text.toList_asciiLower]
  exact Iff.rfl

/-- No other kind has a name that begins like that of the deprecated functions. -/
theorem eq_deprecatedFunction (h : deprecatedStart.toList <+: (Text.asciiLower kind.name).toList) :
    kind = .deprecatedFunction := by
  revert h
  cases kind <;> decide +kernel

theorem begins_colon_iff {rest : List Char} :
    Begins reported "Deprecated Function:" rest ↔ Begins reported "Deprecated Function" (':' :: rest) := by
  have hText : "Deprecated Function:".toList = "Deprecated Function".toList ++ [':'] := rfl
  rw [Begins, hText, Text.goesOn_concat]
  constructor
  · rintro ⟨c, hSame, hBegins⟩
    rwa [hSame.eq_of_other (by decide)] at hBegins
  · exact fun hBegins => ⟨':', .inl rfl, hBegins⟩

theorem begins_nil_iff :
    Begins reported "Deprecated Function" [] ↔
      Text.SameLetters (Text.trim reported).toList deprecatedFunction.name.toList :=
  Text.goesOn_nil

/-- A name that begins like that of the deprecated functions is that name, goes on with a colon, or strays. -/
theorem names_or_strays_iff :
    deprecatedFunction.Names reported ∨ Strays reported ↔ ∃ rest, Begins reported "Deprecated Function" rest := by
  constructor
  · rintro ((hSame | ⟨-, rest, hColon⟩) | ⟨c, rest, hBegins, -⟩)
    · exact ⟨[], begins_nil_iff.mpr hSame⟩
    · exact ⟨_, begins_colon_iff.mp hColon⟩
    · exact ⟨_, hBegins⟩
  · rintro ⟨_ | ⟨c, rest⟩, hBegins⟩
    · exact .inl (.inl (begins_nil_iff.mp hBegins))
    · by_cases hColon : c = ':'
      · subst hColon
        exact .inl (.inr ⟨rfl, rest, begins_colon_iff.mpr hBegins⟩)
      · exact .inr ⟨c, rest, hBegins, hColon⟩

/-- A name that strays is in no documented way that of a kind. -/
theorem Strays.not_names (h : Strays reported) : ¬ deprecatedFunction.Names reported := by
  obtain ⟨c, rest, hBegins, hOther⟩ := h
  rintro (hSame | ⟨-, more, hColon⟩)
  · exact absurd (hBegins.unique (begins_nil_iff.mpr hSame)) (List.cons_ne_nil c rest)
  · exact hOther (List.cons.inj (hBegins.unique (begins_colon_iff.mp hColon))).1

theorem ofName?_of_begins {rest : List Char} (h : Begins reported "Deprecated Function" rest) :
    ofName? reported = some .deprecatedFunction := by
  have hPrefix := List.isPrefixOf_iff_prefix.mpr (prefix_iff.mpr ⟨rest, h⟩)
  unfold ofName?
  dsimp only
  rw [if_pos hPrefix]

theorem ofName?_of_not_begins (h : ¬ ∃ rest, Begins reported "Deprecated Function" rest) :
    ofName? reported = some kind ↔ Text.SameLetters (Text.trim reported).toList kind.name.toList := by
  have hSearch : ofName? reported =
      all.find? fun k => Text.asciiLower k.name == Text.asciiLower (Text.trim reported) := by
    unfold ofName?
    dsimp only
    rw [if_neg fun hPrefix => h (prefix_iff.mp (List.isPrefixOf_iff_prefix.mp hPrefix))]
  have hName : ∀ {found}, ofName? reported = some found →
      Text.asciiLower found.name = Text.asciiLower (Text.trim reported) := by
    intro found hFound
    rw [hSearch] at hFound
    simpa only [beq_iff_eq] using List.find?_some hFound
  rw [← Text.asciiLower_eq_iff]
  constructor
  · exact fun hFound => (hName hFound).symm
  · intro hSame
    cases hFound : ofName? reported with
    | some found => rw [name_inj ((hName hFound).trans hSame)]
    | none =>
        rw [hSearch, List.find?_eq_none] at hFound
        exact absurd (beq_iff_eq.mpr hSame.symm) (hFound kind (mem_all kind))

/-- A documented name has its kind, and one that strays has the kind of the deprecated functions. -/
theorem ofName?_eq_some_iff :
    ofName? reported = some kind ↔ kind.Names reported ∨ (Strays reported ∧ kind = .deprecatedFunction) := by
  by_cases hBegins : ∃ rest, Begins reported "Deprecated Function" rest
  · obtain ⟨rest, hRest⟩ := hBegins
    rw [ofName?_of_begins hRest, Option.some.injEq]
    constructor
    · rintro rfl
      exact (names_or_strays_iff.mpr ⟨rest, hRest⟩).imp_right fun hStrays => ⟨hStrays, rfl⟩
    · rintro ((hSame | ⟨rfl, -⟩) | ⟨-, rfl⟩)
      · refine (eq_deprecatedFunction ?_).symm
        rw [← Text.asciiLower_eq_iff.mpr hSame]
        exact prefix_iff.mpr ⟨rest, hRest⟩
      · rfl
      · rfl
  · rw [ofName?_of_not_begins hBegins]
    constructor
    · exact fun hSame => .inl (.inl hSame)
    · rintro ((hSame | ⟨-, rest, hColon⟩) | ⟨hStrays, -⟩)
      · exact hSame
      · exact absurd ⟨_, begins_colon_iff.mp hColon⟩ hBegins
      · exact absurd (names_or_strays_iff.mp (.inr hStrays)) hBegins

end Catalogue

end KnownFinding

section Places

open Screen CommandLine

/-- The dialog for this name is drawn as a panel with these lines. -/
def Desk.ShowsInfo (reported : String) (lines : List Line) : Prop :=
  ∀ (d : Desk) area c, d.dialog = .info reported →
    d.drawDialog area c = (c.clear (area.centered 70 70)).textPanel (area.centered 70 70)
      ⟨.plain " Vulnerability Info ", .ofColor .yellow, .onBlack⟩ .plain .wrap lines

/-- The command for this name goes well, prints this behind the warnings of the start, and leaves all else. -/
def CommandLine.PrintsInfo (reported : String) (printed : Output → Output) : Prop :=
  ∀ input w, Command.run (.info reported) input w =
    (.ok (), { w with input := input, output := printed (w.setup.warnings.foldl Output.warning .empty) })

/-- A reported name is explained with this guidance wherever guidance is given. -/
structure Explained (reported : String) (g : Guidance) : Prop where
  lookup : Guidance.lookup reported = some g
  dialog : Desk.ShowsInfo reported
    [.styled g.title (Style.ofColor .white).bolder, [], .styled "Description" Desk.selectedStyle,
      .plain g.description, [], .styled "Mitigation" Desk.selectedStyle, .plain g.mitigation, [],
      .styled "Reference" Desk.selectedStyle, .styled g.reference (.ofColor .cyan)]
  command : PrintsInfo reported fun o =>
    { o with standard := o.standard ++ g.title ++ "\n\nDescription:\n  " ++ g.description ++
        "\n\nMitigation:\n  " ++ g.mitigation ++ "\n\nReference: " ++ g.reference ++ "\n" }

/-- A reported name is explained nowhere, and this is said instead. -/
structure Unexplained (reported : String) : Prop where
  lookup : Guidance.lookup reported = none
  dialog : Desk.ShowsInfo reported
    [.styled reported (Style.ofColor .white).bolder, [],
      .plain "No additional information available for this vulnerability."]
  command : PrintsInfo reported
    (·.warning ("No additional information available for '" ++ reported ++ "'"))

variable {reported : String}

theorem showsInfo (reported : String) : Desk.ShowsInfo reported (Desk.guidanceLines reported) := by
  intro d area c hDialog
  simp only [Desk.drawDialog, hDialog]

theorem printsInfo {printed : Output → Output}
    (h : CommandLine.info reported = Step.print printed) : PrintsInfo reported printed := by
  intro input w
  simp only [Command.run, Command.steps, h]
  rfl

theorem explained_of_lookup {g : Guidance} (h : Guidance.lookup reported = some g) : Explained reported g where
  lookup := h
  dialog := by
    have hShows := showsInfo reported
    unfold Desk.guidanceLines at hShows
    rwa [h] at hShows
  command := by
    refine printsInfo ?_
    simp only [CommandLine.info, h]
    refine congrArg Step.print (funext fun o => ?_)
    refine congrArg (Output.mk · o.error) (String.toList_inj.mp ?_)
    simp [Output.line]

theorem unexplained_of_lookup (h : Guidance.lookup reported = none) : Unexplained reported where
  lookup := h
  dialog := by
    have hShows := showsInfo reported
    unfold Desk.guidanceLines at hShows
    rwa [h] at hShows
  command := by
    refine printsInfo ?_
    simp only [CommandLine.info, h]

end Places

/-- A kind is found for just the names documented for it, and that of the deprecated functions for names that
stray as well. The name is then explained with the guidance on the kind, and any other name nowhere. -/
theorem guidance_by_name (reported : String) :
    (∀ kind, KnownFinding.ofName? reported = some kind ↔
      kind.Names reported ∨ (KnownFinding.Strays reported ∧ kind = .deprecatedFunction)) ∧
    ((∀ kind, KnownFinding.ofName? reported = some kind ↔ kind.Names reported) ↔
      ¬ KnownFinding.Strays reported) ∧
    match KnownFinding.ofName? reported with
    | some kind => Explained reported kind.guidance
    | none => Unexplained reported := by
  refine ⟨fun kind => KnownFinding.ofName?_eq_some_iff, ⟨fun hDocumented hStrays => ?_, fun hStays kind => ?_⟩, ?_⟩
  · refine hStrays.not_names ((hDocumented .deprecatedFunction).mp ?_)
    exact KnownFinding.ofName?_eq_some_iff.mpr (.inr ⟨hStrays, rfl⟩)
  · rw [KnownFinding.ofName?_eq_some_iff, or_iff_left fun hBoth => hStays hBoth.1]
  · split
    · rename_i kind hKind
      exact explained_of_lookup (by rw [Guidance.lookup, hKind, Option.map_some])
    · rename_i hNone
      exact unexplained_of_lookup (by rw [Guidance.lookup, hNone, Option.map_none])

/-- Another word that begins with the letters of deprecated functions is taken for a function's name. -/
theorem found_straying :
    KnownFinding.ofName? "Deprecated Functionality" = some .deprecatedFunction ∧
      ¬ KnownFinding.deprecatedFunction.Names "Deprecated Functionality" := by
  have hTrimmed : Text.trim "Deprecated Functionality" = "Deprecated Functionality" := by decide
  have hStrays : KnownFinding.Strays "Deprecated Functionality" := by
    refine ⟨'a', "lity".toList, ⟨"Deprecated Function".toList, ?_, ?_⟩, by decide⟩
    · rw [hTrimmed]
      rfl
    · exact List.forall₂_same.mpr fun _ _ => .inl rfl
  exact ⟨by decide, hStrays.not_names⟩

end AuditDesk
