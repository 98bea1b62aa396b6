import AuditDesk.Proofs.Service.Below
import AuditDesk.Proofs.Settings.Acceptance
import AuditDesk.Proofs.Storage.Reopened
import AuditDesk.Proofs.Token.Stored
import AuditDesk.Setup

/-! Who the user is to the service. A token of the environment goes before the one that was stored last, and the one
chosen goes with every request. Where the storage is kept between runs does not matter, as long as it lasts there. -/
namespace AuditDesk

open LawfulTextStorage (kept)
open Service
open Storage (tokenKey)
open StorageHost (openAt writeBack)

/-- The token in use after calls on a storage, and where it comes from. -/
inductive ChosenToken (lookup : String → Option String) (before : Option String) (edits : List Edit) :
    Option (String × TokenSource) → Prop
  | environment {text : String} (hGiven : Config.Gives lookup "AUDITOR_API_TOKEN" text) :
      ChosenToken lookup before edits (some (text, .environment))
  | stored {text : String} (hNone : ∀ raw, ¬ Config.Gives lookup "AUDITOR_API_TOKEN" raw)
      (hStored : StoredToken before edits text) : ChosenToken lookup before edits (some (text, .stored))
  | none (hNone : ∀ raw, ¬ Config.Gives lookup "AUDITOR_API_TOKEN" raw)
      (hBlank : ∀ text, ¬ StoredToken before edits text) : ChosenToken lookup before edits none

/-- A token in use is not blank. -/
theorem ChosenToken.filled {lookup : String → Option String} {before : Option String} {edits : List Edit}
    {chosen : Option (String × TokenSource)} (h : ChosenToken lookup before edits chosen) :
    ∀ text ∈ chosen.map Prod.fst, Text.trim text ≠ "" := by
  intro text hMem
  cases h with
  | environment hGiven =>
      obtain rfl := Option.some.inj hMem
      exact hGiven.2
  | stored hNone hStored =>
      obtain rfl := Option.some.inj hMem
      exact (StoredToken.iff_foldl.mp hStored).2
  | none hNone hBlank => cases hMem

/-- Every request that is sent names the token; one that can stand in a request keeps none from being sent. -/
structure Authorized (r : Remote) (token : Option String) : Prop where
  header : ∀ network call request, (r.reply network call).2 = some request →
    request.authorization = token.map ("Bearer " ++ ·)
  sent : ∀ network call path address, Remote.path? call = some path → Address.parse? (r.url path) = some address →
    Remote.CanBeAsked address → (∀ text ∈ token, Remote.fitsHeader text = true) →
      (r.reply network call).2.isSome = true

theorem authorized (base : String) (token : Option String) : Authorized ⟨base, token⟩ token where
  header := by
    intro network call request hSent
    obtain ⟨path, address, -, -, -, -, rfl⟩ := Remote.sent_iff.mp hSent
    rfl
  sent := by
    intro network call path address hPath hAddress hAsked hFits
    have hToken : Remote.Fits ⟨base, token⟩ := by
      cases token with
      | none => rfl
      | some text => exact hFits text rfl
    exact Option.isSome_iff_exists.mpr ⟨_, Remote.sent_iff.mpr ⟨path, address, hPath, hAddress, hAsked, hToken, rfl⟩⟩

section Choosing

variable {σ : Type} [TextStorage σ] [LawfulTextStorage σ] {lookup : String → Option String} {before : Option String}
  {edits : List Edit}

theorem filter_filled {text : String} (h : Text.trim text ≠ "") :
    (some text).filter (fun token => !Text.allBlank token) = some text := by
  rw [Ne, Text.trim_eq_empty_iff, Bool.not_eq_true] at h
  simp [Option.filter, h]

/-- What is looked up at the start is what the calls have left. -/
theorem chosen_of_effective {config : Config} (hConfig : Config.Settles lookup config) {storage : σ}
    (hReads : TextStorage.get storage tokenKey = .ok (kept storage tokenKey))
    (hKept : kept storage tokenKey = edits.foldl Edit.token before) :
    ∃ chosen, Token.effective config.apiToken storage = .ok chosen ∧ ChosenToken lookup before edits chosen := by
  by_cases hGiven : ∃ text, Config.Gives lookup "AUDITOR_API_TOKEN" text
  · obtain ⟨text, hText⟩ := hGiven
    refine ⟨some (text, .environment), ?_, .environment hText⟩
    rw [Token.effective, hConfig.apiToken.1 text hText, filter_filled hText.2]
  · have hNone := not_exists.mp hGiven
    have hLoad : Token.effective config.apiToken storage =
        .ok (((kept storage tokenKey).filter fun token => !Text.allBlank token).map (·, .stored)) := by
      rw [Token.effective, hConfig.apiToken.2 hNone, Token.load, hReads]
      rfl
    refine ⟨_, hLoad, ?_⟩
    by_cases hStored : ∃ text, StoredToken before edits text
    · obtain ⟨text, hText⟩ := hStored
      obtain ⟨hFound, hFilled⟩ := StoredToken.iff_foldl.mp hText
      rw [hKept, hFound, filter_filled hFilled]
      exact .stored hNone hText
    · have hBlank : (kept storage tokenKey).filter (fun token => !Text.allBlank token) = none := by
        rw [Option.filter_eq_none_iff]
        intro text hText hFilled
        refine hStored ⟨text, StoredToken.iff_foldl.mpr ⟨hKept ▸ hText, fun hTrim => ?_⟩⟩
        rw [(Text.trim_eq_empty_iff text).mp hTrim] at hFilled
        cases hFilled
      rw [hBlank]
      exact .none hNone (not_exists.mp hStored)

end Choosing

section Starting

variable {κ ω σ : Type} [TextStorage σ] [StorageHost κ ω σ] {lookup : String → Option String} {config : Config}
  {site : κ} {around made : ω} {first last : σ} {edits : List Edit}

theorem build_of_opened {supply : Setup.Supply} {chosen : Option (String × TokenSource)}
    (hOnline : config.offline = false) (hFilled : ∀ t ∈ chosen.map Prod.fst, Text.trim t ≠ "")
    (hOpened : openAt site around = .ok (first, made))
    (hChosen : Token.effective config.apiToken first = .ok chosen) :
    ∃ setup, Setup.buildAt config site supply around = .ok (setup, made) ∧ setup.tokenSource = chosen.map Prod.snd ∧
      setup.backend = .remote ⟨config.apiUrl, chosen.map Prod.fst⟩ supply.network := by
  have hRemote : Remote.ofParts config.apiUrl (chosen.map Prod.fst) = ⟨config.apiUrl, chosen.map Prod.fst⟩ := by
    rw [Remote.ofParts]
    cases hToken : chosen.map Prod.fst with
    | none => rfl
    | some text => rw [filter_filled (hFilled text hToken)]
  have hBackend : Setup.backendOf config (chosen.map Prod.fst) supply =
      .remote ⟨config.apiUrl, chosen.map Prod.fst⟩ supply.network := by
    rw [Setup.backendOf, hOnline, if_neg Bool.false_ne_true, hRemote]
  refine ⟨{ Setup.ofParts config site first (Setup.backendOf config (chosen.map Prod.fst) supply) with
    tokenSource := chosen.map Prod.snd }, ?_, rfl, hBackend⟩
  rw [Setup.buildAt, hOpened]
  change ((Token.effective config.apiToken first).mapError _).bind _ = _
  rw [hChosen]
  rfl

/-- A start on a storage that lasts, on which calls have been made before, goes well. It uses the token that they have
left, unless the environment has one, and sends it with every call to the service. -/
theorem token_sent [LawfulTextStorage σ] [LawfulStorageHost κ] (hConfig : Config.ofLookup lookup = .ok config)
    (hLasts : LawfulStorageHost.Lasts site) (hFirst : openAt site around = .ok (first, made))
    (hEdits : edits.foldlM Edit.make first = some last) (supply : Setup.Supply) :
    Edit.Apart first last edits ∧
      ∃ again remade setup chosen r, openAt site (writeBack site last made) = .ok (again, remade) ∧
        Setup.buildAt config site supply (writeBack site last made) = .ok (setup, remade) ∧
        ChosenToken lookup (kept first tokenKey) edits chosen ∧ setup.tokenSource = chosen.map Prod.snd ∧
        setup.backend = .remote r supply.network ∧ r.base = config.apiUrl ∧ Authorized r (chosen.map Prod.fst) := by
  have hSettles := Config.settles_of_ok hConfig
  obtain ⟨again, remade, hAgain, hSame⟩ := LawfulStorageHost.reopened hLasts hFirst last
  have hKept : kept again tokenKey = edits.foldl Edit.token (kept first tokenKey) := by
    rw [hSame]
    exact Edit.kept_run Edit.kept_token hEdits
  obtain ⟨chosen, hEffective, hChosen⟩ :=
    chosen_of_effective hSettles (LawfulStorageHost.get_opened hAgain tokenKey) hKept
  obtain ⟨setup, hBuild, hSource, hBackend⟩ := build_of_opened hSettles.flags.1 hChosen.filled hAgain hEffective
  exact ⟨Edit.apart_run hEdits, again, remade, setup, chosen, _, hAgain, hBuild, hChosen, hSource, hBackend, rfl,
    authorized ..⟩

end Starting

/-- Nothing but the directory of the storage is set. -/
def directoryLookup (name : String) : Option String := if name = "AUDITOR_DATA_DIR" then some "data" else none

def directoryConfig : Config :=
  { apiUrl := "http://localhost:5000", apiToken := none, policy := .standard, requestTimeout := none
    dataDir := some "data", exportDir := ".", offline := false, ephemeral := false }

/-- The files when the storage has these entries. -/
def filesWith (entries : List (String × String)) : FileTree :=
  ⟨[(["data", "contract-auditor.db"], .file (StorageSite.encode entries)), (["data"], .directory)]⟩

def savedEdits : List Edit := [.saveToken " abc\n", .snippets ⟨[]⟩ (.save "a" "x" .solidity)]

def savedEntries : List (String × String) :=
  [("saved_snippets", SnippetStore.encode [⟨"a", "x", .solidity⟩]), ("auth_token", "abc")]

theorem chosen_saved {chosen : Option (String × TokenSource)} (h : ChosenToken directoryLookup none savedEdits chosen) :
    chosen = some ("abc", .stored) := by
  have hLeft : savedEdits.foldl Edit.token none = some "abc" := by decide
  cases h with
  | environment hGiven => cases hGiven.1
  | stored hNone hStored =>
      have hText := (StoredToken.iff_foldl.mp hStored).1
      rw [hLeft] at hText
      rw [Option.some.inj hText]
  | none hNone hBlank => exact absurd (StoredToken.iff_foldl.mpr ⟨hLeft, by decide⟩) (hBlank "abc")

theorem token_sent_saved :
    ∃ setup r, Setup.build directoryConfig "" ⟨fun _ => none, 0⟩ (filesWith savedEntries) =
        .ok (setup, filesWith savedEntries) ∧
      setup.tokenSource = some .stored ∧ setup.backend = .remote r (fun _ => none) ∧ Authorized r (some "abc") := by
  have hConfig : Config.ofLookup directoryLookup = .ok directoryConfig := rfl
  have hLasts : LawfulStorageHost.Lasts (Setup.siteOf directoryConfig "") := by
    intro location hLocation
    obtain rfl := Except.ok.inj hLocation
    exact ⟨rfl, Location.direct_of_not_mem (by decide)⟩
  have hFirst : openAt (Setup.siteOf directoryConfig "") FileTree.empty = .ok (Storage.empty, filesWith []) :=
    Json.Reader.toOption_eq_some.mp (by decide +kernel)
  have hEdits : savedEdits.foldlM Edit.make Storage.empty = some ⟨savedEntries, []⟩ := by decide +kernel
  have hWritten : writeBack (Setup.siteOf directoryConfig "") (⟨savedEntries, []⟩ : Storage) (filesWith []) =
      filesWith savedEntries := by
    decide +kernel
  have hAgain : openAt (Setup.siteOf directoryConfig "") (filesWith savedEntries) =
      .ok ((⟨savedEntries, []⟩ : Storage), filesWith savedEntries) :=
    Json.Reader.toOption_eq_some.mp (by decide +kernel)
  obtain ⟨-, again, remade, setup, chosen, r, hOpened, hBuild, hChosen, hSource, hBackend, -, hAuthorized⟩ :=
    token_sent hConfig hLasts hFirst hEdits ⟨fun _ => none, 0⟩
  rw [hWritten] at hOpened hBuild
  obtain ⟨-, rfl⟩ := Prod.mk.inj (Except.ok.inj (hOpened.symm.trans hAgain))
  obtain rfl := chosen_saved hChosen
  exact ⟨setup, r, hBuild, hSource, hBackend, hAuthorized⟩

end AuditDesk
