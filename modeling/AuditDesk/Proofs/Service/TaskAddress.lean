import AuditDesk.Proofs.Service.Below
import AuditDesk.Proofs.Text.Escapes
import Mathlib.Data.List.DropRight

/-! Where a task is asked for. Its identifier is put behind the last slash as it is. It is asked for at an
address of its own just if the identifier is plain: if it has no mark that an address is taken apart at,
nothing that is dropped at the end or inside, and no escape, and if it does not consist of the dots that
lead to another address. -/
namespace AuditDesk.Service

section Lists

theorem sublist_dropTrailing (p : Char → Bool) (cs : List Char) : (Text.dropTrailing p cs).Sublist cs :=
  (List.rdropWhile_prefix p cs).sublist

theorem dropTrailing_eq_self_iff {p : Char → Bool} {cs : List Char} :
    Text.dropTrailing p cs = cs ↔ ∀ c ∈ cs.getLast?, p c = false := by
  have hSame : Text.dropTrailing p cs = cs.rdropWhile p := rfl
  rw [hSame, List.rdropWhile_eq_self_iff]
  rcases List.eq_nil_or_concat cs with rfl | ⟨front, last, rfl⟩
  · simp
  · simp

/-- The last part holds nothing to part it at. -/
theorem exists_splitOnP_concat (p : Char → Bool) (cs : List Char) :
    ∃ front last, cs.splitOnP p = front ++ [last] ∧ last.Sublist cs ∧ ∀ c ∈ last, p c = false := by
  induction cs with
  | nil => exact ⟨[], [], List.splitOnP_nil, List.Sublist.refl _, fun c hMem => absurd hMem List.not_mem_nil⟩
  | cons c cs ih =>
      obtain ⟨front, last, hSplit, hLast, hWhole⟩ := ih
      rw [List.splitOnP_cons_eq_if_modifyHead, hSplit]
      cases hHead : p c with
      | true => exact ⟨[] :: front, last, rfl, hLast.cons c, hWhole⟩
      | false =>
          cases front with
          | nil =>
              refine ⟨[], c :: last, rfl, hLast.cons_cons c, fun d hMem => ?_⟩
              rcases List.mem_cons.mp hMem with rfl | hRest
              · exact hHead
              · exact hWhole d hRest
          | cons first front => exact ⟨(c :: first) :: front, last, rfl, hLast.cons c, hWhole⟩

theorem length_encoded_le {part cs : List Char} (h : part.Sublist cs) :
    (Text.encoded part).length ≤ (Text.encoded cs).length := by
  induction h with
  | slnil => exact Nat.le_refl _
  | cons c hPart ih =>
      rw [Text.encoded_cons, List.length_append]
      omega
  | cons_cons c hPart ih =>
      rw [Text.encoded_cons, Text.encoded_cons, List.length_append, List.length_append]
      omega

/-- A part that takes as many bytes as the whole is the whole. -/
theorem eq_of_sublist_encoded {part cs : List Char} (h : part.Sublist cs)
    (hBytes : (Text.encoded cs).length ≤ (Text.encoded part).length) : part = cs := by
  induction h with
  | slnil => rfl
  | cons c hPart ih =>
      have hLess := length_encoded_le hPart
      have hPos := Text.Percent.length_utf8EncodeChar_pos c
      rw [Text.encoded_cons, List.length_append] at hBytes
      omega
  | cons_cons c hPart ih =>
      rw [Text.encoded_cons, Text.encoded_cons, List.length_append, List.length_append] at hBytes
      rw [ih (by omega)]

end Lists

namespace Address

@[simp] theorem host?_anonymous (a : Address) : a.anonymous.host? = a.host? := by
  cases h : a.authority <;> simp [anonymous, host?, h]

section Ends

variable {cs : List Char}

theorem sublist_kept (cs : List Char) : (kept cs).Sublist cs :=
  List.filter_sublist.trans (sublist_dropTrailing outside cs)

theorem kept_eq_self_iff :
    kept cs = cs ↔ (∀ c ∈ cs, stays c = true) ∧ ∀ c ∈ cs.getLast?, outside c = false := by
  rw [← dropTrailing_eq_self_iff, ← List.filter_eq_self]
  constructor
  · intro h
    have hInside : (kept cs).Sublist (Text.dropTrailing outside cs) := List.filter_sublist
    rw [h] at hInside
    have hEnd := (sublist_dropTrailing outside cs).antisymm hInside
    rw [kept, hEnd] at h
    exact ⟨h, hEnd⟩
  · rintro ⟨hInside, hEnd⟩
    rw [kept, hEnd, hInside]

theorem sublist_cut (mark : Char) (cs : List Char) : (cut mark cs).1.Sublist cs :=
  List.takeWhile_sublist _

theorem cut_eq_self_iff {mark : Char} : (cut mark cs).1 = cs ↔ mark ∉ cs := by
  constructor
  · intro h hMem
    obtain ⟨front, back, rfl⟩ := List.append_of_mem hMem
    have hFront : (cut mark (front ++ mark :: back)).1 = front.takeWhile (· ≠ mark) := takeWhile_through (by simp) _ _
    have hLess := (List.takeWhile_sublist (l := front) (· ≠ mark)).length_le
    rw [← hFront, h, List.length_append, List.length_cons] at hLess
    omega
  · intro h
    rw [cut_of_not_mem h]

/-- What of a text behind a slash belongs to the path. -/
def inPath (cs : List Char) : List Char := (cut '?' (cut '#' (kept cs)).1).1

theorem sublist_inPath (cs : List Char) : (inPath cs).Sublist cs :=
  ((sublist_cut _ _).trans (sublist_cut _ _)).trans (sublist_kept cs)

theorem inPath_eq_self_iff :
    inPath cs = cs ↔ kept cs = cs ∧ '#' ∉ cs ∧ '?' ∉ cs := by
  constructor
  · intro h
    have hQuery := sublist_cut '?' (cut '#' (kept cs)).1
    have hFragment := sublist_cut '#' (kept cs)
    rw [← inPath, h] at hQuery
    have hKept := (sublist_kept cs).antisymm (hQuery.trans hFragment)
    rw [hKept] at hQuery hFragment
    have hNoFragment := cut_eq_self_iff.mp (hFragment.antisymm hQuery)
    refine ⟨hKept, hNoFragment, cut_eq_self_iff.mp ?_⟩
    rwa [inPath, hKept, cut_of_not_mem hNoFragment] at h
  · rintro ⟨hKept, hFragment, hQuery⟩
    rw [inPath, hKept, cut_of_not_mem hFragment, cut_of_not_mem hQuery]

end Ends

end Address

namespace AddressPath

/-- Only what has an escape has a dot that is spelled in another way. -/
theorem spelledDots_eq_self {cs : List Char} (h : ¬ Text.Percent.HasEscape cs) : spelledDots cs = cs := by
  fun_induction spelledDots cs with
  | case1 e rest hDot ih =>
      refine absurd ⟨[], '2' :: e :: rest, rfl, '2', e, rest, rfl, rfl, ?_⟩ h
      rcases Bool.or_eq_true_iff.mp hDot with hSmall | hCapital
      · rw [of_decide_eq_true hSmall]
        rfl
      · rw [of_decide_eq_true hCapital]
        rfl
  | case2 e rest hDot ih =>
      rw [ih fun hEscape => h (Text.Percent.hasEscape_cons.mpr (.inr hEscape))]
  | case3 c rest hOther ih =>
      rw [ih fun hEscape => h (Text.Percent.hasEscape_cons.mpr (.inr hEscape))]
  | case4 => rfl

/-- What the last segment is written as. -/
def lastSegment (segment : List Char) : String :=
  if spelledDots segment = ['.'] ∨ spelledDots segment = ['.', '.'] then "" else Text.Percent.encode reserved segment

/-- A segment that leads nowhere else is put at the end. -/
theorem resolve_singleton (done : List String) {segment : List Char}
    (h : spelledDots segment ≠ ['.'] ∧ spelledDots segment ≠ ['.', '.']) :
    resolve false done [segment] = done.reverse ++ [Text.Percent.encode reserved segment] := by
  simp [resolve, h]

theorem exists_resolve_concat (front : List (List Char)) (done : List String) (last : List Char) :
    ∃ before, resolve false done (front ++ [last]) = before ++ [lastSegment last] := by
  rw [resolve_append front done (List.cons_ne_nil _ _), lastSegment]
  generalize front.foldl passed done = done
  by_cases hOne : spelledDots last = ['.']
  · exact ⟨done.reverse, by simp [resolve, hOne]⟩
  by_cases hTwo : spelledDots last = ['.', '.']
  · exact ⟨(up done).reverse, by simp [resolve, hTwo]⟩
  · exact ⟨done.reverse, by rw [resolve_singleton done ⟨hOne, hTwo⟩, if_neg (not_or.mpr ⟨hOne, hTwo⟩)]⟩

theorem keepsEscapes_reserved : Text.Percent.KeepsEscapes reserved := by
  simp [Text.Percent.KeepsEscapes, reserved, reservedInFragment, Text.Percent.hexValue?]

end AddressPath

/-- An identifier that an address holds as it is. -/
structure PlainTask (id : String) : Prop where
  whole : ∀ c ∈ id.toList, c ∉ ['/', '\\', '?', '#', '\t', '\n', '\r']
  ended : ∀ c ∈ id.toList.getLast?, Address.outside c = false
  unescaped : ¬ Text.Percent.HasEscape id.toList
  undotted : id ≠ "." ∧ id ≠ ".."

/-- The address below the base whose path ends in `result` and one segment that stands for the identifier. -/
structure OwnAddress (base : Address) (id : String) (address : Address) : Prop where
  path : ∃ front segment, base.path = .segments (front ++ [""]) ∧
    address.path = .segments (front ++ ["result", segment]) ∧ (∀ c ∈ segment.toList, c ∉ ['/', '?', '#']) ∧
    Text.Percent.decode segment.toList = Text.bytes id
  query : address.query = none

namespace PlainTask

open Address

variable {id : String}

theorem empty : PlainTask "" :=
  ⟨by simp, by simp, Text.Percent.not_hasEscape_nil, by decide⟩

/-- Nothing of a plain identifier is cut off or dropped. -/
theorem inPath_eq_self (h : PlainTask id) : inPath id.toList = id.toList := by
  refine inPath_eq_self_iff.mpr ⟨kept_eq_self_iff.mpr ⟨fun c hMem => ?_, h.ended⟩, fun hMem => ?_, fun hMem => ?_⟩
  · have hWhole := h.whole c hMem
    simp only [List.mem_cons, not_or] at hWhole
    simp [stays, hWhole]
  · exact h.whole '#' hMem (by decide)
  · exact h.whole '?' hMem (by decide)

theorem parts_eq_false (h : PlainTask id) {scheme : Scheme} : ∀ c ∈ id.toList, scheme.parts c = false := by
  intro c hMem
  have hWhole := h.whole c hMem
  simp only [List.mem_cons, not_or] at hWhole
  simp [Scheme.parts, hWhole]

theorem not_dots (h : PlainTask id) :
    AddressPath.spelledDots id.toList ≠ ['.'] ∧ AddressPath.spelledDots id.toList ≠ ['.', '.'] := by
  rw [AddressPath.spelledDots_eq_self h.unescaped]
  exact ⟨fun hDot => h.undotted.1 (String.toList_inj.mp hDot), fun hDots => h.undotted.2 (String.toList_inj.mp hDots)⟩

theorem decode_encode (h : PlainTask id) :
    Text.Percent.decode (Text.Percent.encode AddressPath.reserved id.toList).toList = Text.bytes id := by
  rw [Text.Percent.decode_encode AddressPath.keepsEscapes_reserved,
    (Text.Percent.decode_eq_encoded_iff _).mpr h.unescaped, Text.encoded_toList]

/-- A segment of the identifier stands for the identifier only if it is the identifier and plain. -/
theorem of_decode {segment : List Char} (hPart : segment.Sublist (inPath id.toList))
    (hParted : ∀ c ∈ segment, c ≠ '/' ∧ c ≠ '\\')
    (hDecode : Text.Percent.decode (AddressPath.lastSegment segment).toList = Text.bytes id) : PlainTask id := by
  rw [← Text.encoded_toList, AddressPath.lastSegment] at hDecode
  have hBytes := length_encoded_le (hPart.trans (sublist_inPath id.toList))
  split at hDecode
  · -- A segment of dots leads elsewhere and leaves nothing behind.
    have hLe : (Text.encoded id.toList).length ≤ (Text.encoded []).length := by
      rw [← hDecode]
      exact Nat.le_refl _
    have hEmpty := eq_of_sublist_encoded (List.nil_sublist _) hLe
    rw [String.toList_eq_nil_iff.mp hEmpty.symm]
    exact empty
  · rename_i hDots
    rw [Text.Percent.decode_encode AddressPath.keepsEscapes_reserved] at hDecode
    obtain ⟨hLe, hLt⟩ := Text.Percent.length_decode segment
    rw [hDecode] at hLe hLt
    obtain rfl := eq_of_sublist_encoded (hPart.trans (sublist_inPath id.toList)) hLe
    obtain ⟨hKept, hFragment, hQuery⟩ := inPath_eq_self_iff.mp ((sublist_inPath id.toList).antisymm hPart)
    obtain ⟨hStays, hEnd⟩ := kept_eq_self_iff.mp hKept
    refine ⟨fun c hMem => ?_, hEnd, fun hEscape => Nat.lt_irrefl _ (hLt hEscape), ?_⟩
    · have hStay := hStays c hMem
      simp only [stays, Bool.and_eq_true, decide_eq_true_eq] at hStay
      have hNoFragment : c ≠ '#' := fun h => hFragment (h ▸ hMem)
      have hNoQuery : c ≠ '?' := fun h => hQuery (h ▸ hMem)
      simp [hParted c hMem, hStay, hNoFragment, hNoQuery]
    · refine ⟨fun h => hDots (.inl ?_), fun h => hDots (.inr ?_)⟩
      · rw [h]
        rfl
      · rw [h]
        rfl

end PlainTask

namespace Remote

open Address

variable {r : Remote} {base : Address}

theorem parts_eq_false_iff {scheme : Scheme} (hWeb : scheme.isWeb = true) {c : Char} :
    scheme.parts c = false ↔ c ≠ '/' ∧ c ≠ '\\' := by
  cases scheme with
  | http => simp [Scheme.parts, Scheme.isKnown]
  | https => simp [Scheme.parts, Scheme.isKnown]
  | _ => cases hWeb

theorem below_result (id : String) : below ("result/" ++ id) = "result".toList ++ '/' :: kept id.toList := by
  have hText : ("result/" ++ id).toList.dropWhile (· = '/') = "result".toList ++ '/' :: id.toList := by
    simp
  rw [below, hText, kept_slash]
  rfl

theorem parts_result (scheme : Scheme) : ∀ c ∈ "result".toList, scheme.parts c = false := by
  simp [Scheme.parts]

theorem resolve_result (done : List String) {rest : List (List Char)} (h : rest ≠ []) :
    AddressPath.resolve false done ("result".toList :: rest) = AddressPath.resolve false ("result" :: done) rest :=
  AddressPath.resolve_append ["result".toList] done h

/-- The address at which a task is asked for. -/
theorem placed_result (base : Address) (done : List String) (id : String) :
    base.placed done (below ("result/" ++ id)) =
      { base with
        path := .segments (AddressPath.resolve false ("result" :: done) ((inPath id.toList).splitOnP base.scheme.parts))
        query := (cut '?' (cut '#' (kept id.toList)).1).2.map (Text.Percent.encode (reservedInQuery base.scheme))
        fragment := (cut '#' (kept id.toList)).2.map (Text.Percent.encode AddressPath.reservedInFragment) } := by
  have hNoFragment : '#' ∉ "result".toList ++ ['/'] := by decide
  have hNoQuery : '?' ∉ "result".toList ++ ['/'] := by decide
  rw [below_result, placed]
  simp only [cut_slash hNoFragment, cut_slash hNoQuery, inPath]
  rw [List.splitOnP_append_cons_of_forall_mem (parts_result _) '/' (parts_slash _),
    resolve_result done (List.splitOnP_ne_nil _ _)]

/-- A plain identifier is the last segment of its address. -/
theorem placed_plain (base : Address) (done : List String) {id : String} (h : PlainTask id) :
    base.placed done (below ("result/" ++ id)) =
      { base with
        path := .segments (done.reverse ++ ["result", Text.Percent.encode AddressPath.reserved id.toList])
        query := none
        fragment := none } := by
  obtain ⟨hKept, hFragment, hQuery⟩ := inPath_eq_self_iff.mp h.inPath_eq_self
  rw [placed_result, h.inPath_eq_self, hKept, cut_of_not_mem hFragment, cut_of_not_mem hQuery,
    List.splitOnP_eq_singleton h.parts_eq_false, AddressPath.resolve_singleton _ h.not_dots, List.reverse_cons,
    List.append_assoc]
  rfl

/-- A task is asked for at an address of its own just if its identifier is plain. -/
theorem ownAddress_iff (hWeb : base.scheme.isWeb = true) {done : List String}
    (hPath : base.path = .segments (done.reverse ++ [""])) (id : String) :
    OwnAddress base id (base.placed done (below ("result/" ++ id))) ↔ PlainTask id := by
  constructor
  · rintro ⟨⟨front, segment, -, hRead, -, hDecode⟩, -⟩
    obtain ⟨parted, last, hSplit, hLast, hWhole⟩ := exists_splitOnP_concat base.scheme.parts (inPath id.toList)
    obtain ⟨before, hBefore⟩ := AddressPath.exists_resolve_concat parted ("result" :: done) last
    rw [placed_result, hSplit, hBefore] at hRead
    have hEnds : before ++ [AddressPath.lastSegment last] = (front ++ ["result"]) ++ [segment] := by
      rw [List.append_assoc]
      exact AddressPath.segments.inj hRead
    obtain ⟨-, hSegment⟩ := List.append_inj' hEnds rfl
    rw [← List.head_eq_of_cons_eq hSegment] at hDecode
    exact .of_decode hLast (fun c hMem => (parts_eq_false_iff hWeb).mp (hWhole c hMem)) hDecode
  · intro hPlain
    rw [placed_plain base done hPlain]
    refine ⟨⟨done.reverse, _, hPath, rfl, fun c hMem => ?_, ?_⟩, rfl⟩
    · rcases Text.Percent.mem_encode hMem with rfl | hHex | ⟨hOwn, hFree⟩
      · decide
      · intro hMark
        rw [List.mem_cons, List.mem_cons, List.mem_singleton] at hMark
        rcases hMark with rfl | rfl | rfl <;> cases hHex
      · have hWhole := hPlain.whole c hOwn
        simp only [List.mem_cons, not_or] at hWhole ⊢
        simp [hWhole]
    · exact hPlain.decode_encode

/-- Where tasks are asked for below a base. -/
structure TaskAddresses (r : Remote) (base : Address) : Prop where
  /-- Nothing but the base and the token decides whether there is a request. -/
  sent : ∀ network id, (r.reply network (.status id)).2.isSome = true ↔ CanBeAsked base ∧ r.Fits
  /-- No identifier leads to another service. -/
  service : ∀ network id request, (r.reply network (.status id)).2 = some request →
    request.method = .get ∧ request.address.scheme = base.scheme ∧ request.address.host? = base.host?
  own : ∀ network id request, (r.reply network (.status id)).2 = some request →
    (OwnAddress base id request.address ↔ PlainTask id)
  apart : ∀ network id other request second, (r.reply network (.status id)).2 = some request →
    (r.reply network (.status other)).2 = some second → PlainTask id → PlainTask other → id ≠ other →
      request.address.target ≠ second.address.target

theorem target_asking (r : Remote) (call : Call) (address : Address) :
    (r.asking call address).address.target = address.target := by
  rw [asking]
  split <;> rfl

theorem ownAddress_asking (r : Remote) (call : Call) {id : String} (address : Address) :
    OwnAddress base id (r.asking call address).address ↔ OwnAddress base id address := by
  rw [asking]
  split
  · exact ⟨fun h => ⟨h.path, h.query⟩, fun h => ⟨h.path, h.query⟩⟩
  · exact Iff.rfl

theorem service_asking (r : Remote) (call : Call) (address : Address) :
    (r.asking call address).address.scheme = address.scheme ∧
      (r.asking call address).address.host? = address.host? := by
  rw [asking]
  split
  · exact ⟨rfl, host?_anonymous address⟩
  · exact ⟨rfl, rfl⟩

/-- Plain identifiers with the same target are the same. -/
theorem eq_of_target (base : Address) (done : List String) {id other : String} (hId : PlainTask id)
    (hOther : PlainTask other) (h : (base.placed done (below ("result/" ++ id))).target =
      (base.placed done (below ("result/" ++ other))).target) : id = other := by
  have hText (segment : String) : AddressPath.text (.segments (done.reverse ++ ["result", segment])) =
      AddressPath.text (.segments done.reverse) ++ ("/result" ++ ("/" ++ segment)) := by
    simp [AddressPath.text]
  rw [placed_plain base done hId, placed_plain base done hOther, target, target, hText, hText] at h
  have hSegment : Text.Percent.encode AddressPath.reserved id.toList =
      Text.Percent.encode AddressPath.reserved other.toList := by
    simpa using h
  have hBytes : Text.bytes id = Text.bytes other := by
    rw [← hId.decode_encode, hSegment, hOther.decode_encode]
  have hRead := congrArg Text.ofBytes? hBytes
  simpa using hRead

theorem task_addresses (h : Based r base) : TaskAddresses r base := by
  obtain ⟨done, hPath, hSent⟩ := sent_below h
  have hStatus (network id request) : (r.reply network (.status id)).2 = some request ↔
      CanBeAsked base ∧ r.Fits ∧
        request = r.asking (.status id) (base.placed done (below ("result/" ++ id))) := by
    rw [hSent]
    exact ⟨fun ⟨path, hPath, hAsked⟩ => Option.some.inj hPath ▸ hAsked, fun hAsked => ⟨_, rfl, hAsked⟩⟩
  constructor
  case sent =>
    intro network id
    rw [Option.isSome_iff_exists]
    exact ⟨fun ⟨request, hRequest⟩ => ⟨((hStatus ..).mp hRequest).1, ((hStatus ..).mp hRequest).2.1⟩,
      fun ⟨hAsked, hFits⟩ => ⟨_, (hStatus ..).mpr ⟨hAsked, hFits, rfl⟩⟩⟩
  case service =>
    intro network id request hRequest
    obtain ⟨-, -, rfl⟩ := (hStatus ..).mp hRequest
    exact ⟨rfl, service_asking ..⟩
  case own =>
    intro network id request hRequest
    obtain ⟨hAsked, -, rfl⟩ := (hStatus ..).mp hRequest
    rw [ownAddress_asking, ownAddress_iff hAsked.1 (hPath hAsked)]
  case apart =>
    intro network id other request second hRequest hSecond hId hOther hDistinct hTarget
    obtain ⟨-, -, rfl⟩ := (hStatus ..).mp hRequest
    obtain ⟨-, -, rfl⟩ := (hStatus ..).mp hSecond
    rw [target_asking, target_asking] at hTarget
    exact hDistinct (eq_of_target base done hId hOther hTarget)

section Loopback

/-- A service on the same machine. -/
def loopback : Remote := ⟨"http://[::1]:5000", none⟩

def loopbackAddress : Address :=
  ⟨.http, some ⟨none, some (.long [0, 0, 0, 0, 0, 0, 0, 1]), some 5000⟩, .segments [""], none, none⟩

theorem based_loopback : Based loopback loopbackAddress := ⟨by decide +kernel, rfl, rfl⟩

theorem plainTask_number : PlainTask "t-42" := by
  refine ⟨by simp, by simp [outside], ?_, by decide⟩
  rw [← Text.Percent.decode_eq_encoded_iff]
  decide

theorem task_addresses_loopback :
    Based loopback loopbackAddress ∧
      ∃ request, (loopback.reply (fun _ => none) (.status "t-42")).2 = some request ∧
        request.address.target = "/result/t-42" ∧ OwnAddress loopbackAddress "t-42" request.address := by
  have hSent : (loopback.reply (fun _ => none) (.status "t-42")).2 =
      some ⟨.get, { loopbackAddress with path := .segments ["result", "t-42"] }, none, none, none⟩ := by
    decide +kernel
  exact ⟨based_loopback, _, hSent, by decide,
    ((task_addresses based_loopback).own _ _ _ hSent).mpr plainTask_number⟩

/-- Two dots lead one segment up: the request is the one for the finished analyses. -/
theorem not_own_climbing :
    ∃ request, (loopback.reply (fun _ => none) (.status "../history")).2 = some request ∧
      (loopback.reply (fun _ => none) .history).2 = some request ∧
      ¬ OwnAddress loopbackAddress "../history" request.address := by
  refine ⟨⟨.get, { loopbackAddress with path := .segments ["history"] }, none, none, none⟩, by decide +kernel,
    by decide +kernel, ?_⟩
  rintro ⟨⟨front, segment, -, hRead, -⟩, -⟩
  have hLength := congrArg List.length (AddressPath.segments.inj hRead)
  simp at hLength

end Loopback

end Remote

end AuditDesk.Service
