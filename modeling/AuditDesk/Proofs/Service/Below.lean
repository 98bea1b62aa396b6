import AuditDesk.Service.Remote

/-! Addresses below a base. Whatever is put behind the last slash of a base is taken apart on its own: the
base contributes its segments, and the rest is cut at the first mark of a query or a fragment, parted at its
slashes and resolved from there on. -/
namespace AuditDesk.Service

section Lists

variable {p : Char → Bool} {stop : Char}

theorem takeWhile_through (h : p stop = false) (front back : List Char) :
    (front ++ stop :: back).takeWhile p = front.takeWhile p := by
  induction front with
  | nil => rw [List.nil_append, List.takeWhile_cons, h, if_neg Bool.false_ne_true, List.takeWhile_nil]
  | cons c front ih => rw [List.cons_append, List.takeWhile_cons, List.takeWhile_cons, ih]

theorem dropWhile_through (h : p stop = false) (front back : List Char) :
    (front ++ stop :: back).dropWhile p = front.dropWhile p ++ stop :: back := by
  induction front with
  | nil => rw [List.nil_append, List.dropWhile_cons, h, if_neg Bool.false_ne_true, List.dropWhile_nil, List.nil_append]
  | cons c front ih =>
      rw [List.cons_append, List.dropWhile_cons, List.dropWhile_cons, ih]
      split <;> rfl

theorem dropTrailing_through (h : p stop = false) (front back : List Char) :
    Text.dropTrailing p (front ++ stop :: back) = front ++ stop :: Text.dropTrailing p back := by
  rw [Text.dropTrailing, List.reverse_append, List.reverse_cons, List.append_assoc, List.singleton_append,
    dropWhile_through h, List.reverse_append, List.reverse_cons, List.reverse_reverse, List.append_assoc,
    List.singleton_append, Text.dropTrailing]

theorem drop_takeWhile_append (p : Char → Bool) (front back : List Char) :
    (front ++ back).drop (front.takeWhile p).length = front.drop (front.takeWhile p).length ++ back :=
  List.drop_append_of_le_length (List.takeWhile_sublist p).length_le

end Lists

namespace AddressPath

/-- The segments so far, the last first, after one more that is not the last. -/
def passed (done : List String) (segment : List Char) : List String :=
  if spelledDots segment = ['.'] then done
  else if spelledDots segment = ['.', '.'] then up done
  else Text.Percent.encode reserved segment :: done

/-- Segments are resolved one by one. -/
theorem resolve_append (above : List (List Char)) (done : List String) {rest : List (List Char)} (h : rest ≠ []) :
    resolve false done (above ++ rest) = resolve false (above.foldl passed done) rest := by
  induction above generalizing done with
  | nil => rfl
  | cons segment above ih =>
      have hMore : (above ++ rest).isEmpty = false := by
        simp [h]
      rw [List.cons_append, resolve, hMore, List.foldl_cons, passed]
      split
      · rw [if_neg Bool.false_ne_true, ih]
      · split
        · rw [if_neg Bool.false_ne_true, ih]
        · simp [ih]

/-- Segments behind others are resolved from there on. -/
theorem ofSegments_append (above : List (List Char)) {rest : List (List Char)} (h : rest ≠ []) :
    ofSegments (above ++ rest) = .segments (resolve false (above.foldl passed []) rest) := by
  rw [ofSegments, resolve_append above [] h]

/-- An empty segment at the end is the slash there. -/
theorem resolve_nil (done : List String) : resolve false done [[]] = done.reverse ++ [""] := by
  rw [← List.reverse_cons]
  rfl

end AddressPath

namespace Address

section Ends

/-- Dropped where it stands at an end of an address. -/
def outside (c : Char) : Bool := c.toNat ≤ 0x20

/-- Not dropped inside an address. -/
def stays (c : Char) : Bool := c ≠ '\t' && c ≠ '\n' && c ≠ '\r'

/-- What is kept of the end of an address. -/
def kept (cs : List Char) : List Char := (Text.dropTrailing outside cs).filter stays

theorem cleaned_eq (text : String) : cleaned text = kept (text.toList.dropWhile outside) := rfl

theorem kept_slash (front back : List Char) :
    kept (front ++ '/' :: back) = front.filter stays ++ '/' :: kept back := by
  rw [kept, dropTrailing_through (by decide), List.filter_append, List.filter_cons_of_pos (by decide), kept]

end Ends

section Cutting

theorem cut_cons (mark c : Char) (cs : List Char) :
    cut mark (c :: cs) = if c = mark then ([], some cs) else (c :: (cut mark cs).1, (cut mark cs).2) := by
  by_cases hMark : c = mark
  · simp [cut, hMark]
  · simp [cut, hMark]

/-- What does not hold the mark comes through whole. -/
theorem cut_append {mark : Char} {cs : List Char} (h : mark ∉ cs) (more : List Char) :
    cut mark (cs ++ more) = (cs ++ (cut mark more).1, (cut mark more).2) := by
  induction cs with
  | nil => rfl
  | cons c cs ih =>
      rw [List.mem_cons, not_or] at h
      rw [List.cons_append, cut_cons, if_neg (Ne.symm h.1), ih h.2]
      rfl

theorem cut_slash {mark : Char} {front : List Char} (h : mark ∉ front ++ ['/']) (back : List Char) :
    cut mark (front ++ '/' :: back) = (front ++ '/' :: (cut mark back).1, (cut mark back).2) := by
  have hCut := cut_append h back
  rwa [List.append_assoc, List.append_assoc] at hCut

theorem cut_of_not_mem {mark : Char} {cs : List Char} (h : mark ∉ cs) : cut mark cs = (cs, none) := by
  have hCut := cut_append h []
  rwa [List.append_nil, show cut mark [] = ([], none) from rfl, List.append_nil] at hCut

theorem not_mem_of_cut {mark : Char} {cs : List Char} (h : (cut mark cs).2 = none) : mark ∉ cs := by
  induction cs with
  | nil => exact List.not_mem_nil
  | cons c cs ih =>
      rw [cut_cons] at h
      split at h
      · cases h
      · rename_i hHead
        rw [List.mem_cons, not_or]
        exact ⟨Ne.symm hHead, ih h⟩

end Cutting

section Parts

/-- A slash is in no scheme and ends none. -/
theorem scheme?_slash (front back : List Char) :
    scheme? (front ++ '/' :: back) = (scheme? front).map fun parts => (parts.1, parts.2 ++ '/' :: back) := by
  let inName (c : Char) : Bool := c.isAlphanum || c = '+' || c = '-' || c = '.'
  have hName : (front ++ '/' :: back).takeWhile inName = front.takeWhile inName := takeWhile_through (by decide) _ _
  have hBehind := drop_takeWhile_append inName front ('/' :: back)
  simp only [inName] at hName hBehind
  rw [scheme?, scheme?]
  simp only [hName, hBehind]
  generalize front.takeWhile _ = name
  generalize front.drop name.length = behind
  rcases name with _ | ⟨first, name⟩
  · rfl
  rcases behind with _ | ⟨mark, rest⟩
  · rfl
  · by_cases hMark : mark = ':'
    · subst hMark
      simp only [List.cons_append]
      split <;> rfl
    · simp [hMark]

section Known

variable {scheme : Scheme}

theorem parts_slash (scheme : Scheme) : scheme.parts '/' = true := by simp [Scheme.parts]

/-- Segments behind the last slash of a path are parted from those before. -/
theorem pathBehind_slash (scheme : Scheme) (front : List Char) :
    ∃ above, ∀ back, pathBehind scheme (front ++ '/' :: back) = .ofSegments (above ++ back.splitOnP scheme.parts) := by
  have hFull (back : List Char) : (front ++ '/' :: back).isEmpty = false := by
    cases front <;> rfl
  simp only [pathBehind, hFull, Bool.false_and, Bool.false_eq_true, if_false]
  cases front with
  | nil => exact ⟨[], fun back => by simp [parts_slash]⟩
  | cons c front =>
      simp only [List.cons_append, List.head?_cons, Option.any_some, List.drop_succ_cons, List.drop_zero]
      split
      · exact ⟨front.splitOnP scheme.parts, fun back => by rw [List.splitOnP_append_cons _ _ (parts_slash scheme)]⟩
      · exact ⟨(c :: front).splitOnP scheme.parts, fun back => by
          rw [← List.cons_append, List.splitOnP_append_cons _ _ (parts_slash scheme)]⟩

/-- The part of an address between its slashes and its last slash, and what may stand behind that. -/
theorem afterSlashes?_slash {front : List Char} {authority : Authority} {path : AddressPath}
    (h : afterSlashes? scheme (front ++ ['/']) = some (authority, path)) :
    ∃ above, ∀ back, afterSlashes? scheme (front ++ '/' :: back) =
      some (authority, .ofSegments (above ++ back.splitOnP scheme.parts)) := by
  have hName (back : List Char) : (front ++ '/' :: back).takeWhile (fun c => !scheme.parts c) =
      front.takeWhile fun c => !scheme.parts c := takeWhile_through (by rw [parts_slash]; rfl) _ _
  have hBehind := drop_takeWhile_append (fun c => !scheme.parts c) front
  simp only [afterSlashes?, hName, hBehind, ← List.append_assoc] at h ⊢
  obtain ⟨⟨named, rest⟩, hNamed, hPath⟩ := Option.bind_eq_some_iff.mp h
  obtain ⟨rfl, -⟩ := Prod.mk.inj (Option.some.inj hPath)
  obtain ⟨above, hAbove⟩ := pathBehind_slash scheme (rest ++ front.drop (front.takeWhile fun c => !scheme.parts c).length)
  refine ⟨above, fun back => ?_⟩
  rw [hNamed, ← hAbove]
  rfl

theorem afterScheme?_web (hWeb : scheme.isWeb = true) (cs : List Char) :
    afterScheme? scheme cs =
      (afterSlashes? scheme (cs.dropWhile scheme.parts)).map fun parts => (some parts.1, parts.2) := by
  cases scheme with
  | http => rfl
  | https => rfl
  | _ => cases hWeb

theorem afterSlashes?_nil (hWeb : scheme.isWeb = true) : afterSlashes? scheme [] = none := by
  cases scheme with
  | http => rfl
  | https => rfl
  | _ => cases hWeb

theorem afterScheme?_slash (hWeb : scheme.isWeb = true) {front : List Char} {authority : Option Authority}
    {path : AddressPath} (h : afterScheme? scheme (front ++ ['/']) = some (authority, path)) :
    ∃ above, ∀ back, afterScheme? scheme (front ++ '/' :: back) =
      some (authority, .ofSegments (above ++ back.splitOnP scheme.parts)) := by
  simp only [afterScheme?_web hWeb, List.dropWhile_append] at h ⊢
  split at h
  -- Nothing but slashes would be a base without a host.
  · simp [parts_slash, afterSlashes?_nil hWeb] at h
  · rename_i hHost
    obtain ⟨⟨named, read⟩, hRead, hParts⟩ := Option.map_eq_some_iff.mp h
    obtain ⟨rfl, -⟩ := Prod.mk.inj hParts
    obtain ⟨above, hAbove⟩ := afterSlashes?_slash hRead
    exact ⟨above, fun back => by rw [if_neg hHost, hAbove, Option.map_some]⟩

end Known

theorem afterColon?_eq_some {scheme : Scheme} {cs : List Char} {address : Address} :
    afterColon? scheme cs = some address ↔
      ∃ authority path, afterScheme? scheme (cut '?' (cut '#' cs).1).1 = some (authority, path) ∧
        address = ⟨scheme, authority, path, (cut '?' (cut '#' cs).1).2.map (Text.Percent.encode (reservedInQuery scheme)),
          (cut '#' cs).2.map (Text.Percent.encode AddressPath.reservedInFragment)⟩ := by
  constructor
  · intro h
    obtain ⟨⟨authority, path⟩, hParts, hAddress⟩ := Option.bind_eq_some_iff.mp h
    exact ⟨authority, path, hParts, (Option.some.inj hAddress).symm⟩
  · rintro ⟨authority, path, hParts, rfl⟩
    exact Option.bind_eq_some_iff.mpr ⟨(authority, path), hParts, rfl⟩

theorem scheme_of_afterColon? {scheme : Scheme} {cs : List Char} {address : Address}
    (h : afterColon? scheme cs = some address) : address.scheme = scheme := by
  obtain ⟨authority, path, -, rfl⟩ := afterColon?_eq_some.mp h
  rfl

/-- The address that a text below the base stands for; `done` holds the segments of the base, the last
first. -/
def placed (base : Address) (done : List String) (cs : List Char) : Address :=
  let (cs, fragment) := cut '#' cs
  let (cs, query) := cut '?' cs
  { base with
    path := .segments (AddressPath.resolve false done (cs.splitOnP base.scheme.parts))
    query := query.map (Text.Percent.encode (reservedInQuery base.scheme))
    fragment := fragment.map (Text.Percent.encode AddressPath.reservedInFragment) }

/-- A text behind the last slash of a base is read by itself. -/
theorem afterColon?_slash {scheme : Scheme} {front : List Char} {base : Address} (hWeb : scheme.isWeb = true)
    (hRead : afterColon? scheme (front ++ ['/']) = some base) (hQuery : base.query = none)
    (hFragment : base.fragment = none) :
    ∃ done, base.path = .segments (done.reverse ++ [""]) ∧
      ∀ back, afterColon? scheme (front ++ '/' :: back) = some (base.placed done back) := by
  obtain ⟨authority, path, hParts, rfl⟩ := afterColon?_eq_some.mp hRead
  simp only [Option.map_eq_none_iff] at hQuery hFragment
  have hNoFragment := not_mem_of_cut hFragment
  rw [cut_of_not_mem hNoFragment] at hQuery hParts
  have hNoQuery := not_mem_of_cut hQuery
  rw [cut_of_not_mem hNoQuery] at hParts
  obtain ⟨above, hAbove⟩ := afterScheme?_slash hWeb hParts
  refine ⟨above.foldl AddressPath.passed [], ?_, fun back => ?_⟩
  · have hPath := (hAbove []).symm.trans hParts
    rw [List.splitOnP_nil, AddressPath.ofSegments_append above (by simp), AddressPath.resolve_nil] at hPath
    exact (Prod.mk.inj (Option.some.inj hPath)).2.symm
  · refine afterColon?_eq_some.mpr
      ⟨authority, .ofSegments (above ++ (cut '?' (cut '#' back).1).1.splitOnP scheme.parts), ?_, ?_⟩
    · rw [cut_slash hNoFragment, cut_slash hNoQuery]
      exact hAbove _
    · simp only [cut_slash hNoFragment back, cut_slash hNoQuery, AddressPath.ofSegments_append above (List.splitOnP_ne_nil _ _)]
      rfl

end Parts

end Address

namespace Remote

open Address

/-- What stands in front of the last slash of the base. -/
def front (r : Remote) : List Char := ((Text.dropTrailing (· = '/') r.base.toList).dropWhile outside).filter stays

/-- What stands behind the last slash of the base. -/
def below (path : String) : List Char := kept (path.toList.dropWhile (· = '/'))

/-- The base with one slash at its end is an address, to which no query or fragment belongs. -/
structure Based (r : Remote) (base : Address) : Prop where
  reads : Address.parse? (r.url "") = some base
  query : base.query = none
  fragment : base.fragment = none

section Addresses

variable {r : Remote} {base : Address}

theorem cleaned_url (r : Remote) (path : String) : cleaned (r.url path) = r.front ++ '/' :: below path := by
  have hText : (r.url path).toList =
      Text.dropTrailing (· = '/') r.base.toList ++ '/' :: path.toList.dropWhile (· = '/') := by
    simp [url]
  rw [cleaned_eq, hText, dropWhile_through (by decide), kept_slash]
  rfl

theorem parse?_url (r : Remote) (path : String) :
    parse? (r.url path) = (scheme? r.front).bind fun parts => afterColon? parts.1 (parts.2 ++ '/' :: below path) := by
  rw [parse?, cleaned_url, scheme?_slash, Option.bind_eq_bind, Option.bind_map]
  rfl

/-- Every address below a base has the scheme of the base. -/
theorem scheme_of_parse?_url {path other : String} {address second : Address}
    (hAddress : parse? (r.url path) = some address) (hSecond : parse? (r.url other) = some second) :
    address.scheme = second.scheme := by
  rw [parse?_url] at hAddress hSecond
  obtain ⟨parts, hParts, hRead⟩ := Option.bind_eq_some_iff.mp hAddress
  rw [hParts] at hSecond
  rw [scheme_of_afterColon? hRead, scheme_of_afterColon? hSecond]

/-- A path below a base is read by itself. -/
theorem exists_placed (h : Based r base) (hWeb : base.scheme.isWeb = true) :
    ∃ done, base.path = .segments (done.reverse ++ [""]) ∧
      ∀ path, parse? (r.url path) = some (base.placed done (below path)) := by
  have hReads := h.reads
  rw [parse?_url] at hReads
  obtain ⟨⟨scheme, middle⟩, hScheme, hRead⟩ := Option.bind_eq_some_iff.mp hReads
  rw [scheme_of_afterColon? hRead] at hWeb
  obtain ⟨done, hPath, hPlaced⟩ := afterColon?_slash hWeb hRead h.query h.fragment
  refine ⟨done, hPath, fun path => ?_⟩
  rw [parse?_url, hScheme, Option.bind_some, hPlaced]

end Addresses

section Requests

/-- Requests for an address can be sent. -/
def CanBeAsked (address : Address) : Prop :=
  address.scheme.isWeb = true ∧ ∃ host, address.host? = some host ∧ host.canBeAsked = true

/-- The token can stand in a request. -/
def Fits (r : Remote) : Prop := r.token.all fitsHeader = true

/-- The request of a call for an address. -/
def asking (r : Remote) (call : Call) (address : Address) : HttpRequest :=
  ⟨method call, if address.credentials?.isSome then address.anonymous else address, address.credentials?,
    r.token.map ("Bearer " ++ ·), body? call⟩

theorem compose_eq_ok_iff {r : Remote} {call : Call} {url : String} {request : HttpRequest} :
    r.compose call url = .ok request ↔
      ∃ address, parse? url = some address ∧ CanBeAsked address ∧ r.Fits ∧ request = r.asking call address := by
  rw [compose]
  cases hRead : parse? url with
  | none => simp
  | some address =>
      cases hHost : address.host? with
      | none => simp [CanBeAsked, hHost]
      | some host =>
          have hScheme : (if address.credentials?.isSome = true then address.anonymous else address).scheme = address.scheme := by
            split <;> rfl
          simp only [hHost, hScheme, CanBeAsked, Fits, asking, Option.some.injEq, exists_eq_left']
          cases r.token.all fitsHeader with
          | false => simp
          | true =>
              cases address.scheme.isWeb with
              | false => simp
              | true =>
                  cases host.canBeAsked with
                  | false => simp
                  | true => simp [@eq_comm _ request]

/-- What is sent does not depend on what is answered. -/
theorem sent_iff {r : Remote} {network : HttpRequest → Option HttpResponse} {call : Call} {request : HttpRequest} :
    (r.reply network call).2 = some request ↔
      ∃ path address, path? call = some path ∧ parse? (r.url path) = some address ∧ CanBeAsked address ∧ r.Fits ∧
        request = r.asking call address := by
  rw [reply]
  cases hPath : path? call with
  | none => simp
  | some path =>
      simp only [Option.some.injEq, exists_and_left, exists_eq_left', ← compose_eq_ok_iff]
      cases r.compose call (r.url path) <;> simp

/-- A base that can be asked is one for every path below it. -/
theorem sent_below {r : Remote} {base : Address} (h : Based r base) :
    ∃ done, (CanBeAsked base → base.path = .segments (done.reverse ++ [""])) ∧
      ∀ network call request, (r.reply network call).2 = some request ↔
        ∃ path, path? call = some path ∧ CanBeAsked base ∧ r.Fits ∧
          request = r.asking call (base.placed done (below path)) := by
  cases hWeb : base.scheme.isWeb with
  | true =>
      obtain ⟨done, hPath, hPlaced⟩ := exists_placed h hWeb
      refine ⟨done, fun _ => hPath, fun network call request => ?_⟩
      simp only [sent_iff, hPlaced, Option.some.injEq, exists_eq_left', exists_and_left]
      rfl
  | false =>
      have hNever : ¬ CanBeAsked base := fun hAsked => by
        rw [CanBeAsked, hWeb] at hAsked
        exact Bool.false_ne_true hAsked.1
      refine ⟨[], fun hAsked => absurd hAsked hNever, fun network call request => ?_⟩
      rw [sent_iff]
      constructor
      · rintro ⟨path, address, -, hAddress, hAsked, -⟩
        rw [CanBeAsked, scheme_of_parse?_url hAddress h.reads, hWeb] at hAsked
        exact absurd hAsked.1 Bool.false_ne_true
      · rintro ⟨path, -, hAsked, -⟩
        exact absurd hAsked hNever

end Requests

end Remote

end AuditDesk.Service
