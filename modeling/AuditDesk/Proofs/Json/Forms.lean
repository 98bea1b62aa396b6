import AuditDesk.Json.Decoder
import AuditDesk.Proofs.Json.Reading

/-! The forms in which a value can stand in a text. Whatever is read there, a value, a record or nothing
at all, goes through the same items and members from the same cursors, so the forms are told here once,
by the cursors between their parts. -/
namespace AuditDesk.Json

namespace Cursor

/-- The cursor behind white space. -/
def pastBlanks (c : Cursor) : Cursor := c.skipWhile isJsonBlank

theorem skipWhile_idem (keep : UInt8 → Bool) (c : Cursor) :
    (c.skipWhile keep).skipWhile keep = c.skipWhile keep := by
  obtain ⟨rest, p⟩ := c
  induction rest generalizing p with
  | nil => rfl
  | cons b rest ih =>
      cases hKeep : keep b with
      | true =>
          rw [skipWhile_of_keep rest p hKeep]
          exact ih _
      | false => rw [skipWhile_of_not rest p hKeep, skipWhile_of_not rest p hKeep]

@[simp]
theorem pastBlanks_idem (c : Cursor) : c.pastBlanks.pastBlanks = c.pastBlanks := skipWhile_idem _ c

end Cursor

namespace Reading

variable {α β : Type}

/-- What has been read, if anything, without the reason why not. -/
def result? : Reading α → Option (α × Cursor)
  | .done a next => some (a, next)
  | .failed _ _ => none

@[simp]
theorem result?_done (a : α) (next : Cursor) : (Reading.done a next).result? = some (a, next) := rfl

theorem result?_eq_some {r : Reading α} {a : α} {next : Cursor} :
    r.result? = some (a, next) ↔ r = .done a next := by
  cases r <;> simp [result?]

end Reading

namespace Reader

section Results

variable {α β : Type} (c : Cursor)

theorem result?_bind (r : Reader α) (f : α → Reader β) :
    ((r >>= f) c).result? = (r c).result?.bind fun read => (f read.1 read.2).result? := by
  change (andThen r f c).result? = _
  unfold andThen
  cases r c <;> rfl

@[simp]
theorem result?_yield (a : α) : (yield a c).result? = some (a, c) := rfl

@[simp]
theorem result?_failUnplaced (cause : Cause) : (failUnplaced (α := α) cause c).result? = none := rfl

@[simp]
theorem result?_pure (a : α) : ((pure a : Reader α) c).result? = some (a, c) := rfl

theorem result?_placed (r : Reader α) : (placed r c).result? = (r c).result? := by
  unfold placed
  split
  · rename_i hFailed
    rw [hFailed]
    rfl
  · rfl

theorem result?_closing (body : Reader α) (close : Reader Unit) :
    (closing body close c).result? =
      (body c).result?.bind fun read => (close read.2).result?.map fun closed => (read.1, closed.2) := by
  unfold closing
  cases body c with
  | done a next =>
      cases hClose : close next <;> simp [Reading.result?, hClose]
  | failed failure next => rfl

theorem result?_ofExcept (outcome : Except Cause α) :
    (ofExcept outcome c).result? = outcome.toOption.map fun a => (a, c) := by
  cases outcome <;> rfl

theorem result?_lookPastBlanks_bind (f : Option Char → Reader β) :
    ((lookPastBlanks >>= f) c).result? = (f c.pastBlanks.peek? c.pastBlanks).result? := rfl

/-- A reader that has come to an end has done so in both of its parts. -/
theorem done_of_bind {r : Reader α} {f : α → Reader β} {c last : Cursor} {b : β}
    (h : (r >>= f) c = .done b last) : ∃ a next, r c = .done a next ∧ f a next = .done b last := by
  rw [← Reading.result?_eq_some, result?_bind] at h
  obtain ⟨⟨a, next⟩, hFirst, hSecond⟩ := Option.bind_eq_some_iff.mp h
  exact ⟨a, next, Reading.result?_eq_some.mp hFirst, Reading.result?_eq_some.mp hSecond⟩

theorem done_of_lookPastBlanks {f : Option Char → Reader β} {c last : Cursor} {b : β}
    (h : (lookPastBlanks >>= f) c = .done b last) : f c.pastBlanks.peek? c.pastBlanks = .done b last := h

theorem done_of_placed {r : Reader α} {c next : Cursor} {a : α} (h : placed r c = .done a next) :
    r c = .done a next := by
  rw [← Reading.result?_eq_some, result?_placed] at h
  exact Reading.result?_eq_some.mp h

theorem done_of_closing {body : Reader α} {close : Reader Unit} {c last : Cursor} {a : α}
    (h : closing body close c = .done a last) :
    ∃ next, body c = .done a next ∧ close next = .done () last := by
  rw [← Reading.result?_eq_some, result?_closing] at h
  obtain ⟨⟨b, next⟩, hBody, hClose⟩ := Option.bind_eq_some_iff.mp h
  obtain ⟨⟨_, _⟩, hClosed, hSame⟩ := Option.map_eq_some_iff.mp hClose
  cases hSame
  exact ⟨next, Reading.result?_eq_some.mp hBody, Reading.result?_eq_some.mp hClosed⟩

theorem lookPastBlanks_pastBlanks (f : Option Char → Reader β) (c : Cursor) :
    (lookPastBlanks >>= f) c.pastBlanks = (lookPastBlanks >>= f) c := by
  change f c.pastBlanks.pastBlanks.peek? c.pastBlanks.pastBlanks = f c.pastBlanks.peek? c.pastBlanks
  rw [Cursor.pastBlanks_idem]

theorem lookPastBlanks_of_peek {c : Cursor} {first : Char} (h : c.pastBlanks.peek? = some first) :
    lookPastBlanks c = .done (some first) c.pastBlanks := by
  rw [← h]
  rfl

end Results

section Separators

variable {c start next : Cursor}

/-- The first item stands right here, any other behind a comma. -/
theorem nextItem_cases {first more : Bool} (h : nextItem first c = .done more next) :
    (more = false ∧ c.pastBlanks.peek? = some ']' ∧ next = c.pastBlanks) ∨
      more = true ∧ ∃ sign, c.pastBlanks.peek? = some sign ∧ sign ≠ ']' ∧
        if first then next = c.pastBlanks else sign = ',' ∧ next = c.pastBlanks.advance.pastBlanks := by
  replace h := done_of_lookPastBlanks h
  cases hPeek : c.pastBlanks.peek? with
  | none =>
      simp only [hPeek] at h
      cases h
  | some sign =>
      by_cases hClose : sign = ']'
      · simp only [hPeek, hClose] at h
        cases h
        exact .inl ⟨rfl, congrArg some hClose, rfl⟩
      simp only [hPeek] at h
      cases first with
      | true =>
          cases h
          exact .inr ⟨rfl, sign, rfl, hClose, rfl⟩
      | false =>
          by_cases hComma : sign = ','
          · rw [if_neg Bool.false_ne_true, if_pos hComma] at h
            obtain ⟨_, _, hSkip, h⟩ := done_of_bind h
            cases hSkip
            replace h := done_of_lookPastBlanks h
            cases hSecond : c.pastBlanks.advance.pastBlanks.peek? with
            | none =>
                simp only [hSecond] at h
                cases h
            | some second =>
                by_cases hTrailing : second = ']'
                · simp only [hSecond, hTrailing] at h
                  cases h
                · simp only [hSecond] at h
                  cases h
                  exact .inr ⟨rfl, sign, rfl, hClose, hComma, rfl⟩
          · rw [if_neg Bool.false_ne_true, if_neg hComma] at h
            cases h

theorem nextItem_false {first : Bool} (h : nextItem first c = .done false next) :
    c.pastBlanks.peek? = some ']' ∧ next = c.pastBlanks := by
  rcases nextItem_cases h with ⟨_, hEnd⟩ | ⟨hMore, _⟩
  · exact hEnd
  · cases hMore

theorem nextItem_true {first : Bool} (h : nextItem first c = .done true start) :
    ∃ sign, c.pastBlanks.peek? = some sign ∧ sign ≠ ']' ∧
      if first then start = c.pastBlanks
      else sign = ',' ∧ start = c.pastBlanks.advance.pastBlanks := by
  rcases nextItem_cases h with ⟨hMore, _⟩ | ⟨_, hSome⟩
  · cases hMore
  · exact hSome

theorem nextKey_cases {first more : Bool} (h : nextKey first c = .done more next) :
    (more = false ∧ c.pastBlanks.peek? = some '\x7d' ∧ next = c.pastBlanks) ∨
      more = true ∧ next.peek? = some '"' ∧
        if first then next = c.pastBlanks
        else c.pastBlanks.peek? = some ',' ∧ next = c.pastBlanks.advance.pastBlanks := by
  replace h := done_of_lookPastBlanks h
  cases hPeek : c.pastBlanks.peek? with
  | none =>
      simp only [hPeek] at h
      cases h
  | some sign =>
      by_cases hClose : sign = '\x7d'
      · simp only [hPeek, hClose] at h
        cases h
        exact .inl ⟨rfl, congrArg some hClose, rfl⟩
      simp only [hPeek] at h
      cases first with
      | true =>
          rw [if_pos rfl] at h
          by_cases hQuote : sign = '"'
          · simp only [hQuote] at h
            cases h
            exact .inr ⟨rfl, hPeek.trans (congrArg some hQuote), rfl⟩
          · simp only at h
            cases h
      | false =>
          by_cases hComma : sign = ','
          · rw [if_neg Bool.false_ne_true, if_pos hComma] at h
            obtain ⟨_, _, hSkip, h⟩ := done_of_bind h
            cases hSkip
            replace h := done_of_lookPastBlanks h
            cases hSecond : c.pastBlanks.advance.pastBlanks.peek? with
            | none =>
                simp only [hSecond] at h
                cases h
            | some second =>
                by_cases hQuote : second = '"'
                · simp only [hSecond, hQuote] at h
                  cases h
                  exact .inr ⟨rfl, hSecond.trans (congrArg some hQuote), congrArg some hComma, rfl⟩
                · by_cases hTrailing : second = '\x7d'
                  · simp only [hSecond, hTrailing] at h
                    cases h
                  · simp only [hSecond] at h
                    cases h
          · rw [if_neg Bool.false_ne_true, if_neg hComma] at h
            cases h

theorem nextKey_false {first : Bool} (h : nextKey first c = .done false next) :
    c.pastBlanks.peek? = some '\x7d' ∧ next = c.pastBlanks := by
  rcases nextKey_cases h with ⟨_, hEnd⟩ | ⟨hMore, _⟩
  · exact hEnd
  · cases hMore

theorem nextKey_true {first : Bool} (h : nextKey first c = .done true start) :
    start.peek? = some '"' ∧
      if first then start = c.pastBlanks
      else c.pastBlanks.peek? = some ',' ∧ start = c.pastBlanks.advance.pastBlanks := by
  rcases nextKey_cases h with ⟨hMore, _⟩ | ⟨_, hSome⟩
  · cases hMore
  · exact hSome

end Separators

section Sequences

variable {α β : Type} {item : Reader α}

/-- The items of an array from a cursor up to its closing bracket, the way an item reader goes through
them. -/
inductive Listed (item : Reader α) : Bool → Cursor → List α → Cursor → Prop
  | nil {first : Bool} {c next : Cursor} (hEnd : nextItem first c = .done false next) :
      Listed item first c [] next
  | cons {first : Bool} {c start behind next : Cursor} {a : α} {as : List α}
      (hNext : nextItem first c = .done true start) (hItem : item start = .done a behind)
      (more : Listed item false behind as next) : Listed item first c (a :: as) next

/-- The members of an object from a cursor up to its closing brace. -/
inductive Keyed (item : Reader α) : Bool → Cursor → List (String × α) → Cursor → Prop
  | nil {first : Bool} {c next : Cursor} (hEnd : nextKey first c = .done false next) :
      Keyed item first c [] next
  | cons {first : Bool} {c start named valued behind next : Cursor} {key : String} {a : α}
      {members : List (String × α)} (hNext : nextKey first c = .done true start)
      (hKey : quoted start = .done key named) (hColon : colon named = .done () valued)
      (hItem : item valued = .done a behind) (more : Keyed item false behind members next) :
      Keyed item first c ((key, a) :: members) next

/-- Reads one more item. -/
def collect (item : Reader α) (found : List α) : Reader (List α) := do return (← item) :: found

/-- Reads one more member behind its key. -/
def collectMember (item : Reader α) (key : String) (found : List (String × α)) :
    Reader (List (String × α)) := do
  colon
  return (key, ← item) :: found

theorem listed_of_itemsFrom {fuel : Nat} {first : Bool} {found all : List α} {c next : Cursor}
    (h : itemsFrom (collect item) fuel first found c = .done all next) :
    ∃ as, Listed item first c as next ∧ as.length < fuel ∧ all = as.reverse ++ found := by
  induction fuel generalizing first found c with
  | zero => cases h
  | succ fuel ih =>
      obtain ⟨hasItem, start, hNext, h⟩ := done_of_bind h
      cases hasItem with
      | false =>
          cases h
          exact ⟨[], .nil hNext, Nat.succ_pos _, rfl⟩
      | true =>
          obtain ⟨_, behind, hCollect, h⟩ := done_of_bind h
          obtain ⟨a, _, hItem, hCons⟩ := done_of_bind hCollect
          cases hCons
          obtain ⟨as, hListed, hLength, rfl⟩ := ih h
          refine ⟨a :: as, .cons hNext hItem hListed, Nat.succ_lt_succ hLength, ?_⟩
          simp

theorem keyed_of_membersFrom {fuel : Nat} {first : Bool} {found all : List (String × α)} {c next : Cursor}
    (h : membersFrom quoted (collectMember item) fuel first found c = .done all next) :
    ∃ members, Keyed item first c members next ∧ members.length < fuel ∧
      all = members.reverse ++ found := by
  induction fuel generalizing first found c with
  | zero => cases h
  | succ fuel ih =>
      obtain ⟨hasMember, start, hNext, h⟩ := done_of_bind h
      cases hasMember with
      | false =>
          cases h
          exact ⟨[], .nil hNext, Nat.succ_pos _, rfl⟩
      | true =>
          obtain ⟨key, named, hKey, h⟩ := done_of_bind h
          obtain ⟨_, behind, hCollect, h⟩ := done_of_bind h
          obtain ⟨_, valued, hColon, hCollect⟩ := done_of_bind hCollect
          obtain ⟨a, _, hItem, hCons⟩ := done_of_bind hCollect
          cases hCons
          obtain ⟨members, hKeyed, hLength, rfl⟩ := ih h
          refine ⟨(key, a) :: members, .cons hNext hKey hColon hItem hKeyed, Nat.succ_lt_succ hLength, ?_⟩
          simp

end Sequences

/-- How a value stands at a cursor behind white space. -/
inductive Form (depth : Nat) (c : Cursor) : Value → Cursor → Prop
  | scalar {first : Char} {r : Reader Value} {v : Value} {next : Cursor} (hPeek : c.peek? = some first)
      (hScalar : scalar? first = some r) (hDone : r c = .done v next) : Form depth c v next
  | array {inner : Nat} {items : List Value} {next last : Cursor} (hDepth : depth = inner + 1)
      (hPeek : c.peek? = some '[') (hItems : Listed (value inner) true c.advance items next)
      (hFuel : items.length < c.advance.rest.length + 1)
      (hClose : closeArray next = .done () last) : Form depth c (.array items) last
  | object {inner : Nat} {members : List (String × Value)} {next last : Cursor}
      (hDepth : depth = inner + 1) (hPeek : c.peek? = some '\x7b')
      (hMembers : Keyed (value inner) true c.advance members next)
      (hFuel : members.length < c.advance.rest.length + 1)
      (hClose : closeObject next = .done () last) : Form depth c (.object members) last

theorem form_of_arrayOf {inner : Nat} {c last : Cursor} {v : Value} (hPeek : c.peek? = some '[')
    (h : arrayOf (value inner) c = .done v last) : Form (inner + 1) c v last := by
  obtain ⟨_, _, hSkip, h⟩ := done_of_bind h
  cases hSkip
  obtain ⟨found, _, hFound, hArray⟩ := done_of_bind h
  cases hArray
  obtain ⟨next, hItems, hClose⟩ := done_of_closing (done_of_placed hFound)
  obtain ⟨items, hListed, hFuel, rfl⟩ := listed_of_itemsFrom hItems
  have hOrder : (items.reverse ++ []).reverse = items := by simp
  rw [hOrder]
  exact .array rfl hPeek hListed hFuel hClose

theorem form_of_objectOf {inner : Nat} {c last : Cursor} {v : Value} (hPeek : c.peek? = some '\x7b')
    (h : objectOf (value inner) c = .done v last) : Form (inner + 1) c v last := by
  obtain ⟨_, _, hSkip, h⟩ := done_of_bind h
  cases hSkip
  obtain ⟨found, _, hFound, hObject⟩ := done_of_bind h
  cases hObject
  obtain ⟨next, hMembers, hClose⟩ := done_of_closing (done_of_placed hFound)
  obtain ⟨members, hKeyed, hFuel, rfl⟩ := keyed_of_membersFrom hMembers
  have hOrder : (members.reverse ++ []).reverse = members := by simp
  rw [hOrder]
  exact .object rfl hPeek hKeyed hFuel hClose

theorem valueOver_cases {inner? : Option (Reader Value)} {c next : Cursor} {v : Value}
    (h : valueOver inner? c = .done v next) :
    (∃ first r, c.pastBlanks.peek? = some first ∧ scalar? first = some r ∧
      r c.pastBlanks = .done v next) ∨
    (∃ inner, inner? = some inner ∧ c.pastBlanks.peek? = some '[' ∧
      arrayOf inner c.pastBlanks = .done v next) ∨
    ∃ inner, inner? = some inner ∧ c.pastBlanks.peek? = some '\x7b' ∧
      objectOf inner c.pastBlanks = .done v next := by
  replace h := done_of_lookPastBlanks h
  generalize hPeek : c.pastBlanks.peek? = first? at h
  cases first? with
  | none => cases h
  | some first =>
      cases hScalar : scalar? first with
      | some r =>
          simp only [hScalar] at h
          exact .inl ⟨first, r, rfl, hScalar, h⟩
      | none =>
          simp only [hScalar] at h
          split at h
          · exact .inr (.inl ⟨_, rfl, rfl, h⟩)
          · exact .inr (.inr ⟨_, rfl, rfl, h⟩)
          all_goals cases h

/-- Whoever has read a value has read it in one of its forms. -/
theorem form_of_value {depth : Nat} {c next : Cursor} {v : Value} (h : value depth c = .done v next) :
    Form depth c.pastBlanks v next := by
  cases depth with
  | zero =>
      rcases valueOver_cases h with ⟨first, r, hPeek, hScalar, hDone⟩ | ⟨_, hNone, _⟩ | ⟨_, hNone, _⟩
      · exact .scalar hPeek hScalar hDone
      · cases hNone
      · cases hNone
  | succ depth =>
      rcases valueOver_cases h with ⟨first, r, hPeek, hScalar, hDone⟩ | ⟨_, hInner, hPeek, hDone⟩ |
        ⟨_, hInner, hPeek, hDone⟩
      · exact .scalar hPeek hScalar hDone
      · cases hInner
        exact form_of_arrayOf hPeek hDone
      · cases hInner
        exact form_of_objectOf hPeek hDone

end Reader

end AuditDesk.Json
