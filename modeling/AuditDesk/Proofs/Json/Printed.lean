import AuditDesk.Json.Printer
import AuditDesk.Proofs.Json.Folding
import AuditDesk.Proofs.Json.Gaps
import AuditDesk.Proofs.Json.Numbers
import AuditDesk.Proofs.Json.Strings

/-! A written value is read back, with or without white space. Both ways of writing are one way with
different gaps, and in a gap there is nothing but white space. -/
namespace AuditDesk.Json

open Text

namespace Value

/-- The numbers of the value are whole and of 64 bits; these are written digit for digit. -/
inductive Whole : Value → Prop
  | null : Whole .null
  | boolean (b : Bool) : Whole (.boolean b)
  | integer {i : Int} (hLow : -9223372036854775808 ≤ i) (hHigh : i ≤ 18446744073709551615) :
      Whole (.number (.integer i))
  | string (s : String) : Whole (.string s)
  | array {items : List Value} (h : ∀ v ∈ items, Whole v) : Whole (.array items)
  | object {members : List (String × Value)} (h : ∀ m ∈ members, Whole m.2) : Whole (.object members)

end Value

/-- What is written in front of an item, a key or a closing bracket, and between a colon and a value. -/
structure Spacing where
  gap : Nat → List Char
  behindColon : List Char
  gap_blank : ∀ level, ∀ c ∈ gap level, IsBlank c
  behindColon_blank : ∀ c ∈ behindColon, IsBlank c

namespace Spacing

def tight : Spacing where
  gap _ := []
  behindColon := []
  gap_blank _ := List.forall_mem_nil _
  behindColon_blank := List.forall_mem_nil _

def lines : Spacing where
  gap := Value.lineBreak
  behindColon := [' ']
  gap_blank level := by
    intro c hc
    rcases List.mem_cons.mp hc with rfl | hc
    · exact .inr (.inl rfl)
    · exact .inl (List.eq_of_mem_replicate hc)
  behindColon_blank := List.forall_mem_singleton.mpr (.inl rfl)

mutual

/-- A value with its gaps. -/
def printed (spacing : Spacing) (level : Nat) : Value → List Char
  | .array [] => ['[', ']']
  | .array items => '[' :: printedItems spacing level true items
  | .object [] => ['\x7b', '\x7d']
  | .object members => '\x7b' :: printedMembers spacing level true members
  | .null => "null".toList
  | .boolean true => "true".toList
  | .boolean false => "false".toList
  | .number n => n.text.toList
  | .string s => quotedChars s

def printedItems (spacing : Spacing) (level : Nat) (first : Bool) : List Value → List Char
  | [] => spacing.gap level ++ [']']
  | v :: rest =>
      (if first then [] else [',']) ++
        (spacing.gap (level + 1) ++
          (printed spacing (level + 1) v ++ printedItems spacing level false rest))

def printedMembers (spacing : Spacing) (level : Nat) (first : Bool) : List (String × Value) → List Char
  | [] => spacing.gap level ++ ['\x7d']
  | (k, v) :: rest =>
      (if first then [] else [',']) ++
        (spacing.gap (level + 1) ++
          (quotedChars k ++ ':' :: (spacing.behindColon ++
            (printed spacing (level + 1) v ++ printedMembers spacing level false rest))))

end

mutual

theorem printed_tight (level : Nat) : (v : Value) → tight.printed level v = v.compactChars
  | .array [] => rfl
  | .array (v :: items) => congrArg (List.cons '[') (printedItems_tight level true (v :: items))
  | .object [] => rfl
  | .object (m :: members) => congrArg (List.cons '\x7b') (printedMembers_tight level true (m :: members))
  | .null => rfl
  | .boolean true => rfl
  | .boolean false => rfl
  | .number _ => rfl
  | .string _ => rfl

theorem printedItems_tight (level : Nat) (first : Bool) : (items : List Value) →
    tight.printedItems level first items = Value.compactItems first items
  | [] => rfl
  | v :: items => by
      rw [printedItems, Value.compactItems, printed_tight (level + 1) v, printedItems_tight level false items]
      rfl

theorem printedMembers_tight (level : Nat) (first : Bool) : (members : List (String × Value)) →
    tight.printedMembers level first members = Value.compactMembers first members
  | [] => rfl
  | (k, v) :: members => by
      rw [printedMembers, Value.compactMembers, printed_tight (level + 1) v,
        printedMembers_tight level false members]
      rfl

end

mutual

theorem printed_lines (level : Nat) : (v : Value) → lines.printed level v = v.prettyChars level
  | .array [] => rfl
  | .array (v :: items) => congrArg (List.cons '[') (printedItems_lines level true (v :: items))
  | .object [] => rfl
  | .object (m :: members) => congrArg (List.cons '\x7b') (printedMembers_lines level true (m :: members))
  | .null => rfl
  | .boolean true => rfl
  | .boolean false => rfl
  | .number _ => rfl
  | .string _ => rfl

theorem printedItems_lines (level : Nat) (first : Bool) : (items : List Value) →
    lines.printedItems level first items = Value.prettyItems level first items
  | [] => rfl
  | v :: items => by
      rw [printedItems, Value.prettyItems, printed_lines (level + 1) v, printedItems_lines level false items]
      rfl

theorem printedMembers_lines (level : Nat) (first : Bool) : (members : List (String × Value)) →
    lines.printedMembers level first members = Value.prettyMembers level first members
  | [] => rfl
  | (k, v) :: members => by
      rw [printedMembers, Value.prettyMembers, printed_lines (level + 1) v,
        printedMembers_lines level false members]
      rfl

end

end Spacing

namespace Reader

section Items

variable {depth : Nat} {first : Bool} {c next : Cursor}

theorem value_of_pastBlanks {start : Cursor} {v : Value} (hSame : c.pastBlanks = start.pastBlanks)
    (h : value depth start = .done v next) : value depth c = .done v next :=
  value_of_form (hSame ▸ form_of_value h)

theorem length_listed {items : List Value} (h : Listed (value depth) first c items next) :
    items.length ≤ c.rest.length := by
  induction h with
  | nil => exact Nat.zero_le _
  | cons hNext hItem more ih =>
      have hStart := shortens_nextItem _ _ _ _ hNext
      have hBehind := length_value hItem
      rw [List.length_cons]
      omega

theorem length_keyed {members : List (String × Value)} (h : Keyed (value depth) first c members next) :
    members.length ≤ c.rest.length := by
  induction h with
  | nil => exact Nat.zero_le _
  | cons hNext hKey hColon hItem more ih =>
      have hStart := shortens_nextKey _ _ _ _ hNext
      have hNamed := length_skipQuoted (skipQuoted_of_quoted hKey)
      have hValued := shortens_colon _ _ _ hColon
      have hBehind := length_value hItem
      rw [List.length_cons]
      omega

end Items

section Parts

variable (spacing : Spacing) (level : Nat)

theorem endsValue_printedItems (items : List Value) (rest : List UInt8) :
    EndsValue (encoded (spacing.printedItems level false items) ++ rest) := by
  cases items with
  | nil =>
      rw [Spacing.printedItems, encoded_append, List.append_assoc]
      exact endsValue_gap (spacing.gap_blank level) (endsValue_close (b := 0x5D) (by decide) rest)
  | cons v items => exact endsValue_close (b := 0x2C) (by decide) _

theorem endsValue_printedMembers (members : List (String × Value)) (rest : List UInt8) :
    EndsValue (encoded (spacing.printedMembers level false members) ++ rest) := by
  cases members with
  | nil =>
      rw [Spacing.printedMembers, encoded_append, List.append_assoc]
      exact endsValue_gap (spacing.gap_blank level) (endsValue_close (b := 0x7D) (by decide) rest)
  | cons m members => exact endsValue_close (b := 0x2C) (by decide) _

theorem listed_close {gap : List Char} (h : ∀ c ∈ gap, IsBlank c) (item : Reader Value) (first : Bool)
    (rest : List UInt8) (p : Position) :
    ∃ q, Listed item first ⟨encoded gap ++ 0x5D :: rest, p⟩ [] ⟨0x5D :: rest, q⟩ := by
  obtain ⟨q, hEnd⟩ := nextItem_close h first rest p
  exact ⟨q, .nil hEnd⟩

theorem keyed_close {gap : List Char} (h : ∀ c ∈ gap, IsBlank c) (item : Reader Value) (first : Bool)
    (rest : List UInt8) (p : Position) :
    ∃ q, Keyed item first ⟨encoded gap ++ 0x7D :: rest, p⟩ [] ⟨0x7D :: rest, q⟩ := by
  obtain ⟨q, hEnd⟩ := nextKey_close h first rest p
  exact ⟨q, .nil hEnd⟩

theorem listed_printed {depth : Nat} {items : List Value}
    (h : ∀ v ∈ items, ∀ level, (value depth).Reads (spacing.printed level v) v) (first : Bool)
    (rest : List UInt8) (p : Position) : ∃ q,
    Listed (value depth) first ⟨encoded (spacing.printedItems level first items) ++ rest, p⟩ items
      ⟨0x5D :: rest, q⟩ := by
  induction items generalizing first p with
  | nil =>
      rw [Spacing.printedItems, encoded_append, List.append_assoc]
      exact listed_close (spacing.gap_blank level) _ first rest p
  | cons v items ih =>
      have hRead := h v List.mem_cons_self (level + 1)
      obtain ⟨sign, more, hText, hOpens⟩ := hRead.opens
      obtain ⟨start, hNext⟩ := nextItem_gap (spacing.gap_blank (level + 1)) first hOpens
        (more ++ spacing.printedItems level false items) rest p
      rw [← List.cons_append, ← hText, encoded_append (spacing.printed (level + 1) v), List.append_assoc] at hNext
      obtain ⟨behind, hItem⟩ := hRead.done _ start (endsValue_printedItems spacing level items rest)
      obtain ⟨q, hRest⟩ := ih (fun w hw => h w (List.mem_cons_of_mem _ hw)) false behind
      exact ⟨q, .cons hNext hItem hRest⟩

theorem keyed_printed {depth : Nat} {members : List (String × Value)}
    (h : ∀ m ∈ members, ∀ level, (value depth).Reads (spacing.printed level m.2) m.2) (first : Bool)
    (rest : List UInt8) (p : Position) : ∃ q,
    Keyed (value depth) first ⟨encoded (spacing.printedMembers level first members) ++ rest, p⟩ members
      ⟨0x7D :: rest, q⟩ := by
  induction members generalizing first p with
  | nil =>
      rw [Spacing.printedMembers, encoded_append, List.append_assoc]
      exact keyed_close (spacing.gap_blank level) _ first rest p
  | cons m members ih =>
      obtain ⟨key, v⟩ := m
      have hRead := h (key, v) List.mem_cons_self (level + 1)
      let tail := encoded (spacing.printedMembers level false members) ++ rest
      obtain ⟨start, hNext⟩ := nextKey_gap (spacing.gap_blank (level + 1)) first
        ((key.toList.flatMap escapeChar ++ ['"']) ++ ':' :: (spacing.behindColon ++
          (spacing.printed (level + 1) v ++ spacing.printedMembers level false members))) rest p
      have hText : encoded ('"' :: ((key.toList.flatMap escapeChar ++ ['"']) ++ ':' :: (spacing.behindColon ++
          (spacing.printed (level + 1) v ++ spacing.printedMembers level false members)))) ++ rest =
          encoded (quotedChars key) ++ 0x3A :: (encoded spacing.behindColon ++
            (encoded (spacing.printed (level + 1) v) ++ tail)) := by
        have hColon : String.utf8EncodeChar ':' = [0x3A] := rfl
        simp [quotedChars, hColon, tail]
      rw [hText] at hNext
      have hKey := quoted_written key (0x3A :: (encoded spacing.behindColon ++
        (encoded (spacing.printed (level + 1) v) ++ tail))) start
      have hColon := colon_cons (encoded spacing.behindColon ++ (encoded (spacing.printed (level + 1) v) ++ tail))
        (Quoted.after start (encoded (quotedChars key)))
      obtain ⟨valued, hBlanks⟩ := pastBlanks_gap spacing.behindColon_blank
        (encoded (spacing.printed (level + 1) v) ++ tail)
        ((Quoted.after start (encoded (quotedChars key))).after 0x3A)
      obtain ⟨behind, hItem⟩ := hRead.done tail valued (endsValue_printedMembers spacing level members rest)
      obtain ⟨q, hRest⟩ := ih (fun n hn => h n (List.mem_cons_of_mem _ hn)) false behind
      exact ⟨q, .cons hNext hKey hColon (value_of_pastBlanks hBlanks hItem) hRest⟩

end Parts

section Values

variable {depth : Nat}

theorem reads_scalar (first : Char) {more : List Char} {r : Reader Value} {v : Value}
    (hOpens : opensValue first = true) (hScalar : scalar? first = some r)
    (hRead : ∀ rest p, EndsValue rest → ∃ q, r ⟨encoded (first :: more) ++ rest, p⟩ = .done v ⟨rest, q⟩) :
    (value depth).Reads (first :: more) v where
  opens := ⟨first, more, rfl, hOpens⟩
  done rest p hEnds := by
    obtain ⟨q, hDone⟩ := hRead rest p hEnds
    obtain ⟨hBlanks, hPeek⟩ := pastBlanks_opening hOpens more rest p
    refine ⟨q, value_of_form ?_⟩
    rw [hBlanks]
    exact .scalar hPeek hScalar hDone

theorem reads_array {body : List Char} {items : List Value}
    (h : ∀ rest p, ∃ q, Listed (value depth) true ⟨encoded body ++ rest, p⟩ items ⟨0x5D :: rest, q⟩) :
    (value (depth + 1)).Reads ('[' :: body) (.array items) where
  opens := ⟨'[', body, rfl, rfl⟩
  done rest p _ := by
    obtain ⟨q, hItems⟩ := h rest (p.after 0x5B)
    have hOpens : opensValue '[' = true := rfl
    obtain ⟨hBlanks, hPeek⟩ := pastBlanks_opening hOpens body rest p
    refine ⟨q.after 0x5D, value_of_form ?_⟩
    rw [hBlanks]
    exact .array rfl hPeek hItems (Nat.lt_succ_of_le (length_listed hItems)) (closeArray_cons rest q)

theorem reads_object {body : List Char} {members : List (String × Value)}
    (h : ∀ rest p, ∃ q, Keyed (value depth) true ⟨encoded body ++ rest, p⟩ members ⟨0x7D :: rest, q⟩) :
    (value (depth + 1)).Reads ('\x7b' :: body) (.object members) where
  opens := ⟨'\x7b', body, rfl, rfl⟩
  done rest p _ := by
    obtain ⟨q, hMembers⟩ := h rest (p.after 0x7B)
    have hOpens : opensValue '\x7b' = true := rfl
    obtain ⟨hBlanks, hPeek⟩ := pastBlanks_opening hOpens body rest p
    refine ⟨q.after 0x7D, value_of_form ?_⟩
    rw [hBlanks]
    exact .object rfl hPeek hMembers (Nat.lt_succ_of_le (length_keyed hMembers)) (closeObject_cons rest q)

theorem reads_string (s : String) : (value depth).Reads (quotedChars s) (.string s) := by
  refine reads_scalar '"' rfl rfl fun rest p _ => ⟨Quoted.after p (encoded (quotedChars s)), ?_⟩
  change (quoted >>= fun s => pure (Value.string s)) ⟨encoded (quotedChars s) ++ rest, p⟩ = _
  rw [bind_of_done _ (quoted_written s rest p)]
  rfl

theorem reads_integer {i : Int} (hLow : -9223372036854775808 ≤ i) (hHigh : i ≤ 18446744073709551615) :
    (value depth).Reads (Number.integer i).text.toList (.number (.integer i)) := by
  obtain ⟨first, more, r, hText, hOpens, hScalar, hRead⟩ := scalar_integer hLow hHigh
  rw [hText]
  exact reads_scalar first hOpens hScalar hRead

/-- A written value is read as that value, whatever its gaps are. -/
theorem value_printed (spacing : Spacing) {v : Value} (hWithin : v.Within depth)
    (hWhole : v.Whole) (level : Nat) : (value depth).Reads (spacing.printed level v) v := by
  induction hWithin generalizing level with
  | null => exact reads_scalar 'n' rfl rfl fun _ _ _ => ⟨_, rfl⟩
  | boolean b =>
      cases b with
      | false => exact reads_scalar 'f' rfl rfl fun _ _ _ => ⟨_, rfl⟩
      | true => exact reads_scalar 't' rfl rfl fun _ _ _ => ⟨_, rfl⟩
  | number n =>
      cases hWhole with
      | integer hLow hHigh => exact reads_integer hLow hHigh
  | string s => exact reads_string s
  | @array depth items _ ih =>
      cases hWhole with
      | array hItems =>
          have hRead : ∀ v ∈ items, ∀ level, (value depth).Reads (spacing.printed level v) v :=
            fun v hv => ih v hv (hItems v hv)
          cases items with
          | nil => exact reads_array fun rest p => listed_close (List.forall_mem_nil _) _ true rest p
          | cons v items => exact reads_array (listed_printed spacing level hRead true)
  | @object depth members _ ih =>
      cases hWhole with
      | object hMembers =>
          have hRead : ∀ m ∈ members, ∀ level, (value depth).Reads (spacing.printed level m.2) m.2 :=
            fun m hm => ih m hm (hMembers m hm)
          cases members with
          | nil => exact reads_object fun rest p => keyed_close (List.forall_mem_nil _) _ true rest p
          | cons m members => exact reads_object (keyed_printed spacing level hRead true)

end Values

end Reader

namespace Value

variable {v : Value}

theorem ofText_printed (spacing : Spacing) (hWithin : v.Within Reader.nestingLimit) (hWhole : v.Whole) :
    ofText (String.ofList (spacing.printed 0 v)) = .ok v := by
  obtain ⟨q, hRead⟩ := (Reader.value_printed spacing hWithin hWhole 0).done [] .start nofun
  rw [ofText, bytes_ofList]
  apply Reader.whole_eq_ok.mpr
  rw [List.append_nil] at hRead
  exact ⟨⟨[], q⟩, hRead, rfl⟩

/-- What is written without white space is read back. -/
theorem ofText_compact (hWithin : v.Within Reader.nestingLimit) (hWhole : v.Whole) : ofText v.compact = .ok v := by
  rw [compact, ← Spacing.printed_tight 0 v]
  exact ofText_printed .tight hWithin hWhole

/-- What is written one member a line is read back. -/
theorem ofText_pretty (hWithin : v.Within Reader.nestingLimit) (hWhole : v.Whole) : ofText v.pretty = .ok v := by
  rw [pretty, ← Spacing.printed_lines 0 v]
  exact ofText_printed .lines hWithin hWhole

end Value

end AuditDesk.Json
