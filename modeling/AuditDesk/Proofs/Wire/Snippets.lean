import AuditDesk.Proofs.Json.Recovery
import AuditDesk.Proofs.Wire.Decoding
import AuditDesk.SnippetStore

/-! A stored collection of snippets is read back as it was, whatever texts the snippets hold. -/
namespace AuditDesk.Wire

open Json

theorem regular_ofSnippet {depth : Nat} (s : Snippet) : (ofSnippet s).Regular (depth + 1) := by
  apply Value.regular_object
  · simp
  · simp [ofLanguage, Value.regular_string]

theorem regular_ofSnippets {depth : Nat} (snippets : List Snippet) :
    (ofSnippets snippets).Regular (depth + 2) := by
  apply Value.regular_array
  intro v hv
  obtain ⟨s, _, rfl⟩ := List.mem_map.mp hv
  exact regular_ofSnippet s

theorem snippet_buffered (s : Snippet) : snippet.buffered (ofSnippet s) = some s := by
  obtain ⟨name, code, language⟩ := s
  cases language <;> rfl

/-- Snippets come back as they were. -/
theorem snippets_recovers (l : List Snippet) : snippets.Recovers (ofSnippets l) l :=
  Decoder.recovers_of_buffered snippets_agrees (regular_ofSnippets l)
    (Decoder.list_buffered ofSnippet fun s _ => snippet_buffered s)

end AuditDesk.Wire

namespace AuditDesk.SnippetStore

/-- No snippet is lost or changed by being stored. -/
theorem decode_encode (snippets : List Snippet) : decode (encode snippets) = .ok snippets := by
  rw [decode, encode, (Wire.snippets_recovers snippets).compact]
  rfl

end AuditDesk.SnippetStore
