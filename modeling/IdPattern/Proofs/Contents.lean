import IdPattern.Proofs.Walks

/-!
# Contents of texts

What a text stands for is its content with the pairs `\"` resolved, and what is written for it is
the text with its quotes escaped. Escaping first and resolving then gives every text back. The other
way round this is so for exactly the texts in which every quote is escaped
(`escapeText_unescapeText_iff`): a quote without a backslash would get one that was not there.

A scanner answers with such contents only, whatever its state, and with none that ends in a
backslash (`Scanner.isContent_of_next`); and it finds each of them between two quotes, whatever
stands after the second (`Scanner.next_of_quoted`). So resolving loses nothing of what was read.
-/

namespace IdPattern

def escapeText (s : String) : String := String.ofList (escape s.toList)

/-- Every text is found again after it was escaped. -/
@[simp] theorem unescapeText_escapeText (v : String) : unescapeText (escapeText v) = v := by
  rw [unescapeText, escapeText, String.toList_ofList, unescape_escape, String.ofList_toList]

/-- Resolved pairs can be put back exactly where every quote belongs to a pair. -/
theorem escapeText_unescapeText_iff {c : String} :
    escapeText (unescapeText c) = c ↔ QuotesEscaped c.toList := by
  rw [← String.toList_inj, escapeText, unescapeText, String.toList_ofList, String.toList_ofList]
  constructor
  · intro h
    rw [← h]
    exact quotesEscaped_escape _
  · exact escape_unescape

namespace Scanner

/-- A scanner answers with contents only. -/
theorem isContent_of_next {w : Scanner} {content : List Char}
    (h : w.next.1 = .ok (some (.text content))) : IsContent content := by
  rcases w.next_cases with hblank | ⟨blanks, t, rest, hblanks, hrest, ht⟩ |
    ⟨blanks, unclosed, hblanks, hrest, hquotes⟩
  · rw [next_of_blank hblank] at h
    cases h
  · rw [next_of_token hblanks hrest ht] at h
    cases h
    exact ht
  · rw [next_of_unclosed hblanks hrest hquotes] at h
    cases h

/-- Each content is found between two quotes. -/
theorem next_of_quoted {content : String} (h : IsContent content.toList) (after : String) :
    (ofString ("\"" ++ content ++ "\"" ++ after)).next.1 = .ok (some (.text content.toList)) := by
  have hrest : (ofString ("\"" ++ content ++ "\"" ++ after)).cursor.rest =
      [] ++ (Token.text content.toList).lexeme ++ after.toList := by
    simp [ofString, Cursor.ofString]
  rw [next_of_token isBlankText_nil hrest h]

/-- **Resolving the pairs of a content and escaping its quotes undo each other.** Every text comes
back when it is escaped first; a text comes back when it is resolved first exactly if all its quotes
are escaped. Of this sort is every content that a scanner answers with, none of them ends in a
backslash, and each text with these two properties is found where it stands between quotes. -/
theorem escape_unescape_contents :
    (∀ v, unescapeText (escapeText v) = v) ∧
    (∀ c, escapeText (unescapeText c) = c ↔ QuotesEscaped c.toList) ∧
    (∀ (w : Scanner) (content : List Char), w.next.1 = .ok (some (.text content)) →
      QuotesEscaped content ∧ content.getLast? ≠ some '\\') ∧
    ∀ content after : String, QuotesEscaped content.toList →
      content.toList.getLast? ≠ some '\\' →
      (ofString ("\"" ++ content ++ "\"" ++ after)).next.1 =
        .ok (some (.text content.toList)) := by
  refine ⟨unescapeText_escapeText, fun c => escapeText_unescapeText_iff, ?_, ?_⟩
  · intro w content h
    obtain ⟨hquotes, hlast⟩ := isContent_of_next h
    exact ⟨hquotes, hlast⟩
  · intro content after hquotes hlast
    exact next_of_quoted ⟨hquotes, hlast⟩ after

/-- Of two backslashes before a quote the second makes a pair with it, and the first stays. -/
theorem escape_unescape_contents_backslashes :
    unescapeText "\\\\\"" = "\\\"" ∧ escapeText (unescapeText "\\\\\"") = "\\\\\"" ∧
      (ofString "\"\\\\\"\" + \"b\"").next.1 = .ok (some (.text "\\\\\"".toList)) := by
  obtain ⟨-, hback, hread, hfind⟩ := escape_unescape_contents
  have h : (ofString "\"\\\\\"\" + \"b\"").next.1 = .ok (some (.text "\\\\\"".toList)) := by
    decide +kernel
  obtain ⟨hquotes, hlast⟩ := hread _ _ h
  exact ⟨by decide, (hback _).2 hquotes, hfind "\\\\\"" " + \"b\"" hquotes hlast⟩

end Scanner

end IdPattern
