import IdPattern.Embed.Expansion
import IdPattern.Proofs.Canonical
import IdPattern.Proofs.Constants

/-!
# Expansion agrees with reading

A program that consists of a single literal is expanded exactly if the value of the literal reads as
a pattern (`patternOf_literal`), and it does not matter how the literal spells the value. What takes
its place are the symbols of the constant, and where there is a fault it is the fault of the value
(`expand_spells`).
-/

namespace IdPattern.Embed

/-! ## Programs of one literal -/

section Literal

variable {source value : List Char}

/-- A string literal begins with a quote or with the letter of raw strings. -/
theorem exists_cons_of_lexeme? {rest : List Char}
    (h : lexeme? source = some (.text value, rest)) :
    ∃ cs, source = '"' :: cs ∨ source = 'r' :: cs := by
  obtain ⟨suffix, hstring, -⟩ := string?_of_lexeme? h
  exact exists_cons_of_string? hstring

/-- A literal that ends where the program ends is the only lexeme. -/
theorem lexemes?_literal (h : lexeme? source = some (.text value, [])) :
    lexemes? 0 source = some [⟨.text value, .over 0 source, source⟩] := by
  obtain ⟨cs, hsource⟩ := exists_cons_of_lexeme? h
  have hne : source ≠ [] := by
    rcases hsource with rfl | rfl <;> simp
  have hgap : afterGap source = source := by
    rcases hsource with rfl | rfl
    · exact afterGap_cons (by decide) (by decide) cs
    · exact afterGap_cons (by decide) (by decide) cs
  have hl : lexeme? (source ++ []) = some (.text value, []) := by simpa using h
  have hcons := lexemes?_cons hne (by simpa using hgap) hl 0 0
  have hend : lexemes? (size source) [] = some [] := lexemes?_spaces (size source) 0
  simpa [hend] using hcons

/-- A literal is the only item of its program. -/
theorem items?_literal (h : lexeme? source = some (.text value, [])) :
    items? source = some [⟨.over 0 source, .over 0 source, some (value, source)⟩] := by
  have hmark : ∀ cs, source ≠ '\uFEFF' :: cs := by
    obtain ⟨cs, rfl | rfl⟩ := exists_cons_of_lexeme? h <;> simp
  have hlexemes : items? source = (lexemes? 0 source).bind (itemsOf? []) := by
    unfold items?
    split
    · next heq => exact absurd rfl (hmark _)
    · rfl
  rw [hlexemes, lexemes?_literal h]
  rfl

/-- A program of one literal names the pattern that the value of the literal reads as. -/
theorem patternOf_literal (h : lexeme? source = some (.text value, [])) :
    patternOf (String.ofList source) =
      (Pattern.parse (String.ofList value)).mapError fun e =>
        .invalid e (faultSpan source (.over 0 source) e.span) := by
  rw [patternOf, String.toList_ofList, items?_literal h]
  dsimp only
  cases Pattern.parse (String.ofList value) <;> rfl

end Literal

/-! ## Literals that spell an expression -/

/-- The pattern that a literal names is the one its text is read as, and a fault of the text is one
at its place in the literal. -/
theorem patternOf_spells {v l : String} (h : Spells v l) :
    patternOf l =
      (Pattern.parse v).mapError fun e =>
        .invalid e (faultSpan l.toList (.over 0 l.toList) e.span) := by
  have hl : lexeme? l.toList = some (.text v.toList, []) :=
    lexeme?_of_string? (string?_of_spells h)
  simpa using patternOf_literal hl

/-- If the text of a literal reads as a pattern, the literal expands to the constant of the pattern.
-/
theorem expand_of_parse {v l : String} {p : Pattern} (h : Spells v l)
    (hp : Pattern.parse v = .ok p) : expand l = .ok (Spelling.spaced.pattern p) := by
  rw [expand, patternOf_spells h, hp]
  rfl

/-- The two spellings of a constant are the same program text but for spaces. -/
theorem sameSymbols_spaced (p : Pattern) :
    SameSymbols (Spelling.spaced.pattern p) (constant p) :=
  ⟨patternSymbols p, symbols?_pattern Spelling.isPlain_spaced p,
    symbols?_pattern Spelling.isPlain_written p⟩

/-- **Expansion agrees with reading.** However a literal spells a text, it is expanded if and only
if the text reads as a pattern. It then becomes the symbols of the constant of that pattern, which
are read as the pattern again; and otherwise the message is that of the fault. The canonical
expression of a pattern that was read becomes the symbols of its constant, too. -/
theorem expand_spells {v l : String} (h : Spells v l) :
    ((∃ code, expand l = .ok code) ↔ ∃ p, Pattern.parse v = .ok p) ∧
      (∀ p, Pattern.parse v = .ok p →
        (∃ code, expand l = .ok code ∧ SameSymbols code (constant p) ∧
          readConstant? code = some p) ∧
        ∃ code, expand (quoted p.expression) = .ok code ∧ SameSymbols code (constant p)) ∧
      ∀ e, Pattern.parse v = .error e → ∃ r, expand l = .error r ∧ r.message = e.message := by
  have herror : ∀ e, Pattern.parse v = .error e →
      ∃ r, expand l = .error r ∧ r.message = e.message := by
    intro e he
    refine ⟨.invalid e (faultSpan l.toList (.over 0 l.toList) e.span), ?_, rfl⟩
    rw [expand, patternOf_spells h, he]
    rfl
  refine ⟨⟨?_, ?_⟩, fun p hp => ⟨?_, ?_⟩, herror⟩
  · rintro ⟨code, hcode⟩
    cases hv : Pattern.parse v with
    | ok p => exact ⟨p, rfl⟩
    | error e =>
      obtain ⟨r, hr, -⟩ := herror e hv
      rw [hr] at hcode
      cases hcode
  · rintro ⟨p, hp⟩
    exact ⟨_, expand_of_parse h hp⟩
  · exact ⟨_, expand_of_parse h hp, sameSymbols_spaced p,
      readConstant?_pattern Spelling.isPlain_spaced p⟩
  · have hwrites := Pattern.parse_eq_ok_iff.1 hp
    have hexpression : Pattern.parse p.expression = .ok p :=
      Pattern.parse_expression_eq_ok_iff.2 ⟨hwrites.ne_nil, hwrites.written⟩
    exact ⟨_, expand_of_parse .quoted hexpression, sameSymbols_spaced p⟩

/-- A quote with a sign after it stands in a raw literal with two signs to each fence. -/
theorem expand_spells_raw :
    Spells "\"#1\"" "r##\"\"#1\"\"##" ∧
      (∃ code, expand "r##\"\"#1\"\"##" = .ok code ∧
        SameSymbols code (constant ⟨[⟨.text, "\"#1\"", some "#1"⟩]⟩)) ∧
      ∃ r, expand (quoted "RANDOM()") = .error r ∧
        r.message = "RANDOM requires a non empty argument at offset 6" := by
  have hraw : rawLiteral 2 "\"#1\"" = "r##\"\"#1\"\"##" := by decide
  have hspells : Spells "\"#1\"" "r##\"\"#1\"\"##" := by
    rw [← hraw]
    refine .raw (by decide) (by decide) (by decide) fun before after heq => ?_
    -- the first character or the last
    have hafter : after = ['#', '1', '"'] ∨ after = [] := by
      rcases before with _ | ⟨_, _ | ⟨_, _ | ⟨_, _ | ⟨_, before⟩⟩⟩⟩ <;> simp_all
    rcases hafter with rfl | rfl <;> decide
  have hparse : Pattern.parse "\"#1\"" = .ok ⟨[⟨.text, "\"#1\"", some "#1"⟩]⟩ :=
    Run.result_eq_ok_iff.2 (by decide +kernel)
  have hfault : Pattern.parse "RANDOM()" =
      .error ⟨⟨6, 8⟩, .emptyMethodArgument (.method .random)⟩ :=
    Run.result_eq_error_iff.2 (by decide +kernel)
  obtain ⟨-, hok, -⟩ := expand_spells hspells
  obtain ⟨⟨code, hcode, hsymbols, -⟩, -⟩ := hok _ hparse
  obtain ⟨-, -, herror⟩ := expand_spells (.quoted (s := "RANDOM()"))
  obtain ⟨r, hr, hmessage⟩ := herror _ hfault
  exact ⟨hspells, ⟨code, hcode, hsymbols⟩, r, hr, hmessage.trans (by decide +kernel)⟩

end IdPattern.Embed
