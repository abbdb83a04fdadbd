import Mathlib.Data.List.TakeWhile
import IdPattern.Embed.Lexeme

/-!
# Text literals of a host program

A text that is one string literal and nothing else is written in one of two ways
(`literal_cases`): plain, with a body that `decode` gives the value of, or raw, with the value
itself between two fences. No quote stands after the closing one, also where the literal has a
suffix.

The value of a plain body is made piece by piece. The equations of `decode` go by the first
character: an escape or a continuation begins with a backslash, a carriage return is passed over
before a line feed, and every other character stands for itself.
-/

namespace IdPattern.Embed

/-! ## The two ways to write a literal -/

/-- The closing quote is taken off a plain body, and nothing else is lost. -/
theorem append_of_splitBody {cs body rest : List Char} (h : splitBody cs = some (body, rest)) :
    cs = body ++ '"' :: rest := by
  fun_induction splitBody cs generalizing body with
  | case1 => simp at h
  | case2 cs =>
    cases h
    rfl
  | case3 c cs ih =>
    simp only [Option.map_eq_some_iff, Prod.exists, Prod.mk.injEq] at h
    obtain ⟨body', rest', h', rfl, rfl⟩ := h
    simpa using ih h'
  | case4 c cs _ _ ih =>
    simp only [Option.map_eq_some_iff, Prod.exists, Prod.mk.injEq] at h
    obtain ⟨body', rest', h', rfl, rfl⟩ := h
    simpa using ih h'

theorem append_of_splitRaw {fence cs body rest : List Char}
    (h : splitRaw fence cs = some (body, rest)) : cs = body ++ '"' :: (fence ++ rest) := by
  fun_induction splitRaw fence cs generalizing body with
  | case1 => simp at h
  | case2 c cs hc =>
    cases h
    obtain ⟨rfl, hfence⟩ := hc
    obtain ⟨rest, rfl⟩ := List.isPrefixOf_iff_prefix.1 hfence
    simp
  | case3 c cs hc ih =>
    simp only [Option.map_eq_some_iff, Prod.exists, Prod.mk.injEq] at h
    obtain ⟨body', rest', h', rfl, rfl⟩ := h
    simpa using ih h'

/-- What follows a literal that is the last lexeme of a text is a suffix of the literal. -/
theorem quote_not_mem_of_afterSuffix {cs : List Char} (h : afterSuffix cs = []) : '"' ∉ cs := by
  have hstart : isIdentifierStart '"' = false := by decide +kernel
  have hrest : isIdentifierRest '"' = false := by decide +kernel
  cases cs with
  | nil => simp
  | cons c cs =>
    unfold afterSuffix at h
    by_cases hc : isIdentifierStart c = true
    · simp only [identifier?, if_pos hc] at h
      have hall := List.dropWhile_eq_nil_iff.1 h
      intro hmem
      rcases List.mem_cons.1 hmem with rfl | hmem
      · simp [hstart] at hc
      · have hmem' := hall _ hmem
        rw [hrest] at hmem'
        cases hmem'
    · simp only [identifier?, if_neg hc] at h
      cases h

@[simp] theorem delimiter?_ne_text (c : Char) (value : List Char) :
    delimiter? c ≠ some (.text value) := by
  unfold delimiter?
  split <;> simp

/-- A lexeme that is a text was read as a string, with a suffix after it. -/
theorem string?_of_lexeme? {source value rest : List Char}
    (h : lexeme? source = some (.text value, rest)) :
    ∃ suffix, string? source = some (.text, value, suffix) ∧ afterSuffix suffix = rest := by
  unfold lexeme? at h
  split at h
  · cases h
  split at h
  · cases h
  split at h
  · next d hd =>
    cases h
    obtain ⟨c, -, hc⟩ := Option.bind_eq_some_iff.1 hd
    exact absurd hc (delimiter?_ne_text c value)
  split at h
  · next hs =>
    cases h
    exact ⟨_, hs, rfl⟩
  · cases h
  · simp at h

/-- A raw string is its value between two fences of the same length. -/
theorem eq_of_raw? {f : Flavour} {cs value suffix : List Char}
    (h : raw? f cs = some (value, suffix)) :
    ∃ fence, (∀ c ∈ fence, c = '#') ∧
      cs = fence ++ '"' :: (value ++ '"' :: (fence ++ suffix)) := by
  unfold raw? at h
  simp only at h
  split at h
  · next ds hds =>
    split at h
    · cases h
    obtain ⟨⟨body, rest⟩, hsplit, hbody⟩ := Option.bind_eq_some_iff.1 h
    dsimp only at hbody
    split at hbody
    · cases hbody
    cases hbody
    refine ⟨cs.takeWhile (· == '#'), fun c hc => ?_, ?_⟩
    · simpa using List.mem_takeWhile_imp hc
    · rw [← append_of_splitRaw hsplit, ← hds, List.takeWhile_append_dropWhile]
  · cases h

/-- A text that is one literal is plain or raw. -/
theorem literal_cases {source value : List Char} (h : lexeme? source = some (.text value, [])) :
    (∃ body suffix, source = '"' :: (body ++ '"' :: suffix) ∧ '"' ∉ suffix ∧
      decode .text body = some value) ∨
    ∃ fence suffix, source = 'r' :: (fence ++ '"' :: (value ++ '"' :: (fence ++ suffix))) ∧
      (∀ c ∈ fence, c = '#') ∧ '"' ∉ suffix := by
  obtain ⟨suffix, hstring, hsuffix⟩ := string?_of_lexeme? h
  have hquote := quote_not_mem_of_afterSuffix hsuffix
  unfold string? at hstring
  split at hstring
  · next cs =>
    left
    simp only [plain?, Option.map_eq_some_iff, Option.bind_eq_some_iff, Prod.exists] at hstring
    obtain ⟨_, _, ⟨body, rest, hsplit, v, hdecode, hv⟩, heq⟩ := hstring
    cases hv
    cases heq
    exact ⟨body, suffix, by rw [append_of_splitBody hsplit], hquote, hdecode⟩
  · next cs =>
    right
    obtain ⟨⟨v, rest⟩, hraw, heq⟩ := Option.map_eq_some_iff.1 hstring
    cases heq
    obtain ⟨fence, hfence, rfl⟩ := eq_of_raw? hraw
    exact ⟨fence, suffix, rfl, hfence, hquote⟩
  all_goals
    -- the other sorts of strings are no texts
    simp at hstring

/-! ## Values of plain bodies -/

@[simp] theorem decode_nil (f : Flavour) : decode f [] = some [] := by
  rw [decode, if_pos rfl]

/-- The value of a body is that of its first piece and that of the rest. -/
theorem decode_cons (f : Flavour) (c : Char) (cs : List Char) :
    decode f (c :: cs) =
      (piece? f (c :: cs)).bind fun (v, rest) => (decode f rest).map (v ++ ·) := by
  rw [decode, if_neg (List.cons_ne_nil c cs)]
  split
  · next hp => rw [hp, Option.bind_none]
  · next v rest hp => rw [hp, Option.bind_some]

/-- A character other than the backslash and the carriage return stands for itself. -/
theorem decode_char {c : Char} (hb : c ≠ '\\') (hr : c ≠ '\r') (cs : List Char) :
    decode .text (c :: cs) = (decode .text cs).map (c :: ·) := by
  have hp : piece? .text (c :: cs) = some ([c], cs) := by
    simp [piece?, hb, hr, Flavour.admits]
  rw [decode_cons, hp]
  rfl

/-- A carriage return is passed over, and a line feed must follow it. -/
theorem decode_return {cs v : List Char} (h : decode .text ('\r' :: cs) = some v) :
    cs.head? = some '\n' ∧ decode .text cs = some v := by
  rw [decode_cons] at h
  cases cs with
  | nil => simp [piece?] at h
  | cons c cs =>
    by_cases hc : c = '\n'
    · subst hc
      rw [decode_char (by decide) (by decide)]
      exact ⟨rfl, h⟩
    · have hp : piece? .text ('\r' :: c :: cs) = none := by
        simp [piece?, hc]
      simp [hp] at h

end IdPattern.Embed
