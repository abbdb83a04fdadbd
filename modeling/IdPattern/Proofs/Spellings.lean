import IdPattern.Proofs.Literals
import IdPattern.Text.Quoted

/-!
# Literals that spell a given text

A text is spelled as a literal by quoting it, and also by a raw literal, if its fences are longer
than any run of `#` after a quote of the text and there is no carriage return in it (`Spells`). The
text is found again as the value of either (`string?_of_spells`).

For quoted text this goes character by character. What `quotedChar` writes is one piece of a plain
body, and the closing quote is not looked for inside it. Nothing is used about which characters are
written as code points.
-/

namespace IdPattern.Embed

/-! ## Quoted text -/

/-- A code point in braces is read back. -/
theorem braced?_hexDigits (c : Char) (rest : List Char) :
    braced? (hexDigits c.toNat ++ '}' :: rest) = some (c, rest) := by
  have hbrace : ∀ d ∈ hexDigits c.toNat, (d != '}') = true := by
    intro d hd
    have hne : d ≠ '}' := by
      rintro rfl
      exact not_mem_hexDigits (by decide) hd
    simpa using hne
  have hunderscore : '_' ∉ hexDigits c.toNat := not_mem_hexDigits (by decide)
  have hfilter : (hexDigits c.toNat).filter (· != '_') = hexDigits c.toNat := by
    rw [List.filter_eq_self]
    intro d hd
    have hne : d ≠ '_' := fun h => hunderscore (h ▸ hd)
    simpa using hne
  have hne : hexDigits c.toNat ≠ [] := Nat.toDigits_ne_nil
  have hlength : (hexDigits c.toNat).length ≤ 6 := by
    rw [hexDigits, Nat.length_toDigits_le_iff (by decide) (by decide)]
    have hvalid : c.toNat.isValidChar := c.valid
    unfold Nat.isValidChar at hvalid
    omega
  have hhead : (hexDigits c.toNat).head? ≠ some '_' := fun h =>
    hunderscore (List.mem_of_head? h)
  unfold braced?
  simp only [List.takeWhile_append_of_pos hbrace, List.dropWhile_append_of_pos hbrace]
  simp [hfilter, hne, hhead, hlength]

/-- What an escape begins is no continuation. -/
theorem piece?_of_escape? {f : Flavour} {cs rest : List Char} {d : Char}
    (h : escape? f cs = some (d, rest)) : piece? f ('\\' :: cs) = some ([d], rest) := by
  unfold piece?
  split
  · next heq =>
    cases heq
    simp [escape?, Flavour.letter?] at h
  · next heq =>
    cases heq
    simp [escape?, Flavour.letter?] at h
  · next heq =>
    cases heq
    rw [h]
    rfl
  · next heq => simp at heq
  · next heq => simp at heq
  · next hb _ _ heq => exact absurd (List.cons.inj heq).1.symm hb
  · next heq => cases heq

/-- An escape is one character of the value. -/
theorem decode_of_escape? {f : Flavour} {cs rest : List Char} {d : Char}
    (h : escape? f cs = some (d, rest)) :
    decode f ('\\' :: cs) = (decode f rest).map (d :: ·) := by
  rw [decode_cons, piece?_of_escape? h]
  rfl

/-- A quoted character is one piece of a body, with the character as its value. -/
theorem decode_quotedChar (c : Char) (rest : List Char) :
    decode .text (quotedChar c ++ rest) = (decode .text rest).map (c :: ·) := by
  unfold quotedChar
  split
  case h_7 hq hb ht hn hr hz =>
    split
    · exact decode_char hb hr rest
    · have hbraced : braced? (hexDigits c.toNat ++ '}' :: rest) = some (c, rest) :=
        braced?_hexDigits c rest
      have hescape : escape? .text ('u' :: '{' :: (hexDigits c.toNat ++ '}' :: rest)) =
          some (c, rest) := by
        simp [escape?, hbraced, Flavour.admitsCode]
      simpa using decode_of_escape? hescape
  all_goals
    -- the characters with a letter of their own
    exact decode_of_escape? rfl

/-- Without quotes and backslashes a body goes on. -/
theorem splitBody_append {cs : List Char} (h : ∀ c ∈ cs, c ≠ '"' ∧ c ≠ '\\') (rest : List Char) :
    splitBody (cs ++ rest) = (splitBody rest).map fun (body, after) => (cs ++ body, after) := by
  induction cs with
  | nil => simp
  | cons c cs ih =>
    obtain ⟨hq, hb⟩ := h c (by simp)
    have hsplit : splitBody (c :: (cs ++ rest)) =
        (splitBody (cs ++ rest)).map fun (body, after) => (c :: body, after) := by
      rw [splitBody]
      · exact fun heq => hq heq
      · exact fun d ds heq _ => hb heq
    rw [List.cons_append, hsplit, ih fun d hd => h d (List.mem_cons_of_mem c hd), Option.map_map]
    rfl

/-- The closing quote is not found inside a quoted character. -/
theorem splitBody_quotedChar (c : Char) (rest : List Char) :
    splitBody (quotedChar c ++ rest) =
      (splitBody rest).map fun (body, after) => (quotedChar c ++ body, after) := by
  unfold quotedChar
  split
  case h_7 hq hb ht hn hr hz =>
    split
    · refine splitBody_append (fun d hd => ?_) rest
      obtain rfl := List.mem_singleton.1 hd
      exact ⟨hq, hb⟩
    · have hdigits : ∀ d ∈ ['{'] ++ hexDigits c.toNat ++ ['}'], d ≠ '"' ∧ d ≠ '\\' := by
        intro d hd
        constructor
        · rintro rfl
          simp [not_mem_hexDigits (c := '"') (by decide)] at hd
        · rintro rfl
          simp [not_mem_hexDigits (c := '\\') (by decide)] at hd
      have hescape := splitBody_append hdigits rest
      show splitBody ('\\' :: 'u' :: (['{'] ++ hexDigits c.toNat ++ ['}'] ++ rest)) = _
      rw [splitBody, hescape, Option.map_map]
      rfl
  all_goals
    rfl

/-- The value of a quoted text is the text. -/
@[simp] theorem decode_flatMap_quotedChar (cs : List Char) :
    decode .text (cs.flatMap quotedChar) = some cs := by
  induction cs with
  | nil => exact decode_nil .text
  | cons c cs ih => rw [List.flatMap_cons, decode_quotedChar, ih, Option.map_some]

/-- A quoted text ends at its closing quote, and not before. -/
theorem splitBody_flatMap_quotedChar (cs rest : List Char) :
    splitBody (cs.flatMap quotedChar ++ '"' :: rest) = some (cs.flatMap quotedChar, rest) := by
  induction cs with
  | nil => rfl
  | cons c cs ih =>
    rw [List.flatMap_cons, List.append_assoc, splitBody_quotedChar, ih, Option.map_some]

/-- Quoted text is a string with the text as its value. -/
theorem string?_quoted (s : String) (rest : List Char) :
    string? ((quoted s).toList ++ rest) = some (.text, s.toList, rest) := by
  have hplain : plain? .text (s.toList.flatMap quotedChar ++ '"' :: rest) =
      some (s.toList, rest) := by
    simp [plain?, splitBody_flatMap_quotedChar, decode_flatMap_quotedChar]
  simp [quoted, string?, hplain]

/-! ## Raw literals -/

def rawLiteral (n : Nat) (s : String) : String :=
  let fence := List.replicate n '#'
  String.ofList ('r' :: (fence ++ '"' :: (s.toList ++ '"' :: fence)))

/-- The literals that spell a text: the quoted one, and each raw one with fences that are longer
than the runs of `#` after the quotes of the text. -/
inductive Spells (s : String) : String → Prop
  | quoted : Spells s (quoted s)
  | raw {n : Nat} : 1 ≤ n → n ≤ 255 → '\r' ∉ s.toList →
      (∀ before after, s.toList = before ++ '"' :: after →
        (after.takeWhile (· == '#')).length < n) →
      Spells s (rawLiteral n s)

/-- Where there is no carriage return there is no bare one. -/
theorem hasBareReturn_eq_false {cs : List Char} (h : '\r' ∉ cs) : hasBareReturn cs = false := by
  fun_induction hasBareReturn cs with
  | case1 => rfl
  | case2 cs ih => simp at h
  | case3 cs _ => simp at h
  | case4 c cs _ _ ih => exact ih fun hmem => h (List.mem_cons_of_mem c hmem)

/-- A fence after a part of a text and a quote cannot begin in that part, if it is longer than the
run of signs there. -/
theorem isPrefixOf_replicate_eq_false {n : Nat} {cs : List Char}
    (h : (cs.takeWhile (· == '#')).length < n) (rest : List Char) :
    (List.replicate n '#').isPrefixOf (cs ++ '"' :: rest) = false := by
  induction cs generalizing n with
  | nil =>
    obtain ⟨m, rfl⟩ := Nat.exists_eq_succ_of_ne_zero (Nat.ne_of_gt h)
    rfl
  | cons c cs ih =>
    obtain ⟨m, rfl⟩ := Nat.exists_eq_succ_of_ne_zero (Nat.ne_zero_of_lt h)
    by_cases hc : c = '#'
    · subst hc
      have hm : (cs.takeWhile (· == '#')).length < m := by simpa using h
      simpa [List.replicate_succ] using ih hm
    · rw [List.replicate_succ, List.cons_append, List.isPrefixOf_cons_cons]
      simp [Ne.symm hc]

/-- A raw body ends at the first quote with enough signs after it. -/
theorem splitRaw_append {n : Nat} {cs : List Char}
    (h : ∀ before after, cs = before ++ '"' :: after → (after.takeWhile (· == '#')).length < n)
    (rest : List Char) :
    splitRaw (List.replicate n '#') (cs ++ '"' :: (List.replicate n '#' ++ rest)) =
      some (cs, rest) := by
  induction cs with
  | nil =>
    have hfence : (List.replicate n '#').isPrefixOf (List.replicate n '#' ++ rest) = true :=
      List.isPrefixOf_iff_prefix.2 (List.prefix_append ..)
    simp [splitRaw, hfence]
  | cons c cs ih =>
    have hrest := ih fun before after heq => h (c :: before) after (by rw [heq]; rfl)
    have hopen : ¬ (c = '"' ∧ (List.replicate n '#').isPrefixOf
        (cs ++ '"' :: (List.replicate n '#' ++ rest))) := by
      rintro ⟨rfl, hfence⟩
      rw [isPrefixOf_replicate_eq_false (h [] cs rfl)] at hfence
      cases hfence
    rw [List.cons_append, splitRaw, if_neg hopen, hrest, Option.map_some]

/-- A raw literal has its text as value. -/
theorem string?_rawLiteral {n : Nat} {s : String} (hn : n ≤ 255) (hr : '\r' ∉ s.toList)
    (hfence : ∀ before after, s.toList = before ++ '"' :: after →
      (after.takeWhile (· == '#')).length < n) :
    string? (rawLiteral n s).toList = some (.text, s.toList, []) := by
  have hsigns : ∀ c ∈ List.replicate n '#', (c == '#') = true := by
    intro c hc
    rw [List.eq_of_mem_replicate hc]
    rfl
  have hsplit := splitRaw_append hfence []
  rw [List.append_nil] at hsplit
  have hraw :
      raw? .text (List.replicate n '#' ++ '"' :: (s.toList ++ '"' :: List.replicate n '#')) =
        some (s.toList, []) := by
    unfold raw?
    simp only [List.takeWhile_append_of_pos hsigns, List.dropWhile_append_of_pos hsigns]
    simp [Nat.not_lt.2 hn, hsplit, hasBareReturn_eq_false hr, Flavour.admits]
  simp [rawLiteral, string?, hraw]

/-- A literal that spells a text has the text as its value, and nothing follows it. -/
theorem string?_of_spells {s l : String} (h : Spells s l) :
    string? l.toList = some (.text, s.toList, []) := by
  cases h with
  | quoted => simpa using string?_quoted s []
  | raw _ hn hr hfence => exact string?_rawLiteral hn hr hfence

end IdPattern.Embed
