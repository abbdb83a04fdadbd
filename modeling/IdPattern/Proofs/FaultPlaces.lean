import IdPattern.Proofs.Expansion
import IdPattern.Proofs.FaultSpans
import IdPattern.Proofs.OffsetTable
import IdPattern.Proofs.Runs
import IdPattern.Text.Quoted

/-!
# Faults are shown at what spells them

In a literal without carriage returns, and with only spaces, tabs and line feeds after its line
continuations (`isTidy`), the table of offsets leads from each part of the value to a part of the
literal that has this part as its value. A fault of a pattern is a part of the value, so it is never
shown at the whole literal.

The body of a plain literal is taken as a relation between value and body (`TidyBody`), with one
rule for each sort of piece. A body can be split wherever its value can (`TidyBody.splits`):
continuations at the place belong to the first part, because the table has no entries for them.
-/

namespace IdPattern.Embed

/-! ## Tidy literals -/

/-- The runs of blanks after the line continuations of a plain literal. A backslash takes the next
character along, so an escaped one begins no continuation. -/
def continuationBlanks : List Char → List (List Char)
  | '\\' :: '\n' :: cs => leadingBlanks cs :: continuationBlanks cs
  | '\\' :: _ :: cs => continuationBlanks cs
  | _ :: cs => continuationBlanks cs
  | [] => []

/-- A blank that both the value and the table pass over after a continuation. -/
def isTidyBlank (c : Char) : Bool := c == ' ' || c == '\t' || c == '\n'

/-- Whether only spaces, tabs and line feeds follow the line continuations of a literal. A raw
literal has none. -/
def isTidy : List Char → Bool
  | 'r' :: _ => true
  | cs => (continuationBlanks cs).all (·.all isTidyBlank)

/-- The value of a part of a literal, by the rules of the literal. -/
def partValue? (source inside : List Char) : Option (List Char) :=
  match source with
  | 'r' :: _ => some inside
  | _ => decode .text inside

/-! ## Escapes -/

/-- A code point is read in front of any text, and contains no backslash. -/
theorem braced?_append {cs rest : List Char} {d : Char} (h : braced? cs = some (d, rest)) :
    ∃ w, cs = w ++ rest ∧ '\\' ∉ w ∧ ∀ rest', braced? (w ++ rest') = some (d, rest') := by
  have hcs : cs.takeWhile (· != '}') ++ cs.dropWhile (· != '}') = cs :=
    List.takeWhile_append_dropWhile
  have hclosing := List.head?_dropWhile_not (· != '}') cs
  have hinside : ∀ c ∈ cs.takeWhile (· != '}'), (c != '}') = true := fun _ =>
    List.mem_takeWhile_imp
  unfold braced? at h
  generalize cs.takeWhile (· != '}') = inside at *
  simp only at h
  split at h
  · cases h
  next e rest₁ hdrop =>
    split at h
    · cases h
    next hshape =>
      simp only [Option.map_eq_some_iff, Option.bind_eq_some_iff, Prod.mk.injEq] at h
      obtain ⟨d, ⟨n, hn, hd⟩, rfl, rfl⟩ := h
      obtain rfl : e = '}' := by simpa [hdrop] using hclosing
      refine ⟨inside ++ ['}'], by simp [← hdrop, hcs], ?_, fun rest' => ?_⟩
      · -- a backslash is no digit
        intro hmem
        have hmem : '\\' ∈ inside := by simpa using hmem
        exact hexValue?_ne_none_of_hexNumber? hn '\\' (List.mem_filter.2 ⟨hmem, rfl⟩) rfl
      · unfold braced?
        simp only [List.append_assoc, List.takeWhile_append_of_pos hinside,
          List.dropWhile_append_of_pos hinside]
        simp [hshape, hn, hd]

/-- An escape is read in front of any text, and contains no further backslash. -/
theorem escape?_append {cs rest : List Char} {d : Char} (h : escape? .text cs = some (d, rest)) :
    ∃ c w, cs = c :: (w ++ rest) ∧ c ≠ '\n' ∧ '\\' ∉ w ∧
      ∀ rest', escape? .text (c :: (w ++ rest')) = some (d, rest') := by
  unfold escape? at h
  split at h
  · next a b cs =>
    obtain ⟨n, hn, hd⟩ := Option.bind_eq_some_iff.1 h
    split at hd
    · next hbyte =>
      cases hd
      refine ⟨'x', [a, b], rfl, by decide, fun hmem => ?_, fun rest' => ?_⟩
      · exact hexValue?_ne_none_of_hexNumber? hn '\\' hmem rfl
      · simp [escape?, hn, hbyte]
    · cases hd
  · next cs =>
    obtain ⟨⟨e, rest₁⟩, hbraced, he⟩ := Option.bind_eq_some_iff.1 h
    dsimp only at he
    split at he
    · next hcode =>
      cases he
      obtain ⟨w, rfl, hw, hlocal⟩ := braced?_append hbraced
      refine ⟨'u', '{' :: w, rfl, by decide, by simpa using hw, fun rest' => ?_⟩
      simp [escape?, hlocal, hcode]
    · cases he
  · next c cs hx hu =>
    obtain ⟨e, he, heq⟩ := Option.map_eq_some_iff.1 h
    cases heq
    have hne : ∀ e, Flavour.text.letter? e = none → c ≠ e := by
      rintro e hnone rfl
      simp [hnone] at he
    have hxc := hne 'x' rfl
    have huc := hne 'u' rfl
    refine ⟨c, [], rfl, hne '\n' rfl, by simp, fun rest' => ?_⟩
    simp [escape?, hxc, huc, he]
  · cases h

/-! ## Tidy bodies -/

/-- The values of the plain bodies without carriage returns, in which only spaces, tabs and line
feeds follow a continuation. -/
inductive TidyBody : List Char → List Char → Prop
  | nil : TidyBody [] []
  | char {c : Char} {v cs : List Char} : c ≠ '\\' → c ≠ '\r' → TidyBody v cs →
      TidyBody (c :: v) (c :: cs)
  | escape {d : Char} {w v cs : List Char} :
      (∀ rest, escape? .text (w ++ rest) = some (d, rest)) → TidyBody v cs →
      TidyBody (d :: v) ('\\' :: (w ++ cs))
  | continuation {bs v cs : List Char} : bs.all isTidyBlank → (∀ c ∈ cs.head?, isBlank c = false) →
      TidyBody v cs → TidyBody v ('\\' :: '\n' :: (bs ++ cs))

theorem isBlank_of_isTidyBlank {c : Char} (hc : isTidyBlank c) : isBlank c := by
  simp only [isTidyBlank, Bool.or_eq_true, beq_iff_eq] at hc
  rcases hc with (rfl | rfl) | rfl <;> decide

/-- Continuations are told by backslashes alone. -/
theorem continuationBlanks_append {w : List Char} (hw : '\\' ∉ w) (cs : List Char) :
    continuationBlanks (w ++ cs) = continuationBlanks cs := by
  induction w with
  | nil => rfl
  | cons c w ih =>
    obtain ⟨hc, hw⟩ : '\\' ≠ c ∧ '\\' ∉ w := by simpa using hw
    rw [List.cons_append, continuationBlanks, ih hw]
    · exact fun ds heq _ => hc heq.symm
    · exact fun d ds heq _ => hc heq.symm

/-- After tidy blanks the value goes on where the table does. -/
theorem dropWhile_isBreak_of_tidy {cs : List Char} (h : (leadingBlanks cs).all isTidyBlank) :
    cs.dropWhile isBreak = afterBlanks cs := by
  have hnone : (leadingBlanks cs).dropWhile isBreak = [] := by
    refine List.dropWhile_eq_nil_iff.2 fun c hc => ?_
    have htidy : isTidyBlank c := List.all_eq_true.1 h c hc
    rw [isTidyBlank] at htidy
    rw [isBreak, htidy, Bool.true_or]
  rw [dropWhile_isBreak, hnone, List.nil_append]

/-- The body of a tidy literal is made of tidy pieces. -/
theorem tidyBody_of_decode {body v : List Char} (h : decode .text body = some v)
    (hr : '\r' ∉ body) (htidy : (continuationBlanks body).all (·.all isTidyBlank)) :
    TidyBody v body := by
  induction hn : body.length using Nat.strongRecOn generalizing body v with
  | _ n ih =>
    subst hn
    cases body with
    | nil =>
      rw [decode_nil] at h
      cases h
      exact .nil
    | cons c cs =>
      obtain ⟨hc, hcs⟩ : '\r' ≠ c ∧ '\r' ∉ cs := by simpa using hr
      by_cases hb : c = '\\'
      · subst hb
        rcases decode_backslash h with ⟨c, ds, hbreak, rfl, hv⟩ | ⟨d, rest, v', hescape, hv, rfl⟩
        · obtain rfl : c = '\n' := by
            rcases hbreak with rfl | rfl
            · rfl
            · simp at hcs
          obtain ⟨hbs, hrest⟩ : (leadingBlanks ds).all isTidyBlank ∧
              (continuationBlanks ds).all (·.all isTidyBlank) := by
            simpa [continuationBlanks] using htidy
          rw [dropWhile_isBreak_of_tidy hbs] at hv
          have hslash : '\\' ∉ leadingBlanks ds := fun hmem =>
            absurd (isBlankText_leadingBlanks ds _ hmem) (by decide)
          have hds := leadingBlanks_append_afterBlanks ds
          rw [← hds, continuationBlanks_append hslash] at hrest
          have hreturn : '\r' ∉ afterBlanks ds := fun hmem =>
            hcs (List.mem_cons_of_mem _ ((List.dropWhile_suffix _).subset hmem))
          have hlt := length_of_sizedPiece? (sizedPiece?_continuation (.inl rfl) ds)
          have hbody := ih (afterBlanks ds).length hlt hv hreturn hrest rfl
          rw [← hds]
          exact .continuation hbs (head?_dropWhile isBlank ds) hbody
        · obtain ⟨c, w, rfl, hline, hw, hlocal⟩ := escape?_append hescape
          have hblanks : continuationBlanks ('\\' :: c :: (w ++ rest)) =
              continuationBlanks rest := by
            rw [continuationBlanks, continuationBlanks_append hw]
            exact hline
          rw [hblanks] at htidy
          have hrest : '\r' ∉ rest := fun hmem => hcs (by simp [hmem])
          exact .escape (w := c :: w) hlocal (ih rest.length (by simp; omega) hv hrest htidy rfl)
      · rw [decode_char hb hc.symm] at h
        obtain ⟨v', hv', rfl⟩ := Option.map_eq_some_iff.1 h
        have hblanks : continuationBlanks ([c] ++ cs) = continuationBlanks cs :=
          continuationBlanks_append (by simpa using Ne.symm hb) cs
        rw [← List.singleton_append, hblanks] at htidy
        exact .char hb hc.symm (ih cs.length (by simp) hv' hcs htidy rfl)

/-- Tidy blanks are passed over to their end. -/
theorem afterBreak_append {bs cs : List Char} (hbs : bs.all isTidyBlank)
    (hcs : ∀ c ∈ cs.head?, isBlank c = false) : afterBreak (bs ++ cs) = some cs := by
  induction bs with
  | nil =>
    rw [List.nil_append]
    unfold afterBreak
    split
    case h_6 => rfl
    all_goals exact absurd (hcs _ rfl) (by decide)
  | cons b bs ih =>
    rw [List.all_cons, Bool.and_eq_true] at hbs
    have hb : (b = ' ' ∨ b = '\t') ∨ b = '\n' := by simpa [isTidyBlank] using hbs.1
    rcases hb with (rfl | rfl) | rfl <;> exact ih hbs.2

/-- The value of a tidy body is found by reading it. -/
theorem TidyBody.decode_eq {v body : List Char} (h : TidyBody v body) :
    decode .text body = some v := by
  induction h with
  | nil => exact decode_nil .text
  | char hb hr _ ih => rw [decode_char hb hr, ih, Option.map_some]
  | escape hescape _ ih => rw [decode_of_escape? (hescape _), ih, Option.map_some]
  | @continuation bs v cs hbs hcs _ ih =>
    have hpiece : piece? .text ('\\' :: '\n' :: (bs ++ cs)) = some ([], cs) := by
      rw [piece?, afterBreak_append hbs hcs, Option.map_some]
    rw [decode_cons, hpiece, Option.bind_some]
    simp [ih]

/-! ## Splitting a body -/

/-- Wherever the value of a body is split, the body can be split, and the table leads there. -/
def Splits (v body : List Char) : Prop :=
  ∀ a c, v = a ++ c → ∃ front back, body = front ++ back ∧ TidyBody a front ∧ TidyBody c back ∧
    ∀ start, ∃ t u, bodyOffsets start body = some (t ++ u) ∧ t.length = size a ∧
      bodyOffsets (start + size front) back = some u ∧ u[0]? = some (start + size front)

theorem splits_nil : Splits [] [] := by
  intro a c hv
  obtain ⟨rfl, rfl⟩ : a = [] ∧ c = [] := by simpa using hv
  refine ⟨[], [], rfl, .nil, .nil, fun start => ⟨[], [start], ?_, rfl, ?_, rfl⟩⟩
  · rw [bodyOffsets, if_pos rfl]
    rfl
  · rw [bodyOffsets, if_pos rfl]
    rfl

/-- A piece with a value goes before a body. -/
theorem Splits.cons {d : Char} {piece v body : List Char} (h : Splits v body)
    (hv : TidyBody (d :: v) (piece ++ body))
    (hpiece : sizedPiece? (piece ++ body) = some (piece, d.utf8Size, body))
    (hcons : ∀ a front, TidyBody a front → TidyBody (d :: a) (piece ++ front)) :
    Splits (d :: v) (piece ++ body) := by
  intro a c heq
  cases a with
  | nil =>
    obtain rfl : d :: v = c := heq
    refine ⟨[], piece ++ body, rfl, .nil, hv, fun start => ?_⟩
    obtain ⟨_, _, -, -, -, htable⟩ := h [] v rfl
    obtain ⟨t, u, ht, -⟩ := htable (start + size piece)
    have hstart : bodyOffsets start (piece ++ body) =
        some (List.replicate d.utf8Size start ++ (t ++ u)) := by
      rw [bodyOffsets_cons hpiece, ht, Option.map_some]
    refine ⟨[], _, hstart, rfl, hstart, ?_⟩
    have hhead : (List.replicate d.utf8Size start ++ (t ++ u))[0]? = some start := by
      rw [List.getElem?_append_left (by simpa using d.utf8Size_pos)]
      simp [d.utf8Size_pos]
    exact hhead
  | cons e a =>
    obtain ⟨rfl, rfl⟩ := List.cons.inj heq
    obtain ⟨front, back, rfl, hfront, hback, htable⟩ := h a c rfl
    refine ⟨piece ++ front, back, by simp, hcons a front hfront, hback, fun start => ?_⟩
    obtain ⟨t, u, ht, hlength, hu, hhead⟩ := htable (start + size piece)
    rw [Nat.add_assoc, ← size_append] at hu hhead
    refine ⟨List.replicate d.utf8Size start ++ t, u, ?_, by simp [hlength], hu, hhead⟩
    rw [bodyOffsets_cons hpiece, ht, Option.map_some, List.append_assoc]

/-- Wherever the value of a tidy body is split, the table leads to a place where the body can be
split. -/
theorem TidyBody.splits {v body : List Char} (h : TidyBody v body) : Splits v body := by
  induction h with
  | nil => exact splits_nil
  | @char c v cs hb hr hcs ih =>
    have hpiece : sizedPiece? ([c] ++ cs) = some ([c], c.utf8Size, cs) := by
      simp [sizedPiece?, hb]
    exact ih.cons (.char hb hr hcs) hpiece fun _ _ => .char hb hr
  | @escape d w v cs hescape hcs ih =>
    obtain ⟨piece, hpiece, -⟩ := sizedPiece?_of_escape? (hescape cs)
    obtain rfl : '\\' :: w = piece := by
      have happend := (append_of_sizedPiece? hpiece).1
      exact List.append_cancel_right happend
    have hsplits : Splits (d :: v) (('\\' :: w) ++ cs) :=
      ih.cons (.escape hescape hcs) hpiece fun _ _ hfront => .escape hescape hfront
    exact hsplits
  | @continuation bs v cs hbs hcs _ ih =>
    intro a c hv
    obtain ⟨front, back, rfl, hfront, hback, htable⟩ := ih a c hv
    have hhead : ∀ c ∈ front.head?, isBlank c = false := by
      intro c hc
      refine hcs c ?_
      rw [List.head?_append, hc]
      rfl
    have hblank : IsBlankText bs := fun b hb =>
      isBlank_of_isTidyBlank (List.all_eq_true.1 hbs b hb)
    have hpiece := sizedPiece?_continuation (.inl rfl) (bs ++ (front ++ back))
    rw [leadingBlanks, takeWhile_run hblank hcs, afterBlanks, dropWhile_run hblank hcs] at hpiece
    refine ⟨'\\' :: '\n' :: (bs ++ front), back, by simp, .continuation hbs hhead hfront, hback,
      fun start => ?_⟩
    obtain ⟨t, u, ht, hlength, hu, hhead⟩ := htable (start + size ('\\' :: '\n' :: bs))
    rw [Nat.add_assoc, ← size_append] at hu hhead
    refine ⟨t, u, ?_, hlength, hu, hhead⟩
    rw [bodyOffsets_cons hpiece, ht]
    rfl

/-! ## Literals -/

/-- From every part of the value, the table leads to a part inside the literal with this value. -/
def LeadsToParts (source value : List Char) : Prop :=
  ∃ table, offsets source = some table ∧ ∀ a b c, value = a ++ b ++ c →
    ∃ before inside after, source = before ++ inside ++ after ∧ before ≠ [] ∧ after ≠ [] ∧
      table[size a]? = some (size before) ∧ table[size (a ++ b)]? = some (size (before ++ inside)) ∧
      partValue? source inside = some b

/-- In a tidy plain literal the table leads to parts. -/
theorem leadsToParts_plain {body suffix value : List Char} (h : '"' ∉ suffix)
    (hbody : TidyBody value body) : LeadsToParts ('"' :: (body ++ '"' :: suffix)) value := by
  obtain ⟨_, _, -, -, -, htable⟩ := hbody.splits [] value rfl
  obtain ⟨t, u, htable, -⟩ := htable 1
  refine ⟨t ++ u, by rw [offsets_plain h, htable], fun a b c hvalue => ?_⟩
  rw [List.append_assoc] at hvalue
  obtain ⟨front, back, rfl, -, hback, hfirst⟩ := hbody.splits a (b ++ c) hvalue
  obtain ⟨inside, rest, rfl, hinside, -, hsecond⟩ := hback.splits b c rfl
  obtain ⟨t₁, u₁, htable₁, hlength₁, hu₁, hhead₁⟩ := hfirst 1
  obtain ⟨t₂, u₂, htable₂, hlength₂, hu₂, hhead₂⟩ := hsecond (1 + size front)
  rw [hu₁] at htable₂
  cases htable₂
  rw [htable] at htable₁
  have htu := Option.some.inj htable₁
  have hlength : (t₁ ++ t₂).length = size (a ++ b) := by
    rw [List.length_append, hlength₁, hlength₂, size_append]
  refine ⟨'"' :: front, inside, rest ++ '"' :: suffix, by simp, by simp, by simp, ?_, ?_,
    hinside.decode_eq⟩
  · rw [htu, List.getElem?_append_right (Nat.le_of_eq hlength₁), hlength₁, Nat.sub_self, hhead₁]
    rfl
  · rw [htu, ← List.append_assoc, List.getElem?_append_right (Nat.le_of_eq hlength), hlength,
      Nat.sub_self, hhead₂, size_append]
    rfl

/-- In a raw literal the table leads to parts, since each byte stands for itself. -/
theorem leadsToParts_raw {fence value suffix : List Char} (hfence : ∀ c ∈ fence, c = '#')
    (h : '"' ∉ suffix) :
    LeadsToParts ('r' :: (fence ++ '"' :: (value ++ '"' :: (fence ++ suffix)))) value := by
  have hbytes : 'r'.utf8Size = 1 ∧ '"'.utf8Size = 1 := ⟨rfl, rfl⟩
  refine ⟨_, offsets_raw hfence h, fun a b c hvalue => ?_⟩
  subst hvalue
  refine ⟨'r' :: (fence ++ '"' :: a), b, c ++ '"' :: (fence ++ suffix), by simp, by simp, by simp,
    ?_, ?_, rfl⟩
  · rw [List.getElem?_range' (by rw [size_append, size_append]; omega)]
    simp only [size_append, size_cons, hbytes.1, hbytes.2, Option.some.injEq]
    omega
  · rw [List.getElem?_range' (by rw [size_append _ c]; omega)]
    simp only [size_append, size_cons, hbytes.1, hbytes.2, List.cons_append, Option.some.injEq]
    omega

theorem mem_continuationBlanks_append {body bs : List Char} (rest : List Char)
    (h : bs ∈ continuationBlanks body) : bs ∈ continuationBlanks (body ++ '"' :: rest) := by
  fun_induction continuationBlanks body with
  | case1 cs ih =>
    have hleading : leadingBlanks (cs ++ '"' :: rest) = leadingBlanks cs := by
      rw [leadingBlanks, List.takeWhile_append]
      split
      · next hall =>
        have hcs := (List.takeWhile_prefix isBlank).eq_of_length hall
        have hquote : isBlank '"' = false := by decide
        rw [leadingBlanks, hcs, List.takeWhile_cons_of_neg (by simp [hquote]), List.append_nil]
      · rfl
    rw [List.cons_append, List.cons_append, continuationBlanks, hleading]
    rcases List.mem_cons.1 h with rfl | h
    · exact List.mem_cons_self
    · exact List.mem_cons_of_mem _ (ih h)
  | case2 c cs hline ih =>
    rw [List.cons_append, List.cons_append, continuationBlanks]
    · exact ih h
    · exact hline
  | case3 c cs hline hslash ih =>
    cases cs with
    | nil => cases h
    | cons d cs =>
      rw [List.cons_append, continuationBlanks]
      · exact ih h
      · exact fun _ hc _ => hslash d cs hc rfl
      · exact fun _ _ hc _ => hslash d cs hc rfl
  | case4 => cases h

/-- **The table leads from each part of the value to a part of the literal**, if the literal is
tidy. -/
theorem leadsToParts_of_lexeme? {source value : List Char}
    (h : lexeme? source = some (.text value, [])) (hr : '\r' ∉ source) (htidy : isTidy source) :
    LeadsToParts source value := by
  rcases literal_cases h with ⟨body, suffix, rfl, hquote, hvalue⟩ |
    ⟨fence, suffix, rfl, hfence, hquote⟩
  · have hbody : '\r' ∉ body := fun hmem => hr (by simp [hmem])
    have hblanks : (continuationBlanks body).all (·.all isTidyBlank) := by
      refine List.all_eq_true.2 fun bs hbs => ?_
      exact List.all_eq_true.1 htidy bs (mem_continuationBlanks_append suffix hbs)
    exact leadsToParts_plain hquote (tidyBody_of_decode hvalue hbody hblanks)
  · exact leadsToParts_raw hfence hquote

/-- Where a part of the literal is found, it is not too long to be shown. -/
theorem faultSpan_of_sourceSpan? {source before inside after : List Char} {fault : Span}
    (hsource : source = before ++ inside ++ after)
    (h : sourceSpan? source fault = some (.over (size before) inside)) (start : Nat) :
    faultSpan source (.over start source) fault = .over (start + size before) inside := by
  have hsize : size source = size before + size inside + size after := by
    rw [hsource, size_append, size_append]
  have hinside : start + size before ≤ start + (size before + size inside) ∧
      start + (size before + size inside) ≤ start + size source := by
    omega
  rw [faultSpan, h]
  refine (if_pos hinside).trans ?_
  simp only [Span.over, Nat.add_assoc]

/-- **Faults are shown at what spells them.** In a tidy literal without carriage returns, the table
leads from each part of the value to a part of the literal with this value. A fault of the value is
shown at the part of the literal that its own part of the value comes from, inside the literal,
wherever the literal stands. -/
theorem faultSpan_spells {source value : List Char}
    (h : lexeme? source = some (.text value, [])) (hr : '\r' ∉ source) (htidy : isTidy source) :
    LeadsToParts source value ∧
      ∀ e, Pattern.parse (String.ofList value) = .error e →
        ∃ cut : Cut, cut.text = value ∧ e.span = cut.span 0 ∧
          ∃ before inside after, source = before ++ inside ++ after ∧ before ≠ [] ∧ after ≠ [] ∧
            partValue? source inside = some cut.inside ∧
            sourceSpan? source e.span = some (.over (size before) inside) ∧
            (∀ start, faultSpan source (.over start source) e.span =
              .over (start + size before) inside) ∧
            patternOf (String.ofList source) =
              .error (.invalid e (.over (size before) inside)) := by
  have hleads := leadsToParts_of_lexeme? h hr htidy
  refine ⟨hleads, fun e he => ?_⟩
  obtain ⟨table, htable, hparts⟩ := hleads
  obtain ⟨cut, htext, hspan, -⟩ := Pattern.exists_cut_of_parse he
  rw [String.toList_ofList] at htext
  obtain ⟨before, inside, after, hsource, hbefore, hafter, hstart, hstop, hvalue⟩ :=
    hparts cut.before cut.inside cut.after htext.symm
  have hpart : sourceSpan? source e.span = some (.over (size before) inside) := by
    rw [size_append] at hstop
    simp [sourceSpan?, htable, hspan, Cut.span, Span.over, hstart, hstop]
  have hfault := faultSpan_of_sourceSpan? hsource hpart
  refine ⟨cut, htext, hspan, before, inside, after, hsource, hbefore, hafter, hvalue, hpart, hfault,
    ?_⟩
  have hplace := hfault 0
  rw [Nat.zero_add] at hplace
  rw [patternOf_literal h, he, Except.mapError, hplace]

/-- A name that is no method is shown without the continuation before it. One of its letters is
spelled with an escape, and the literal has a suffix. -/
theorem faultSpan_spells_name :
    lexeme? "\"\\\n \\x41B\\u\x7bC4\x7d\"x".toList = some (.text "ABÄ".toList, []) ∧
      isTidy "\"\\\n \\x41B\\u\x7bC4\x7d\"x".toList ∧
      Pattern.parse "ABÄ" = .error ⟨⟨0, 2⟩, .unexpectedToken 'A'⟩ ∧
      patternOf "\"\\\n \\x41B\\u\x7bC4\x7d\"x" =
        .error (.invalid ⟨⟨0, 2⟩, .unexpectedToken 'A'⟩ ⟨4, 9⟩) := by
  have h : lexeme? "\"\\\n \\x41B\\u\x7bC4\x7d\"x".toList = some (.text "ABÄ".toList, []) := by
    decide +kernel
  have htidy : isTidy "\"\\\n \\x41B\\u\x7bC4\x7d\"x".toList := by decide
  have hparse : Pattern.parse "ABÄ" = .error ⟨⟨0, 2⟩, .unexpectedToken 'A'⟩ :=
    Run.result_eq_error_iff.2 (by decide +kernel)
  have hspan : sourceSpan? "\"\\\n \\x41B\\u\x7bC4\x7d\"x".toList ⟨0, 2⟩ = some ⟨4, 9⟩ := by
    decide +kernel
  obtain ⟨-, hfaults⟩ := faultSpan_spells h (by decide) htidy
  obtain ⟨cut, -, -, before, inside, after, -, -, -, -, hpart, -, hpattern⟩ := hfaults _ hparse
  rw [← Option.some.inj (hspan.symm.trans hpart), String.ofList_toList] at hpattern
  exact ⟨h, htidy, hparse, hpattern⟩

end IdPattern.Embed
