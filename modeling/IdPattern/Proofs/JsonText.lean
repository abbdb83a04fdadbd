import IdPattern.Json.Text
import IdPattern.Proofs.Runs
import IdPattern.Text.Quoted

/-!
# The text of a value is read as the value

The compact text of a JSON value is cut into the marks it was written from (`Json.ofText?_marks`),
and the marks are read as the value (`Json.ofMarks?_marks`). The first step is shown for values
without numbers. The second one asks nothing of scalars: the depth that reading needs is never more
than the number of marks, because every descent takes one.
-/

namespace IdPattern

namespace Mark

/-! ## Strings -/

/-- An escape in a string is resolved, and the string goes on after it. -/
theorem splitString_escape {cs rest : List Char} {x : Char} (h : unescape? cs = some (x, rest)) :
    splitString ('\\' :: cs) = (splitString rest).map fun (s, rest) => (x :: s, rest) := by
  rw [splitString, if_neg (by decide), if_pos rfl]
  split
  · next hnone => simp [h] at hnone
  · next hsome =>
    cases h.symm.trans hsome
    rfl

/-- A control is written with four digits. -/
theorem unescape?_control {c : Char} (hc : c.toNat < 0x20) (rest : List Char) :
    unescape? ('u' :: '0' :: '0' :: Nat.digitChar (c.toNat / 16) :: Nat.digitChar (c.toNat % 16) ::
      rest) = some (c, rest) := by
  have hdigits : ∀ n : Fin 0x20,
      hexNumber? ['0', '0', Nat.digitChar (n / 16), Nat.digitChar (n % 16)] = some n.val := by
    decide
  have hnumber := hdigits ⟨c.toNat, hc⟩
  dsimp only at hnumber
  rw [unescape?, hnumber, Option.bind_some, charOfCode?_toNat]

/-- A character of a string is read back, and the closing quote is not found inside it. -/
theorem splitString_stringChar (c : Char) (rest : List Char) :
    splitString (stringChar c ++ rest) =
      (splitString rest).map fun (s, rest) => (c :: s, rest) := by
  unfold stringChar
  split
  case h_8 hquote hslash _ _ _ _ _ =>
    split
    · next hcontrol => exact splitString_escape (unescape?_control hcontrol rest)
    · next hcontrol =>
      rw [List.singleton_append, splitString, if_neg hquote, if_neg hslash, if_neg hcontrol]
  all_goals
    -- the characters with a letter of their own
    exact splitString_escape rfl

/-- What is written for the characters of a string is read as the string. -/
@[simp] theorem splitString_flatMap (cs rest : List Char) :
    splitString (cs.flatMap stringChar ++ '"' :: rest) = some (cs, rest) := by
  induction cs with
  | nil =>
    rw [List.flatMap_nil, List.nil_append, splitString]
    rfl
  | cons c cs ih =>
    rw [List.flatMap_cons, List.append_assoc, splitString_stringChar, ih, Option.map_some]

/-! ## Marks -/

def isNumber : Mark → Bool
  | scalar (.integer _) | scalar (.real _) => true
  | _ => false

/-- A text that no word goes on with. -/
def NoLetter (cs : List Char) : Prop := ∀ c ∈ cs.head?, c.isAlpha = false

theorem noLetter_cons {c : Char} {cs : List Char} (hc : c.isAlpha = false) :
    NoLetter (c :: cs) := by
  intro d hd
  obtain rfl : c = d := by simpa using hd
  exact hc

section

variable {ms : List Mark} {rest : List Char}

/-- The marks of a text are its first mark and the marks of the rest. -/
theorem ofText?_cons {m : Mark} {c : Char} {cs : List Char} (hc : isSpace c = false)
    (h : read? c cs = some (m, rest)) (hrest : ofText? rest = some ms) :
    ofText? (c :: cs) = some (m :: ms) := by
  have hspace : (c :: cs).dropWhile isSpace = c :: cs := List.dropWhile_cons_of_neg (by simp [hc])
  rw [ofText?]
  split
  · next hnil => simp [hspace] at hnil
  · next hcons =>
    rw [hspace] at hcons
    cases hcons
    split
    · next hnone => simp [h] at hnone
    · next hsome =>
      cases h.symm.trans hsome
      rw [hrest]
      rfl

/-- A string is one mark, whatever follows it. -/
theorem ofText?_string (s : String) (hrest : ofText? rest = some ms) :
    ofText? (scalarText (.string s) ++ rest) = some (scalar (.string s) :: ms) := by
  have hstring := splitString_flatMap s.toList rest
  have hread : read? '"' (s.toList.flatMap stringChar ++ '"' :: rest) =
      some (scalar (.string s), rest) := by
    simp [read?, hstring]
  simpa [scalarText] using ofText?_cons (by decide) hread hrest

/-- A word is one mark, if no letter follows it. -/
theorem ofText?_word {c : Char} (cs : List Char) {s : Scalar} (hc : isSpace c = false)
    (hread : ∀ ds, read? c ds = (word? (c :: ds.takeWhile Char.isAlpha)).map fun s =>
      (scalar s, ds.dropWhile Char.isAlpha))
    (hcs : cs.all Char.isAlpha) (hs : word? (c :: cs) = some s) (hword : NoLetter rest)
    (hrest : ofText? rest = some ms) : ofText? (c :: (cs ++ rest)) = some (scalar s :: ms) := by
  have hcs := List.all_eq_true.1 hcs
  have hmark : read? c (cs ++ rest) = some (scalar s, rest) := by
    rw [hread, takeWhile_run hcs hword, dropWhile_run hcs hword, hs, Option.map_some]
  exact ofText?_cons hc hmark hrest

/-- A scalar is a mark in front of a text that no word goes on with. -/
theorem ofText?_scalar {s : Scalar} (hs : (scalar s).isNumber = false) (hword : NoLetter rest)
    (hrest : ofText? rest = some ms) : ofText? (scalarText s ++ rest) = some (scalar s :: ms) := by
  cases s with
  | null =>
    exact ofText?_word ['u', 'l', 'l'] (by decide) (fun _ => rfl) (by decide) rfl hword hrest
  | bool b =>
    cases b with
    | true =>
      exact ofText?_word ['r', 'u', 'e'] (by decide) (fun _ => rfl) (by decide) rfl hword
        hrest
    | false =>
      exact ofText?_word ['a', 'l', 's', 'e'] (by decide) (fun _ => rfl) (by decide) rfl
        hword hrest
  | integer n => cases hs
  | real x => cases hs
  | string s => exact ofText?_string s hrest

/-- The text of a name and a colon is cut off before the text of the value. -/
theorem ofText?_name (name : String) (hrest : ofText? rest = some ms) :
    ofText? (scalarText (.string name) ++ ':' :: rest) =
      some (scalar (.string name) :: colon :: ms) :=
  ofText?_string name (ofText?_cons (by decide) rfl hrest)

end

end Mark

namespace Json

mutual

/-- The text of a value is cut into the marks of the value. -/
theorem ofText?_marks (j : Json) (hj : ∀ m ∈ j.marks, m.isNumber = false) {rest : List Char}
    {ms : List Mark} (hword : Mark.NoLetter rest) (hrest : Mark.ofText? rest = some ms) :
    Mark.ofText? (j.marks.flatMap Mark.text ++ rest) = some (j.marks ++ ms) :=
  match j with
  | .scalar s => by
    simpa [marks, Mark.text] using
      Mark.ofText?_scalar (hj (.scalar s) (by simp [marks])) hword hrest
  | .arr items => by
    have hitems := ofText?_itemMarks items (fun m hm => hj m (by simp [marks, hm])) hrest
    simpa [marks, Mark.text] using Mark.ofText?_cons (by decide) rfl hitems
  | .obj members => by
    have hmembers := ofText?_memberMarks members (fun m hm => hj m (by simp [marks, hm])) hrest
    simpa [marks, Mark.text] using Mark.ofText?_cons (by decide) rfl hmembers

/-- The text of the marks of a list is cut into these marks. -/
theorem ofText?_itemMarks (js : List Json) (hjs : ∀ m ∈ itemMarks js, m.isNumber = false)
    {rest : List Char} {ms : List Mark} (hrest : Mark.ofText? rest = some ms) :
    Mark.ofText? ((itemMarks js).flatMap Mark.text ++ rest) = some (itemMarks js ++ ms) :=
  match js with
  | [] => by
    simpa [itemMarks, Mark.text] using Mark.ofText?_cons (by decide) rfl hrest
  | [j] => by
    have hclose := Mark.ofText?_cons (c := ']') (by decide) rfl hrest
    have hitem := ofText?_marks j (fun m hm => hjs m (by simp [itemMarks, hm]))
      (Mark.noLetter_cons (by decide)) hclose
    simpa [itemMarks, Mark.text] using hitem
  | j :: k :: js => by
    have hitems := ofText?_itemMarks (k :: js) (fun m hm => hjs m (by simp [itemMarks, hm])) hrest
    have hcomma := Mark.ofText?_cons (c := ',') (by decide) rfl hitems
    have hitem := ofText?_marks j (fun m hm => hjs m (by simp [itemMarks, hm]))
      (Mark.noLetter_cons (by decide)) hcomma
    simpa [itemMarks, Mark.text] using hitem

/-- The text of the marks of an object is cut into these marks. -/
theorem ofText?_memberMarks (members : List (String × Json))
    (hmembers : ∀ m ∈ memberMarks members, m.isNumber = false) {rest : List Char} {ms : List Mark}
    (hrest : Mark.ofText? rest = some ms) :
    Mark.ofText? ((memberMarks members).flatMap Mark.text ++ rest) =
      some (memberMarks members ++ ms) :=
  match members with
  | [] => by
    simpa [memberMarks, Mark.text] using Mark.ofText?_cons (by decide) rfl hrest
  | [(name, j)] => by
    have hclose := Mark.ofText?_cons (c := '}') (by decide) rfl hrest
    have hvalue := ofText?_marks j (fun m hm => hmembers m (by simp [memberMarks, hm]))
      (Mark.noLetter_cons (by decide)) hclose
    simpa [memberMarks, Mark.text] using Mark.ofText?_name name hvalue
  | (name, j) :: m :: ms => by
    have hrest := ofText?_memberMarks (m :: ms)
      (fun m hm => hmembers m (by simp [memberMarks, hm])) hrest
    have hcomma := Mark.ofText?_cons (c := ',') (by decide) rfl hrest
    have hvalue := ofText?_marks j (fun m hm => hmembers m (by simp [memberMarks, hm]))
      (Mark.noLetter_cons (by decide)) hcomma
    simpa [memberMarks, Mark.text] using Mark.ofText?_name name hvalue

end

theorem isNumber_of_mem_itemMarks {js : List Json}
    (h : ∀ j ∈ js, ∀ m ∈ j.marks, m.isNumber = false) : ∀ m ∈ itemMarks js, m.isNumber = false := by
  induction js with
  | nil => simp [itemMarks, Mark.isNumber]
  | cons j js ih =>
    have hj := h j List.mem_cons_self
    have hjs := ih fun k hk => h k (List.mem_cons_of_mem j hk)
    intro m hm
    cases js with
    | nil =>
      rcases List.mem_append.1 hm with hm | hm
      · exact hj m hm
      · obtain rfl := List.mem_singleton.1 hm
        rfl
    | cons k js =>
      rcases List.mem_append.1 hm with hm | hm
      · exact hj m hm
      · rcases List.mem_cons.1 hm with rfl | hm
        · rfl
        · exact hjs m hm

/-! ## Values -/

/-- No value begins with the bracket that closes a list, so a list with items is not taken for an
empty one. -/
theorem marks_append_ne (j : Json) (rest ms : List Mark) : j.marks ++ rest ≠ .arrClose :: ms := by
  cases j <;> simp [marks]

/-- A list that has items does not begin with its end. -/
theorem itemMarks_append_ne {js : List Json} (hne : js ≠ []) (rest ms : List Mark) :
    itemMarks js ++ rest ≠ .arrClose :: ms := by
  match js with
  | [] => exact absurd rfl hne
  | [j] => simpa [itemMarks] using marks_append_ne j (.arrClose :: rest) ms
  | j :: k :: js =>
    simpa [itemMarks] using marks_append_ne j (.comma :: (itemMarks (k :: js) ++ rest)) ms

theorem memberMarks_append_ne {members : List (String × Json)} (hne : members ≠ [])
    (rest ms : List Mark) : memberMarks members ++ rest ≠ .objClose :: ms := by
  match members with
  | [] => exact absurd rfl hne
  | [(name, j)] => simp [memberMarks]
  | (name, j) :: m :: members => simp [memberMarks]

mutual

/-- The marks of a value are read as the value, at any depth that is not less than their number. -/
theorem valueOf?_marks (j : Json) (rest : List Mark) {depth : Nat} (h : j.marks.length ≤ depth) :
    valueOf? depth (j.marks ++ rest) = some (j, rest) :=
  match depth, j with
  | 0, j => by
    cases j <;> simp [marks] at h
  | depth + 1, .scalar s => by
    simp [marks, valueOf?]
  | depth + 1, .arr [] => by
    simp [marks, itemMarks, valueOf?]
  | depth + 1, .arr (j :: js) => by
    have hlength : (itemMarks (j :: js)).length ≤ depth := by simpa [marks] using h
    have hitems := itemsOf?_itemMarks j js rest hlength
    rw [marks, List.cons_append, valueOf?]
    · rw [hitems, Option.map_some]
    · exact itemMarks_append_ne (List.cons_ne_nil j js) rest
  | depth + 1, .obj [] => by
    simp [marks, memberMarks, valueOf?]
  | depth + 1, .obj (m :: ms) => by
    have hlength : (memberMarks (m :: ms)).length ≤ depth := by simpa [marks] using h
    have hmembers := membersOf?_memberMarks m ms rest hlength
    rw [marks, List.cons_append, valueOf?]
    · rw [hmembers, Option.map_some]
    · exact memberMarks_append_ne (List.cons_ne_nil m ms) rest

/-- The marks of a list with items are read as its items. -/
theorem itemsOf?_itemMarks (j : Json) (js : List Json) (rest : List Mark) {depth : Nat}
    (h : (itemMarks (j :: js)).length ≤ depth) :
    itemsOf? depth (itemMarks (j :: js) ++ rest) = some (j :: js, rest) :=
  match depth, js with
  | 0, js => by
    cases js <;> simp [itemMarks] at h
  | depth + 1, [] => by
    have hlength : j.marks.length ≤ depth := by simpa [itemMarks] using h
    have hitem := valueOf?_marks j (.arrClose :: rest) hlength
    simp [itemMarks, itemsOf?, hitem]
  | depth + 1, k :: js => by
    obtain ⟨hj, hjs⟩ : j.marks.length ≤ depth ∧ (itemMarks (k :: js)).length ≤ depth := by
      simp only [itemMarks, List.length_append, List.length_cons] at h
      omega
    have hitem := valueOf?_marks j (.comma :: (itemMarks (k :: js) ++ rest)) hj
    have hitems := itemsOf?_itemMarks k js rest hjs
    simp [itemMarks, itemsOf?, hitem, hitems]

/-- The marks of an object with members are read as its members. -/
theorem membersOf?_memberMarks (m : String × Json) (ms : List (String × Json)) (rest : List Mark)
    {depth : Nat} (h : (memberMarks (m :: ms)).length ≤ depth) :
    membersOf? depth (memberMarks (m :: ms) ++ rest) = some (m :: ms, rest) :=
  match depth, m, ms with
  | 0, (name, j), ms => by
    cases ms <;> simp [memberMarks] at h
  | depth + 1, (name, j), [] => by
    have hlength : j.marks.length ≤ depth := by
      simp only [memberMarks, List.length_append, List.length_cons] at h
      omega
    have hvalue := valueOf?_marks j (.objClose :: rest) hlength
    simp [memberMarks, membersOf?, hvalue]
  | depth + 1, (name, j), m :: ms => by
    obtain ⟨hj, hms⟩ : j.marks.length ≤ depth ∧ (memberMarks (m :: ms)).length ≤ depth := by
      simp only [memberMarks, List.length_append, List.length_cons] at h
      omega
    have hvalue := valueOf?_marks j (.comma :: (memberMarks (m :: ms) ++ rest)) hj
    have hmembers := membersOf?_memberMarks m ms rest hms
    simp [memberMarks, membersOf?, hvalue, hmembers]

end

/-- The marks of a value are read as the value. -/
@[simp] theorem ofMarks?_marks (j : Json) : ofMarks? j.marks = some j := by
  have hvalue := valueOf?_marks j [] (Nat.le_refl _)
  rw [List.append_nil] at hvalue
  rw [ofMarks?, hvalue]

/-- **Compact text is read back**, if no number is in it. -/
theorem ofText?_compact {j : Json} (hj : ∀ m ∈ j.marks, m.isNumber = false) :
    ofText? j.compact = some j := by
  have hnil : Mark.ofText? [] = some [] := by
    rw [Mark.ofText?]
    rfl
  have hword : Mark.NoLetter [] := by
    intro c hc
    cases hc
  have hmarks := ofText?_marks j hj hword hnil
  rw [List.append_nil, List.append_nil] at hmarks
  rw [ofText?, compact, String.toList_ofList, hmarks, Option.bind_some, ofMarks?_marks]

end Json

end IdPattern
