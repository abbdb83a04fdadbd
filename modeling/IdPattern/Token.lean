import IdPattern.Text.Span

/-!
# Tokens

A token is read off a text that does not begin with a blank. Its shape shows in its first character:
a quote opens a text, a capital letter or an underscore begins a name, and every other character is
a token of its own. So a text has a first token unless a quote is opened that is never closed, and
the token and the text after it make up the whole (`Token.lexeme_append_of_read?`).

Inside quotes the pair `\"` is kept together, so that its quote does not close the text; a backslash
before any other character means nothing.
-/

namespace IdPattern

/-- The characters of names: the capital letters of ASCII and the underscore. -/
def isNameChar (c : Char) : Bool := c.isUpper || c == '_'

/-- The smallest unit of an expression. -/
inductive Token
  /-- The operator `+`. -/
  | join
  /-- An opening parenthesis. -/
  | groupOpen
  /-- A closing parenthesis. -/
  | groupClose
  /-- What stands between two quotes, with the pairs `\"` still in place. -/
  | text (content : List Char)
  /-- A run of name characters, which has at least one. -/
  | name (first : Char) (others : List Char)
  /-- A character that begins no other token. -/
  | unknown (c : Char)
deriving DecidableEq

/-- Splits what follows an opening quote at the quote that closes it. -/
def splitQuoted : List Char → Option (List Char × List Char)
  | [] => none
  | '"' :: cs => some ([], cs)
  | '\\' :: '"' :: cs => (splitQuoted cs).map fun (content, rest) => ('\\' :: '"' :: content, rest)
  | c :: cs => (splitQuoted cs).map fun (content, rest) => (c :: content, rest)

/-- Resolves the pairs `\"` of a quoted text from left to right. -/
def unescape : List Char → List Char
  | [] => []
  | '\\' :: '"' :: cs => '"' :: unescape cs
  | c :: cs => c :: unescape cs

/-- Puts a backslash before each quote. -/
def escape : List Char → List Char
  | [] => []
  | c :: cs => if c = '"' then '\\' :: '"' :: escape cs else c :: escape cs

/-- No quote is left without its backslash at the beginning. -/
theorem escape_ne_quote_cons (v rest : List Char) : escape v ≠ '"' :: rest := by
  cases v with
  | nil => simp [escape]
  | cons c v => by_cases hc : c = '"' <;> simp [escape, hc]

/-- What was escaped is found again. A backslash of the text itself stays single, and makes no pair
with the escaped quotes after it. -/
@[simp] theorem unescape_escape (v : List Char) : unescape (escape v) = v := by
  induction v with
  | nil => rfl
  | cons c v ih =>
    by_cases hc : c = '"'
    · simp [escape, hc, unescape, ih]
    · have hpair : ∀ rest, c = '\\' → escape v = '"' :: rest → False :=
        fun rest _ h => escape_ne_quote_cons v rest h
      simp only [escape, if_neg hc]
      rw [unescape, ih]
      exact hpair

def unescapeText (s : String) : String := String.ofList (unescape s.toList)

/-- The closing quote is taken off, and nothing else is lost. -/
theorem append_of_splitQuoted {cs content rest : List Char}
    (h : splitQuoted cs = some (content, rest)) : cs = content ++ '"' :: rest := by
  fun_induction splitQuoted cs generalizing content with
  | case1 => simp at h
  | case2 => simp_all
  | case3 cs ih =>
    simp only [Option.map_eq_some_iff, Prod.exists, Prod.mk.injEq] at h
    obtain ⟨content', rest', h', rfl, rfl⟩ := h
    simpa using ih h'
  | case4 c cs _ _ ih =>
    simp only [Option.map_eq_some_iff, Prod.exists, Prod.mk.injEq] at h
    obtain ⟨content', rest', h', rfl, rfl⟩ := h
    simpa using ih h'

/-! ### Arguments

Between the parentheses of a method a text is taken as it is, up to the first closing parenthesis.
-/

/-- Splits a text at its first closing parenthesis, which belongs to neither part. -/
def splitArgument (cs : List Char) : Option (List Char × List Char) :=
  match cs.dropWhile (· != ')') with
  | [] => none
  | _ :: rest => some (cs.takeWhile (· != ')'), rest)

/-- The closing parenthesis is taken off, and nothing else is lost. -/
theorem append_of_splitArgument {cs argument rest : List Char}
    (h : splitArgument cs = some (argument, rest)) : cs = argument ++ ')' :: rest := by
  unfold splitArgument at h
  split at h
  · simp at h
  · next c rest' hd =>
    simp only [Option.some.injEq, Prod.mk.injEq] at h
    obtain ⟨rfl, rfl⟩ := h
    have hc := List.head?_dropWhile_not (· != ')') cs
    rw [hd] at hc
    have hc : c = ')' := by simpa using hc
    have := List.takeWhile_append_dropWhile (p := (· != ')')) (l := cs)
    rw [hd, hc] at this
    exact this.symm

/-! ### Reading a token -/

namespace Token

def lexeme : Token → List Char
  | join => ['+']
  | groupOpen => ['(']
  | groupClose => [')']
  | text content => '"' :: (content ++ ['"'])
  | name first others => first :: others
  | unknown c => [c]

def head : Token → Char
  | join => '+'
  | groupOpen => '('
  | groupClose => ')'
  | text _ => '"'
  | name first _ => first
  | unknown c => c

@[simp] theorem lexeme_join : join.lexeme = ['+'] := rfl

@[simp] theorem lexeme_groupOpen : groupOpen.lexeme = ['('] := rfl

@[simp] theorem lexeme_groupClose : groupClose.lexeme = [')'] := rfl

@[simp] theorem lexeme_text (content : List Char) :
    (text content).lexeme = '"' :: (content ++ ['"']) := rfl

@[simp] theorem lexeme_name (c : Char) (cs : List Char) : (name c cs).lexeme = c :: cs := rfl

@[simp] theorem lexeme_unknown (c : Char) : (unknown c).lexeme = [c] := rfl

@[simp] theorem head_join : join.head = '+' := rfl

@[simp] theorem head_groupOpen : groupOpen.head = '(' := rfl

@[simp] theorem head_groupClose : groupClose.head = ')' := rfl

@[simp] theorem head_text (content : List Char) : (text content).head = '"' := rfl

@[simp] theorem head_name (c : Char) (cs : List Char) : (name c cs).head = c := rfl

@[simp] theorem head_unknown (c : Char) : (unknown c).head = c := rfl

/-- The first token of the text `c :: cs` and the text after it. There is none where the text opens
a quote that is never closed. -/
def read? (c : Char) (cs : List Char) : Option (Token × List Char) :=
  if c = '"' then
    (splitQuoted cs).map fun (content, rest) => (text content, rest)
  else if c = '+' then some (join, cs)
  else if c = '(' then some (groupOpen, cs)
  else if c = ')' then some (groupClose, cs)
  else if isNameChar c then
    some (name c (cs.takeWhile isNameChar), cs.dropWhile isNameChar)
  else some (unknown c, cs)

/-- A token and the text after it make up the text it was read from. -/
theorem lexeme_append_of_read? {c : Char} {cs rest : List Char} {t : Token}
    (h : read? c cs = some (t, rest)) : t.lexeme ++ rest = c :: cs := by
  unfold read? at h
  split at h
  · simp only [Option.map_eq_some_iff, Prod.exists, Prod.mk.injEq] at h
    obtain ⟨content, rest', h', rfl, rfl⟩ := h
    simp [append_of_splitQuoted h', *]
  · repeat' split at h
    all_goals
      simp only [Option.some.injEq, Prod.mk.injEq] at h
      obtain ⟨rfl, rfl⟩ := h
      simp [List.takeWhile_append_dropWhile, *]

/-- The characters that a token carries: for a text what stands between its quotes, for any other
token its lexeme. -/
def payload : Token → List Char
  | text content => content
  | t => t.lexeme

/-- The span of the payload of a token with a given span. -/
def payloadSpan (span : Span) : Token → Span
  | text _ => ⟨span.start + 1, span.stop - 1⟩
  | _ => span

/-- Every token takes at least one character. -/
@[simp] theorem lexeme_ne_nil (t : Token) : t.lexeme ≠ [] := by
  cases t <;> simp

end Token

end IdPattern
