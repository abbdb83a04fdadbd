import IdPattern.Text.Quoted

/-!
# Words of a host program

A word is an identifier or a number. The readers here find where a word ends: each answers with the
text after it. A number may have a suffix, which is an identifier right behind it, and must end
where no identifier could go on.
-/

namespace IdPattern.Embed

/-! ### Identifiers -/

/-- The identifier at the beginning of a text, and the text after it. -/
def identifier? : List Char → Option (List Char × List Char)
  | [] => none
  | c :: cs =>
    if isIdentifierStart c then
      some (c :: cs.takeWhile isIdentifierRest, cs.dropWhile isIdentifierRest)
    else none

/-- The text after an identifier, if one stands there. -/
def afterSuffix (cs : List Char) : List Char :=
  match identifier? cs with
  | some (_, rest) => rest
  | none => cs

/-- The identifiers that cannot be marked as plain names. -/
def reserved : List (List Char) :=
  ["_", "super", "self", "Self", "crate"].map String.toList

/-- The text after an identifier, which may be marked as a plain name by `r#`. -/
def afterName? : List Char → Option (List Char)
  | 'r' :: '#' :: cs =>
    (identifier? cs).bind fun (name, rest) => if name ∈ reserved then none else some rest
  | cs => (identifier? cs).map Prod.snd

/-! ### Numbers -/

/-- The text after the suffix of a number. No identifier may go on there. -/
def afterNumber? (cs : List Char) : Option (List Char) :=
  match afterSuffix cs with
  | [] => some []
  | c :: rest => if isIdentifierRest c then none else some (c :: rest)

def isPlace (c : Char) : Bool := c.isDigit || c == '_'

/-- The text after an exponent, of which the letter has been taken. It has at most one sign, before
its first digit. -/
def afterExponent? (signed valued : Bool) : List Char → Option (List Char)
  | [] => if valued then some [] else none
  | c :: cs =>
    if c = '+' ∨ c = '-' then
      if valued then some (c :: cs) else if signed then none else afterExponent? true valued cs
    else if c.isDigit then afterExponent? signed true cs
    else if c = '_' then afterExponent? signed valued cs
    else if valued then some (c :: cs) else none

/-- The text after a number with a point or an exponent. A point is not part of a number if another
point or an identifier follows it. -/
def afterReal? (cs : List Char) : Option (List Char) :=
  if ¬ (cs.head?.any Char.isDigit) then none
  else
    match cs.dropWhile isPlace with
    | '.' :: cs =>
      if cs.head?.any fun c => c == '.' || isIdentifierStart c then none
      else
        match cs.dropWhile isPlace with
        | [] => some []
        | c :: cs =>
          if c = 'e' ∨ c = 'E' then some ((afterExponent? false false cs).getD (c :: cs))
          else some (c :: cs)
    | c :: cs => if c = 'e' ∨ c = 'E' then afterExponent? false false cs else none
    | [] => none

/-- The text after the digits of a whole number. There is at least one, and in base ten no
underscore before it. -/
def afterDigits? (base : Nat) (valued : Bool) : List Char → Option (List Char)
  | [] => if valued then some [] else none
  | c :: cs =>
    if c = '_' then if !valued && base == 10 then none else afterDigits? base valued cs
    else
      match hexValue? c with
      | some d =>
        if d < base then afterDigits? base true cs
        else if !c.isDigit && valued then some (c :: cs) else none
      | none => if valued then some (c :: cs) else none

/-- The text after a whole number. -/
def afterWhole? : List Char → Option (List Char)
  | '0' :: 'x' :: cs => afterDigits? 16 false cs
  | '0' :: 'o' :: cs => afterDigits? 8 false cs
  | '0' :: 'b' :: cs => afterDigits? 2 false cs
  | cs => afterDigits? 10 false cs

def number? (cs : List Char) : Option (List Char) :=
  ((afterReal? cs).bind afterNumber?).or ((afterWhole? cs).bind afterNumber?)

end IdPattern.Embed
