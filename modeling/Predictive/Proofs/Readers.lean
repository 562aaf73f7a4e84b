import Mathlib.Algebra.Group.Nat.Defs
import Mathlib.Data.List.Infix
import Predictive.Text.Quoted

/-!
# Reading what was written

A reader takes something off the start of a text and leaves the rest. What has been written can be
told from what follows it when a reader gets it back, whatever follows. Main statements: this is so
of characters that are escaped up to a closing quote (`readBody_flatMap`), of lists in brackets
(`readList_of_reads`), and of quoted texts, with either quote and all their escapes
(`readQuoted_quoteChars`).
-/

namespace Predictive.Text

/-- Takes something off the start of a text, if it is there, and leaves the rest. -/
abbrev Reader (α : Type) := List Char → Option (α × List Char)

/-- The characters up to a closing quote. A character that may be written in several characters is
read by `unescape`. -/
def readBody (unescape : Reader Char) (quote : Char) : Reader (List Char)
  | [] => none
  | c :: rest =>
    if c = quote then some ([], rest)
    else
      match unescape (c :: rest) with
      | none => none
      | some (d, rest') =>
        -- Whatever is read takes a character at least.
        if rest'.length ≤ rest.length then
          (readBody unescape quote rest').map fun (body, after) => (d :: body, after)
        else none
termination_by cs => cs.length

/-- One or more items with commas and spaces between them, up to a closing bracket. -/
def readItems {α : Type} (item : Reader α) (close : Char) (cs : List Char) :
    Option (List α × List Char) :=
  match item cs with
  | none => none
  | some (_, []) => none
  | some (a, c :: rest) =>
    if c = close then some ([a], rest)
    else
      match rest with
      | ' ' :: rest =>
        if c = ',' ∧ rest.length < cs.length then
          (readItems item close rest).map fun (items, after) => (a :: items, after)
        else none
      | _ => none
termination_by cs.length

/-- Items between brackets, with commas and spaces between them. -/
def readList {α : Type} (item : Reader α) (opening close : Char) : Reader (List α)
  | [] => none
  | c :: rest =>
    if c = opening then
      if rest.head? = some close then some ([], rest.tail) else readItems item close rest
    else none

/-- A number of `width` hexadecimal digits. -/
def readHex : Nat → Reader Nat
  | 0, cs => some (0, cs)
  | width + 1, cs =>
    match readHex width cs with
    | some (n, c :: rest) =>
      ((List.range 16).find? (hexDigit · = c)).map fun digit => (16 * n + digit, rest)
    | _ => none

/-- The character whose code point has `width` hexadecimal digits. -/
def readCodePoint (width : Nat) (cs : List Char) : Option (Char × List Char) :=
  match readHex width cs with
  | none => none
  | some (n, rest) => if (Char.ofNat n).toNat = n then some (Char.ofNat n, rest) else none

/-- The character that is written after a backslash. -/
def readEscape : Reader Char
  | [] => none
  | 't' :: rest => some ('\t', rest)
  | 'n' :: rest => some ('\n', rest)
  | 'r' :: rest => some ('\r', rest)
  | 'x' :: rest => readCodePoint 2 rest
  | 'u' :: rest => readCodePoint 4 rest
  | 'U' :: rest => readCodePoint 8 rest
  | c :: rest => if c = '\\' ∨ c = '\x27' ∨ c = '\x22' then some (c, rest) else none

/-- A character of a quoted text. -/
def readQuotedChar : Reader Char
  | [] => none
  | c :: rest => if c = '\\' then readEscape rest else some (c, rest)

/-- A text between quotes of either kind. -/
def readQuoted : Reader String
  | [] => none
  | c :: rest =>
    if c = '\x27' ∨ c = '\x22' then
      (readBody readQuotedChar c rest).map fun (body, after) => (String.ofList body, after)
    else none

variable {α : Type} {rest : List Char}

/-! ## Literals and lists -/

/-- Escaped characters are read back up to the closing quote, if each of them is and none of them
is written with the quote in front. -/
theorem readBody_flatMap {unescape : Reader Char} {escape : Char → List Char} {quote : Char}
    (hread : ∀ c rest, unescape (escape c ++ rest) = some (c, rest))
    (hquote : ∀ c, ∃ d tail, escape c = d :: tail ∧ d ≠ quote) (cs rest : List Char) :
    readBody unescape quote (cs.flatMap escape ++ quote :: rest) = some (cs, rest) := by
  induction cs with
  | nil => rw [List.flatMap_nil, List.nil_append, readBody, if_pos rfl]
  | cons c cs ih =>
    obtain ⟨d, tail, hescape, hd⟩ := hquote c
    have hchar := hread c (cs.flatMap escape ++ quote :: rest)
    rw [hescape, List.cons_append] at hchar
    rw [List.flatMap_cons, hescape, List.append_assoc, List.cons_append, readBody, if_neg hd, hchar]
    simp [ih]

/-- Items in brackets are read back if each of them is and none of them is written with the closing
bracket in front. -/
theorem readItems_intercalate {item : Reader α} {write : α → List Char} {close : Char}
    (hread : ∀ a rest, item (write a ++ rest) = some (a, rest)) (hclose : close ≠ ',')
    {as : List α} (hne : as ≠ []) (rest : List Char) :
    readItems item close ([',', ' '].intercalate (as.map write) ++ close :: rest) =
      some (as, rest) := by
  induction as with
  | nil => exact absurd rfl hne
  | cons a as ih =>
    cases as with
    | nil =>
      rw [List.map_singleton, List.intercalate_singleton, readItems, hread]
      simp
    | cons b as =>
      have ih := ih (List.cons_ne_nil b as)
      rw [List.map_cons] at ih
      rw [List.map_cons, List.map_cons, List.intercalate_cons_cons, List.append_assoc,
        List.append_assoc, readItems, hread]
      simp only [List.cons_append, List.nil_append, if_neg (Ne.symm hclose), true_and, ih]
      rw [if_pos (by simp only [List.length_append, List.length_cons]; omega)]
      rfl

/-- Items between brackets are read back. -/
theorem readList_of_reads {item : Reader α} {write : α → List Char} {opening close : Char}
    (hread : ∀ a rest, item (write a ++ rest) = some (a, rest)) (hclose : close ≠ ',')
    (hhead : ∀ a, ∃ c tail, write a = c :: tail ∧ c ≠ close) (as : List α) (rest : List Char) :
    readList item opening close
      (opening :: ([',', ' '].intercalate (as.map write) ++ close :: rest)) = some (as, rest) := by
  rw [readList, if_pos rfl]
  cases as with
  | nil => simp
  | cons a as =>
    obtain ⟨c, tail, hwrite, hc⟩ := hhead a
    have hstart : ([',', ' '].intercalate ((a :: as).map write) ++ close :: rest).head? =
        some c := by
      cases as <;> simp [hwrite, List.intercalate_cons_cons]
    rw [hstart, if_neg (by simpa using hc), readItems_intercalate hread hclose (by simp)]

/-! ## Quoted texts -/

/-- The digits of a number below sixteen tell it. -/
theorem find?_hexDigit {n : Nat} (hn : n < 16) :
    (List.range 16).find? (hexDigit · = hexDigit n) = some n := by
  revert n
  decide

/-- Hexadecimal digits are digits for numbers below sixteen. -/
theorem exists_eq_hexDigit_of_mem {width n : Nat} {c : Char} (h : c ∈ hexDigits width n) :
    ∃ digit < 16, c = hexDigit digit := by
  induction width generalizing n with
  | zero => cases h
  | succ width ih =>
    rw [hexDigits, List.mem_append, List.mem_singleton] at h
    rcases h with h | rfl
    · exact ih h
    · exact ⟨n % 16, Nat.mod_lt n (by decide), rfl⟩

/-- The last hexadecimal digits of a number are read back. -/
theorem readHex_hexDigits (width n : Nat) (rest : List Char) :
    readHex width (hexDigits width n ++ rest) = some (n % 16 ^ width, rest) := by
  induction width generalizing n rest with
  | zero => simp [readHex, hexDigits, Nat.mod_one]
  | succ width ih =>
    rw [hexDigits, List.append_assoc, readHex, ih]
    have hdigit := find?_hexDigit (Nat.mod_lt n (by decide : 0 < 16))
    simp only [List.singleton_append, hdigit, Option.map_some, Option.some.injEq, Prod.mk.injEq,
      and_true]
    rw [Nat.pow_succ, Nat.mul_comm (16 ^ width) 16, Nat.mod_mul, Nat.add_comm]

/-- The code point of a character is read back from enough digits. -/
theorem readCodePoint_hexDigits {width : Nat} {c : Char} (hc : c.toNat < 16 ^ width)
    (rest : List Char) :
    readCodePoint width (hexDigits width c.toNat ++ rest) = some (c, rest) := by
  rw [readCodePoint, readHex_hexDigits, Nat.mod_eq_of_lt hc]
  simp [Char.ofNat_toNat]

/-- A quote or a backslash stands for itself after a backslash. -/
theorem readEscape_of_mark {c : Char} (hc : c = '\\' ∨ c = '\x27' ∨ c = '\x22') :
    readEscape (c :: rest) = some (c, rest) := by
  rcases hc with rfl | rfl | rfl <;> rfl

/-- Eight hexadecimal digits are enough for every character. -/
theorem toNat_lt_pow_eight (c : Char) : c.toNat < 16 ^ 8 := by
  have hvalid := c.valid
  rw [UInt32.isValidChar, Nat.isValidChar] at hvalid
  change c.val.toNat < _
  omega

/-- A character of a quoted text is read back. -/
theorem readQuotedChar_escapeChar {quote : Char} (hquote : quote = '\x27' ∨ quote = '\x22')
    (c : Char) (rest : List Char) :
    readQuotedChar (escapeChar quote c ++ rest) = some (c, rest) := by
  fun_cases escapeChar quote c with
  | case1 hmark =>
    refine readEscape_of_mark ?_
    simp only [Bool.or_eq_true, decide_eq_true_eq] at hmark
    rcases hmark with rfl | rfl
    · exact .inr hquote
    · exact .inl rfl
  | case2 _ hc | case3 _ _ hc | case4 _ _ _ hc =>
    rw [hc]
    rfl
  | case5 hmark =>
    simp only [Bool.or_eq_true, decide_eq_true_eq, not_or] at hmark
    exact if_neg hmark.2
  | case6 _ _ _ _ _ hsmall => exact readCodePoint_hexDigits hsmall rest
  | case7 _ _ _ _ _ _ hmiddle => exact readCodePoint_hexDigits hmiddle rest
  | case8 => exact readCodePoint_hexDigits (toNat_lt_pow_eight c) rest

/-- No character is written with the quote in front. -/
theorem exists_escapeChar_eq_cons {quote : Char} (hquote : quote ≠ '\\') (c : Char) :
    ∃ d tail, escapeChar quote c = d :: tail ∧ d ≠ quote := by
  fun_cases escapeChar quote c with
  | case5 hmark =>
    simp only [Bool.or_eq_true, decide_eq_true_eq, not_or] at hmark
    exact ⟨c, [], rfl, hmark.1⟩
  | _ => exact ⟨'\\', _, rfl, Ne.symm hquote⟩

/-- The quote for a text is one of the two. -/
theorem quoteFor_eq_or (cs : List Char) : quoteFor cs = '\x27' ∨ quoteFor cs = '\x22' := by
  rw [quoteFor]
  split
  · exact .inr rfl
  · exact .inl rfl

/-- A quoted text is read back, whatever follows it. -/
theorem readQuoted_quoteChars (cs rest : List Char) :
    readQuoted (quoteChars cs ++ rest) = some (String.ofList cs, rest) := by
  have hquote := quoteFor_eq_or cs
  have hne : quoteFor cs ≠ '\\' := by
    rcases hquote with h | h <;> rw [h] <;> decide
  have hbody := readBody_flatMap (readQuotedChar_escapeChar hquote)
    (exists_escapeChar_eq_cons hne) cs rest
  rw [quoteChars, List.cons_append, List.cons_append, List.append_assoc, List.singleton_append,
    readQuoted, if_pos hquote, hbody]
  rfl

end Predictive.Text
