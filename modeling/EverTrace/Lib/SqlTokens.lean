import Mathlib.Data.List.Basic
/-!
# The words of an SQL condition

A text is read character by character. What has been read of the next token is the
state (`Pending`); a character either belongs to it (`extend`) or ends it and starts
the next one (`start`). In a quoted text a quote is written twice.

`lex_token`: a token that is written out and followed by a blank, a comma or a closing
bracket is read back.
-/
namespace EverTrace.Lib.Sql

inductive Keyword where
  | and
  | or
  | not
  | in_
  | is_
  | null
  | true_
  | false_
  deriving DecidableEq, Repr

def Keyword.text : Keyword → String
  | .and => "AND"
  | .or => "OR"
  | .not => "NOT"
  | .in_ => "IN"
  | .is_ => "IS"
  | .null => "NULL"
  | .true_ => "TRUE"
  | .false_ => "FALSE"

def keywords : List Keyword := [.and, .or, .not, .in_, .is_, .null, .true_, .false_]

inductive Mark where
  | open_
  | close
  | comma
  | eq
  | ne
  | lt
  | le
  | gt
  | ge
  deriving DecidableEq, Repr

def Mark.text : Mark → String
  | .open_ => "("
  | .close => ")"
  | .comma => ","
  | .eq => "="
  | .ne => "!="
  | .lt => "<"
  | .le => "<="
  | .gt => ">"
  | .ge => ">="

inductive Token where
  | keyword (keyword : Keyword)
  | name (name : List Char)
  | number (value : Nat)
  | literal (text : List Char)
  | mark (mark : Mark)
  deriving DecidableEq, Repr

/-- Keywords may be written in small letters too. -/
def keywordOf (word : List Char) : Option Keyword :=
  keywords.find? fun keyword => keyword.text.toList == word.map Char.toUpper

def Token.ofWord (word : List Char) : Token :=
  match keywordOf word with
  | some found => .keyword found
  | none => .name word

/-! ## Reading -/

/-- What has been read of the next token. -/
inductive Pending where
  | idle
  | word (read : List Char)
  | number (value : Nat)
  | quoted (read : List Char)
  /-- After a quote that ends the text, unless another one follows. -/
  | closing (read : List Char)
  | bang
  | mark (mark : Mark)
  deriving DecidableEq, Repr

def isLetter (c : Char) : Bool := c.isAlpha || c == '_'

def isWordChar (c : Char) : Bool := c.isAlphanum || c == '_'

/-- A character that starts a token, or a blank between two. -/
def start (c : Char) : Option Pending :=
  if isLetter c then some (.word [c])
  else if c.isDigit then some (.number (c.toNat - '0'.toNat))
  else if c == ' ' || c == '\n' || c == '\t' || c == '\r' then some .idle
  else match c with
    | '\'' => some (.quoted [])
    | '(' => some (.mark .open_)
    | ')' => some (.mark .close)
    | ',' => some (.mark .comma)
    | '=' => some (.mark .eq)
    | '<' => some (.mark .lt)
    | '>' => some (.mark .gt)
    | '!' => some .bang
    | _ => none

/-- A character that goes on with the token. -/
def extend : Pending → Char → Option Pending
  | .word read, c => if isWordChar c then some (.word (read ++ [c])) else none
  | .number value, c => if c.isDigit then some (.number (10 * value + (c.toNat - '0'.toNat))) else none
  | .quoted read, c => some (if c = '\'' then .closing read else .quoted (read ++ [c]))
  | .closing read, c => if c = '\'' then some (.quoted (read ++ ['\''])) else none
  | .bang, c => if c = '=' then some (.mark .ne) else none
  | .mark .lt, c => if c = '=' then some (.mark .le) else if c = '>' then some (.mark .ne) else none
  | .mark .gt, c => if c = '=' then some (.mark .ge) else none
  | _, _ => none

/-- The token that has been read, if it may end here. -/
def flush : Pending → Option (List Token)
  | .idle => some []
  | .word read => some [.ofWord read]
  | .number value => some [.number value]
  | .closing read => some [.literal read]
  | .mark mark => some [.mark mark]
  | .quoted _ | .bang => none

def scan : Pending → List Char → Option (List Token)
  | pending, [] => flush pending
  | pending, c :: rest =>
    match extend pending c with
    | some next => scan next rest
    | none => do
      let done ← flush pending
      let next ← start c
      return done ++ (← scan next rest)

def lex (text : List Char) : Option (List Token) := scan .idle text

theorem scan_extend {pending next : Pending} {c : Char} (h : extend pending c = some next) (rest : List Char) :
    scan pending (c :: rest) = scan next rest := by
  rw [scan, h]

/-- The first character of a text starts a token. -/
theorem lex_cons {c : Char} {next : Pending} (h : start c = some next) (rest : List Char) :
    lex (c :: rest) = scan next rest := by
  have hidle : extend .idle c = none := rfl
  rw [lex, scan, hidle]
  simp [flush, h]

theorem lex_blank (rest : List Char) : lex (' ' :: rest) = lex rest := lex_cons rfl rest

/-- A text does not go on with the token that was read before it. -/
def Stops (pending : Pending) (rest : List Char) : Prop := ∀ c ∈ rest.head?, extend pending c = none

/-- What has been read is a token, and the text behind it is read from the start. -/
theorem scan_flush {pending : Pending} {done : List Token} {rest : List Char} (hstop : Stops pending rest)
    (hflush : flush pending = some done) : scan pending rest = (lex rest).map (done ++ ·) := by
  have hempty : flush .idle = some [] := rfl
  cases rest with
  | nil =>
    rw [lex, scan, scan, hflush, hempty, Option.map_some, List.append_nil]
  | cons c rest =>
    have hnone : extend pending c = none := hstop c rfl
    have hidle : extend .idle c = none := rfl
    rw [lex, scan, scan, hnone, hidle]
    simp only [hflush, hempty, Option.bind_eq_bind, Option.bind_some, Option.pure_def, List.nil_append]
    cases start c with
    | none => rfl
    | some next =>
      simp only [Option.bind_some]
      cases scan next rest <;> rfl

/-! ### Words, numbers and quoted texts -/

theorem scan_word {word : List Char} (h : ∀ c ∈ word, isWordChar c = true) (read rest : List Char) :
    scan (.word read) (word ++ rest) = scan (.word (read ++ word)) rest := by
  induction word generalizing read with
  | nil => rw [List.nil_append, List.append_nil]
  | cons c word ih =>
    have hc : extend (.word read) c = some (.word (read ++ [c])) := if_pos (h c List.mem_cons_self)
    rw [List.cons_append, scan_extend hc, ih (fun c hmem => h c (List.mem_cons_of_mem _ hmem)), List.append_assoc,
      List.singleton_append]

theorem scan_digits {digits : List Char} (h : ∀ c ∈ digits, c.isDigit = true) (value : Nat) (rest : List Char) :
    scan (.number value) (digits ++ rest) = scan (.number (Nat.ofDigitChars 10 digits value)) rest := by
  induction digits generalizing value with
  | nil => rw [List.nil_append, Nat.ofDigitChars_nil]
  | cons c digits ih =>
    have hc : extend (.number value) c = some (.number (10 * value + (c.toNat - '0'.toNat))) :=
      if_pos (h c List.mem_cons_self)
    rw [List.cons_append, scan_extend hc, ih (fun c hmem => h c (List.mem_cons_of_mem _ hmem)), Nat.ofDigitChars_cons]

/-- A quote is written twice. -/
def escape (text : List Char) : List Char := text.flatMap fun c => if c = '\'' then ['\'', '\''] else [c]

theorem scan_quoted (text read rest : List Char) :
    scan (.quoted read) (escape text ++ '\'' :: rest) = scan (.closing (read ++ text)) rest := by
  induction text generalizing read with
  | nil =>
    have hquote : extend (.quoted read) '\'' = some (.closing read) := rfl
    rw [escape, List.flatMap_nil, List.nil_append, scan_extend hquote, List.append_nil]
  | cons c text ih =>
    have hread : read ++ c :: text = (read ++ [c]) ++ text := by simp
    by_cases hc : c = '\''
    · subst hc
      have hquote : extend (.quoted read) '\'' = some (.closing read) := rfl
      have hagain : extend (.closing read) '\'' = some (.quoted (read ++ ['\''])) := rfl
      have htext : escape ('\'' :: text) ++ '\'' :: rest = '\'' :: '\'' :: (escape text ++ '\'' :: rest) := by
        simp [escape]
      rw [htext, scan_extend hquote, scan_extend hagain, ih, hread]
    · have hplain : extend (.quoted read) c = some (.quoted (read ++ [c])) := by
        rw [extend, if_neg hc]
      have htext : escape (c :: text) ++ '\'' :: rest = c :: (escape text ++ '\'' :: rest) := by
        simp [escape, hc]
      rw [htext, scan_extend hplain, ih, hread]

/-! ## Writing -/

/-- A word that is no keyword. -/
structure PlainName (name : List Char) : Prop where
  letter : ∃ c rest, name = c :: rest ∧ isLetter c = true
  chars : ∀ c ∈ name, isWordChar c = true
  plain : keywordOf name = none

def quote (text : List Char) : List Char := '\'' :: (escape text ++ ['\''])

def Token.text : Token → List Char
  | .keyword word => word.text.toList
  | .name word => word
  | .number value => (toString value).toList
  | .literal text => quote text
  | .mark sign => sign.text.toList

def Token.Ok : Token → Prop
  | .name word => PlainName word
  | _ => True

/-- A character that ends every token. -/
def separates (c : Char) : Bool := c == ' ' || c == ')' || c == ','

/-- The end of the text, or a separator. -/
def Apart (rest : List Char) : Prop := ∀ c ∈ rest.head?, separates c = true

theorem Apart.stops {pending : Pending} (hpending : ∀ read, pending ≠ .quoted read) {rest : List Char} (h : Apart rest) :
    Stops pending rest := by
  intro c hc
  have hseparates := h c hc
  have hcases : c = ' ' ∨ c = ')' ∨ c = ',' := by simpa [separates, or_assoc] using hseparates
  cases pending with
  | quoted read => exact absurd rfl (hpending read)
  | mark mark => cases mark <;> rcases hcases with rfl | rfl | rfl <;> rfl
  | idle => rfl
  | word read => rcases hcases with rfl | rfl | rfl <;> rfl
  | number value => rcases hcases with rfl | rfl | rfl <;> rfl
  | closing read => rcases hcases with rfl | rfl | rfl <;> rfl
  | bang => rcases hcases with rfl | rfl | rfl <;> rfl

theorem start_letter {c : Char} (h : isLetter c = true) : start c = some (.word [c]) := if_pos h

theorem start_digit {c : Char} (h : c.isDigit = true) : start c = some (.number (c.toNat - '0'.toNat)) := by
  have hletter : isLetter c = false := by
    unfold isLetter
    have halpha : c.isAlpha = false := by
      rw [Bool.eq_false_iff]
      intro halpha
      have hletters : c.isAlpha = (decide (c.val ≥ 'A'.val ∧ c.val ≤ 'Z'.val) ||
          (decide (c.val ≥ 'a'.val) && decide (c.val ≤ 'z'.val))) := rfl
      rw [hletters] at halpha
      simp only [Char.isDigit, Bool.or_eq_true, Bool.and_eq_true, decide_eq_true_eq, UInt32.le_iff_toNat_le, ge_iff_le]
        at h halpha
      have hlow : '9'.val.toNat = 57 := rfl
      have hupper : 'A'.val.toNat = 65 := rfl
      have hlower : 'a'.val.toNat = 97 := rfl
      omega
    have hline : (c == '_') = false := by
      rw [beq_eq_false_iff_ne]
      rintro rfl
      exact absurd h (by decide)
    rw [halpha, hline]
    rfl
  unfold start
  rw [if_neg (by rw [hletter]; decide), if_pos h]

/-- The state in which a token has been read to its end. -/
def Token.done : Token → Pending
  | .keyword word => .word word.text.toList
  | .name word => .word word
  | .number value => .number value
  | .literal text => .closing text
  | .mark sign => .mark sign

theorem lex_word {word : List Char} (hletter : ∃ c rest, word = c :: rest ∧ isLetter c = true)
    (hchars : ∀ c ∈ word, isWordChar c = true) (rest : List Char) : lex (word ++ rest) = scan (.word word) rest := by
  obtain ⟨c, more, rfl, hc⟩ := hletter
  rw [List.cons_append, lex_cons (start_letter hc), scan_word (fun c hmem => hchars c (List.mem_cons_of_mem _ hmem)),
    List.singleton_append]

theorem keyword_word (keyword : Keyword) : (∃ c rest, keyword.text.toList = c :: rest ∧ isLetter c = true)
    ∧ ∀ c ∈ keyword.text.toList, isWordChar c = true := by
  cases keyword
  all_goals exact ⟨⟨_, _, rfl, by decide⟩, List.all_eq_true.mp (by decide)⟩

theorem lex_number (value : Nat) (rest : List Char) : lex ((toString value).toList ++ rest) = scan (.number value) rest := by
  have htext : (toString value).toList = Nat.toDigits 10 value := Nat.toList_repr
  have hdigits : ∀ c ∈ Nat.toDigits 10 value, c.isDigit = true := fun c hmem =>
    Nat.isDigit_of_mem_toDigits (by decide) (by decide) hmem
  have hvalue : Nat.ofDigitChars 10 (Nat.toDigits 10 value) 0 = value := Nat.ofDigitChars_toDigits (by decide) (by decide)
  rw [htext]
  cases hcases : Nat.toDigits 10 value with
  | nil => exact absurd hcases Nat.toDigits_ne_nil
  | cons c digits =>
    rw [hcases] at hdigits hvalue
    rw [List.cons_append, lex_cons (start_digit (hdigits c List.mem_cons_self)),
      scan_digits fun c hmem => hdigits c (List.mem_cons_of_mem _ hmem)]
    rw [Nat.ofDigitChars_cons, Nat.mul_zero, Nat.zero_add] at hvalue
    rw [hvalue]

theorem lex_quote (text rest : List Char) : lex (quote text ++ rest) = scan (.closing text) rest := by
  have hstart : start '\'' = some (.quoted []) := rfl
  have hquote : quote text ++ rest = '\'' :: (escape text ++ '\'' :: rest) := by simp [quote]
  rw [hquote, lex_cons hstart, scan_quoted, List.nil_append]

theorem lex_mark (mark : Mark) (rest : List Char) : lex (mark.text.toList ++ rest) = scan (.mark mark) rest := by
  cases mark with
  | ne => exact (lex_cons (show start '!' = some .bang from rfl) _).trans (scan_extend rfl rest)
  | le => exact (lex_cons (show start '<' = some (.mark .lt) from rfl) _).trans (scan_extend rfl rest)
  | ge => exact (lex_cons (show start '>' = some (.mark .gt) from rfl) _).trans (scan_extend rfl rest)
  | open_ | close | comma | eq | lt | gt => exact lex_cons rfl rest

theorem lex_text (token : Token) (hok : token.Ok) (rest : List Char) :
    lex (token.text ++ rest) = scan token.done rest := by
  cases token with
  | keyword keyword => exact lex_word (keyword_word keyword).1 (keyword_word keyword).2 rest
  | name name => exact lex_word hok.letter hok.chars rest
  | number value => exact lex_number value rest
  | literal text => exact lex_quote text rest
  | mark mark => exact lex_mark mark rest

theorem flush_done (token : Token) (hok : token.Ok) : flush token.done = some [token] := by
  cases token with
  | keyword keyword => cases keyword <;> rfl
  | name name =>
    have hplain : keywordOf name = none := hok.plain
    simp [Token.done, flush, Token.ofWord, hplain]
  | number value => rfl
  | literal text => rfl
  | mark mark => rfl

/-- **A token that is written out is read back**, with what follows it. -/
theorem lex_token {token : Token} (hok : token.Ok) {rest : List Char} (hrest : Apart rest) :
    lex (token.text ++ rest) = (lex rest).map (token :: ·) := by
  have hquoted : ∀ read, token.done ≠ .quoted read := by
    intro read
    cases token <;> exact fun h => (by cases h)
  rw [lex_text token hok, scan_flush (hrest.stops hquoted) (flush_done token hok)]
  rfl

/-- Anything may follow an opening bracket. -/
theorem lex_open (rest : List Char) : lex ('(' :: rest) = (lex rest).map (.mark .open_ :: ·) := by
  have hstop : Stops (.mark .open_) rest := fun c _ => rfl
  rw [lex_cons (show start '(' = some (.mark .open_) from rfl), scan_flush hstop rfl]
  rfl

-- Quotes, doubled quotes and a comparison.
example : lex "a_1 != 'it''s'".toList = some [.name "a_1".toList, .mark .ne, .literal "it's".toList] := by decide
example : lex "'open".toList = none := by decide

end EverTrace.Lib.Sql
