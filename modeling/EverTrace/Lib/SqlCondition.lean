import EverTrace.Lib.SqlTokens
/-!
# SQL conditions

A condition is a tree of comparisons, null tests and membership tests; conjunction
binds tighter than disjunction, and brackets enclose a disjunction. The tree has one
type for each level, so that every tree can be written down as it is.

`parse_text`: a tree that is written out is read back.
-/
namespace EverTrace.Lib.Sql

/-! ## Trees -/

inductive Scalar where
  | text (text : String)
  | number (value : Nat)
  deriving DecidableEq, Repr

inductive Comparison where
  | eq
  | ne
  | lt
  | le
  | gt
  | ge
  deriving DecidableEq, Repr

inductive Atom (κ : Type) where
  | constant (value : Bool)
  | compare (column : κ) (comparison : Comparison) (scalar : Scalar)
  | isNull (column : κ) (negated : Bool)
  | isIn (column : κ) (negated : Bool) (first : Scalar) (rest : List Scalar)
  deriving DecidableEq, Repr

mutual

inductive Factor (κ : Type) where
  | atom (atom : Atom κ)
  | brackets (inner : Disjunction κ)

inductive Conjunction (κ : Type) where
  | single (factor : Factor κ)
  | and (factor : Factor κ) (rest : Conjunction κ)

inductive Disjunction (κ : Type) where
  | single (conjunction : Conjunction κ)
  | or (conjunction : Conjunction κ) (rest : Disjunction κ)

end

/-- The columns of a table and their names. -/
structure Schema (κ : Type) where
  name : κ → List Char
  resolve : List Char → Option κ
  resolve_name : ∀ column, resolve (name column) = some column
  plain : ∀ column, PlainName (name column)

variable {κ : Type}

/-! ## Writing -/

def Scalar.token : Scalar → Token
  | .text value => .literal value.toList
  | .number value => .number value

def Comparison.mark : Comparison → Mark
  | .eq => .eq
  | .ne => .ne
  | .lt => .lt
  | .le => .le
  | .gt => .gt
  | .ge => .ge

def negation (negated : Bool) : List Token := if negated then [.keyword .not] else []

def listTokens (first : Scalar) (rest : List Scalar) : List Token :=
  first.token :: rest.flatMap fun scalar => [.mark .comma, scalar.token]

def Atom.tokens (S : Schema κ) : Atom κ → List Token
  | .constant value => [.keyword (if value then .true_ else .false_)]
  | .compare column comparison scalar => [.name (S.name column), .mark comparison.mark, scalar.token]
  | .isNull column negated => .name (S.name column) :: .keyword .is_ :: negation negated ++ [.keyword .null]
  | .isIn column negated first rest =>
    .name (S.name column) :: negation negated ++ [.keyword .in_, .mark .open_] ++ listTokens first rest ++ [.mark .close]

mutual

def Factor.tokens (S : Schema κ) : Factor κ → List Token
  | .atom a => a.tokens S
  | .brackets inner => .mark .open_ :: inner.tokens S ++ [.mark .close]

def Conjunction.tokens (S : Schema κ) : Conjunction κ → List Token
  | .single factor => factor.tokens S
  | .and factor rest => factor.tokens S ++ .keyword .and :: rest.tokens S

def Disjunction.tokens (S : Schema κ) : Disjunction κ → List Token
  | .single conjunction => conjunction.tokens S
  | .or conjunction rest => conjunction.tokens S ++ .keyword .or :: rest.tokens S

end

/-- Tokens with blanks between them. -/
def spell : List Token → List Char
  | [] => []
  | [token] => token.text
  | token :: rest => token.text ++ ' ' :: spell rest

def listText (first : Scalar) (rest : List Scalar) : List Char :=
  first.token.text ++ rest.flatMap fun scalar => ',' :: ' ' :: scalar.token.text

def Atom.text (S : Schema κ) : Atom κ → List Char
  | .isIn column negated first rest =>
    spell (.name (S.name column) :: negation negated ++ [.keyword .in_]) ++ ' ' :: '(' :: (listText first rest ++ [')'])
  | a => spell (a.tokens S)

theorem Atom.text_compare (S : Schema κ) (column : κ) (comparison : Comparison) (scalar : Scalar) :
    (Atom.compare column comparison scalar).text S
      = S.name column ++ ' ' :: (comparison.mark.text.toList ++ ' ' :: scalar.token.text) := rfl

mutual

def Factor.text (S : Schema κ) : Factor κ → List Char
  | .atom a => a.text S
  | .brackets inner => '(' :: (inner.text S ++ [')'])

def Conjunction.text (S : Schema κ) : Conjunction κ → List Char
  | .single factor => factor.text S
  | .and factor rest => factor.text S ++ (" AND ".toList ++ rest.text S)

def Disjunction.text (S : Schema κ) : Disjunction κ → List Char
  | .single conjunction => conjunction.text S
  | .or conjunction rest => conjunction.text S ++ (" OR ".toList ++ rest.text S)

end

/-! ### What is written is read as its tokens -/

/-- The text is read as the tokens, with whatever follows it. -/
def Reads (text : List Char) (tokens : List Token) : Prop :=
  ∀ rest, Apart rest → lex (text ++ rest) = (lex rest).map (tokens ++ ·)

theorem reads_token {token : Token} (hok : token.Ok) : Reads token.text [token] := fun _ hrest => lex_token hok hrest

theorem apart_blank (rest : List Char) : Apart (' ' :: rest) := by
  intro c hc
  cases hc
  rfl

theorem apart_close (rest : List Char) : Apart (')' :: rest) := by
  intro c hc
  cases hc
  rfl

theorem apart_comma (rest : List Char) : Apart (',' :: rest) := by
  intro c hc
  cases hc
  rfl

theorem map_append {tokens more : List Token} {read : Option (List Token)} :
    (read.map (more ++ ·)).map (tokens ++ ·) = read.map ((tokens ++ more) ++ ·) := by
  cases read <;> simp

theorem Reads.blank {text more : List Char} {tokens others : List Token} (h : Reads text tokens) (hmore : Reads more others) :
    Reads (text ++ ' ' :: more) (tokens ++ others) := by
  intro rest hrest
  rw [List.append_assoc, List.cons_append, h _ (apart_blank _), lex_blank, hmore rest hrest, map_append]

theorem reads_spell {tokens : List Token} (hne : tokens ≠ []) (hok : ∀ token ∈ tokens, token.Ok) :
    Reads (spell tokens) tokens := by
  induction tokens with
  | nil => exact absurd rfl hne
  | cons token rest ih =>
    have htoken : Reads token.text [token] := reads_token (hok token List.mem_cons_self)
    cases rest with
    | nil => exact htoken
    | cons next more =>
      exact htoken.blank (ih (List.cons_ne_nil _ _) fun token hmem => hok token (List.mem_cons_of_mem _ hmem))

theorem Reads.brackets {text : List Char} {tokens : List Token} (h : Reads text tokens) :
    Reads ('(' :: (text ++ [')'])) (.mark .open_ :: tokens ++ [.mark .close]) := by
  intro rest hrest
  have hclose : lex (')' :: rest) = (lex rest).map ([.mark .close] ++ ·) :=
    lex_token (show (Token.mark .close).Ok from trivial) hrest
  rw [List.cons_append, List.append_assoc, List.singleton_append, lex_open, h _ (apart_close _), hclose, map_append]
  cases lex rest <;> simp

theorem scalar_ok (scalar : Scalar) : scalar.token.Ok := by
  cases scalar <;> trivial

theorem reads_list (first : Scalar) (rest : List Scalar) : Reads (listText first rest) (listTokens first rest) := by
  unfold listText listTokens
  induction rest generalizing first with
  | nil =>
    rw [List.flatMap_nil, List.flatMap_nil, List.append_nil]
    exact reads_token (scalar_ok first)
  | cons next rest ih =>
    intro tail htail
    have hcomma : ∀ more, lex (',' :: ' ' :: more) = (lex more).map ([.mark .comma] ++ ·) := by
      intro more
      have hlex := lex_token (show (Token.mark .comma).Ok from trivial) (apart_blank more)
      rw [lex_blank] at hlex
      exact hlex
    have hnext := ih next tail htail
    simp only [List.flatMap_cons, List.cons_append, List.append_assoc] at hnext ⊢
    rw [lex_token (scalar_ok first) (apart_comma _), hcomma, hnext]
    cases lex tail <;> simp

theorem name_ok (S : Schema κ) (column : κ) : (Token.name (S.name column)).Ok := S.plain column

theorem reads_atom (S : Schema κ) (a : Atom κ) : Reads (a.text S) (a.tokens S) := by
  cases a with
  | constant value => exact reads_token (show (Token.keyword _).Ok from trivial)
  | compare column comparison scalar =>
    refine reads_spell (List.cons_ne_nil _ _) fun token hmem => ?_
    simp only [Atom.tokens, List.mem_cons, List.not_mem_nil, or_false] at hmem
    rcases hmem with rfl | rfl | rfl
    · exact name_ok S column
    · trivial
    · exact scalar_ok scalar
  | isNull column negated =>
    refine reads_spell (List.cons_ne_nil _ _) fun token hmem => ?_
    cases negated
    all_goals
      simp only [Atom.tokens, negation, if_true, List.cons_append, List.nil_append, List.mem_cons, List.not_mem_nil,
        or_false, Bool.false_eq_true, if_false] at hmem
      rcases hmem with rfl | hmem
      · exact name_ok S column
      · rcases hmem with rfl | rfl | rfl <;> trivial
  | isIn column negated first rest =>
    have hhead : Reads (spell (.name (S.name column) :: negation negated ++ [.keyword .in_]))
        (.name (S.name column) :: negation negated ++ [.keyword .in_]) := by
      refine reads_spell (List.cons_ne_nil _ _) fun token hmem => ?_
      cases negated
      all_goals
        simp only [negation, if_true, List.cons_append, List.nil_append, List.mem_cons, List.not_mem_nil,
          or_false, Bool.false_eq_true, if_false] at hmem
        rcases hmem with rfl | hmem
        · exact name_ok S column
        · rcases hmem with rfl | rfl <;> trivial
    have hall := hhead.blank (reads_list first rest).brackets
    simp only [Atom.text, Atom.tokens]
    simpa using hall

mutual

theorem reads_factor (S : Schema κ) : ∀ f : Factor κ, Reads (f.text S) (f.tokens S)
  | .atom a => by
    rw [Factor.text, Factor.tokens]
    exact reads_atom S a
  | .brackets inner => by
    rw [Factor.text, Factor.tokens]
    exact (reads_disjunction S inner).brackets

theorem reads_conjunction (S : Schema κ) : ∀ c : Conjunction κ, Reads (c.text S) (c.tokens S)
  | .single factor => by
    rw [Conjunction.text, Conjunction.tokens]
    exact reads_factor S factor
  | .and factor rest => by
    have hand : Reads (Token.keyword .and).text [.keyword .and] := reads_token trivial
    have hall := (reads_factor S factor).blank (hand.blank (reads_conjunction S rest))
    rw [Conjunction.text, Conjunction.tokens]
    exact hall

theorem reads_disjunction (S : Schema κ) : ∀ d : Disjunction κ, Reads (d.text S) (d.tokens S)
  | .single conjunction => by
    rw [Disjunction.text, Disjunction.tokens]
    exact reads_conjunction S conjunction
  | .or conjunction rest => by
    have hor : Reads (Token.keyword .or).text [.keyword .or] := reads_token trivial
    have hall := (reads_conjunction S conjunction).blank (hor.blank (reads_disjunction S rest))
    rw [Disjunction.text, Disjunction.tokens]
    exact hall

end

theorem lex_disjunction (S : Schema κ) (d : Disjunction κ) : lex (d.text S) = some (d.tokens S) := by
  have happart : Apart [] := fun c hc => (by cases hc)
  have h := reads_disjunction S d [] happart
  rw [List.append_nil] at h
  rw [h]
  simp [lex, scan, flush]

/-! ## Reading

Each level is read by a function of its own that is given a fuel; the depth of a tree is
enough (`size`), and three times the number of tokens is more than that. -/

def readScalar : Token → Option Scalar
  | .literal text => some (.text (String.ofList text))
  | .number value => some (.number value)
  | _ => none

def readComparison : Mark → Option Comparison
  | .eq => some .eq
  | .ne => some .ne
  | .lt => some .lt
  | .le => some .le
  | .gt => some .gt
  | .ge => some .ge
  | _ => none

/-- Scalars with commas between them, up to the closing bracket. -/
def readList : List Token → Option ((Scalar × List Scalar) × List Token)
  | token :: .mark .comma :: rest => do
    let scalar ← readScalar token
    let ((next, more), after) ← readList rest
    return ((scalar, next :: more), after)
  | token :: .mark .close :: rest => do
    let scalar ← readScalar token
    return ((scalar, []), rest)
  | _ => none

/-- What is asked of a column. -/
def readTest (column : κ) : List Token → Option (Atom κ × List Token)
  | .keyword .is_ :: .keyword .null :: rest => some (.isNull column false, rest)
  | .keyword .is_ :: .keyword .not :: .keyword .null :: rest => some (.isNull column true, rest)
  | .keyword .in_ :: .mark .open_ :: rest => do
    let ((first, more), after) ← readList rest
    return (.isIn column false first more, after)
  | .keyword .not :: .keyword .in_ :: .mark .open_ :: rest => do
    let ((first, more), after) ← readList rest
    return (.isIn column true first more, after)
  | .mark mark :: token :: rest => do
    let comparison ← readComparison mark
    let scalar ← readScalar token
    return (.compare column comparison scalar, rest)
  | _ => none

def readAtom (S : Schema κ) : List Token → Option (Atom κ × List Token)
  | .keyword .true_ :: rest => some (.constant true, rest)
  | .keyword .false_ :: rest => some (.constant false, rest)
  | .name word :: rest => do
    let column ← S.resolve word
    readTest column rest
  | _ => none

mutual

def readFactor (S : Schema κ) : Nat → List Token → Option (Factor κ × List Token)
  | 0, _ => none
  | fuel + 1, .mark .open_ :: rest => do
    let (inner, after) ← readDisjunction S fuel rest
    match after with
    | .mark .close :: after => return (.brackets inner, after)
    | _ => none
  | _ + 1, tokens => do
    let (a, after) ← readAtom S tokens
    return (.atom a, after)

def readConjunction (S : Schema κ) : Nat → List Token → Option (Conjunction κ × List Token)
  | 0, _ => none
  | fuel + 1, tokens => do
    let (factor, after) ← readFactor S fuel tokens
    match after with
    | .keyword .and :: after => do
      let (rest, after) ← readConjunction S fuel after
      return (.and factor rest, after)
    | after => return (.single factor, after)

def readDisjunction (S : Schema κ) : Nat → List Token → Option (Disjunction κ × List Token)
  | 0, _ => none
  | fuel + 1, tokens => do
    let (conjunction, after) ← readConjunction S fuel tokens
    match after with
    | .keyword .or :: after => do
      let (rest, after) ← readDisjunction S fuel after
      return (.or conjunction rest, after)
    | after => return (.single conjunction, after)

end

/-- The condition that a text is, if it is one. -/
def parse (S : Schema κ) (text : List Char) : Option (Disjunction κ) := do
  let tokens ← lex text
  match ← readDisjunction S (3 * tokens.length) tokens with
  | (d, []) => some d
  | _ => none

theorem readScalar_token (scalar : Scalar) : readScalar scalar.token = some scalar := by
  cases scalar with
  | text value => simp [Scalar.token, readScalar]
  | number value => rfl

theorem readList_tokens (first : Scalar) (rest : List Scalar) (after : List Token) :
    readList (listTokens first rest ++ .mark .close :: after) = some ((first, rest), after) := by
  induction rest generalizing first with
  | nil => simp [listTokens, readList, readScalar_token]
  | cons next rest ih =>
    have hnext := ih next
    simp only [listTokens, List.flatMap_cons, List.cons_append, List.nil_append] at hnext ⊢
    rw [readList, readScalar_token, hnext]
    rfl

theorem readComparison_mark (comparison : Comparison) : readComparison comparison.mark = some comparison := by
  cases comparison <;> rfl

theorem readAtom_tokens (S : Schema κ) (a : Atom κ) (after : List Token) :
    readAtom S (a.tokens S ++ after) = some (a, after) := by
  cases a with
  | constant value => cases value <;> rfl
  | compare column comparison scalar =>
    have hmark := readComparison_mark comparison
    simp only [Atom.tokens, List.cons_append, List.nil_append, readAtom, S.resolve_name, Option.bind_eq_bind,
      Option.bind_some]
    simp [readTest, hmark, readScalar_token]
  | isNull column negated =>
    cases negated <;> simp [Atom.tokens, negation, readAtom, S.resolve_name, readTest]
  | isIn column negated first rest =>
    have hlist := readList_tokens first rest after
    cases negated <;> simp [Atom.tokens, negation, readAtom, S.resolve_name, readTest, hlist]

/-- A tree whose first token is no bracket is an atom. -/
theorem readFactor_atom (S : Schema κ) (a : Atom κ) (fuel : Nat) (after : List Token) :
    readFactor S (fuel + 1) (a.tokens S ++ after) = some (.atom a, after) := by
  have hread := readAtom_tokens S a after
  cases htokens : a.tokens S ++ after with
  | nil =>
    rw [htokens] at hread
    cases hread
  | cons token rest =>
    have hopen : token ≠ .mark .open_ := by
      rintro rfl
      cases a <;> simp [Atom.tokens] at htokens
    rw [htokens] at hread
    rw [readFactor]
    · simp [hread]
    · exact fun rest' h => hopen (List.cons.inj h).1

mutual

def Factor.size : Factor κ → Nat
  | .atom _ => 1
  | .brackets inner => inner.size + 1

def Conjunction.size : Conjunction κ → Nat
  | .single factor => factor.size + 1
  | .and factor rest => factor.size + rest.size + 1

def Disjunction.size : Disjunction κ → Nat
  | .single conjunction => conjunction.size + 1
  | .or conjunction rest => conjunction.size + rest.size + 1

end

/-- The tokens do not go on with the connective. -/
def Ends (keyword : Keyword) (after : List Token) : Prop := ∀ token ∈ after.head?, token ≠ .keyword keyword

mutual

theorem readFactor_tokens (S : Schema κ) : ∀ (f : Factor κ) (fuel : Nat) (after : List Token), f.size ≤ fuel →
    readFactor S fuel (f.tokens S ++ after) = some (f, after)
  | .atom a, 0, _, hsize => absurd hsize (by simp [Factor.size])
  | .atom a, fuel + 1, after, _ => by
    rw [Factor.tokens]
    exact readFactor_atom S a fuel after
  | .brackets inner, 0, _, hsize => absurd hsize (by simp [Factor.size])
  | .brackets inner, fuel + 1, after, hsize => by
    have hinner := readDisjunction_tokens S inner fuel (.mark .close :: after) (by rw [Factor.size] at hsize; omega)
      (fun token h => by cases h; decide) (fun token h => by cases h; decide)
    have htokens : (Factor.brackets inner).tokens S ++ after
        = .mark .open_ :: (inner.tokens S ++ .mark .close :: after) := by simp [Factor.tokens]
    rw [htokens, readFactor, hinner]
    rfl

theorem readConjunction_tokens (S : Schema κ) : ∀ (c : Conjunction κ) (fuel : Nat) (after : List Token),
    c.size ≤ fuel → Ends .and after → readConjunction S fuel (c.tokens S ++ after) = some (c, after)
  | .single factor, 0, _, hsize, _ => absurd hsize (by simp [Conjunction.size])
  | .single factor, fuel + 1, after, hsize, hends => by
    have hfactor := readFactor_tokens S factor fuel after (by rw [Conjunction.size] at hsize; omega)
    rw [Conjunction.tokens, readConjunction, hfactor]
    simp only [Option.bind_eq_bind, Option.bind_some, Option.pure_def]
    split
    · next rest => exact absurd rfl (hends _ rfl)
    · rfl
  | .and factor rest, 0, _, hsize, _ => absurd hsize (by simp [Conjunction.size])
  | .and factor rest, fuel + 1, after, hsize, hends => by
    have hfactor := readFactor_tokens S factor fuel (.keyword .and :: (rest.tokens S ++ after))
      (by rw [Conjunction.size] at hsize; omega)
    have hrest := readConjunction_tokens S rest fuel after (by rw [Conjunction.size] at hsize; omega) hends
    rw [Conjunction.tokens, readConjunction, List.append_assoc, List.cons_append, hfactor]
    simp only [Option.bind_eq_bind, Option.bind_some, Option.pure_def, hrest]

theorem readDisjunction_tokens (S : Schema κ) : ∀ (d : Disjunction κ) (fuel : Nat) (after : List Token),
    d.size ≤ fuel → Ends .and after → Ends .or after → readDisjunction S fuel (d.tokens S ++ after) = some (d, after)
  | .single conjunction, 0, _, hsize, _, _ => absurd hsize (by simp [Disjunction.size])
  | .single conjunction, fuel + 1, after, hsize, hand, hor => by
    have hconjunction := readConjunction_tokens S conjunction fuel after (by rw [Disjunction.size] at hsize; omega) hand
    rw [Disjunction.tokens, readDisjunction, hconjunction]
    simp only [Option.bind_eq_bind, Option.bind_some, Option.pure_def]
    split
    · next rest => exact absurd rfl (hor _ rfl)
    · rfl
  | .or conjunction rest, 0, _, hsize, _, _ => absurd hsize (by simp [Disjunction.size])
  | .or conjunction rest, fuel + 1, after, hsize, hand, hor => by
    have hconjunction := readConjunction_tokens S conjunction fuel (.keyword .or :: (rest.tokens S ++ after))
      (by rw [Disjunction.size] at hsize; omega) (fun token h => by cases h; decide)
    have hrest := readDisjunction_tokens S rest fuel after (by rw [Disjunction.size] at hsize; omega) hand hor
    rw [Disjunction.tokens, readDisjunction, List.append_assoc, List.cons_append, hconjunction]
    simp only [Option.bind_eq_bind, Option.bind_some, Option.pure_def, hrest]

end

theorem tokens_pos (S : Schema κ) (a : Atom κ) : 1 ≤ (a.tokens S).length := by
  cases a <;> simp [Atom.tokens]

mutual

theorem Factor.size_le (S : Schema κ) : ∀ f : Factor κ, f.size + 2 ≤ 3 * (f.tokens S).length
  | .atom a => by
    have hpos := tokens_pos S a
    rw [Factor.size, Factor.tokens]
    omega
  | .brackets inner => by
    have hinner := Disjunction.size_le S inner
    simp only [Factor.size, Factor.tokens, List.length_cons, List.length_append, List.cons_append, List.length_nil]
    omega

theorem Conjunction.size_le (S : Schema κ) : ∀ c : Conjunction κ, c.size + 1 ≤ 3 * (c.tokens S).length
  | .single factor => by
    have hfactor := Factor.size_le S factor
    rw [Conjunction.size, Conjunction.tokens]
    omega
  | .and factor rest => by
    have hfactor := Factor.size_le S factor
    have hrest := Conjunction.size_le S rest
    simp only [Conjunction.size, Conjunction.tokens, List.length_append, List.length_cons]
    omega

theorem Disjunction.size_le (S : Schema κ) : ∀ d : Disjunction κ, d.size ≤ 3 * (d.tokens S).length
  | .single conjunction => by
    have hconjunction := Conjunction.size_le S conjunction
    rw [Disjunction.size, Disjunction.tokens]
    omega
  | .or conjunction rest => by
    have hconjunction := Conjunction.size_le S conjunction
    have hrest := Disjunction.size_le S rest
    simp only [Disjunction.size, Disjunction.tokens, List.length_append, List.length_cons]
    omega

end

/-- **A condition that is written out is read back.** -/
theorem parse_text (S : Schema κ) (d : Disjunction κ) : parse S (d.text S) = some d := by
  have hread := readDisjunction_tokens S d (3 * (d.tokens S).length) [] (d.size_le S) (fun _ h => (by cases h))
    (fun _ h => (by cases h))
  rw [List.append_nil] at hread
  rw [parse, lex_disjunction]
  simp only [Option.bind_eq_bind, Option.bind_some, hread]

end EverTrace.Lib.Sql
