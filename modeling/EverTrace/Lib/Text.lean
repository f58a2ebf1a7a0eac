import Mathlib.Data.List.Basic
/-!
# Lines, prefixes and path components of a text

The text functions of a standard library that a line scanner is made of, on lists
of characters: `strip_prefix`, `split_once`, `lines` (a line ends at a line feed or
at a carriage return with a line feed) and the components of a Unix path.
-/
namespace EverTrace.Lib

/-- What follows the word at the start of a text. -/
def stripPrefix (word text : List Char) : Option (List Char) :=
  if word.isPrefixOf text then some (text.drop word.length) else none

theorem stripPrefix_eq_some {word text rest : List Char} : stripPrefix word text = some rest ↔ text = word ++ rest := by
  unfold stripPrefix
  constructor
  · intro h
    split at h
    · next hword =>
      obtain ⟨more, rfl⟩ := List.isPrefixOf_iff_prefix.mp hword
      cases h
      rw [List.drop_left]
    · cases h
  · rintro rfl
    rw [if_pos (List.isPrefixOf_iff_prefix.mpr (List.prefix_append _ _)), List.drop_left]

theorem stripPrefix_eq_none {word text : List Char} : stripPrefix word text = none ↔ word.isPrefixOf text = false := by
  unfold stripPrefix
  cases word.isPrefixOf text <;> simp

/-- Neither word starts with the other. -/
def Apart (a b : List Char) : Prop := ¬a <+: b ∧ ¬b <+: a

instance (a b : List Char) : Decidable (Apart a b) := inferInstanceAs (Decidable (_ ∧ _))

/-- A text that starts with one word does not start with a word apart from it. -/
theorem Apart.isPrefixOf_eq_false {a b : List Char} (h : Apart a b) (rest : List Char) :
    a.isPrefixOf (b ++ rest) = false := by
  rw [Bool.eq_false_iff]
  intro hprefix
  have ha : a <+: b ++ rest := List.isPrefixOf_iff_prefix.mp hprefix
  rcases List.prefix_or_prefix_of_prefix ha (List.prefix_append b rest) with hab | hba
  · exact h.1 hab
  · exact h.2 hba

theorem isPrefixOf_self_append (word rest : List Char) : word.isPrefixOf (word ++ rest) = true :=
  List.isPrefixOf_iff_prefix.mpr (List.prefix_append _ _)

/-- The text before and after the first place of the separator. -/
def splitOnce (separator : List Char) : List Char → Option (List Char × List Char)
  | [] => (stripPrefix separator []).map fun rest => ([], rest)
  | c :: text =>
    match stripPrefix separator (c :: text) with
    | some rest => some ([], rest)
    | none => (splitOnce separator text).map fun (left, right) => (c :: left, right)

theorem splitOnce_join {separator : List Char} : ∀ {text left right : List Char},
    splitOnce separator text = some (left, right) → text = left ++ (separator ++ right) := by
  intro text
  induction text with
  | nil =>
    intro left right h
    obtain ⟨rest, hrest, heq⟩ := Option.map_eq_some_iff.mp h
    cases heq
    rw [List.nil_append]
    exact stripPrefix_eq_some.mp hrest
  | cons c text ih =>
    intro left right h
    unfold splitOnce at h
    cases hstrip : stripPrefix separator (c :: text) with
    | some rest =>
      rw [hstrip] at h
      cases h
      rw [List.nil_append]
      exact stripPrefix_eq_some.mp hstrip
    | none =>
      rw [hstrip] at h
      obtain ⟨⟨l, r⟩, hsplit, heq⟩ := Option.map_eq_some_iff.mp h
      cases heq
      rw [ih hsplit, List.cons_append]

/-- The carriage return that belongs to a line feed. -/
def dropReturn (line : List Char) : List Char :=
  if line.getLast? = some '\r' then line.dropLast else line

/-- The lines of a text. The last one need not be ended, and keeps its carriage
return then. -/
def textLines (text : List Char) : List (List Char) :=
  let pieces := text.splitOn '\n'
  pieces.dropLast.map dropReturn ++ pieces.getLast?.toList.filter fun last => !last.isEmpty

/-- The text of the lines, each one ended by a line feed. -/
def unlines (lines : List (List Char)) : List Char := lines.flatMap fun line => line ++ ['\n']

theorem splitOn_unlines : ∀ {lines : List (List Char)}, (∀ line ∈ lines, '\n' ∉ line) →
    (unlines lines).splitOn '\n' = lines ++ [[]] := by
  intro lines
  induction lines with
  | nil => intro _; rfl
  | cons line rest ih =>
    intro h
    have hjoin : unlines (line :: rest) = line ++ '\n' :: unlines rest := by simp [unlines]
    rw [hjoin, List.splitOn_append_cons_self_of_not_mem (h line List.mem_cons_self),
      ih fun other hother => h other (List.mem_cons_of_mem _ hother), List.cons_append]

theorem textLines_unlines {lines : List (List Char)} (hfeed : ∀ line ∈ lines, '\n' ∉ line)
    (hreturn : ∀ line ∈ lines, line.getLast? ≠ some '\r') : textLines (unlines lines) = lines := by
  have hkept : lines.map dropReturn = lines := by
    refine (List.map_congr_left fun line hline => ?_).trans (List.map_id _)
    exact if_neg (hreturn line hline)
  unfold textLines
  rw [splitOn_unlines hfeed]
  simp [hkept]

inductive Component where
  | rootDir
  | curDir
  | parentDir
  | normal (name : List Char)
  deriving DecidableEq

/-- The part a name between slashes stands for; empty names and dots count for nothing. -/
def Component.ofName : List Char → Option Component
  | [] => none
  | ['.'] => none
  | ['.', '.'] => some .parentDir
  | name => some (.normal name)

/-- The components of a Unix path; a dot counts only at the start. -/
def components (path : List Char) : List Component :=
  let names := path.splitOn '/'
  (if path.head? = some '/' then [.rootDir] else if names.head? = some ['.'] then [.curDir] else [])
    ++ names.filterMap Component.ofName

theorem components_ne_nil {path : List Char} (h : path ≠ []) : components path ≠ [] := by
  cases path with
  | nil => exact absurd rfl h
  | cons c rest =>
    unfold components
    by_cases hroot : c = '/'
    · simp [hroot]
    · obtain ⟨first, others, hsplit⟩ : ∃ first others, (c :: rest).splitOn '/' = (c :: first) :: others := by
        rw [List.splitOn_cons_eq_if_modifyHead, if_neg (by simpa using hroot)]
        cases hsplit : rest.splitOn '/' with
        | nil => exact absurd hsplit (List.splitOn_ne_nil _ _)
        | cons first others => exact ⟨first, others, rfl⟩
      rw [hsplit]
      by_cases hdot : c :: first = ['.']
      · simp [hroot, hdot]
      · have hname : ∃ component, Component.ofName (c :: first) = some component := by
          unfold Component.ofName
          split
          · next heq => cases heq
          · next heq => exact absurd heq hdot
          · exact ⟨_, rfl⟩
          · exact ⟨_, rfl⟩
        obtain ⟨component, hname⟩ := hname
        simp [hname]

end EverTrace.Lib
