import EverTrace.Lib.Bytes
import EverTrace.Lib.Text
import Mathlib.Data.List.Basic
/-!
# The target of a recovery patch (`evertrace-engine/src/recovery/patch.rs`)

`strict_patch_target` scans the lines of a patch, keeps what the three headers of
a file name, refuses the lines it knows to be other headers and skips the rest.
`step_cases` says what one line can do, `Scanned.run` what a whole scan says about
the lines: the three headers that the scan looks for are there exactly once, each
with the target's text.
-/
namespace EverTrace.L1.Patch
open EverTrace.Lib

def gitWord : List Char := "diff --git a/".toList

def oldWord : List Char := "--- a/".toList

def newWord : List Char := "+++ b/".toList

def betweenWord : List Char := " b/".toList

def minusWord : List Char := "--- ".toList

def plusWord : List Char := "+++ ".toList

/-- The other spellings of the file headers. -/
def headerWords : List (List Char) := [minusWord, plusWord]

/-- The headers that rename, copy, create or delete a file or hold binary data. -/
def changeWords : List (List Char) :=
  ["rename from ".toList, "rename to ".toList, "copy from ".toList, "copy to ".toList, "new file mode ".toList,
    "deleted file mode ".toList, "GIT binary patch".toList, "Binary files ".toList]

/-- The three variables of the scan.
mirrors evertrace-engine/src/recovery/patch.rs:5-7 -/
structure Headers where
  target : Option (List Char)
  oldHeader : Option (List Char)
  newHeader : Option (List Char)
  deriving DecidableEq

def Headers.start : Headers := { target := none, oldHeader := none, newHeader := none }

/-- One turn of the scan.
mirrors evertrace-engine/src/recovery/patch.rs:9-34 -/
def Headers.read (s : Headers) (line : List Char) : Option Headers :=
  match stripPrefix gitWord line with
  | some value =>
    match splitOnce betweenWord value with
    | none => none
    | some (left, right) => if s.target.isSome || left != right then none else some { s with target := some left }
  | none =>
    match stripPrefix oldWord line with
    | some value => if s.oldHeader.isSome then none else some { s with oldHeader := some value }
    | none =>
      match stripPrefix newWord line with
      | some value => if s.newHeader.isSome then none else some { s with newHeader := some value }
      | none => if (headerWords ++ changeWords).any fun word => word.isPrefixOf line then none else some s

/-- mirrors the characters of evertrace-engine/src/recovery/patch.rs:41-43 -/
def plainPathChar (c : Char) : Bool := c.isAlphanum || c = '/' || c = '_' || c = '-' || c = '.'

def normalOutsideGit : Component → Bool
  | .normal name => name != ".git".toList
  | _ => false

/-- The scan of the lines and the checks after it; the path is the text of the target.
mirrors evertrace-engine/src/recovery/patch.rs:5-52 -/
def targetOf (lines : List (List Char)) : Option (List Char) := do
  let headers ← lines.foldlM Headers.read Headers.start
  let target ← headers.target
  if headers.oldHeader ≠ some target || headers.newHeader ≠ some target || target.isEmpty
      || (utf8 (String.ofList target)).length > 4096 || !target.all plainPathChar then none
  else if (components target).all normalOutsideGit then some target else none

/-- mirrors evertrace-engine/src/recovery/patch.rs:3-4 -/
def strictPatchTarget (patch : Bytes) : Option (List Char) := do
  let text ← fromUtf8 patch
  targetOf (textLines text.toList)

def patchLines (patch : Bytes) : List (List Char) :=
  match fromUtf8 patch with
  | some text => textLines text.toList
  | none => []

theorem strictPatchTarget_eq_some {patch : Bytes} {target : List Char} (h : strictPatchTarget patch = some target) :
    targetOf (patchLines patch) = some target := by
  obtain ⟨text, htext, h⟩ := Option.bind_eq_some_iff.mp h
  rw [patchLines, htext]
  exact h

/-! ## One line -/

def gitLine (target : List Char) : List Char := gitWord ++ (target ++ (betweenWord ++ target))

def oldLine (value : List Char) : List Char := oldWord ++ value

def newLine (value : List Char) : List Char := newWord ++ value

/-- The line starts with none of the words that the scan knows. -/
def Skipped (line : List Char) : Prop :=
  ∀ word ∈ gitWord :: headerWords ++ changeWords, word.isPrefixOf line = false

/-- What a line can do: be one of the three headers, seen for the first time, or
be a line that the scan skips. -/
theorem step_cases {s s' : Headers} {line : List Char} (h : s.read line = some s') :
    (∃ t, line = gitLine t ∧ s.target = none ∧ s' = { s with target := some t }) ∨
    (∃ v, line = oldLine v ∧ s.oldHeader = none ∧ s' = { s with oldHeader := some v }) ∨
    (∃ v, line = newLine v ∧ s.newHeader = none ∧ s' = { s with newHeader := some v }) ∨
    (Skipped line ∧ s' = s) := by
  unfold Headers.read at h
  cases hgit : stripPrefix gitWord line with
  | some value =>
    simp only [hgit] at h
    cases hsplit : splitOnce betweenWord value with
    | none => simp [hsplit] at h
    | some sides =>
      obtain ⟨left, right⟩ := sides
      simp only [hsplit, Bool.or_eq_true, not_or, bne_iff_ne, ne_eq, not_not, Option.ite_none_left_eq_some,
        Bool.not_eq_true, Option.isSome_eq_false_iff, Option.isNone_iff_eq_none, Option.some.injEq] at h
      obtain ⟨⟨htarget, rfl⟩, rfl⟩ := h
      refine .inl ⟨left, ?_, htarget, rfl⟩
      rw [stripPrefix_eq_some.mp hgit, splitOnce_join hsplit, gitLine]
  | none =>
  simp only [hgit] at h
  cases hold : stripPrefix oldWord line with
  | some value =>
    simp only [hold, Option.ite_none_left_eq_some, Bool.not_eq_true, Option.isSome_eq_false_iff,
      Option.isNone_iff_eq_none, Option.some.injEq] at h
    exact .inr (.inl ⟨value, stripPrefix_eq_some.mp hold, h.1, h.2.symm⟩)
  | none =>
  simp only [hold] at h
  cases hnew : stripPrefix newWord line with
  | some value =>
    simp only [hnew, Option.ite_none_left_eq_some, Bool.not_eq_true, Option.isSome_eq_false_iff,
      Option.isNone_iff_eq_none, Option.some.injEq] at h
    exact .inr (.inr (.inl ⟨value, stripPrefix_eq_some.mp hnew, h.1, h.2.symm⟩))
  | none =>
    simp only [hnew, Option.ite_none_left_eq_some, Bool.not_eq_true, List.any_eq_false, Option.some.injEq] at h
    refine .inr (.inr (.inr ⟨fun word hword => ?_, h.2.symm⟩))
    rcases List.mem_cons.mp hword with rfl | hword
    · exact stripPrefix_eq_none.mp hgit
    · exact h.1 word hword

/-! ## The whole scan -/

def startingWith (word : List Char) (lines : List (List Char)) : List (List Char) :=
  lines.filter fun line => word.isPrefixOf line

theorem startingWith_of_prefix {word line : List Char} (h : word.isPrefixOf line = true) :
    startingWith word [line] = [line] := List.filter_cons_of_pos h

theorem startingWith_of_other {word line : List Char} (h : word.isPrefixOf line = false) :
    startingWith word [line] = [] := List.filter_cons_of_neg (by rw [h]; exact Bool.false_ne_true)

/-- What is known of the scan's variables and the lines that are read. -/
structure Scanned (before after : Headers) (lines : List (List Char)) : Prop where
  target : after.target.toList.map gitLine = before.target.toList.map gitLine ++ startingWith gitWord lines
  oldHeader : after.oldHeader.toList.map oldLine = before.oldHeader.toList.map oldLine ++ startingWith minusWord lines
  newHeader : after.newHeader.toList.map newLine = before.newHeader.toList.map newLine ++ startingWith plusWord lines
  unchanged : ∀ line ∈ lines, ∀ word ∈ changeWords, word.isPrefixOf line = false

theorem Scanned.nil (s : Headers) : Scanned s s [] :=
  ⟨(List.append_nil _).symm, (List.append_nil _).symm, (List.append_nil _).symm, by simp⟩

theorem Scanned.append {a b c : Headers} {front back : List (List Char)} (h : Scanned a b front)
    (h' : Scanned b c back) : Scanned a c (front ++ back) where
  target := by rw [h'.target, h.target, startingWith, startingWith, startingWith, List.filter_append, List.append_assoc]
  oldHeader := by
    rw [h'.oldHeader, h.oldHeader, startingWith, startingWith, startingWith, List.filter_append, List.append_assoc]
  newHeader := by
    rw [h'.newHeader, h.newHeader, startingWith, startingWith, startingWith, List.filter_append, List.append_assoc]
  unchanged := by
    intro line hline
    rcases List.mem_append.mp hline with hline | hline
    · exact h.unchanged line hline
    · exact h'.unchanged line hline

/-- A line that starts with a word starts with no word apart from it. -/
theorem unchanged_of_apart {word rest : List Char} (h : ∀ other ∈ changeWords, Apart other word) :
    ∀ line ∈ [word ++ rest], ∀ other ∈ changeWords, other.isPrefixOf line = false := by
  intro line hline other hother
  rw [List.mem_singleton.mp hline]
  exact (h other hother).isPrefixOf_eq_false rest

theorem Scanned.line {s s' : Headers} {line : List Char} (h : s.read line = some s') : Scanned s s' [line] := by
  have hgit : ∀ {word : List Char}, Apart gitWord word → ∀ rest, startingWith gitWord [word ++ rest] = [] :=
    fun hapart rest => startingWith_of_other (hapart.isPrefixOf_eq_false rest)
  have hminus : ∀ {word : List Char}, Apart minusWord word → ∀ rest, startingWith minusWord [word ++ rest] = [] :=
    fun hapart rest => startingWith_of_other (hapart.isPrefixOf_eq_false rest)
  have hplus : ∀ {word : List Char}, Apart plusWord word → ∀ rest, startingWith plusWord [word ++ rest] = [] :=
    fun hapart rest => startingWith_of_other (hapart.isPrefixOf_eq_false rest)
  obtain ⟨t, rfl, htarget, rfl⟩ | ⟨v, rfl, hold, rfl⟩ | ⟨v, rfl, hnew, rfl⟩ | ⟨hskip, rfl⟩ := step_cases h
  · have hstart : gitWord.isPrefixOf (gitLine t) = true := isPrefixOf_self_append _ _
    refine ⟨?_, ?_, ?_, unchanged_of_apart (by decide)⟩
    · rw [htarget, startingWith_of_prefix hstart]
      rfl
    · rw [gitLine, hminus (by decide), List.append_nil]
    · rw [gitLine, hplus (by decide), List.append_nil]
  · have hstart : minusWord.isPrefixOf (oldLine v) = true := rfl
    refine ⟨?_, ?_, ?_, unchanged_of_apart (by decide)⟩
    · rw [oldLine, hgit (by decide), List.append_nil]
    · rw [hold, startingWith_of_prefix hstart]
      rfl
    · rw [oldLine, hplus (by decide), List.append_nil]
  · have hstart : plusWord.isPrefixOf (newLine v) = true := rfl
    refine ⟨?_, ?_, ?_, unchanged_of_apart (by decide)⟩
    · rw [newLine, hgit (by decide), List.append_nil]
    · rw [newLine, hminus (by decide), List.append_nil]
    · rw [hnew, startingWith_of_prefix hstart]
      rfl
  · refine ⟨?_, ?_, ?_, ?_⟩
    · rw [startingWith_of_other (hskip gitWord (by decide)), List.append_nil]
    · rw [startingWith_of_other (hskip minusWord (by decide)), List.append_nil]
    · rw [startingWith_of_other (hskip plusWord (by decide)), List.append_nil]
    · intro line' hline word hword
      rw [List.mem_singleton.mp hline]
      exact hskip word (List.mem_append_right _ hword)

/-- The whole scan, by induction on the lines. -/
theorem Scanned.run : ∀ {lines : List (List Char)} {s s' : Headers}, lines.foldlM Headers.read s = some s' →
    Scanned s s' lines := by
  intro lines
  induction lines with
  | nil =>
    intro s s' h
    cases h
    exact Scanned.nil s
  | cons line rest ih =>
    intro s s' h
    rw [List.foldlM_cons, Option.bind_eq_bind, Option.bind_eq_some_iff] at h
    obtain ⟨mid, hline, hrest⟩ := h
    exact (Scanned.line hline).append (ih hrest)

/-- What an accepted patch holds. -/
structure Accepted (lines : List (List Char)) (target : List Char) : Prop where
  normal : components target ≠ [] ∧ ∀ c ∈ components target, ∃ name, c = .normal name ∧ name ≠ ".git".toList
  git : startingWith gitWord lines = [gitLine target]
  oldHeader : startingWith minusWord lines = [oldLine target]
  newHeader : startingWith plusWord lines = [newLine target]
  unchanged : ∀ line ∈ lines, ∀ word ∈ changeWords, word.isPrefixOf line = false

theorem accepted_of_target {patch : Bytes} {target : List Char} (h : strictPatchTarget patch = some target) :
    Accepted (patchLines patch) target := by
  have h := strictPatchTarget_eq_some h
  unfold targetOf at h
  simp only [Option.bind_eq_bind, Option.bind_eq_some_iff] at h
  obtain ⟨headers, hscan, found, hfound, h⟩ := h
  split at h
  · cases h
  next hshape =>
  split at h
  · next hnormal =>
    cases h
    simp only [Bool.or_eq_true, decide_eq_true_eq, not_or, not_not, Bool.not_eq_true, List.isEmpty_eq_false_iff]
      at hshape
    obtain ⟨⟨⟨⟨hold, hnew⟩, hne⟩, -⟩, -⟩ := hshape
    have scanned := Scanned.run hscan
    refine ⟨⟨components_ne_nil hne, fun c hc => ?_⟩, ?_, ?_, ?_, scanned.unchanged⟩
    · have hc := List.all_eq_true.mp hnormal c hc
      cases c with
      | normal name => exact ⟨name, rfl, by simpa [normalOutsideGit] using hc⟩
      | rootDir => cases hc
      | curDir => cases hc
      | parentDir => cases hc
    · have htarget := scanned.target
      rw [hfound] at htarget
      exact htarget.symm
    · have holdLine := scanned.oldHeader
      rw [hold] at holdLine
      exact holdLine.symm
    · have hnewLine := scanned.newHeader
      rw [hnew] at hnewLine
      exact hnewLine.symm
  · cases h

end EverTrace.L1.Patch
