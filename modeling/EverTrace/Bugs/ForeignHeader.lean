import EverTrace.L1Encoding.PatchTarget
/-!
# Headers that the scan of a patch does not know

`strict_patch_target` refuses a line with `--- ` or `+++ ` when it is not the
`--- a/` or `+++ b/` of the target. For the header that starts a file there is no
such branch: a line with `diff --git ` that does not go on with `a/` falls through
to the lines that are skipped. A patch can so be accepted for one file and hold a
second one, as

    diff --git c/other d/other
    old mode 100644
    new mode 100755

does: a change of mode needs none of the lines that are refused. In the same way
the scan skips three headers whose other spelling it refuses: `rename old ` and
`rename new ` for `rename from ` and `rename to `, and `Files a and b differ` for
`Binary files a and b differ`.

`changesFile` is written from the headers that `git apply` acts on and not from
the list of the scan. Exact condition: an accepted patch touches its target only
if and only if every line that starts with `diff --git ` starts with
`diff --git a/` and no line is one of the three headers (`targetOnly_iff`).
-/
namespace EverTrace.Bugs.ForeignHeader
open EverTrace.Lib EverTrace.L1.Patch

def fileWord : List Char := "diff --git ".toList

/-! ## What git acts on -/

/-- A rename has two spellings of each of its headers. -/
def renameWords : List (List Char) :=
  ["rename from ".toList, "rename to ".toList, "rename old ".toList, "rename new ".toList]

def copyWords : List (List Char) := ["copy from ".toList, "copy to ".toList]

def createDeleteWords : List (List Char) := ["new file mode ".toList, "deleted file mode ".toList]

def binaryWords : List (List Char) := ["GIT binary patch".toList, "Binary files ".toList]

def filesWord : List Char := "Files ".toList

def differWord : List Char := " differ".toList

/-- The line in place of the data of a binary file, as plain `diff` writes it. -/
def filesDiffer (line : List Char) : Bool := filesWord.isPrefixOf line && differWord.isSuffixOf line

/-- The headers with which `git apply` renames, copies, creates or deletes a file
or takes it as binary. -/
def changesFile (line : List Char) : Bool :=
  (renameWords ++ copyWords ++ createDeleteWords ++ binaryWords).any (·.isPrefixOf line) || filesDiffer line

/-- The headers among them that the scan skips. -/
def skippedHeader (line : List Char) : Bool :=
  "rename old ".toList.isPrefixOf line || "rename new ".toList.isPrefixOf line || filesDiffer line

/-- The patch touches the target and nothing else: the path stays below the root
and outside the repository's own directory, every header of a file is the
target's, and no line renames, copies, creates or deletes a file or holds binary
data. -/
structure TargetOnly (lines : List (List Char)) (target : List Char) : Prop where
  normal : components target ≠ [] ∧ ∀ c ∈ components target, ∃ name, c = .normal name ∧ name ≠ ".git".toList
  git : startingWith fileWord lines = [gitLine target]
  oldHeader : startingWith minusWord lines = [oldLine target]
  newHeader : startingWith plusWord lines = [newLine target]
  unchanged : ∀ line ∈ lines, changesFile line = false

theorem gitWord_eq : gitWord = fileWord ++ "a/".toList := by decide

theorem fileWord_of_gitWord {line : List Char} (h : gitWord.isPrefixOf line = true) :
    fileWord.isPrefixOf line = true := by
  obtain ⟨rest, rfl⟩ := List.isPrefixOf_iff_prefix.mp h
  rw [gitWord_eq, List.append_assoc]
  exact isPrefixOf_self_append _ _

theorem changesFile_eq (line : List Char) :
    changesFile line = (changeWords.any (·.isPrefixOf line) || skippedHeader line) := by
  simp only [changesFile, skippedHeader, renameWords, copyWords, createDeleteWords, binaryWords, changeWords,
    List.any_append, List.any_cons, List.any_nil, Bool.or_false]
  ac_rfl

/-- **When an accepted patch touches its target only.** -/
theorem targetOnly_iff (patch : Bytes) (target : List Char) (h : strictPatchTarget patch = some target) :
    TargetOnly (patchLines patch) target ↔ ∀ line ∈ patchLines patch,
      (fileWord.isPrefixOf line = true → gitWord.isPrefixOf line = true) ∧ skippedHeader line = false := by
  have accepted := accepted_of_target h
  constructor
  · intro honly line hline
    refine ⟨fun hfile => ?_, ?_⟩
    · have hmem : line ∈ startingWith fileWord (patchLines patch) := List.mem_filter.mpr ⟨hline, hfile⟩
      rw [honly.git, List.mem_singleton] at hmem
      rw [hmem]
      exact isPrefixOf_self_append _ _
    · have hunchanged := honly.unchanged line hline
      rw [changesFile_eq, Bool.or_eq_false_iff] at hunchanged
      exact hunchanged.2
  · intro hcondition
    have hsame : startingWith fileWord (patchLines patch) = startingWith gitWord (patchLines patch) := by
      refine List.filter_congr fun line hline => ?_
      rw [Bool.eq_iff_iff]
      exact ⟨(hcondition line hline).1, fileWord_of_gitWord⟩
    refine ⟨accepted.normal, hsame.trans accepted.git, accepted.oldHeader, accepted.newHeader, fun line hline => ?_⟩
    rw [changesFile_eq, Bool.or_eq_false_iff]
    refine ⟨List.any_eq_false.mpr fun word hword => ?_, (hcondition line hline).2⟩
    rw [accepted.unchanged line hline word hword]
    exact Bool.false_ne_true

/-! ## A patch that is as it should be and three that are not -/

def patchOf (lines : List (List Char)) : Bytes := utf8 (String.ofList (unlines lines))

theorem patchLines_patchOf {lines : List (List Char)} (hfeed : ∀ line ∈ lines, '\n' ∉ line)
    (hreturn : ∀ line ∈ lines, line.getLast? ≠ some '\r') : patchLines (patchOf lines) = lines := by
  rw [patchLines, patchOf, fromUtf8_eq_some.mpr rfl]
  simp only [String.toList_ofList, textLines_unlines hfeed hreturn]

theorem strictPatchTarget_patchOf {lines : List (List Char)} (hfeed : ∀ line ∈ lines, '\n' ∉ line)
    (hreturn : ∀ line ∈ lines, line.getLast? ≠ some '\r') : strictPatchTarget (patchOf lines) = targetOf lines := by
  rw [strictPatchTarget, patchOf, fromUtf8_eq_some.mpr rfl, Option.bind_eq_bind, Option.bind_some,
    String.toList_ofList, textLines_unlines hfeed hreturn]

def sampleTarget : List Char := "notes".toList

/-- A patch of one line of one file. -/
def plainLines : List (List Char) :=
  [gitLine sampleTarget, oldLine sampleTarget, newLine sampleTarget, "@@ -1 +1 @@".toList, "-old".toList, "+new".toList]

/-- A change of mode of another file, with other letters in front of its name. -/
def modeLines : List (List Char) :=
  ["diff --git c/other d/other".toList, "old mode 100644".toList, "new mode 100755".toList]

/-- A rename of the file itself, with the older spelling of the headers. -/
def renameLines : List (List Char) := ["rename old notes".toList, "rename new other".toList]

/-- A binary file, as plain `diff` writes it. -/
def filesLines : List (List Char) := ["Files a/notes and b/notes differ".toList]

theorem plain_written : (∀ line ∈ plainLines, '\n' ∉ line) ∧ ∀ line ∈ plainLines, line.getLast? ≠ some '\r' := by
  decide

/-- The condition on a patch of one file. -/
theorem targetOnly_plain : TargetOnly (patchLines (patchOf plainLines)) sampleTarget := by
  have haccepted : strictPatchTarget (patchOf plainLines) = some sampleTarget := by
    rw [strictPatchTarget_patchOf plain_written.1 plain_written.2]
    decide
  refine (targetOnly_iff (patchOf plainLines) sampleTarget haccepted).mpr ?_
  rw [patchLines_patchOf plain_written.1 plain_written.2]
  decide

/-- The patch is accepted for the one file and touches more than it. -/
def WronglyAccepted (lines : List (List Char)) : Prop :=
  strictPatchTarget (patchOf lines) = some sampleTarget ∧ ¬TargetOnly (patchLines (patchOf lines)) sampleTarget

theorem accepted_of_lines {extra : List (List Char)}
    (hwritten : (∀ line ∈ plainLines ++ extra, '\n' ∉ line) ∧ ∀ line ∈ plainLines ++ extra, line.getLast? ≠ some '\r')
    (htarget : targetOf (plainLines ++ extra) = some sampleTarget)
    (hbad : ∃ line ∈ plainLines ++ extra,
      fileWord.isPrefixOf line = true ∧ gitWord.isPrefixOf line = false ∨ changesFile line = true) :
    WronglyAccepted (plainLines ++ extra) := by
  refine ⟨by rw [strictPatchTarget_patchOf hwritten.1 hwritten.2, htarget], fun honly => ?_⟩
  rw [patchLines_patchOf hwritten.1 hwritten.2] at honly
  obtain ⟨line, hline, ⟨hfile, hgit⟩ | hchanges⟩ := hbad
  · have hmem : line ∈ startingWith fileWord (plainLines ++ extra) := List.mem_filter.mpr ⟨hline, hfile⟩
    rw [honly.git, List.mem_singleton] at hmem
    rw [hmem, gitLine, isPrefixOf_self_append] at hgit
    exact Bool.noConfusion hgit
  · rw [honly.unchanged line hline] at hchanges
    exact Bool.noConfusion hchanges

/-- One patch changes the mode of another file, one renames the file, one takes it as binary. -/
theorem second_file_accepted : WronglyAccepted (plainLines ++ modeLines) ∧ WronglyAccepted (plainLines ++ renameLines) ∧
    WronglyAccepted (plainLines ++ filesLines) :=
  ⟨accepted_of_lines (by decide) (by decide) (by decide), accepted_of_lines (by decide) (by decide) (by decide),
    accepted_of_lines (by decide) (by decide) (by decide)⟩

end EverTrace.Bugs.ForeignHeader
