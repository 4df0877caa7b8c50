import ToolpathViewer.Files
import ToolpathViewer.Proofs.Outcome
import ToolpathViewer.Proofs.Text.Utf8

/-!
# Files that are written and read

A path that leads to a file goes through directories only, so it leads there still when the file has been written (`stored_written`).
What is read is what was written, unless the text has line ends of another kind. A file that cannot be read has a path or a place that is
at fault, or is no text (`failsOnly_read`).
-/

namespace ToolpathViewer.Files

variable {files files' : Files} {place next start : Place} {path text : String} {e : Entry}

/-- Only a directory is looked into. -/
theorem entry?_of_follow {name : String} (h : files.follow place name = .ok next) : files.entry? place = some .directory := by
  unfold follow at h
  split at h
  · cases h
  · cases h
  · assumption

/-- A new entry hides none at another place. -/
theorem entry?_cons_of_ne (h : next ≠ place) : entry? ((place, e) :: files) next = files.entry? next := by
  unfold entry?
  split
  · rfl
  · rw [List.lookup_cons, beq_eq_false_iff_ne.2 h]

/-- A new entry that takes no directory away is in no one's way. -/
theorem foldlM_follow_cons (hplace : files.entry? place ≠ some .directory) {names : List String}
    (h : names.foldlM files.follow start = .ok next) : names.foldlM (follow ((place, e) :: files)) start = .ok next := by
  induction names generalizing start with
  | nil => exact h
  | cons name names ih =>
    rw [List.foldlM_cons] at h ⊢
    obtain ⟨middle, hfirst, hrest⟩ := bind_eq_ok.1 h
    have hne : start ≠ place := by
      rintro rfl
      exact hplace (entry?_of_follow hfirst)
    have hsame : follow ((place, e) :: files) start name = .ok middle := by
      rw [← hfirst, follow, follow, entry?_cons_of_ne hne]
    rw [hsame]
    exact ih hrest

/-- Writing puts a file where the path leads, and no directory was there. -/
theorem write_eq_ok (h : files.write path text = .ok files') :
    ∃ place, files.locate path = .ok place ∧ files.entry? place ≠ some .directory ∧
      files' = (place, .file text.toUTF8.toList) :: files := by
  obtain ⟨names, hnames, h⟩ := bind_eq_ok.1 h
  split at h
  · obtain ⟨_, -, h⟩ := bind_eq_ok.1 h
    cases h
  · obtain ⟨place, hplace, h⟩ := bind_eq_ok.1 h
    split at h
    · cases h
    · rename_i hentry
      refine ⟨place, ?_, by simpa using hentry, (Except.ok.inj h).symm⟩
      rw [locate, hnames]
      exact hplace

/-- A text that has been written to a file stands in it. -/
theorem stored_written (h : files.write path text = .ok files') : files'.stored path = .ok text := by
  obtain ⟨place, hlocate, hplace, rfl⟩ := write_eq_ok h
  have hthere : locate ((place, .file text.toUTF8.toList) :: files) path = .ok place := by
    obtain ⟨names, hnames, hfollow⟩ := bind_eq_ok.1 hlocate
    rw [locate, hnames]
    exact foldlM_follow_cons hplace hfollow
  have hentry : entry? ((place, .file text.toUTF8.toList) :: files) place = some (.file text.toUTF8.toList) := by
    unfold entry? at hplace ⊢
    split at hplace
    · exact absurd rfl hplace
    · rename_i hbelow
      rw [if_neg hbelow, List.lookup_cons_self]
  rw [stored, hthere, ok_bind, hentry]
  dsimp only
  rw [Text.Utf8.decode?_toUTF8]

/-- A text without carriage returns keeps its line ends. -/
theorem unifyLines_eq_self {s : List Char} (h : '\r' ∉ s) : unifyLines s = s := by
  induction s with
  | nil => rfl
  | cons c s ih =>
    have hc : c ≠ '\r' := fun heq => h (heq ▸ List.mem_cons_self)
    rw [unifyLines, ih fun hmem => h (List.mem_cons_of_mem c hmem)]
    · exact fun rest heq => absurd heq hc
    · exact fun heq => absurd heq hc

/-- A text without carriage returns is read as it was written. -/
theorem read_written (h : files.write path text = .ok files') (hreturn : '\r' ∉ text.toList) : files'.read path = .ok text := by
  rw [read, stored_written h]
  exact congrArg Except.ok ((congrArg String.ofList (unifyLines_eq_self hreturn)).trans String.ofList_toList)

/-! ## Files that cannot be read -/

/-- The causes for which a file cannot be read. -/
def Unreadable (why : Fault) : Prop := isFileFault why = true ∨ why = .malformedPath ∨ why = .notUtf8

/-- Taking a path apart fails only as reading a file may fail. -/
theorem failsOnly_namesOf (path : String) : FailsOnly Unreadable (namesOf path) := by
  unfold namesOf
  split
  · exact .error (Or.inr (Or.inl rfl))
  · split
    · exact .error (Or.inl rfl)
    · split
      · exact .error (Or.inl rfl)
      · exact .ok _

/-- Going one name further fails only as reading a file may fail. -/
theorem failsOnly_follow (files : Files) (place : Place) (name : String) : FailsOnly Unreadable (files.follow place name) := by
  unfold follow
  split
  · exact .error (Or.inl rfl)
  · exact .error (Or.inl rfl)
  · split
    · exact .ok _
    · exact .error (Or.inl rfl)

/-- Finding a file fails only as reading a file may fail. -/
theorem failsOnly_stored (files : Files) (path : String) : FailsOnly Unreadable (files.stored path) := by
  have hlocate : FailsOnly Unreadable (files.locate path) :=
    (failsOnly_namesOf path).bind fun names => .foldlM (failsOnly_follow files) names _
  refine hlocate.bind fun place => ?_
  split
  · exact .error (Or.inl rfl)
  · exact .error (Or.inl rfl)
  · split
    · exact .error (Or.inr (Or.inr rfl))
    · exact .ok _

/-- Reading a file fails only for one of the reasons that make it unreadable. -/
theorem failsOnly_read (files : Files) (path : String) : FailsOnly Unreadable (files.read path) := by
  intro why h
  unfold read at h
  cases hstored : files.stored path with
  | ok text =>
    rw [hstored] at h
    cases h
  | error why' =>
    rw [hstored] at h
    exact Except.error.inj h ▸ failsOnly_stored files path why' hstored

end ToolpathViewer.Files
